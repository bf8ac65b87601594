import FrameHost.Frame
import FrameHost.Text.Parts

/-!
# The registry of frames

The registry owns every frame; all else refers to frames by id. It keeps an index from names to ids,
the moment at which each frame began to listen for each event, and a flag that says that something to
be drawn has changed.

* `Registry.get?_update`: changing one frame is seen at that frame only.
* `Registry.enroll`: what it means to take a frame in under an id.
-/

namespace FrameHost

/-- Every frame of a host. -/
structure Registry where
  frames : Table FrameId Frame := {}
  names : Table String FrameId := {}
  /-- For each event, the frames that listen for it and when each began to. -/
  listeners : Table String (Table FrameId Nat) := {}
  /-- The frames that listen for every event and when each began to. -/
  allListeners : Table FrameId Nat := {}
  /-- The last moment that was given out. -/
  moment : Nat := 0
  /-- Something to be drawn has changed. -/
  dirty : Bool := false
  deriving Inhabited, Repr

namespace Registry

variable (r : Registry)

def get? (id : FrameId) : Option Frame := r.frames.get? id

/-- The frame of an id that may be missing. -/
def at? (id : Option FrameId) : Option Frame := id.bind r.get?

def contains (id : FrameId) : Bool := r.frames.contains id

/-- Every registered id, in the order of registration. -/
def ids : List FrameId := r.frames.keys

def size : Nat := r.frames.size

/-- The id that a name belongs to. -/
def idOfName? (name : String) : Option FrameId := r.names.get? name

/-- Something to be drawn has changed. -/
def markDirty : Registry := { r with dirty := true }

def clearDirty : Registry := { r with dirty := false }

/-- Changes a frame in place, if it is there. -/
def update (id : FrameId) (f : Frame → Frame) : Registry := { r with frames := r.frames.modify id f }

/-- Changes a frame in place and marks the registry dirty, if it is there. -/
def edit (id : FrameId) (f : Frame → Frame) : Registry :=
  if r.contains id then (r.update id f).markDirty else r

/-- Marks the registry dirty on behalf of a frame that is about to be changed, if it is there. -/
def touch (id : FrameId) : Registry := if r.contains id then r.markDirty else r

/-- A frame as messages name it. -/
def describe (id : Option FrameId) : String :=
  ((r.at? id).bind Frame.properName?).getD "(anonymous)" ++ " (id=" ++ showId id ++ ")"

/-! ## Taking frames in -/

/-- The frame that holds a name and is about to lose it to `id`. -/
def nameHolder? (name : String) (id : FrameId) : Option FrameId :=
  (r.idOfName? name).filter (· ≠ id)

/-- Gives a name to `id`; who held it before becomes anonymous. -/
def claimName (name : String) (id : FrameId) : Registry :=
  let r := match r.nameHolder? name id with
    | some holder => r.update holder fun f => { f with name := none }
    | none => r
  { r with names := r.names.insert name id }

/-- A new moment. -/
def tick : Registry := { r with moment := r.moment + 1 }

/-- A frame begins to listen for an event at a new moment, unless it did already. -/
def beginListening (id : FrameId) (event : String) : Registry :=
  let r := r.tick
  let table := (r.listeners.get? event).getD {}
  { r with listeners := r.listeners.insert event (table.insertNew id r.moment) }

/-- A frame begins to listen for every event at a new moment, unless it did already. -/
def beginListeningToAll (id : FrameId) : Registry :=
  let r := r.tick
  { r with allListeners := r.allListeners.insertNew id r.moment }

/-- A frame claims the name that it comes with, if it has one. -/
def claimNameOf (id : FrameId) (f : Frame) : Registry :=
  match f.properName? with
  | some name => r.claimName name id
  | none => r

/-- Takes a frame in under an id: it claims its name, and it listens for the events it came with. -/
def enroll (id : FrameId) (f : Frame) : Registry :=
  let r := r.claimNameOf id f
  let r := { r with frames := r.frames.insert id f }
  let r := (Text.sorted f.events).foldl (fun r event => r.beginListening id event) r
  let r := if f.allEvents then r.beginListeningToAll id else r
  r.markDirty

/-! ## What a change is seen by -/

theorem get?_update (id id' : FrameId) (f : Frame → Frame) :
    (r.update id f).get? id' = if id' == id then (r.get? id').map f else r.get? id' :=
  Table.get?_modify ..

@[simp] theorem ids_update (id : FrameId) (f : Frame → Frame) : (r.update id f).ids = r.ids :=
  Table.keys_modify ..

@[simp] theorem get?_markDirty (id : FrameId) : r.markDirty.get? id = r.get? id := rfl

@[simp] theorem ids_markDirty : r.markDirty.ids = r.ids := rfl

theorem contains_iff {id : FrameId} : r.contains id ↔ id ∈ r.ids := by
  rw [ids, Table.mem_keys_iff]
  rfl

@[simp] theorem ids_edit (id : FrameId) (f : Frame → Frame) : (r.edit id f).ids = r.ids := by
  unfold edit
  split <;> simp

theorem get?_edit (id id' : FrameId) (f : Frame → Frame) :
    (r.edit id f).get? id' = if id' == id then (r.get? id').map f else r.get? id' := by
  unfold edit
  split
  · simp [get?_update]
  · rename_i h
    by_cases hid : id' = id
    · subst hid
      have : r.get? id' = none := by simpa [contains, Table.contains, get?] using h
      simp [this]
    · simp [hid]

end Registry

end FrameHost
