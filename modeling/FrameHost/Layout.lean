import FrameHost.Rect
import FrameHost.Registry.Hierarchy
import FrameHost.Size

/-!
# Layout and hit testing

The rectangle of a frame follows from its first anchor and the rectangle of the frame that this anchor
is tied to; without an anchor it starts where its parent does. Where there is no such frame, or its
rectangle is being looked for already, the screen takes its place.

* `Layout.reference`: the rectangle of a frame, or the screen.
* `Layout.frameAt?`: the topmost frame at a point.
-/

namespace FrameHost

/-- The screen that frames are laid out on. -/
structure Layout where
  screenWidth : Int := 0
  screenHeight : Int := 0
  deriving DecidableEq, Inhabited, Repr

namespace Layout

variable (l : Layout) (r : Registry)

def screen : Except Fault Rect := Rect.ofInts 0 0 l.screenWidth l.screenHeight

/-- The frame whose rectangle a frame's own rectangle follows from. -/
def referenceOf (f : Frame) : Option FrameId :=
  match f.anchors with
  | [] => f.parent
  | a :: _ => a.target f.parent

/-- The rectangle of a frame, given the rectangle that it follows from. -/
def place (id : FrameId) (f : Frame) (base : Rect) : Except Fault Rect := do
  let width := r.widthOf id
  let height := r.heightOf id
  match f.anchors with
  | [] => Rect.ofInts base.x.toInt base.y.toInt (← Value.round width) (← Value.round height)
  | a :: _ =>
    let (baseX, baseY) := base.point a.relativePoint
    let x := baseX + a.x - width * a.point.across
    let y := baseY - a.y - height * a.point.down
    Rect.ofInts (← Value.round x) (← Value.round y) (← Value.round width) (← Value.round height)

/-- The rectangle of a frame, or the screen when there is no such frame or it is in `visiting`. -/
def reference (visiting : List FrameId) : Option FrameId → Except Fault Rect
  | none => l.screen
  | some id =>
    if id ∈ visiting then l.screen
    else match _h : r.get? id with
      | none => l.screen
      | some f => do
        let base ← reference (id :: visiting) (referenceOf f)
        place r id f base
termination_by Walk.unseen r.ids visiting
decreasing_by
  rename_i hv
  refine Walk.unseen_cons_lt ?_ hv
  rw [← Registry.contains_iff]
  simp only [Registry.get?] at _h
  simp [Registry.contains, Table.contains, _h]

/-- The rectangle of a frame; an id that belongs to no frame has an empty one. -/
def frameRect (id : Option FrameId) : Except Fault Rect :=
  match r.at? id with
  | none => .ok Rect.empty
  | some _ => l.reference r [] id

/-! ## Hit testing -/

/-- How far in front a frame is: by layer, then by level, then by id. -/
structure Front where
  rank : Nat
  level : Int
  id : FrameId
  deriving DecidableEq

/-- Whether a frame is in front of another. -/
def Front.above (a b : Front) : Bool :=
  b.rank < a.rank || (a.rank == b.rank && (b.level < a.level || (a.level == b.level && b.id < a.id)))

def front (id : FrameId) (f : Frame) : Front := ⟨Strata.rank f.strata, f.level, id⟩

/-- Whether a point lies in a rectangle; the point is read only when it is needed. -/
def hits (rect : Rect) (x y : Value) : Except Fault Bool := do
  .ok (rect.contains (← Rect.toCoordinate x) (← Rect.toCoordinate y))

/-- The better of the frame found so far and a frame that may lie at the point. -/
def consider (x y : Value) (best : Option Front) (e : FrameId × Frame) :
    Except Fault (Option Front) := do
  if !e.2.mouseEnabled || !r.isVisible e.1 then
    return best
  if ← hits (← l.frameRect r (some e.1)) x y then
    let found := front e.1 e.2
    return match best with
      | none => some found
      | some b => some (if found.above b then found else b)
  else
    return best

/-- The frontmost visible frame at a point that takes the mouse. -/
def frameAt? (x y : Value) : Except Fault (Option FrameId) := do
  let best ← r.frames.entries.foldlM (l.consider r x y) none
  return best.map (·.id)

end Layout

end FrameHost
