import FrameHost.Run
import Mathlib.Logic.Relation

/-!
# What a run does, step by step

A run of a session nests operations in callbacks and callbacks in operations. Here it is taken apart:
a `Stage` is what the laws of runs speak about, with the tasks that are under way, and a `Step` is one
change that an operation makes before it can run a callback. That every operation is a sequence of
such steps is shown beside this module, in `FrameHost.Proofs.Step.Run`.

* `FrameStep`: what is written into the frames, but for their tree, what is shown, anchors, and what they
  listen for.
* `EarStep`: a frame begins or ceases to listen.
* `AnchorStep`: what becomes of the anchors of a frame.
* `TreeStep`: a frame is moved, shown or hidden.
* `Scope`: what a run may do.
* `Step scope`: every change that a run of a scope makes.
-/

namespace FrameHost

/-! ## Stages -/

/-- A turn of an update. -/
inductive Turn
  /-- A frame is updated, if it still can be. -/
  | reach (frame : FrameId)
  /-- What follows the updates is run for a frame. -/
  | follow (frame : FrameId)
  deriving DecidableEq

/-- What a run is in the middle of, with what is left of it. -/
inductive Task
  /-- Frames are told of their visibility; each stands with what it was before. -/
  | telling (rest : List (FrameId × Bool))
  /-- Events that waited are fired. -/
  | flushing (rest : List QueuedEvent)
  /-- Timers that were due at a time are run. -/
  | ticking (now : Float) (rest : List Nat)
  /-- The callback of a timer is being run. -/
  | calling (timer : Nat)
  /-- Frames are updated. -/
  | updating (rest : List Turn)
  /-- An update runs the primary callback of a frame. -/
  | running (frame : FrameId) (callback : String)

/-- What a run has come to. -/
structure Stage where
  registry : Registry := {}
  scripts : ScriptTable := {}
  queue : List QueuedEvent := []
  timers : Timers := {}
  clock : Clock := {}
  muted : Table FrameId String := {}
  onError : Value := .null
  errors : Nat := 0
  lastId : FrameId := 0
  /-- What happened, the latest first. -/
  journal : List Moment := []
  /-- What is under way, the innermost first. -/
  tasks : List Task := []

/-- A session as the laws of runs see it, in the middle of some tasks. -/
def Session.stage (s : Session) (tasks : List Task) : Stage where
  registry := s.host.registry
  scripts := s.host.scripts
  queue := s.host.queue
  timers := s.host.timers
  clock := s.host.clock
  muted := s.host.muted
  onError := s.host.onError
  errors := s.host.errors
  lastId := s.lastId
  journal := s.journal
  tasks := tasks

namespace Stage

/-- Something happened. -/
def note (σ : Stage) (m : Moment) : Stage := { σ with journal := m :: σ.journal }

/-- The host of a session that has come to a stage. -/
structure Shows (σ : Stage) (h : Host) : Prop where
  registry : h.registry = σ.registry
  scripts : h.scripts = σ.scripts
  queue : h.queue = σ.queue
  timers : h.timers = σ.timers
  clock : h.clock = σ.clock
  muted : h.muted = σ.muted
  onError : h.onError = σ.onError
  errors : h.errors = σ.errors

end Stage

/-! ## Frames -/

/-- A frame, but for its size. -/
def Frame.Sized (f g : Frame) : Prop := ∃ width height, g = { f with width, height }

namespace Registry

/-- Every frame at or below a frame, with whether it is visible. -/
def visibilities (r : Registry) (id : FrameId) : List (FrameId × Bool) :=
  (id :: r.descendants id).map fun frame => (frame, r.isVisible frame)

/-- Lists a frame under its parent, if it has one. -/
def link (r : Registry) (parent : Option FrameId) (id : FrameId) : Registry :=
  match parent with
  | none => r
  | some p => r.addChild p id

/-- The id under which a frame is taken in that asks for `wanted`, when `last` is the last id that was
drawn; and the last id drawn after that. -/
inductive Granted (r : Registry) (last wanted : FrameId) : FrameId → FrameId → Prop
  | asked (h : r.contains wanted = false) : Granted r last wanted wanted last
  | fresh (h : r.contains wanted = true) : Granted r last wanted (last + 1) (last + 1)

/-- An anchor that may be written for a frame: it is tied to a frame, or to the parent, and does not make
the frame depend on itself. -/
structure Admits (r : Registry) (id : FrameId) (f : Frame) (relativeTo : Option FrameId) : Prop where
  contains : ∀ t, relativeTo = some t → r.contains t = true
  noLoop : ∀ t, relativeTo.or f.parent = some t → r.wouldLoop id t = false

/-- A parent that may be written for a frame: it is a frame outside the subtree, and the anchors that
follow the parent do not make the frame depend on itself. -/
structure Accepts (r : Registry) (id : FrameId) (f : Frame) (parent : FrameId) : Prop where
  contains : r.contains parent = true
  ne : parent ≠ id
  notBelow : r.isAncestor id parent = false
  noLoop : (f.anchors.any fun a => a.relativeTo.isNone) = true → r.wouldLoop id parent = false

end Registry

/-- What is written into the frames in one go, but for their tree, what is shown, anchors, and what they
listen for. -/
inductive FrameStep (r : Registry) : Registry → Prop
  | touched (id : FrameId) : FrameStep r (r.touch id)
  | dirtied : FrameStep r r.markDirty
  | resized (id : FrameId) (width height : Float) :
      FrameStep r (r.edit id fun f => { f with width, height })
  | layered (id : FrameId) {strata : String} (hs : strata ∈ Strata.order) :
      FrameStep r (r.fixStrata id strata).1
  | levelled (id : FrameId) (level : Int) : FrameStep r (r.fixLevel id level).1
  | attributed (id : FrameId) (name : String) (value : AttributeValue) :
      FrameStep r (r.edit id fun f => { f with attributes := f.attributes.insert name value })
  | flagged (id : FrameId) (flag : FrameFlag) (value : Bool) :
      FrameStep r (r.edit id fun f => f.setFlag value flag)

/-- A frame begins or ceases to listen, if it is there. -/
inductive EarStep (r : Registry) : Registry → Prop
  | absent : EarStep r r
  | listening (id : FrameId) (event : String) : EarStep r (r.registerEvent id event)
  | deaf (id : FrameId) (event : String) : EarStep r (r.unregisterEvent id event)
  | listeningToAll (id : FrameId) : EarStep r (r.registerAllEvents id)
  | deafToAll (id : FrameId) : EarStep r (r.unregisterAllEvents id)

/-- What becomes of the anchors of a frame in one go. -/
inductive AnchorStep (r : Registry) (id : FrameId) : Registry → Prop
  | anchored {f : Frame} (a : Anchor) (hf : r.get? id = some f) (ha : r.Admits id f a.relativeTo) :
      AnchorStep r id (r.edit id fun f => { f with anchors := Session.putAnchor a f.anchors })
  | pinned {f : Frame} (relativeTo : Option FrameId) (hf : r.get? id = some f)
      (ha : r.Admits id f relativeTo) :
      AnchorStep r id (r.edit id fun f => { f with anchors :=
        [{ point := .topLeft, relativeTo, relativePoint := .topLeft },
          { point := .bottomRight, relativeTo, relativePoint := .bottomRight }] })
  | unanchored : AnchorStep r id (r.edit id fun f => { f with anchors := [] })
  | unpinned (p : AnchorPoint) : AnchorStep r id
      (r.edit id fun f => { f with anchors := f.anchors.eraseP fun a => a.point == p })
  | shifted (dx dy : Float) (hd : r.dirty = true) : AnchorStep r id
      (r.update id fun f => { f with anchors := f.anchors.map fun a => a.shift dx dy })

/-- A frame is shown or hidden, or moved under another or out of the tree. -/
inductive TreeStep (r : Registry) (id : FrameId) : Registry → Option Fault → Prop
  | shown {f : Frame} {visible : Bool} (hf : r.get? id = some f) (hv : f.visible ≠ visible) :
      TreeStep r id (r.edit id fun f => { f with visible }) none
  | moved {f : Frame} {parent : Option FrameId} (hf : r.get? id = some f)
      (hp : ∀ p, parent = some p → r.Accepts id f p) (hne : f.parent ≠ parent) :
      TreeStep r id (r.moveTo id parent).1 (r.moveTo id parent).2

/-- A frame is listed where it does not belong, or no longer where it does. -/
inductive RawStep (r : Registry) : Registry → Prop
  | childAdded (parent child : FrameId) : RawStep r (r.addChild parent child)
  | childRemoved (parent child : FrameId) : RawStep r (r.removeChild parent child)

/-! ## Steps -/

/-- The error that a moment is, if it is one: the message, and what is told of it. -/
def Moment.error? : Moment → Option (String × Value)
  | .invoked _ source (some text) handler => some (source ++ ": " ++ text, handler)
  | .misfired value source handler =>
    some (source ++ ": '" ++ value.kindName ++ "' object is not callable", handler)
  | .reported message handler => some (message, handler)
  | _ => none

/-- What is noted of an error, the latest first: the error, and that the error handler is called, if there is
one. -/
def Moment.complaint (m : Moment) (message : String) : (handler : Value) → List Moment
  | .null => [m]
  | handler => [.alerted handler message, m]

/-- Since an update came to a frame and went on to run its primary callback, the callback raised an error as
that. -/
inductive Raised (frame : FrameId) (callback : String) (during : List Moment) : List Moment → Prop
  | intro {before : List Moment} {label text : String} {handler : Value}
      (h : .invoked callback (Handler.onUpdate.name ++ " on " ++ label) (some text) handler ∈ during) :
      Raised frame callback during (during ++ .reached frame (some callback) true label :: before)

/-- What a run may do. -/
structure Scope where
  /-- Links between frames may be written past the host. -/
  raw : Bool
  /-- Callbacks may flush the queue. -/
  flushes : Bool := true
  /-- Callbacks may update frames. -/
  updates : Bool := true

/-- All else is free. -/
instance : Coe Bool Scope := ⟨fun raw => { raw }⟩

/-- One change of a run. -/
inductive Step (scope : Scope) (σ : Stage) : Stage → Prop
  -- frames
  | drew : Step scope σ { σ with lastId := σ.lastId + 1 }
  | framed {r : Registry} (h : FrameStep σ.registry r) : Step scope σ { σ with registry := r }
  | keyed {id parent : FrameId} {f : Frame} (key : String) (hf : σ.registry.get? id = some f)
      (hp : f.parent = some parent) : Step scope σ
        { σ with
          registry := σ.registry.edit parent fun p => { p with keys := p.keys.insert key id } }
  | tied {id : FrameId} {r : Registry} (h : AnchorStep σ.registry id r) :
      Step scope σ { σ with registry := r }
  | painted : Step scope σ
      { σ with registry := σ.registry.clearDirty, journal := .painted σ.registry :: σ.journal }
  | created {kind : WidgetType} {name : Option String} {above : Option (FrameId × Frame)}
      {f : Frame} {id last : FrameId} {r : Registry}
      (hg : σ.registry.Granted σ.lastId σ.lastId id last)
      (ha : ∀ p g, above = some (p, g) → σ.registry.get? p = some g)
      (hf : (Session.blankFrame kind name above).Sized f)
      (hr : r = (σ.registry.enroll id f).link (above.map (·.1)) id) :
      Step scope σ
        { σ with lastId := last, registry := r, journal := .created id r :: σ.journal }
  | listened {r : Registry} (h : EarStep σ.registry r) :
      Step scope σ { σ with registry := r, journal := .tuned r :: σ.journal }
  | enrolled {wanted id last : FrameId} {r : Registry} (f : Frame) (hraw : scope.raw = true)
      (hg : σ.registry.Granted σ.lastId wanted id last) (hr : r = σ.registry.enroll id f) : Step scope σ
        { σ with lastId := last, registry := r, journal := .enrolled wanted σ.lastId r :: σ.journal }
  | enrolledAgain {id : FrameId} {f : Frame} {r : Registry} (hraw : scope.raw = true)
      (hf : σ.registry.get? id = some f) (hr : r = σ.registry.enroll id f) :
      Step scope σ { σ with registry := r, journal := .tuned r :: σ.journal }
  | rewritten {r : Registry} (hraw : scope.raw = true) (h : RawStep σ.registry r) :
      Step scope σ { σ with registry := r }
  -- visibility
  | changed {id : FrameId} {r : Registry} (h : TreeStep σ.registry id r none) : Step scope σ
      { σ with registry := r, tasks := .telling (σ.registry.visibilities id) :: σ.tasks }
  | changedInPart {id : FrameId} {r : Registry} {fault : Fault}
      (h : TreeStep σ.registry id r (some fault)) : Step scope σ { σ with registry := r }
  | told {frame : FrameId} {was : Bool} {rest : List (FrameId × Bool)} {tasks : List Task}
      (ht : σ.tasks = .telling ((frame, was) :: rest) :: tasks)
      (hv : σ.registry.isVisible frame ≠ was) : Step scope σ
        { σ with
          journal := .notified frame (σ.registry.isVisible frame) :: σ.journal
          tasks := .telling rest :: tasks }
  | untold {frame : FrameId} {was : Bool} {rest : List (FrameId × Bool)} {tasks : List Task}
      (ht : σ.tasks = .telling ((frame, was) :: rest) :: tasks)
      (hv : σ.registry.isVisible frame = was) :
      Step scope σ { σ with tasks := .telling rest :: tasks }
  | toldAll {tasks : List Task} (ht : σ.tasks = .telling [] :: tasks) :
      Step scope σ { σ with tasks }
  -- scripts and errors
  | primarySet (slot : Slot) (callback : Option String) : Step scope σ
      { σ with
        scripts := σ.scripts.setPrimary slot callback
        journal := .scripted slot callback :: σ.journal }
  | hooked (slot : Slot) (callback : String) :
      Step scope σ { σ with scripts := σ.scripts.addHook slot callback }
  | scriptsCleared (frame : Option FrameId) : Step scope σ
      { σ with scripts := σ.scripts.clear frame, journal := .scriptsCleared frame :: σ.journal }
  | called (callback : String) (args : List Value) {seen : Host} (h : σ.Shows seen) :
      Step scope σ (σ.note (.called callback args seen))
  | returned (callback : String) (raised : Option String) :
      Step scope σ (σ.note (.returned callback raised))
  | answered (command : Command) (outcome : Except Fault Reply) {seen : Host} (h : σ.Shows seen) :
      Step scope σ (σ.note (.answered command outcome seen))
  | invoked (callback source : String) :
      Step scope σ (σ.note (.invoked callback source none σ.onError))
  | erred {m : Moment} {message : String} (h : m.error? = some (message, σ.onError)) : Step scope σ
      { σ with errors := σ.errors + 1, journal := m.complaint message σ.onError ++ σ.journal }
  | heeded (handler : Value) : Step scope σ { σ with onError := handler }
  -- events
  | queued (event : QueuedEvent) : Step scope σ
      { σ with queue := σ.queue ++ [event], journal := .queued event :: σ.journal }
  | flushBegan (hn : scope.flushes = true ∨ σ.tasks = []) : Step scope σ
      { σ with
        queue := []
        journal := .flushBegan σ.queue :: σ.journal
        tasks := .flushing σ.queue :: σ.tasks }
  | flushed {event : QueuedEvent} {rest : List QueuedEvent} {tasks : List Task}
      (ht : σ.tasks = .flushing (event :: rest) :: tasks) : Step scope σ
        { σ with journal := .flushed event :: σ.journal, tasks := .flushing rest :: tasks }
  | flushEnded {tasks : List Task} (ht : σ.tasks = .flushing [] :: tasks) :
      Step scope σ { σ with journal := .flushEnded :: σ.journal, tasks }
  | queueCleared : Step scope σ
      { σ with queue := [], journal := (σ.queue.map .dropped).reverse ++ σ.journal }
  -- timers and the clock
  | numberDrawn : Step scope σ { σ with timers := σ.timers.draw }
  | started (timer : Timer) (withHandle : Bool) {t : Timers}
      (ht : t = if withHandle then σ.timers.draw.giveHandle else σ.timers.draw) : Step scope σ
        { σ with
          timers := t.add timer
          journal := .started t.lastId timer :: σ.journal }
  | cancelled {id : Nat} (h : σ.timers.isPending id = true) : Step scope σ
      { σ with timers := σ.timers.retire id, journal := .stopped id :: σ.journal }
  | handleCancelled {id : Nat} (h : (σ.timers.handles.get? id).isSome = true) : Step scope σ
      { σ with timers := σ.timers.cancelHandle id, journal := .handleCancelled id :: σ.journal }
  | timersCleared : Step scope σ
      { σ with
        timers := σ.timers.clear
        journal := .cleared σ.timers.pending.keys ::
          (σ.timers.pending.keys.map .stopped).reverse ++ σ.journal }
  | tickBegan (now : Float) : Step scope σ
      { σ with
        timers := (σ.timers.takeDue now).2
        journal := .tickBegan now :: σ.journal
        tasks := .ticking now (σ.timers.takeDue now).1 :: σ.tasks }
  | passedOver {now : Float} {id : Nat} {rest : List Nat} {tasks : List Task}
      (ht : σ.tasks = .ticking now (id :: rest) :: tasks) (hp : σ.timers.pending.get? id = none) :
      Step scope σ { σ with tasks := .ticking now rest :: tasks }
  | fired {now : Float} {id : Nat} {rest : List Nat} {tasks : List Task} {timer : Timer}
      (ht : σ.tasks = .ticking now (id :: rest) :: tasks)
      (hp : σ.timers.pending.get? id = some timer) : Step scope σ
        { σ with
          journal := .fired id now :: σ.journal
          tasks := .calling id :: .ticking now rest :: tasks }
  | rearmed {id : Nat} {tasks : List Task} (ht : σ.tasks = .calling id :: tasks) :
      Step scope σ { σ with timers := σ.timers.rearm id, tasks }
  | tickEnded {now : Float} {tasks : List Task} (ht : σ.tasks = .ticking now [] :: tasks) :
      Step scope σ { σ with journal := .tickEnded :: σ.journal, tasks }
  | advanced (seconds : Float) : Step scope σ { σ with clock := σ.clock.advance seconds }
  | jumped (now : Float) : Step scope σ { σ with clock := σ.clock.jump now }
  -- updates
  | updateBegan {frames later : List FrameId} {seen : Host} (h : σ.Shows seen)
      (hf : seen.visibleWith .onUpdate = .ok frames)
      (hl : seen.visibleWith .onPostUpdate = .ok later)
      (hn : scope.updates = true ∨ σ.tasks = []) : Step scope σ
        { σ with
          journal := .updateBegan frames later σ.registry :: σ.journal
          tasks := .updating (frames.map .reach ++ later.map .follow) :: σ.tasks }
  | passedBy {frame : FrameId} {primary : Option String} {rest : List Turn} {tasks : List Task}
      (ht : σ.tasks = .updating (.reach frame :: rest) :: tasks)
      (hp : σ.scripts.primary? ⟨frame, .onUpdate⟩ = primary)
      (hm : ∀ callback, primary = some callback → σ.muted.get? frame = some callback) : Step scope σ
        { σ with
          journal := .reached frame primary false (σ.registry.describe (some frame)) :: σ.journal
          tasks := .updating rest :: tasks }
  | reached {frame : FrameId} {callback : String} {rest : List Turn} {tasks : List Task}
      (ht : σ.tasks = .updating (.reach frame :: rest) :: tasks)
      (hp : σ.scripts.primary? ⟨frame, .onUpdate⟩ = some callback)
      (hm : σ.muted.get? frame ≠ some callback) : Step scope σ
        { σ with
          muted := σ.muted.erase frame
          journal := .reached frame (some callback) true (σ.registry.describe (some frame)) :: σ.journal
          tasks := .running frame callback :: .updating rest :: tasks }
  | updated {frame : FrameId} {callback : String} {tasks : List Task}
      (ht : σ.tasks = .running frame callback :: tasks) :
      Step scope σ { σ with journal := .updated frame callback false :: σ.journal, tasks }
  | failed {frame : FrameId} {callback : String} {during : List Moment} {tasks : List Task}
      (ht : σ.tasks = .running frame callback :: tasks)
      (hr : Raised frame callback during σ.journal) : Step scope σ
        { σ with
          muted := σ.muted.insert frame callback
          journal := .updated frame callback true :: σ.journal
          tasks }
  | followed {frame : FrameId} {rest : List Turn} {tasks : List Task}
      (ht : σ.tasks = .updating (.follow frame :: rest) :: tasks) : Step scope σ
        { σ with journal := .followed frame :: σ.journal, tasks := .updating rest :: tasks }
  | updateEnded {tasks : List Task} (ht : σ.tasks = .updating [] :: tasks) :
      Step scope σ { σ with journal := .updateEnded :: σ.journal, tasks }

/-- Some steps, one after another. -/
abbrev Steps (scope : Scope) : Stage → Stage → Prop := Relation.ReflTransGen (Step scope)

/-- **What every step keeps, a sequence of steps keeps.** -/
theorem Steps.keep {scope : Scope} {P : Stage → Prop} (hP : ∀ σ τ, Step scope σ τ → P σ → P τ)
    {σ τ : Stage} (h : Steps scope σ τ) (hσ : P σ) : P τ := by
  induction h with
  | refl => exact hσ
  | tail _ hst ih => exact hP _ _ hst ih

/-- Nothing that happened is forgotten. -/
theorem Step.journal_suffix {scope : Scope} {σ τ : Stage} (h : Step scope σ τ) :
    σ.journal <:+ τ.journal := by
  cases h with
  | painted | created | listened | enrolled | enrolledAgain | told | primarySet | scriptsCleared
  | called | answered | returned | invoked | queued | flushBegan | flushed | flushEnded | started
  | cancelled | handleCancelled | tickBegan | fired | tickEnded | updateBegan | passedBy | reached
  | updated | failed | followed | updateEnded =>
    exact List.suffix_cons ..
  | erred | queueCleared | timersCleared => exact List.suffix_append ..
  | _ => exact List.suffix_refl _

theorem Steps.journal_suffix {scope : Scope} {σ τ : Stage} (h : Steps scope σ τ) :
    σ.journal <:+ τ.journal :=
  h.keep (P := fun τ => σ.journal <:+ τ.journal) (fun _ _ hst ih => ih.trans hst.journal_suffix)
    (List.suffix_refl _)

/-- What a journal goes back to is new or was there before. -/
theorem mem_or_suffix_of_suffix_append {ms journal earlier : List Moment} {m : Moment}
    (h : m :: earlier <:+ ms ++ journal) : m ∈ ms ∨ m :: earlier <:+ journal := by
  induction ms with
  | nil => exact .inr h
  | cons a ms ih =>
    rcases List.suffix_cons_iff.1 h with heq | h
    · cases heq
      exact .inl List.mem_cons_self
    · exact (ih h).imp_left (List.mem_cons_of_mem _)

/-- What holds of the moment of each thing holds of all moments that are noted for several of them. -/
@[elab_as_elim]
theorem of_mem_moments {ι : Type} {f : ι → Moment} {xs : List ι} {P : Moment → Prop} {m : Moment}
    (hm : m ∈ (xs.map f).reverse) (h : ∀ x, P (f x)) : P m := by
  obtain ⟨x, -, rfl⟩ := List.mem_map.1 (List.mem_reverse.1 hm)
  exact h x

/-- What holds of the clearing of timers and of each that is stopped by it holds of all that is noted then. -/
@[elab_as_elim]
theorem of_mem_clearing {ids : List Nat} {P : Moment → Prop} {m : Moment}
    (hm : m ∈ .cleared ids :: (ids.map .stopped).reverse) (cleared : P (.cleared ids))
    (stopped : ∀ id, P (.stopped id)) : P m := by
  rcases List.mem_cons.1 hm with rfl | hm
  · exact cleared
  · exact of_mem_moments hm stopped

/-- What is noted of an error is the error, or that the error handler is called. -/
theorem Moment.mem_complaint {m m' : Moment} {message : String} {handler : Value}
    (h : m' ∈ m.complaint message handler) : m' = m ∨ m' = .alerted handler message := by
  unfold complaint at h
  split at h <;> simp at h
  · exact .inl h
  · exact h.symm

theorem Moment.suffix_complaint {m : Moment} {message : String} {handler : Value} {journal : List Moment} :
    m :: journal <:+ m.complaint message handler ++ journal := by
  unfold complaint
  split
  · exact List.suffix_refl _
  · exact List.suffix_cons ..

/-- What holds of errors and of telling of them holds of all that is noted of an error. -/
@[elab_as_elim]
theorem of_mem_complaint {P : Moment → Prop} {m m' : Moment} {message : String} {handler : Value}
    (h : m.error? = some (message, handler)) (hm : m' ∈ m.complaint message handler)
    (invoked : ∀ callback source raised handler, P (.invoked callback source raised handler))
    (misfired : ∀ value source handler, P (.misfired value source handler))
    (reported : ∀ message handler, P (.reported message handler))
    (alerted : ∀ handler message, P (.alerted handler message)) : P m' := by
  rcases Moment.mem_complaint hm with rfl | rfl
  · cases m' with
    | invoked => exact invoked ..
    | misfired => exact misfired ..
    | reported => exact reported ..
    | _ => cases h
  · exact alerted ..

/-- A host that stands in the journal was shown by the stage at which it was noted. -/
theorem Step.noted {scope : Scope} {P : List Moment → Host → Prop} {σ τ : Stage} (h : Step scope σ τ)
    (hP : ∀ host, σ.Shows host → P σ.journal host)
    (hσ : ∀ m earlier, m :: earlier <:+ σ.journal → ∀ host, m.host? = some host → P earlier host) :
    ∀ m earlier, m :: earlier <:+ τ.journal → ∀ host, m.host? = some host → P earlier host := by
  have one (m : Moment) (hm : ∀ host, m.host? = some host → P σ.journal host) :
      ∀ m' earlier, m' :: earlier <:+ m :: σ.journal → ∀ host, m'.host? = some host →
        P earlier host := fun m' earlier hm' => by
    rcases List.suffix_cons_iff.1 hm' with heq | hm'
    · cases heq
      exact hm
    · exact hσ m' earlier hm'
  have several (ms : List Moment) (hms : ∀ m ∈ ms, m.host? = none) :
      ∀ m earlier, m :: earlier <:+ ms ++ σ.journal → ∀ host, m.host? = some host →
        P earlier host := fun m earlier hm host hh => by
    rcases mem_or_suffix_of_suffix_append hm with hm | hm
    · cases (hms m hm).symm.trans hh
    · exact hσ m earlier hm host hh
  cases h with
  | called callback args h => exact one _ fun host hh => by cases hh; exact hP _ h
  | answered command outcome h => exact one _ fun host hh => by cases hh; exact hP _ h
  | painted | created | listened | enrolled | enrolledAgain | told | primarySet | scriptsCleared
  | returned | invoked | queued | flushBegan | flushed | flushEnded | started | cancelled
  | handleCancelled | tickBegan | fired | tickEnded | updateBegan | passedBy | reached | updated | failed
  | followed | updateEnded =>
    exact one _ fun host hh => by cases hh
  | erred h =>
    exact several _ fun _ hm => of_mem_complaint h hm (fun _ _ _ _ => rfl) (fun _ _ _ => rfl)
      (fun _ _ => rfl) fun _ _ => rfl
  | queueCleared => exact several _ fun _ hm => of_mem_moments hm fun _ => rfl
  | timersCleared => exact several _ fun _ hm => of_mem_clearing hm rfl fun _ => rfl
  | _ => exact hσ

/-- What holds between every host that was noted and a stage goes on to hold, if steps keep it and it holds of
the host that is noted. -/
theorem Step.since {scope : Scope} {R : Host → Stage → Prop} {σ τ : Stage} (h : Step scope σ τ)
    (hshown : ∀ seen, σ.Shows seen → R seen τ) (hlater : ∀ seen, R seen σ → R seen τ)
    (hσ : ∀ m ∈ σ.journal, ∀ seen, m.host? = some seen → R seen σ) :
    ∀ m ∈ τ.journal, ∀ seen, m.host? = some seen → R seen τ := by
  have shown := h.noted (P := fun _ seen => R seen τ) hshown fun m earlier hm seen hseen =>
    hlater seen (hσ m (hm.subset List.mem_cons_self) seen hseen)
  intro m hm seen hseen
  obtain ⟨later, earlier, hj⟩ := List.mem_iff_append.1 hm
  exact shown m earlier ⟨later, hj.symm⟩ seen hseen

end FrameHost
