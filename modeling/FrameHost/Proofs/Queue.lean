import FrameHost.Proofs.Batches
import FrameHost.Proofs.Step.Run

/-!
# The queue of events

An event that is queued waits until a flush takes it or the queue is cleared. A flush takes all events that
wait and fires them one after another. Handlers may queue events, flush and clear the queue meanwhile; what
the flush has taken is out of their reach.

* `waiting`: the events that wait, told from the journal.
* `Queue.Kept`: **nothing is lost and nothing is fired twice**.
* `Session.QueueWorks`: what queueing, clearing and flushing do, in whatever session.
* `Session.RanWithin.queueKept`: that is so whenever the host of a run is met, however callbacks are nested.
-/

namespace FrameHost

/-! ## What happened to events -/

/-- What a moment means for the batches of events that flushes fire. -/
def Moment.flushMark? : Moment → Option (Mark QueuedEvent)
  | .flushBegan batch => some (.began batch)
  | .flushed event => some (.took event)
  | .flushEnded => some .ended
  | _ => none

/-- The event that joins the queue. -/
def Moment.queued? : Moment → Option QueuedEvent
  | .queued event => some event
  | _ => none

/-- The event that is fired from a batch. -/
def Moment.flushed? : Moment → Option QueuedEvent
  | .flushed event => some event
  | _ => none

/-- The event that leaves the queue without being fired. -/
def Moment.dropped? : Moment → Option QueuedEvent
  | .dropped event => some event
  | _ => none

/-- The events of a kind of moments, the oldest first. -/
def eventsOf (event? : Moment → Option QueuedEvent) (journal : List Moment) : List QueuedEvent :=
  (journal.filterMap event?).reverse

/-- The events that wait, the oldest first: those that were queued since the last flush began, but for
the ones in front that were dropped. -/
def waiting : List Moment → List QueuedEvent
  | [] => []
  | .queued event :: earlier => waiting earlier ++ [event]
  | .dropped _ :: earlier => (waiting earlier).tail
  | .flushBegan _ :: _ => []
  | _ :: earlier => waiting earlier

/-- The flushes that are under way, the innermost first, with what they have fired. -/
abbrev flushesUnderWay (journal : List Moment) : List (Batch QueuedEvent) :=
  Batch.underWay Moment.flushMark? journal

/-- What is left to be fired by a flush. -/
def Task.toFlush? : Task → Option (List QueuedEvent)
  | .flushing rest => some rest
  | _ => none

variable {scope : Scope} {σ τ : Stage} {m : Moment} {journal ms : List Moment} {event : QueuedEvent}
  {event? : Moment → Option QueuedEvent}

theorem eventsOf_cons_some (h : event? m = some event) :
    eventsOf event? (m :: journal) = eventsOf event? journal ++ [event] := by
  rw [eventsOf, List.filterMap_cons_some h, List.reverse_cons]
  rfl

theorem eventsOf_quiet (h : ∀ m ∈ ms, event? m = none) :
    eventsOf event? (ms ++ journal) = eventsOf event? journal := by
  rw [eventsOf, List.filterMap_append, List.filterMap_eq_nil_iff.2 h]
  rfl

theorem waiting_quiet (h : ∀ m ∈ ms, m.flushMark? = none ∧ m.queued? = none ∧ m.dropped? = none) :
    waiting (ms ++ journal) = waiting journal := by
  induction ms with
  | nil => rfl
  | cons m ms ih =>
    have hm := h m List.mem_cons_self
    have hms := ih fun m' hm' => h m' (List.mem_cons_of_mem _ hm')
    cases m with
    | flushBegan => cases hm.1
    | queued => cases hm.2.1
    | dropped => cases hm.2.2
    | _ => exact hms

/-! ## Clearing -/

/-- The moments of a queue that is cleared, the latest first. -/
abbrev dropsOf (queue : List QueuedEvent) : List Moment := (queue.map .dropped).reverse

theorem dropsOf_cons (queue : List QueuedEvent) :
    dropsOf (event :: queue) ++ journal = dropsOf queue ++ .dropped event :: journal := by
  rw [dropsOf, List.map_cons, List.reverse_cons, List.append_assoc]
  rfl

theorem waiting_drops (queue : List QueuedEvent) (journal : List Moment) :
    waiting (dropsOf queue ++ journal) = (waiting journal).drop queue.length := by
  induction queue generalizing journal with
  | nil => rfl
  | cons event queue ih =>
    rw [dropsOf_cons, ih]
    exact List.drop_tail

theorem eventsOf_drops (queue : List QueuedEvent) :
    eventsOf Moment.dropped? (dropsOf queue ++ journal) = eventsOf Moment.dropped? journal ++ queue := by
  have h : (dropsOf queue).filterMap Moment.dropped? = queue.reverse := by
    rw [dropsOf, List.filterMap_reverse, List.filterMap_map]
    exact congrArg _ (List.filterMap_some ..)
  rw [eventsOf, List.filterMap_append, List.reverse_append, h, List.reverse_reverse]
  rfl

/-- What flushes took and what was dropped: a flush takes all that waits, and what is dropped waited longest. -/
structure Queue.Told (journal : List Moment) : Prop where
  began : ∀ batch earlier, .flushBegan batch :: earlier <:+ journal → batch = waiting earlier
  dropped : ∀ event earlier, .dropped event :: earlier <:+ journal →
    (waiting earlier).head? = some event

namespace Queue.Told

theorem nil : Told [] where
  began := fun _ _ hm => nomatch List.suffix_nil.1 hm
  dropped := fun _ _ hm => nomatch List.suffix_nil.1 hm

theorem cons (h : Told journal) (hbegan : ∀ batch, m = .flushBegan batch → batch = waiting journal)
    (hdropped : ∀ event, m = .dropped event → (waiting journal).head? = some event) :
    Told (m :: journal) where
  began := fun batch earlier hm => by
    rcases List.suffix_cons_iff.1 hm with heq | hm
    · cases heq
      exact hbegan batch rfl
    · exact h.began batch earlier hm
  dropped := fun event earlier hm => by
    rcases List.suffix_cons_iff.1 hm with heq | hm
    · cases heq
      exact hdropped event rfl
    · exact h.dropped event earlier hm

theorem append (h : Told journal)
    (hms : ∀ m ∈ ms, (∀ batch, m ≠ .flushBegan batch) ∧ ∀ event, m ≠ .dropped event) :
    Told (ms ++ journal) := by
  induction ms with
  | nil => exact h
  | cons m ms ih =>
    obtain ⟨hbegan, hdropped⟩ := hms m List.mem_cons_self
    exact (ih fun m' hm' => hms m' (List.mem_cons_of_mem _ hm')).cons
      (fun batch heq => absurd heq (hbegan batch)) fun event heq => absurd heq (hdropped event)

theorem drops {queue : List QueuedEvent} (h : Told journal) (hqueue : queue <+: waiting journal) :
    Told (dropsOf queue ++ journal) := by
  induction queue generalizing journal with
  | nil => exact h
  | cons first queue ih =>
    obtain ⟨more, hmore⟩ := hqueue
    rw [List.cons_append] at hmore
    have hnext : waiting (.dropped first :: journal) = queue ++ more := by
      rw [waiting, ← hmore, List.tail_cons]
    rw [dropsOf_cons]
    refine ih (h.cons (fun batch heq => by cases heq) fun event heq => ?_) ⟨more, hnext.symm⟩
    cases heq
    rw [← hmore, List.head?_cons]

end Queue.Told

/-! ## Stages -/

/-- Whether a moment has to do with the queue. -/
def Moment.touchesQueue : Moment → Bool
  | .queued _ | .dropped _ | .flushBegan _ | .flushed _ | .flushEnded => true
  | _ => false

theorem Moment.spared_of_touchesQueue (h : m.touchesQueue = false) :
    m.flushMark? = none ∧ m.queued? = none ∧ m.flushed? = none ∧ m.dropped? = none := by
  cases m with
  | queued | dropped | flushBegan | flushed | flushEnded => cases h
  | _ => exact ⟨rfl, rfl, rfl, rfl⟩

/-- The events that flushes under way have still to fire, those of the innermost flush first. -/
abbrev Stage.taken (σ : Stage) : List QueuedEvent := (σ.tasks.filterMap Task.toFlush?).flatten

/-- Where the events are that were queued. -/
structure Stage.Flows (scope : Scope) (σ : Stage) : Prop where
  paired : Batch.Paired Moment.flushMark? scope.flushes Task.toFlush? σ
  waits : σ.queue = waiting σ.journal
  kept : (eventsOf Moment.flushed? σ.journal ++ eventsOf Moment.dropped? σ.journal ++
    σ.taken ++ σ.queue).Perm (eventsOf Moment.queued? σ.journal)
  ordered : Batch.Flat Moment.flushMark? σ.journal →
    (eventsOf Moment.flushed? σ.journal ++ σ.taken ++ σ.queue).Sublist
      (eventsOf Moment.queued? σ.journal)
  told : Queue.Told σ.journal

namespace Stage.Flows

theorem quiet (hσ : σ.Flows scope)
    (hj : ∃ ms, τ.journal = ms ++ σ.journal ∧ ∀ m ∈ ms, m.touchesQueue = false)
    (hq : τ.queue = σ.queue)
    (ht : τ.tasks.filterMap Task.toFlush? = σ.tasks.filterMap Task.toFlush?) : τ.Flows scope := by
  obtain ⟨ms, hj, hms⟩ := hj
  have spared {event? : Moment → Option QueuedEvent}
      (h : ∀ m : Moment, m.touchesQueue = false → event? m = none) :
      eventsOf event? τ.journal = eventsOf event? σ.journal := by
    rw [hj, eventsOf_quiet fun m hm => h m (hms m hm)]
  have hfired := spared fun m hm => (Moment.spared_of_touchesQueue hm).2.2.1
  have hdropped := spared fun m hm => (Moment.spared_of_touchesQueue hm).2.2.2
  have hqueued := spared fun m hm => (Moment.spared_of_touchesQueue hm).2.1
  have htaken : τ.taken = σ.taken := congrArg List.flatten ht
  constructor
  case paired => exact hσ.paired.quiet hj (fun m hm => (Moment.spared_of_touchesQueue (hms m hm)).1) ht
  case waits =>
    rw [hq, hj, waiting_quiet fun m hm => ?_]
    · exact hσ.waits
    · obtain ⟨hmark, hqueued, -, hdropped⟩ := Moment.spared_of_touchesQueue (hms m hm)
      exact ⟨hmark, hqueued, hdropped⟩
  case kept =>
    rw [hfired, hdropped, hqueued, htaken, hq]
    exact hσ.kept
  case ordered =>
    intro hflat
    rw [hfired, hqueued, htaken, hq]
    exact hσ.ordered ((hj ▸ hflat).of_suffix (List.suffix_append ..))
  case told =>
    rw [hj]
    refine hσ.told.append fun m hm => ⟨fun batch heq => ?_, fun event heq => ?_⟩ <;>
      cases heq ▸ hms m hm

/-- One more event waits. -/
theorem enqueue (hσ : σ.Flows scope) (event : QueuedEvent) : Stage.Flows scope
    { σ with queue := σ.queue ++ [event], journal := .queued event :: σ.journal } := by
  have hqueued : eventsOf Moment.queued? (.queued event :: σ.journal) =
      eventsOf Moment.queued? σ.journal ++ [event] := eventsOf_cons_some rfl
  constructor
  case paired => exact hσ.paired.pass rfl rfl rfl
  case waits => exact congrArg (· ++ [event]) hσ.waits
  case kept =>
    dsimp only
    rw [hqueued, ← List.append_assoc]
    exact hσ.kept.append_right [event]
  case ordered =>
    intro hflat
    dsimp only
    rw [hqueued, ← List.append_assoc]
    exact (hσ.ordered (hflat.of_cons)).append_right [event]
  case told => exact hσ.told.cons (fun _ heq => by cases heq) fun _ heq => by cases heq

/-- All that waits is taken by a flush. -/
theorem flushBegan (hσ : σ.Flows scope) (hn : scope.flushes = true ∨ σ.tasks = []) : Stage.Flows scope
    { σ with
      queue := []
      journal := .flushBegan σ.queue :: σ.journal
      tasks := .flushing σ.queue :: σ.tasks } := by
  constructor
  case paired => exact hσ.paired.begin rfl rfl hn rfl
  case waits => rfl
  case kept =>
    have kept := hσ.kept
    rw [List.append_assoc] at kept
    change (_ ++ (σ.queue ++ σ.taken) ++ []).Perm _
    rw [List.append_nil]
    exact (List.perm_append_comm.append_left _).trans kept
  case ordered =>
    intro hflat
    -- no other flush is under way, so what is taken now is all that is left to be fired
    have hidle : σ.taken = [] := congrArg List.flatten <|
      hσ.paired.filterMap_eq_nil (hflat _ _ _ (List.suffix_refl _) rfl)
    have ordered := hσ.ordered (hflat.of_cons)
    rw [hidle, List.append_nil] at ordered
    change (_ ++ (σ.queue ++ σ.taken) ++ []).Sublist _
    rw [hidle, List.append_nil, List.append_nil]
    exact ordered
  case told => exact hσ.told.cons (fun _ heq => by cases heq; exact hσ.waits) fun _ heq => by cases heq

/-- An event that a flush took is fired. -/
theorem flushed (hσ : σ.Flows scope) {rest : List QueuedEvent} {tasks : List Task}
    (ht : σ.tasks = .flushing (event :: rest) :: tasks) : Stage.Flows scope
    { σ with journal := .flushed event :: σ.journal, tasks := .flushing rest :: tasks } := by
  have hfired : eventsOf Moment.flushed? (.flushed event :: σ.journal) =
      eventsOf Moment.flushed? σ.journal ++ [event] := eventsOf_cons_some rfl
  have htaken : σ.taken = event :: (rest ++ (tasks.filterMap Task.toFlush?).flatten) := by
    rw [Stage.taken, ht]
    rfl
  have kept := hσ.kept
  have ordered := hσ.ordered
  rw [htaken] at kept ordered
  constructor
  case paired => exact hσ.paired.take rfl rfl (by rw [ht]; rfl) rfl
  case waits => exact hσ.waits
  case kept =>
    change (eventsOf Moment.flushed? (.flushed event :: σ.journal) ++
      eventsOf Moment.dropped? σ.journal ++ (rest ++ (tasks.filterMap Task.toFlush?).flatten) ++
        σ.queue).Perm (eventsOf Moment.queued? σ.journal)
    rw [hfired]
    refine List.Perm.trans ?_ kept
    simp only [List.append_assoc, List.cons_append, List.nil_append]
    exact List.Perm.append_left _ List.perm_middle.symm
  case ordered =>
    intro hflat
    dsimp only
    rw [hfired, List.append_assoc (eventsOf ..)]
    exact ordered (hflat.of_cons)
  case told => exact hσ.told.cons (fun _ heq => by cases heq) fun _ heq => by cases heq

theorem flushEnded (hσ : σ.Flows scope) {tasks : List Task} (ht : σ.tasks = .flushing [] :: tasks) :
    Stage.Flows scope { σ with journal := .flushEnded :: σ.journal, tasks } := by
  have htaken : σ.taken = (tasks.filterMap Task.toFlush?).flatten := by
    rw [Stage.taken, ht]
    rfl
  have kept := hσ.kept
  have ordered := hσ.ordered
  rw [htaken] at kept ordered
  exact ⟨hσ.paired.finish rfl rfl (by rw [ht]; rfl) rfl, hσ.waits, kept,
    fun hflat => ordered (hflat.of_cons),
    hσ.told.cons (fun _ heq => by cases heq) fun _ heq => by cases heq⟩

/-- All that waits is dropped. -/
theorem clear (hσ : σ.Flows scope) :
    Stage.Flows scope { σ with queue := [], journal := dropsOf σ.queue ++ σ.journal } := by
  have spared {event? : Moment → Option QueuedEvent} (h : ∀ event, event? (.dropped event) = none) :
      eventsOf event? (dropsOf σ.queue ++ σ.journal) = eventsOf event? σ.journal :=
    eventsOf_quiet fun _ hm => of_mem_moments hm h
  have hfired : eventsOf Moment.flushed? (dropsOf σ.queue ++ σ.journal) =
      eventsOf Moment.flushed? σ.journal := spared fun _ => rfl
  have hqueued : eventsOf Moment.queued? (dropsOf σ.queue ++ σ.journal) =
      eventsOf Moment.queued? σ.journal := spared fun _ => rfl
  constructor
  case paired => exact hσ.paired.quiet rfl (fun _ hm => of_mem_moments hm fun _ => rfl) rfl
  case waits =>
    rw [waiting_drops, hσ.waits, List.drop_length]
  case kept =>
    dsimp only
    rw [hfired, hqueued, eventsOf_drops, List.append_nil]
    refine List.Perm.trans ?_ hσ.kept
    simp only [List.append_assoc]
    exact (List.perm_append_comm.append_left _).append_left _
  case ordered =>
    intro hflat
    dsimp only
    rw [hfired, hqueued, List.append_nil]
    exact (List.sublist_append_left ..).trans (hσ.ordered (hflat.of_suffix (List.suffix_append ..)))
  case told => exact hσ.told.drops (hσ.waits ▸ List.prefix_refl _)

end Stage.Flows

theorem Step.flows (h : Step scope σ τ) (hσ : σ.Flows scope) : τ.Flows scope := by
  have noted {m : Moment} (hj : τ.journal = m :: σ.journal) (hm : m.touchesQueue = false)
      (hq : τ.queue = σ.queue)
      (ht : τ.tasks.filterMap Task.toFlush? = σ.tasks.filterMap Task.toFlush?) : τ.Flows scope :=
    hσ.quiet ⟨[m], hj, fun _ h => List.mem_singleton.1 h ▸ hm⟩ hq ht
  cases h with
  | queued event => exact hσ.enqueue event
  | flushBegan hn => exact hσ.flushBegan hn
  | flushed ht => exact hσ.flushed ht
  | flushEnded ht => exact hσ.flushEnded ht
  | queueCleared => exact hσ.clear
  | timersCleared => exact hσ.quiet ⟨_, rfl, fun _ hm => of_mem_clearing hm rfl fun _ => rfl⟩ rfl rfl
  | erred h =>
    refine hσ.quiet ⟨_, rfl, fun _ hm => ?_⟩ rfl rfl
    exact of_mem_complaint h hm (fun _ _ _ _ => rfl) (fun _ _ _ => rfl) (fun _ _ => rfl) fun _ _ => rfl
  | painted | created | listened | enrolled | enrolledAgain | primarySet | scriptsCleared | called
  | answered | returned | invoked | started | cancelled | handleCancelled | tickBegan | updateBegan =>
    exact noted rfl rfl rfl rfl
  | told ht | fired ht | tickEnded ht | passedBy ht | reached ht | updated ht | failed ht | followed ht
  | updateEnded ht => exact noted rfl rfl rfl (by rw [ht]; rfl)
  | untold ht | toldAll ht | passedOver ht | rearmed ht =>
    exact hσ.quiet ⟨[], rfl, by simp⟩ rfl (by rw [ht]; rfl)
  | _ => exact hσ.quiet ⟨[], rfl, by simp⟩ rfl rfl

theorem Stage.flows_fresh (clock : Clock) : Stage.Flows scope { clock } where
  paired := .fresh rfl rfl
  waits := rfl
  kept := .refl _
  ordered := fun _ => .refl _
  told := .nil

/-! ## Operations -/

namespace Session

open Act

variable {call : Caller} {s : Session}

/-- Events are fired from front to back, each of them once. -/
inductive Fires (call : Caller) : Session → List QueuedEvent → Session → Prop
  | done {s : Session} : Fires call s [] s
  | fired {s t : Session} {event : QueuedEvent} {batch : List QueuedEvent}
      (rest : Fires call (after (fire call event.name event.args) (after (record (.flushed event)) s))
        batch t) : Fires call s (event :: batch) t

/-- The session in which a flush has taken all that waits. -/
def flushing (s : Session) : Session :=
  { s with
    host := { s.host with queue := [] }
    journal := .flushBegan s.host.queue :: s.journal }

/-- The session in which the clock has moved as a step makes it. -/
def clockMoved (elapsed : Value) (s : Session) : Except Fault Session :=
  if s.host.clock.manual then elapsed.number.map fun seconds =>
    { s with host := { s.host with clock := s.host.clock.advance seconds } }
  else .ok s

/-- What is left of a step once events have had their turn. -/
def afterEvents (call : Caller) (elapsed : Value) : Attempt Unit := do
  let _ ← tick call (← currentHost).clock.now
  let _ ← update call elapsed

theorem fires_forM (call : Caller) (batch : List QueuedEvent) (s : Session) :
    Fires call s batch (after (batch.forM fun event => do
      record (.flushed event)
      let _ ← fire call event.name event.args) s) := by
  induction batch generalizing s with
  | nil => exact .done
  | cons event batch ih => exact .fired (ih _)

theorem after_step (call : Caller) (elapsed : Value) (s : Session) : after (step call elapsed).run s =
    match s.clockMoved elapsed with
    | .error _ => s
    | .ok moved => after (afterEvents call elapsed).run (after (flush call) moved) := by
  -- what a step answers does not change what it leaves
  have turns (s : Session) : after (do
      let events ← flush call
      let timers ← tick call (← currentHost).clock.now
      let updates ← update call elapsed
      return (if events ≠ 0 then ["events"] else []) ++ (if timers ≠ 0 then ["timers"] else []) ++
        (if updates ≠ 0 then ["update"] else []) : Attempt (List String)).run s =
      after (afterEvents call elapsed).run (after (flush call) s) := by
    rw [after_lift_bind]
    unfold afterEvents
    rw [after_lift_bind, after_lift_bind, after_lift_bind, after_lift_bind, after_bind_pure,
      after_bind_pure]
  unfold step
  rw [after_lift_bind]
  change after (ite (s.host.clock.manual = true) _ _ : Attempt (List String)).run s = _
  by_cases hmanual : s.host.clock.manual = true
  · rw [if_pos hmanual, clockMoved, if_pos hmanual]
    cases elapsed.number with
    | error fault => rfl
    | ok seconds => exact turns (after (onHost fun h => { h with clock := h.clock.advance seconds }) s)
  · rw [if_neg hmanual, clockMoved, if_neg hmanual]
    exact turns s

/-- What the operations on the queue do, in whatever session. -/
structure QueueWorks (call : Caller) (s : Session) : Prop where
  /-- An event that is queued waits behind all others. -/
  enqueue : ∀ event args, after (performEvent call (.enqueue event args)) s =
    { s with
      host := { s.host with queue := s.host.queue ++ [⟨event, args⟩] }
      journal := .queued ⟨event, args⟩ :: s.journal }
  /-- Clearing drops all that waits. -/
  clear : after (performEvent call .clearQueue) s =
    { s with host := { s.host with queue := [] }, journal := dropsOf s.host.queue ++ s.journal }
  /-- A flush fires all that waits when it begins, and answers how many events that were. -/
  flush : ∃ t, Fires call s.flushing s.host.queue t ∧
    after (performEvent call .flush) s = { t with journal := .flushEnded :: t.journal } ∧
    result (performEvent call .flush) s = counted s.host.queue.length
  /-- A step flushes once the clock has moved, before anything else. -/
  step : ∀ elapsed, after (step call elapsed).run s =
    match s.clockMoved elapsed with
    | .error _ => s
    | .ok moved => after (afterEvents call elapsed).run (after (performEvent call .flush) moved)

theorem queueWorks (call : Caller) (s : Session) : s.QueueWorks call where
  enqueue := fun _ _ => rfl
  clear := after_clearQueue s
  flush := ⟨_, fires_forM call s.host.queue s.flushing, rfl, rfl⟩
  step := fun elapsed => after_step call elapsed s

end Session

/-! ## Runs -/

/-- What waits was queued last, in that order. -/
theorem waiting_suffix (journal : List Moment) :
    waiting journal <:+ eventsOf Moment.queued? journal := by
  induction journal with
  | nil => exact List.suffix_refl _
  | cons m journal ih =>
    cases m with
    | queued event =>
      rw [eventsOf_cons_some (rfl : Moment.queued? (.queued event) = some event)]
      obtain ⟨before, hbefore⟩ := ih
      exact ⟨before, by rw [waiting, ← List.append_assoc, hbefore]⟩
    | dropped => exact (List.tail_suffix _).trans ih
    | flushBegan => exact List.nil_suffix
    | _ => exact ih

/-- Where the events are that were queued, given what happened and what waits. -/
structure Queue.Kept (scope : Scope) (journal : List Moment) (queue : List QueuedEvent) : Prop where
  /-- What waits was queued since the last flush began, but for what was dropped. -/
  waits : queue = waiting journal
  /-- What waits is what was queued last, in that order. -/
  last : queue <:+ eventsOf Moment.queued? journal
  /-- A flush takes all that waits, and only what waits is dropped. -/
  told : Queue.Told journal
  /-- What a flush took is fired from front to back, and all of it until the flush ends. -/
  batches : Batch.Sound Moment.flushMark? journal
  /-- Between flushes, every event that was queued was fired once, was dropped once or waits. -/
  parted : flushesUnderWay journal = [] →
    (eventsOf Moment.flushed? journal ++ eventsOf Moment.dropped? journal ++ queue).Perm
      (eventsOf Moment.queued? journal)
  /-- If no flush began inside another one, and so if callbacks do not flush the queue, events are fired in
  the order in which they were queued. -/
  ordered : scope.flushes = false ∨ Batch.Flat Moment.flushMark? journal →
    (eventsOf Moment.flushed? journal).Sublist (eventsOf Moment.queued? journal)

theorem Stage.Flows.kept_of_shows (hσ : σ.Flows scope) {host : Host} (hs : σ.Shows host) :
    Queue.Kept scope σ.journal host.queue := by
  have hwaits : host.queue = waiting σ.journal := hs.queue.trans hσ.waits
  refine ⟨hwaits, hwaits ▸ waiting_suffix _, hσ.told, hσ.paired.sound, fun hidle => ?_, fun hflat => ?_⟩
  · have kept := hσ.kept
    have htaken : σ.taken = [] := congrArg List.flatten (hσ.paired.filterMap_eq_nil hidle)
    rw [htaken, List.append_nil, ← hs.queue] at kept
    exact kept
  · have ordered := hσ.ordered (hflat.elim hσ.paired.flat id)
    rw [List.append_assoc] at ordered
    exact (List.sublist_append_left ..).trans ordered

/-- **No event is lost, and none is fired twice**: that holds whenever the host of a run is met, however
callbacks are nested. Every flush has ended when the run ends; and what is noted of events is what is done with
them, in whatever session. -/
theorem Session.RanWithin.queueKept {s : Session} (h : s.RanWithin scope) :
    (∀ journal host, s.Past journal host → Queue.Kept scope journal host.queue) ∧
      flushesUnderWay s.journal = [] ∧
      ∀ (call : Caller) (t : Session), t.QueueWorks call := by
  have past (journal : List Moment) (host : Host) (hp : s.Past journal host) :
      Queue.Kept scope journal host.queue :=
    h.past (P := fun journal host => Queue.Kept scope journal host.queue) (I := Stage.Flows scope)
      Stage.flows_fresh (fun _ _ hστ hσ => hστ.flows hσ) (fun _ _ hs hσ => hσ.kept_of_shows hs) hp
  obtain ⟨clock, hsteps⟩ := h.steps
  have final : (s.stage []).Flows scope :=
    hsteps.keep (fun _ _ hστ hσ => hστ.flows hσ) (Stage.flows_fresh clock)
  exact ⟨past, final.paired.idle rfl, queueWorks⟩

/-- While one event is fired and another one is to be, a handler queues an event, clears the queue, queues one
more, flushes the queue and raises an error. -/
theorem Session.queueKept_runRootless :
    let s := Session.runRootless
      (fun _ _ _ =>
        { steps := [.event (.enqueue "Late" []), .event .clearQueue, .event (.enqueue "Later" []),
            .event .flush]
          raises := some "enough" })
      [.frame (.create (.str "Frame") .null .none .null .null),
        .frame (.act (some 1) (.registerEvent "Go")),
        .frame (.slot (some 1) (.setScript (.str "OnEvent") (.callback "meddle"))),
        .event (.enqueue "Go" []),
        .event (.enqueue "Go" []),
        .event .flush]
    (∀ journal host, s.Past journal host → Queue.Kept { raw := true } journal host.queue) ∧
      flushesUnderWay s.journal = [] ∧
      ∀ (call : Caller) (t : Session), t.QueueWorks call :=
  Session.RanWithin.queueKept (Session.ranWithin_runRootless (fun _ _ _ => by decide) (by decide))

end FrameHost
