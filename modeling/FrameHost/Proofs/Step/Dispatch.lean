import FrameHost.Proofs.Step.Act
import FrameHost.Proofs.Timers.Acts

/-!
# Dispatch goes by steps

What runs callbacks goes by steps if the callbacks do: slots, events, timers and updates.
-/

namespace FrameHost.Session

open Act

variable {scope : Scope} {s : Session} {call : Caller}

/-! ## Elementary acts -/

theorem currentHost_goes : Goes scope currentHost s := ⟨fun _ => .refl⟩

theorem registry_goes : Goes scope registry s := ⟨fun _ => .refl⟩

theorem currentHost_bind_goes {α : Type} {f : Host → Act α} (h : Goes scope (f s.host) s) :
    Goes scope (currentHost >>= f) s := ⟨h.steps⟩

theorem lift_currentHost_bind_goes {α : Type} {f : Host → Attempt α}
    (h : Attempt.Goes scope (f s.host) s) :
    Attempt.Goes scope ((liftM currentHost : Attempt Host) >>= f) s := ⟨⟨h.run.steps⟩⟩

theorem currentHost_bind_moves {α : Type} {f : Host → Act α} {tasks tasks' : List Task}
    (h : Moves scope (f s.host) s tasks tasks') : Moves scope (currentHost >>= f) s tasks tasks' := h

theorem registry_bind_goes {α : Type} {f : Registry → Act α} (h : Goes scope (f s.host.registry) s) :
    Goes scope (registry >>= f) s := ⟨h.steps⟩

/-! ## Errors -/

variable (hcall : ∀ callback args s, Goes scope (call callback args) s)

include hcall

/-- An error is counted and noted, with the call of the error handler; what is left is that call. -/
theorem complain_steps {m : Moment} {message : String} (hm : m.error? = some (message, s.host.onError))
    (category : String) (tasks : List Task) :
    ∃ σ, Step scope (s.stage tasks) σ ∧ σ.journal = m.complaint message s.host.onError ++ s.journal ∧
      Steps scope σ ((after (do record m; reportError call message category) s).stage tasks) := by
  let logged := after (do
    record m
    onHost fun h => { h with errors := h.errors + 1 }
    say "DispatchContext" .fail category message) s
  have counted : Step scope (s.stage tasks) { logged.stage tasks with
    journal := m.complaint message s.host.onError ++ s.journal } := .erred hm
  refine ⟨_, counted, rfl, ?_⟩
  change Steps scope _ ((after (tellHandler call message category) logged).stage tasks)
  have seen : logged.host.onError = s.host.onError := rfl
  rw [tellHandler, after_currentHost_bind, seen]
  cases s.host.onError with
  | null => exact .refl
  | callback name =>
    let noted := after (record (.alerted (.callback name) message)) logged
    dsimp only
    rw [after_bind]
    refine ((hcall name [.str message] noted).then fun raised s => ?_).steps tasks
    cases raised with
    | none => exact .pure _
    | some text => exact say_goes _ _ _ _
  | _ => exact .refl

theorem complain_goes {m : Moment} {message : String} (hm : m.error? = some (message, s.host.onError))
    (category : String) : Goes scope (do record m; reportError call message category) s :=
  ⟨fun tasks =>
    have ⟨_, counted, _, told⟩ := complain_steps hcall hm category tasks
    .head counted told⟩

theorem invoke_goes (callback : String) (args : List Value) (source category : String)
    (s : Session) : Goes scope (invoke call callback args source category) s := by
  unfold invoke
  refine (hcall _ _ _).then fun raised s => currentHost_bind_goes ?_
  cases raised with
  | none => exact (Goes.step fun _ => .invoked callback source).then fun _ _ => .pure _
  | some text =>
    exact (complain_goes hcall (m := .invoked callback source (some text) s.host.onError) rfl _).then
      fun _ _ => .pure _

theorem invokeValue_goes (v : Value) (args : List Value) (source category : String)
    (s : Session) : Goes scope (invokeValue call v args source category) s := by
  unfold invokeValue
  split
  · exact invoke_goes hcall _ _ _ _ _
  · refine currentHost_bind_goes ?_
    exact (complain_goes hcall (m := .misfired v source s.host.onError) rfl _).then fun _ _ => .pure _

/-- A callback that the host runs fails when it raises an error. -/
theorem invoke_raised {callback source category : String} {args : List Value} {s : Session}
    (h : result (invoke call callback args source category) s = false) :
    ∃ during text handler, (after (invoke call callback args source category) s).journal =
      during ++ s.journal ∧ .invoked callback source (some text) handler ∈ during := by
  cases hraised : result (call callback args) s with
  | none =>
    have hfine : result (invoke call callback args source category) s = true := by
      rw [invoke, result_bind, hraised]
      rfl
    cases hfine.symm.trans h
  | some text =>
    let ended := after (call callback args) s
    obtain ⟨during, hduring⟩ : s.journal <:+ ended.journal := (hcall callback args s).journal_suffix
    have hafter : after (invoke call callback args source category) s =
        after (do
          record (.invoked callback source (some text) ended.host.onError)
          reportError call (source ++ ": " ++ text) category) ended := by
      rw [invoke, after_bind, hraised]
      rfl
    have hm : Moment.error? (.invoked callback source (some text) ended.host.onError) =
        some (source ++ ": " ++ text, ended.host.onError) := rfl
    obtain ⟨σ, -, hσ, told⟩ := complain_steps hcall hm category []
    obtain ⟨later, hlater⟩ := told.journal_suffix
    rw [hσ, ← hduring, ← List.append_assoc, ← List.append_assoc, List.append_assoc later] at hlater
    refine ⟨_, text, ended.host.onError, (congrArg Session.journal hafter).trans hlater.symm, ?_⟩
    exact List.mem_append_right _ (Moment.suffix_complaint.subset List.mem_cons_self)

/-! ## Slots -/

theorem runHooks_goes (slot : Slot) (hooks : List String) (args : List Value) (s : Session) :
    Goes scope (runHooks call slot hooks args) s := by
  unfold runHooks runHookList
  split
  · exact .pure _
  · refine currentHost_bind_goes ?_
    refine (Goes.forM (fun hook s => ?_) hooks).then fun _ _ => .pure _
    exact (invoke_goes hcall _ _ _ _ _).then fun _ _ => .pure _

theorem runPrimary_goes (slot : Slot) (callback : String) (args : List Value) (s : Session) :
    Goes scope (runPrimary call slot callback args) s :=
  currentHost_bind_goes (invoke_goes hcall _ _ _ _ _)

theorem runPrimary_raised {frame : FrameId} {callback : String} {args : List Value} {before : List Moment}
    {s : Session} (hs : s.journal = .reached frame (some callback) true (s.host.label frame) :: before)
    (h : result (runPrimary call ⟨frame, .onUpdate⟩ callback args) s = false) :
    ∃ during, Raised frame callback during
      (after (runPrimary call ⟨frame, .onUpdate⟩ callback args) s).journal := by
  rw [runPrimary, result_currentHost_bind] at h
  obtain ⟨during, text, handler, hj, hmem⟩ := invoke_raised hcall h
  rw [runPrimary, after_currentHost_bind, hj, hs]
  exact ⟨during, .intro hmem⟩

theorem runSlot_goes (slot : Slot) (args : List Value) (s : Session) :
    Goes scope (runSlot call slot args) s := by
  unfold runSlot
  refine currentHost_bind_goes ?_
  dsimp only
  split
  · refine (runPrimary_goes hcall _ _ _ _).then fun _ s => ?_
    exact (Goes.pure _).then fun _ _ => (runHooks_goes hcall _ _ _ _).then fun _ _ => .pure _
  · exact (Goes.pure _).then fun _ _ => (runHooks_goes hcall _ _ _ _).then fun _ _ => .pure _

theorem runSlotHooks_goes (slot : Slot) (args : List Value) (s : Session) :
    Goes scope (runSlotHooks call slot args) s :=
  currentHost_bind_goes (runHooks_goes hcall _ _ _ _)

/-! ## Events -/

theorem deliver_goes (event : String) (args : List Value) (frame : FrameId) (s : Session) :
    Goes scope (deliver call event args frame) s := by
  unfold deliver
  refine registry_bind_goes ?_
  split
  · exact (runSlot_goes hcall _ _ _).then fun _ _ => .pure _
  · exact .pure _

theorem deliverAll_goes (event : String) (args : List Value) (frames : List FrameId)
    (s : Session) : Goes scope (deliverAll call event args frames) s := by
  induction frames generalizing s with
  | nil => exact .pure _
  | cons frame frames ih =>
    unfold deliverAll
    exact (deliver_goes hcall _ _ _ _).then fun _ s => (ih s).then fun _ _ => .pure _

theorem fire_goes (event : String) (args : List Value) (s : Session) :
    Goes scope (fire call event args) s := by
  unfold fire
  refine registry_bind_goes ((deliverAll_goes hcall _ _ _ _).then fun _ s => ?_)
  exact (say_goes _ _ _ _).then fun _ _ => .pure _

omit hcall in
theorem enqueue_goes (event : String) (args : List Value) (s : Session) :
    Goes scope (enqueue event args) s := .step fun _ => .queued ⟨event, args⟩

/-- The events of a batch are taken off the task one by one. -/
theorem flushEach_moves (batch : List QueuedEvent) (s : Session) (tasks : List Task) :
    Moves scope (batch.forM fun e => do
      record (.flushed e)
      let _ ← fire call e.name e.args) s (.flushing batch :: tasks) (.flushing [] :: tasks) := by
  induction batch generalizing s with
  | nil => exact .refl
  | cons e batch ih =>
    refine Moves.bind (Moves.bind (.step (.flushed rfl)) ?_) (ih _)
    exact ((fire_goes hcall e.name e.args _).then fun _ _ => .pure _).moves _

/-- Where callbacks do not flush the queue, a flush begins while nothing is under way. -/
theorem flush_moves (s : Session) {tasks : List Task} (hn : scope.flushes = true ∨ tasks = []) :
    Moves scope (flush call) s tasks tasks := by
  refine currentHost_bind_moves (Moves.bindBoth (.flushBegan hn) ?_)
  refine (flushEach_moves hcall s.host.queue _ tasks).bind ?_
  exact Moves.bind (.step (.flushEnded rfl)) .refl

omit hcall in
theorem after_clearQueue (s : Session) : after clearQueue s =
    { s with
      host := { s.host with queue := [] }
      journal := (s.host.queue.map .dropped).reverse ++ s.journal } := by
  have h : after clearQueue s = after (onHost fun h => { h with queue := [] })
      (after (s.host.queue.forM fun e => record (.dropped e)) s) := rfl
  rw [h, after_forM_record]
  rfl

omit hcall in
theorem clearQueue_goes (s : Session) : Goes scope clearQueue s := by
  refine .step fun tasks => ?_
  rw [after_clearQueue]
  exact .queueCleared

/-! ## Timers -/

theorem runTimer_steps (now : Float) (id : Nat) (rest : List Nat) (s : Session)
    (tasks : List Task) :
    Steps scope (s.stage (.ticking now (id :: rest) :: tasks))
      ((after (runTimer call now id) s).stage (.ticking now rest :: tasks)) := by
  cases hp : s.host.timers.pending.get? id with
  | none =>
    rw [(runTimer_of_absent call now hp).1]
    exact .single (.passedOver rfl hp)
  | some timer =>
    rw [(runTimer_of_pending call now hp).1]
    have noted : Step scope (s.stage (.ticking now (id :: rest) :: tasks))
        ((after (record (.fired id now)) s).stage (.calling id :: .ticking now rest :: tasks)) :=
      .fired rfl hp
    exact (((invoke_goes hcall _ _ _ _ _).steps _).head noted).tail (.rearmed rfl)

theorem runTimers_steps (now : Float) (batch : List Nat) (s : Session) (tasks : List Task) :
    Steps scope (s.stage (.ticking now batch :: tasks))
      ((after (runTimers call now batch) s).stage (.ticking now [] :: tasks)) := by
  induction batch generalizing s with
  | nil => exact .refl
  | cons id batch ih => exact (runTimer_steps hcall now id batch s tasks).trans (ih _)

theorem tick_goes (now : Float) (s : Session) : Goes scope (tick call now) s := by
  constructor
  intro tasks
  have begun : Steps scope (s.stage tasks)
      ((after (record (.tickBegan now))
        (after (onTimers fun _ => (s.host.timers.takeDue now).2) s)).stage
          (.ticking now (s.host.timers.takeDue now).1 :: tasks)) := .single (.tickBegan now)
  exact (begun.trans (runTimers_steps hcall now _ _ tasks)).tail (.tickEnded rfl)

/-! ## Updates -/

/-- What follows the primary callback of a frame that is updated. -/
theorem settle_moves (elapsed : Value) (frame : FrameId) (callback : String) (fine : Bool) (s : Session)
    (tasks : List Task)
    (hr : fine = false → ∃ during, Raised frame callback during s.journal) :
    Moves scope (settle call elapsed frame callback fine) s (.running frame callback :: tasks) tasks := by
  have hooked (s : Session) : Goes scope (do
      let _ ← runSlotHooks call ⟨frame, .onUpdate⟩ [elapsed]
      return true) s := (runSlotHooks_goes hcall _ _ _).then fun _ _ => .pure _
  unfold settle
  cases fine with
  | true => exact Moves.bind (.step (.updated rfl)) ((hooked _).moves _)
  | false =>
    obtain ⟨during, hr⟩ := hr rfl
    have muted : Step scope (s.stage (.running frame callback :: tasks))
        ((after (mute frame callback) (after (record (.updated frame callback true)) s)).stage tasks) :=
      .failed rfl hr
    exact Moves.bindBoth muted ((hooked _).moves _)

/-- A frame that is updated takes its turn: it is passed by, or its primary callback is run and then its
hooks. -/
theorem updateFrame_moves (elapsed : Value) (frame : FrameId) (rest : List Turn) (s : Session)
    (tasks : List Task) : Moves scope (updateFrame call elapsed frame) s
      (.updating (.reach frame :: rest) :: tasks) (.updating rest :: tasks) := by
  unfold updateFrame
  refine currentHost_bind_moves ?_
  split
  · rename_i hp
    exact Moves.bind (.step (.passedBy rfl hp fun _ h => by cases h)) .refl
  rename_i callback hp
  split
  · rename_i hm
    exact Moves.bind (.step (.passedBy rfl hp fun _ h => by cases h; exact hm)) .refl
  rename_i hm
  refine Moves.bindBoth (.reached rfl hp hm) ?_
  refine ((runPrimary_goes hcall _ _ _ _).moves _).bind ?_
  exact settle_moves hcall elapsed frame callback _ _ _ fun hfine => runPrimary_raised hcall rfl hfine

theorem updateAll_moves (elapsed : Value) (frames : List FrameId) (rest : List Turn) (s : Session)
    (tasks : List Task) : Moves scope (updateAll call elapsed frames) s
      (.updating (frames.map .reach ++ rest) :: tasks) (.updating rest :: tasks) := by
  induction frames generalizing s with
  | nil => exact .refl
  | cons frame frames ih =>
    unfold updateAll
    exact (updateFrame_moves hcall _ _ _ _ _).bind ((ih _).bind .refl)

theorem updateLater_moves (elapsed : Value) (frames : List FrameId) (s : Session)
    (tasks : List Task) : Moves scope (updateLater call elapsed frames) s
      (.updating (frames.map .follow) :: tasks) (.updating [] :: tasks) := by
  unfold updateLater
  induction frames generalizing s with
  | nil => exact .refl
  | cons frame frames ih =>
    refine Moves.bind (Moves.bind (.step (.followed rfl)) ?_) (ih _)
    exact ((runSlot_goes hcall _ _ _).then fun _ _ => .pure _).moves _

/-- Where callbacks do not update frames, an update begins while nothing is under way. -/
theorem update_moves (elapsed : Value) (s : Session) {tasks : List Task}
    (hn : scope.updates = true ∨ tasks = []) : Moves scope (update call elapsed).run s tasks tasks := by
  unfold update
  refine Attempt.Moves.bind ((Attempt.Goes.lift currentHost_goes).run.moves _) fun h hh => ?_
  cases hh
  refine Attempt.Moves.bind ((Attempt.Goes.attempt _).run.moves _) fun frames hf => ?_
  refine Attempt.Moves.bind ((Attempt.Goes.attempt _).run.moves _) fun later hl => ?_
  have began : Step scope (s.stage tasks)
      ((after (record (.updateBegan frames later s.host.registry)) s).stage
        (.updating (frames.map .reach ++ later.map .follow) :: tasks)) :=
    .updateBegan ⟨rfl, rfl, rfl, rfl, rfl, rfl, rfl, rfl⟩ hf hl hn
  refine Relation.ReflTransGen.head began ?_
  refine (updateAll_moves hcall elapsed frames (later.map .follow) _ tasks).trans ?_
  exact (updateLater_moves hcall elapsed later _ tasks).tail (.updateEnded rfl)

/-- What a step does once its clock has moved. -/
theorem phases_moves (elapsed : Value) (s : Session) {tasks : List Task}
    (hf : scope.flushes = true ∨ tasks = []) (hu : scope.updates = true ∨ tasks = []) :
    Moves scope (do
      let events ← flush call
      let timers ← tick call (← currentHost).clock.now
      let updates ← update call elapsed
      return (if events ≠ 0 then ["events"] else []) ++ (if timers ≠ 0 then ["timers"] else []) ++
        (if updates ≠ 0 then ["update"] else []) : Attempt (List String)).run s tasks tasks := by
  refine Attempt.Moves.bind (.lift (flush_moves hcall _ hf)) fun events _ => ?_
  refine Attempt.Moves.bind (.lift (currentHost_goes.moves _)) fun h _ => ?_
  refine Attempt.Moves.bind (.lift ((tick_goes hcall _ _).moves _)) fun timers _ => ?_
  refine Attempt.Moves.bind (update_moves hcall _ _ hu) fun updates _ => ?_
  exact (Attempt.Goes.pure _).run.moves _

theorem step_moves (elapsed : Value) (s : Session) {tasks : List Task}
    (hf : scope.flushes = true ∨ tasks = []) (hu : scope.updates = true ∨ tasks = []) :
    Moves scope (step call elapsed).run s tasks tasks := by
  unfold step
  refine Attempt.Moves.bind (.lift (currentHost_goes.moves _)) fun h _ => ?_
  split
  · refine Attempt.Moves.bind ((Attempt.Goes.attempt _).run.moves _) fun seconds _ => ?_
    refine Attempt.Moves.bind (.lift (.step (.advanced seconds))) fun _ _ => ?_
    exact phases_moves hcall elapsed _ hf hu
  · exact phases_moves hcall elapsed _ hf hu

theorem click_goes (x y button : Value) (s : Session) :
    Attempt.Goes scope (click call x y button) s := by
  unfold click
  refine (Attempt.Goes.lift currentHost_goes).then fun h s => ?_
  refine (Attempt.Goes.attempt _).then fun hit s => ?_
  split
  · exact (Attempt.Goes.lift (say_goes _ _ _ _)).then fun _ _ => .pure _
  · refine (Attempt.Goes.forM (fun handler s => ?_) _).then fun _ _ => .pure _
    exact (Attempt.Goes.lift (runSlot_goes hcall _ _ _)).then fun _ _ => .pure _

end FrameHost.Session
