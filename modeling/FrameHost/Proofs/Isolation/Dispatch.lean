import FrameHost.Proofs.Isolation.Twin

/-!
# Dispatch contains errors

What runs callbacks takes them one way whether they raise errors or not: a callback that raises one is
followed by what would have followed it. So if callbacks are twins but for the errors that those of the
second run spare, all that runs them is.

* `Milder`: the errors that the second run may spare.
* `settleCall_twin`: what follows a callback, where the two runs differ.
* `invoke_twin`: running a callback.
* `runSlot_twin`, `fire_twin`, `tick_twin`, `update_twin`, `click_twin`: the dispatch.
-/

namespace FrameHost

/-- A callback of the second run raises the same error or none. -/
def Milder (raised raised' : Option String) : Prop := raised' = none ∨ raised' = raised

/-- A callback that is fine in the first run is so in the second. -/
def AsFine (fine fine' : Bool) : Prop := fine = true → fine' = true

namespace Session

open Act

variable {call call' : Caller}

/-! ## Errors -/

theorem tellHandler_after (call : Caller) {s : Session} (h : s.host.onError = .null)
    (message category : String) : after (tellHandler call message category) s = s := by
  unfold tellHandler
  rw [after_currentHost_bind, h]
  rfl

/-- An error that nobody is told of is counted and logged. -/
theorem reportError_after (call : Caller) {s : Session} (h : s.host.onError = .null)
    (message category : String) :
    after (reportError call message category) s =
      { s with
        host := { s.host with errors := s.host.errors + 1 }
        log := s.log.emit "DispatchContext" .fail category message } :=
  tellHandler_after call (s := after (say "DispatchContext" .fail category message)
    (after (onHost fun h => { h with errors := h.errors + 1 }) s)) h message category

/-- What follows a callback: an error that it raised is noted and reported. -/
def settleCall (call : Caller) (callback source category : String) (raised : Option String) :
    Act Bool := do
  record (.invoked callback source raised (← currentHost).onError)
  match raised with
  | some text =>
    reportError call (source ++ ": " ++ text) category
    return false
  | none => return true

/-- An error that nobody is told of leaves its count, a line of the log, and a note. -/
theorem settleCall_after (call : Caller) {s : Session} (h : s.host.onError = .null)
    (callback source category text : String) :
    ∃ lines, after (settleCall call callback source category (some text)) s =
      { s with
        host := { s.host with errors := s.host.errors + 1 }
        log := { s.log with lines }
        journal := .invoked callback source (some text) s.host.onError :: s.journal } := by
  obtain ⟨lines, hlog⟩ := emit_eq s.log "DispatchContext" .fail category (source ++ ": " ++ text)
  have hreported := reportError_after call
    (s := after (record (.invoked callback source (some text) s.host.onError)) s) h
    (source ++ ": " ++ text) category
  refine ⟨lines, hreported.trans ?_⟩
  rw [← hlog]
  rfl

variable (hcall : ∀ callback args, Act.Twin Milder (call callback args) (call' callback args))

include hcall

theorem tellHandler_twin (message category : String) :
    Act.Twin Eq (tellHandler call message category) (tellHandler call' message category) := by
  unfold tellHandler
  refine currentHost_bind_twin fun h _ => ?_
  dsimp only
  split
  · exact .pure _
  · refine (record_twin rfl).bind fun _ => ?_
    refine (hcall _ _).bindBy (fun _ => .inr rfl) fun raised raised' hraised => ?_
    cases raised with
    | none =>
      rw [show raised' = none from hraised.elim id id]
      exact .pure _
    | some text =>
      rcases hraised with rfl | rfl
      · exact say_spared ..
      · exact say_twin ..
  · exact (record_twin rfl).bind fun _ => say_twin ..

theorem reportError_twin (message category : String) :
    Act.Twin Eq (reportError call message category) (reportError call' message category) := by
  unfold reportError
  refine (onHost_twin fun h errors => ⟨errors + 1, rfl⟩).bind fun _ => ?_
  exact (say_twin ..).bind fun _ => tellHandler_twin hcall message category

theorem settleCall_same (callback source category : String) (raised : Option String) :
    Act.Twin AsFine (settleCall call callback source category raised)
      (settleCall call' callback source category raised) := by
  unfold settleCall
  refine currentHost_bind_twin fun h errors => (record_twin rfl).bind fun _ => ?_
  cases raised with
  | none => exact .answer id
  | some text => exact (reportError_twin hcall _ _).bind fun _ => .answer id

theorem settleCall_twin (callback source category : String) {raised raised' : Option String}
    (h : Milder raised raised') : Act.Twin AsFine
      (settleCall call callback source category raised)
      (settleCall call' callback source category raised') := by
  have same := settleCall_same hcall callback source category
  rcases h with rfl | rfl
  · cases raised with
    | none => exact same none
    | some text =>
      refine ⟨(same (some text)).grows, fun s s' hs hcalm => ⟨(nomatch ·), ?_⟩⟩
      -- the error is spared: nobody is told of it in the first run either
      have hnoted : .invoked callback source (some text) s.host.onError ∈
          (after (settleCall call callback source category (some text)) s).journal :=
        ((reportError_twin hcall (source ++ ": " ++ text) category).grows
          (after (record (.invoked callback source (some text) s.host.onError)) s)).subset
            List.mem_cons_self
      have hnull := Moment.handler_of_isCalm (hcalm _ hnoted)
      obtain ⟨lines, hsettled⟩ := settleCall_after call hnull callback source category text
      rw [hsettled]
      cases hs with
      | mk hshared hcalls hjournal =>
        refine .mk hshared hcalls ?_
        exact congrArg (Moment.hush (.invoked callback source none s.host.onError) :: ·) hjournal
  · exact same raised'

/-- **Running a callback contains its error**: the second run may spare it, and then says that there was
none. -/
theorem invoke_twin (callback : String) (args : List Value) (source category : String) :
    Act.Twin AsFine
      (invoke call callback args source category) (invoke call' callback args source category) :=
  (hcall callback args).bindBy (fun _ => .inr rfl) fun _ _ h =>
    settleCall_twin hcall callback source category h

theorem invokeValue_twin (v : Value) (args : List Value) (source category : String) :
    Act.Twin AsFine
      (invokeValue call v args source category) (invokeValue call' v args source category) := by
  unfold invokeValue
  split
  · exact invoke_twin hcall _ _ _ _
  · refine currentHost_bind_twin fun h errors => (record_twin rfl).bind fun _ => ?_
    exact (reportError_twin hcall _ _).bind fun _ => .answer id

/-! ## Slots -/

theorem runHooks_twin (slot : Slot) (hooks : List String) (args : List Value) :
    Act.Twin Eq (runHooks call slot hooks args) (runHooks call' slot hooks args) := by
  unfold runHooks runHookList
  split
  · exact .pure _
  · refine currentHost_bind_twin fun h errors => ?_
    refine (Act.Twin.forM (fun hook => ?_) hooks).bind fun _ => .pure _
    exact (invoke_twin hcall _ _ _ _).andThen (.pure _)

theorem runPrimary_twin (slot : Slot) (callback : String) (args : List Value) :
    Act.Twin AsFine
      (runPrimary call slot callback args) (runPrimary call' slot callback args) :=
  currentHost_bind_twin fun _ _ => invoke_twin hcall _ _ _ _

/-- **A slot is run to its end**, whichever of its callbacks raise errors. -/
theorem runSlot_twin (slot : Slot) (args : List Value) :
    Act.Twin Eq (runSlot call slot args) (runSlot call' slot args) := by
  unfold runSlot
  refine currentHost_bind_twin fun h errors => ?_
  dsimp only
  have hooked (first : Nat) :=
    (runHooks_twin hcall slot (h.scripts.hooksOf slot) args).bind fun n => .pure (first + n)
  split
  · exact (runPrimary_twin hcall _ _ _).andThen ((Act.Twin.pure 1).bind hooked)
  · exact (Act.Twin.pure 0).bind hooked

theorem runSlotHooks_twin (slot : Slot) (args : List Value) :
    Act.Twin Eq (runSlotHooks call slot args) (runSlotHooks call' slot args) :=
  currentHost_bind_twin fun _ _ => runHooks_twin hcall _ _ _

/-! ## Events -/

theorem deliver_twin (event : String) (args : List Value) (frame : FrameId) :
    Act.Twin Eq (deliver call event args frame) (deliver call' event args frame) := by
  unfold deliver
  refine registry_twin.bind fun r => ?_
  split
  · exact (runSlot_twin hcall _ _).bind fun _ => .pure _
  · exact .pure _

theorem deliverAll_twin (event : String) (args : List Value) (frames : List FrameId) :
    Act.Twin Eq (deliverAll call event args frames) (deliverAll call' event args frames) := by
  induction frames with
  | nil => exact .pure _
  | cons frame frames ih =>
    unfold deliverAll
    exact (deliver_twin hcall _ _ _).bind fun _ => ih.bind fun _ => .pure _

/-- **An event reaches every listener**, whichever of the callbacks before raise errors. -/
theorem fire_twin (event : String) (args : List Value) :
    Act.Twin Eq (fire call event args) (fire call' event args) := by
  unfold fire
  refine registry_twin.bind fun r => (deliverAll_twin hcall _ _ _).bind fun delivered => ?_
  exact (say_twin ..).bind fun _ => .pure _

omit hcall in
theorem enqueue_twin (event : String) (args : List Value) :
    Act.Twin Eq (enqueue event args) (enqueue event args) :=
  (onHost_twin fun _ errors => ⟨errors, rfl⟩).bind fun _ => record_twin rfl

/-- **A flush fires its whole batch.** -/
theorem flush_twin : Act.Twin Eq (flush call) (flush call') := by
  unfold flush
  refine currentHost_bind_twin fun h errors => ?_
  refine (onHost_twin fun _ errors => ⟨errors, rfl⟩).bind fun _ => ?_
  refine (record_twin rfl).bind fun _ => ?_
  refine (Act.Twin.forM (fun e => ?_) h.queue).bind fun _ => (record_twin rfl).bind fun _ => .pure _
  exact (record_twin rfl).bind fun _ => (fire_twin hcall _ _).bind fun _ => .pure _

omit hcall in
theorem clearQueue_twin : Act.Twin Eq clearQueue clearQueue := by
  unfold clearQueue
  refine currentHost_bind_twin fun h errors => ?_
  exact (Act.Twin.forM (fun _ => record_twin rfl) h.queue).bind fun _ =>
    onHost_twin fun _ errors => ⟨errors, rfl⟩

/-! ## Timers -/

theorem runTimer_twin (now : Float) (id : Nat) :
    Act.Twin Eq (runTimer call now id) (runTimer call' now id) := by
  unfold runTimer
  refine currentHost_bind_twin fun h errors => ?_
  dsimp only
  split
  · exact .pure _
  · refine (record_twin rfl).bind fun _ => (invoke_twin hcall _ _ _ _).andThen ?_
    exact (onTimers_twin _).bind fun _ => .pure _

theorem runTimers_twin (now : Float) (batch : List Nat) :
    Act.Twin Eq (runTimers call now batch) (runTimers call' now batch) := by
  induction batch with
  | nil => exact .pure _
  | cons id batch ih =>
    unfold runTimers
    exact (runTimer_twin hcall _ _).bind fun _ => ih.bind fun _ => .pure _

/-- **A tick runs its whole batch** and arms its tickers again. -/
theorem tick_twin (now : Float) : Act.Twin Eq (tick call now) (tick call' now) := by
  unfold tick
  refine currentHost_bind_twin fun h errors => ?_
  refine (onTimers_twin _).bind fun _ => (record_twin rfl).bind fun _ => ?_
  exact (runTimers_twin hcall _ _).bind fun _ => (record_twin rfl).bind fun _ => .pure _

/-! ## Updates -/

omit hcall in
theorem mute_twin (frame : FrameId) (callback : String) :
    Act.Twin Eq (mute frame callback) (mute frame callback) :=
  (onHost_twin fun _ errors => ⟨errors, rfl⟩).bind fun _ => currentHost_bind_twin fun _ _ => say_twin ..

theorem settle_twin (elapsed : Value) (frame : FrameId) (callback : String) {fine fine' : Bool}
    (h : AsFine fine fine') : Act.Twin Eq (settle call elapsed frame callback fine)
      (settle call' elapsed frame callback fine') := by
  cases fine with
  | true =>
    rw [h rfl]
    exact (record_twin rfl).bind fun _ => (runSlotHooks_twin hcall _ _).bind fun _ => .pure _
  | false =>
    have muted : Act.Twin Eq (do
        mute frame callback
        let _ ← runSlotHooks call ⟨frame, .onUpdate⟩ [elapsed]
        return true) (do
        mute frame callback
        let _ ← runSlotHooks call' ⟨frame, .onUpdate⟩ [elapsed]
        return true) :=
      (mute_twin frame callback).bind fun _ => (runSlotHooks_twin hcall _ _).bind fun _ => .pure _
    have grows (s : Session) : Moment.updated frame callback true :: s.journal <:+
        (after (settle call elapsed frame callback false) s).journal :=
      muted.grows (after (record (.updated frame callback true)) s)
    refine ⟨fun s => (List.suffix_cons ..).trans (grows s), fun s s' _ hcalm => ?_⟩
    -- an update that failed is not calm
    exact nomatch hcalm _ ((grows s).subset List.mem_cons_self)

theorem updateFrame_twin (elapsed : Value) (frame : FrameId) :
    Act.Twin Eq (updateFrame call elapsed frame) (updateFrame call' elapsed frame) := by
  unfold updateFrame
  refine currentHost_bind_twin fun h errors => ?_
  dsimp only
  split
  · exact (record_twin rfl).bind fun _ => .pure _
  split
  · exact (record_twin rfl).bind fun _ => .pure _
  refine (record_twin rfl).bind fun _ => (onHost_twin fun _ errors => ⟨errors, rfl⟩).bind fun _ => ?_
  exact (runPrimary_twin hcall _ _ _).bindBy (fun _ => id) fun _ _ h =>
    settle_twin hcall elapsed frame _ h

theorem updateAll_twin (elapsed : Value) (frames : List FrameId) :
    Act.Twin Eq (updateAll call elapsed frames) (updateAll call' elapsed frames) := by
  induction frames with
  | nil => exact .pure _
  | cons frame frames ih =>
    unfold updateAll
    exact (updateFrame_twin hcall _ _).bind fun _ => ih.bind fun _ => .pure _

theorem updateLater_twin (elapsed : Value) (frames : List FrameId) :
    Act.Twin Eq (updateLater call elapsed frames) (updateLater call' elapsed frames) :=
  .forM (fun _ => (record_twin rfl).bind fun _ => (runSlot_twin hcall _ _).bind fun _ => .pure _) frames

theorem update_twin (elapsed : Value) :
    Attempt.Twin (update call elapsed) (update call' elapsed) := by
  unfold update
  refine lift_currentHost_bind_twin fun h errors => ?_
  refine (Attempt.Twin.attempt _).bind fun frames => ?_
  refine (Attempt.Twin.attempt _).bind fun later => ?_
  refine (Attempt.Twin.lift (record_twin rfl)).bind fun _ => ?_
  refine (Attempt.Twin.lift (updateAll_twin hcall _ _)).bind fun updated => ?_
  refine (Attempt.Twin.lift (updateLater_twin hcall _ _)).bind fun _ => ?_
  exact (Attempt.Twin.lift (record_twin rfl)).bind fun _ => .pure _

theorem step_twin (elapsed : Value) : Attempt.Twin (step call elapsed) (step call' elapsed) := by
  unfold step
  let dispatch (call : Caller) : Attempt (List String) := do
    let events ← flush call
    let timers ← tick call (← currentHost).clock.now
    let updates ← update call elapsed
    return (if events ≠ 0 then ["events"] else []) ++ (if timers ≠ 0 then ["timers"] else []) ++
      (if updates ≠ 0 then ["update"] else [])
  have phases : Attempt.Twin (dispatch call) (dispatch call') := by
    refine (Attempt.Twin.lift (flush_twin hcall)).bind fun events => ?_
    refine lift_currentHost_bind_twin fun h errors => ?_
    refine (Attempt.Twin.lift (tick_twin hcall _)).bind fun timers => ?_
    exact (update_twin hcall _).bind fun _ => .pure _
  refine lift_currentHost_bind_twin fun h errors => ?_
  dsimp only
  split
  · refine (Attempt.Twin.attempt _).bind fun seconds => ?_
    exact (Attempt.Twin.lift (onHost_twin fun _ errors => ⟨errors, rfl⟩)).bind fun _ => phases
  · exact phases

theorem click_twin (x y button : Value) :
    Attempt.Twin (click call x y button) (click call' x y button) := by
  unfold click
  refine lift_currentHost_bind_twin fun h errors => ?_
  refine (Attempt.Twin.attempt _).bind fun hit => ?_
  split
  · exact (Attempt.Twin.lift (say_twin ..)).bind fun _ => .pure _
  · refine (Attempt.Twin.forM (fun handler => ?_) _).bind fun _ => .pure _
    exact (Attempt.Twin.lift (runSlot_twin hcall _ _)).bind fun _ => .pure _

end Session

end FrameHost
