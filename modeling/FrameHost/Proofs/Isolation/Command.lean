import FrameHost.Proofs.Isolation.Boot
import FrameHost.Perform

/-!
# Commands and errors

A command does and answers the same, whichever of the callbacks it runs raise errors, unless it asks about
errors.

* `perform_twin`: carrying a command out.
* `answer_twin`: and collecting the callbacks that ran meanwhile.
-/

namespace FrameHost

theorem Command.tellsErrors_meant (r : Registry) (c : Command) :
    (c.meant r).tellsErrors = c.tellsErrors := by
  cases c with
  | script c | host c | log c => cases c <;> rfl
  | _ => rfl

namespace Session

open Act

variable {call call' : Caller}

/-! ## The registry -/

theorem register_noted_twin (f : Frame) (wanted : FrameId) :
    let enroll : Attempt Reply := do
      let last := (← get).lastId
      let id ← register wanted f
      record (.enrolled wanted last (← registry))
      return valued (.int id)
    Attempt.Twin enroll enroll := by
  refine .get_bind fun s s' hs => ?_
  cases hs with
  | mk =>
    refine (Attempt.Twin.lift (register_twin wanted f)).bind fun id => ?_
    refine (Attempt.Twin.lift registry_twin).bind fun r => ?_
    exact (Attempt.Twin.lift (record_twin rfl)).bind fun _ => .pure _

theorem registerAgain_noted_twin (id : FrameId) :
    let enroll : Attempt Reply := do
      match ← registerAgain id with
      | some id =>
        record (.tuned (← registry))
        return valued (.int id)
      | none => throw .missingPart
    Attempt.Twin enroll enroll := by
  refine (Attempt.Twin.lift (registerAgain_twin id)).bind fun again => ?_
  cases again with
  | none => exact .throw _
  | some id =>
    refine (Attempt.Twin.lift registry_twin).bind fun r => ?_
    exact (Attempt.Twin.lift (record_twin rfl)).bind fun _ => .pure _

theorem performRegistry_twin (c : RegistryCommand) :
    Attempt.Twin (performRegistry c) (performRegistry c) := by
  let ask (f : Registry → Reply) : Attempt Reply := do return f (← registry)
  have asked (f : Registry → Reply) : Attempt.Twin (ask f) (ask f) :=
    (Attempt.Twin.lift registry_twin).bind fun _ => .pure _
  let write (f : Registry → Registry) : Attempt Reply := do
    onRegistry f
    return nothing
  have written (f : Registry → Registry) : Attempt.Twin (write f) (write f) :=
    (Attempt.Twin.lift (onRegistry_twin f)).bind fun _ => .pure _
  cases c with
  | register id f =>
    have enrolled := register_noted_twin f
    cases id with
    | some id => exact enrolled id
    | none => exact (Attempt.Twin.lift drawId_twin).bind enrolled
  | registerAgain id =>
    cases id with
    | none => exact .throw _
    | some id => exact registerAgain_noted_twin id
  | addChild parent child | removeChild parent child =>
    cases parent with
    | none => exact .pure _
    | some p =>
      cases child with
      | none => exact written _
      | some c => exact written _
  | get | getNamed | idNamed | ids | size | contains | isAncestor | depth | isVisible
  | descendants | listeners | anchorTargets | wouldLoop => exact asked _
  | getMutable id =>
    cases id with
    | none => exact asked _
    | some id => exact (Attempt.Twin.lift (onRegistry_twin _)).bind fun _ => asked _
  | registerEvent id event =>
    refine (Attempt.Twin.lift registry_twin).bind fun r => ?_
    exact (Attempt.Twin.lift (retune_twin _)).bind fun _ => .pure _
  | markDirty => exact written _
  | takeDirty =>
    refine (Attempt.Twin.lift registry_twin).bind fun r => ?_
    refine (Attempt.Twin.lift (record_twin rfl)).bind fun _ => ?_
    exact (Attempt.Twin.lift (onRegistry_twin _)).bind fun _ => .pure _

/-! ## Timers -/

theorem timerCallback?_twin (callback : Value) :
    Act.Twin Eq (timerCallback? callback) (timerCallback? callback) := by
  unfold timerCallback?
  split
  · exact .pure _
  · exact currentHost_bind_twin fun _ _ => (say_twin ..).bind fun _ => .pure _

theorem dueIn_twin (delay : Value) : Attempt.Twin (dueIn delay) (dueIn delay) := by
  unfold dueIn
  refine lift_currentHost_bind_twin fun h errors => ?_
  exact (Attempt.Twin.attempt _).bind fun _ => .pure _

theorem addTimer_twin (timer : Timer) : Act.Twin Eq (addTimer timer) (addTimer timer) := by
  unfold addTimer
  refine (onTimers_twin _).bind fun _ => ?_
  exact currentHost_bind_twin fun _ _ => record_twin rfl

theorem newestHandle_twin : Act.Twin Eq newestHandle newestHandle :=
  currentHost_bind_twin fun _ _ => .pure _

theorem startTimer_twin (delay callback : Value) (withHandle : Bool) :
    Attempt.Twin (startTimer delay callback withHandle) (startTimer delay callback withHandle) := by
  unfold startTimer
  refine (Attempt.Twin.lift (timerCallback?_twin callback)).bind fun callback => ?_
  cases callback with
  | none => exact .pure _
  | some callback =>
    refine (Attempt.Twin.lift (onTimers_twin _)).bind fun _ => (dueIn_twin delay).bind fun due => ?_
    have added := Attempt.Twin.lift (addTimer_twin { fireAt := due, callback })
    cases withHandle with
    | false => exact added.bind fun _ => .pure _
    | true =>
      refine (Attempt.Twin.lift (onTimers_twin _)).bind fun _ => added.bind fun _ => ?_
      exact .lift newestHandle_twin

theorem startTicker_twin (interval callback iterations : Value) :
    Attempt.Twin (startTicker interval callback iterations)
      (startTicker interval callback iterations) := by
  unfold startTicker
  refine (Attempt.Twin.lift (timerCallback?_twin callback)).bind fun callback => ?_
  cases callback with
  | none => exact .pure _
  | some callback =>
    refine (Attempt.Twin.attempt _).bind fun interval => ?_
    refine (Attempt.Twin.attempt _).bind fun remaining => ?_
    refine (Attempt.Twin.lift (onTimers_twin _)).bind fun _ => (dueIn_twin _).bind fun due => ?_
    exact (Attempt.Twin.lift (addTimer_twin _)).bind fun _ => .lift newestHandle_twin

theorem cancelTimer_twin (id : Int) : Act.Twin Eq (cancelTimer id) (cancelTimer id) := by
  unfold cancelTimer
  refine currentHost_bind_twin fun h errors => ?_
  dsimp only
  split
  · refine (onTimers_twin _).bind fun _ => (record_twin rfl).bind fun _ => ?_
    exact (say_twin ..).bind fun _ => .pure _
  · exact .pure _

theorem clearTimers_twin : Act.Twin Eq clearTimers clearTimers := by
  unfold clearTimers
  refine currentHost_bind_twin fun h errors => ?_
  refine (Act.Twin.forM (fun _ => record_twin rfl) _).bind fun _ => ?_
  exact (record_twin rfl).bind fun _ => onTimers_twin _

theorem timerHandle_twin (id : Int) : Attempt.Twin (timerHandle id) (timerHandle id) := by
  unfold timerHandle
  refine lift_currentHost_bind_twin fun h errors => ?_
  dsimp only
  split
  · exact .pure _
  · exact .throw _

/-! ## Names, configuration and log -/

theorem named_twin (c : NameCommand) : Act.Twin Eq (named c) (named c) := by
  cases c <;> exact .pure _

theorem performTemplate_twin (c : TemplateCommand) :
    Attempt.Twin (performTemplate c) (performTemplate c) := by
  cases c with
  | register name data =>
    exact (Attempt.Twin.lift (registerTemplate_twin _ _)).bind fun _ => .pure _
  | load filename =>
    dsimp only [performTemplate]
    split
    · exact (loadTemplates_twin _).bind fun _ => .pure _
    · exact .throw _
  | info name =>
    refine (templateInfo_twin name).bind fun info => ?_
    cases info with
    | none | some info => exact .pure _
  | contains | names => exact lift_currentHost_bind_twin fun _ _ => .pure _

theorem rebuildIndex_twin : Act.Twin Eq rebuildIndex rebuildIndex := by
  have said (s : Session) := sayNotes_twin "ConfigManager" [s.store.rebuild.2]
  refine ⟨fun s => (said s).grows { s with store := s.store.rebuild.1 }, fun s s' hs hcalm => ?_⟩
  cases hs with
  | mk hshared hcalls hjournal =>
    exact (said s).follows { s with store := s.store.rebuild.1 } _ (.mk hshared hcalls hjournal) hcalm

theorem performConfig_twin (c : ConfigCommand) :
    Attempt.Twin (performConfig c) (performConfig c) := by
  cases c with
  | load filename defaults strict =>
    dsimp only [performConfig]
    split
    · exact (loadConfig_twin _ _ _).bind fun _ => .pure _
    · exact .throw _
  | merge defaults override => exact (Attempt.Twin.attempt _).bind fun _ => .pure _
  | buildIndex => exact (Attempt.Twin.lift rebuildIndex_twin).bind fun _ => .pure _
  | search | write | remove =>
    refine Attempt.Twin.bind (.modify (fun _ => List.suffix_refl _) fun s _ hs => ?_) fun _ => .pure _
    cases hs with
    | mk hshared hcalls hjournal => exact .mk hshared hcalls hjournal

theorem performLog_twin (c : LogCommand) : Attempt.Twin (performLog c) (performLog c) := by
  cases c with
  | apply config => exact (configureLog_twin _).bind fun _ => .pure _
  | settings | admits =>
    refine .get_bind fun s s' hs => ?_
    cases hs with
    | mk => exact .pure _
  | say tag message category => exact (Attempt.Twin.lift (say_twin ..)).bind fun _ => .pure _
  | heading title =>
    exact (Attempt.Twin.lift (onLog_twin fun log lines => log.heading_lines lines _)).bind
      fun _ => .pure _
  | entry name status =>
    exact (Attempt.Twin.lift (onLog_twin fun log lines => log.entry_lines lines _ _)).bind
      fun _ => .pure _
  | detail text depth =>
    exact (Attempt.Twin.lift (onLog_twin fun log lines => log.detail_lines lines _ _)).bind
      fun _ => .pure _

/-! ## Commands that run callbacks -/

theorem throughHandle_twin (id : Option FrameId) {act act' : FrameId → Attempt Reply}
    (hact : ∀ id, Attempt.Twin (act id) (act' id)) :
    Attempt.Twin (throughHandle id act) (throughHandle id act') := by
  unfold throughHandle
  refine (Attempt.Twin.lift registry_twin).bind fun r => ?_
  split
  · exact hact _
  · exact .pure _

variable (hcall : ∀ callback args, Act.Twin Milder (call callback args) (call' callback args))

include hcall

theorem performFrame_twin (c : FrameCommand) :
    Attempt.Twin (performFrame call c) (performFrame call' c) := by
  cases c with
  | create type name parent template scripts =>
    refine (Attempt.Twin.lift registry_twin).bind fun r => ?_
    exact (create_twin hcall _ _ _ _ _).bind fun _ => .pure _
  | createHandle type name parent template scripts =>
    refine (Attempt.Twin.lift registry_twin).bind fun r => ?_
    refine (create_twin hcall _ _ _ _ _).bind fun _ => ?_
    exact lift_currentHost_bind_twin fun _ _ => .pure _
  | act id a => exact frameAction_twin hcall id a
  | slot id a => exact .lift (slotAction_twin id a)
  | throughHandle id a => exact throughHandle_twin id fun id => handleAction_twin hcall id a
  | slotThroughHandle id a => exact throughHandle_twin id fun id => .lift (slotAction_twin _ a)
  | handleOf | handleNamed | sameHandle | showHandle =>
    exact lift_currentHost_bind_twin fun _ _ => .pure _
  | describe => exact (Attempt.Twin.lift registry_twin).bind fun _ => .pure _
  | rectOf | screen | frameAt =>
    refine lift_currentHost_bind_twin fun _ _ => ?_
    exact (Attempt.Twin.attempt _).bind fun _ => .pure _
  | pointOn point x y width height =>
    dsimp only [performFrame]
    split
    · exact .throw _
    · refine (Attempt.Twin.attempt _).bind fun _ => (Attempt.Twin.attempt _).bind fun _ => ?_
      refine (Attempt.Twin.attempt _).bind fun _ => (Attempt.Twin.attempt _).bind fun _ => ?_
      exact .pure _

theorem performScript_twin (c : ScriptCommand) (hc : (Command.script c).tellsErrors = false) :
    Attempt.Twin (performScript call c) (performScript call' c) := by
  cases c with
  | clear id =>
    refine (Attempt.Twin.lift (onScripts_twin _)).bind fun _ => ?_
    exact (Attempt.Twin.lift (record_twin rfl)).bind fun _ => .pure _
  | framesWith handler =>
    refine lift_currentHost_bind_twin fun h errors => ?_
    dsimp only
    split
    · exact (Attempt.Twin.attempt _).bind fun _ => .pure _
    · exact .pure _
  | hooksOf => exact lift_currentHost_bind_twin fun _ _ => .pure _
  | run id handler args =>
    dsimp only [performScript]
    split
    · exact (Attempt.Twin.lift (runSlot_twin hcall _ _)).bind fun _ => .pure _
    · exact .pure _
  | runHooks id handler args =>
    dsimp only [performScript]
    split
    · exact (Attempt.Twin.lift (runSlotHooks_twin hcall _ _)).bind fun _ => .pure _
    · exact .pure _
  | invoke | errorCount => cases hc
  | reportError message category =>
    refine lift_currentHost_bind_twin fun h errors => ?_
    refine (Attempt.Twin.lift (record_twin rfl)).bind fun _ => ?_
    exact (Attempt.Twin.lift (reportError_twin hcall _ _)).bind fun _ => .pure _
  | setErrorHandler handler =>
    refine Attempt.Twin.bind (.lift (onHost_twin fun _ errors => ⟨errors, rfl⟩)) fun _ => .pure _

theorem performEvent_twin (c : EventCommand) :
    Act.Twin Eq (performEvent call c) (performEvent call' c) := by
  cases c with
  | fire event args => exact (fire_twin hcall _ _).bind fun _ => .pure _
  | enqueue event args => exact (enqueue_twin _ _).bind fun _ => .pure _
  | flush => exact (flush_twin hcall).bind fun _ => .pure _
  | pending => exact currentHost_bind_twin fun _ _ => .pure _
  | clearQueue => exact clearQueue_twin.bind fun _ => .pure _

theorem tickAt_twin (now : Value) : Attempt.Twin (tickAt call now) (tickAt call' now) := by
  unfold tickAt
  refine lift_currentHost_bind_twin fun h errors => ?_
  dsimp only
  split
  · exact .lift (tick_twin hcall _)
  · split
    · exact .pure _
    · exact (Attempt.Twin.attempt _).bind fun _ => .lift (tick_twin hcall _)

theorem performTimer_twin (c : TimerCommand) :
    Attempt.Twin (performTimer call c) (performTimer call' c) := by
  cases c with
  | after | start => exact startTimer_twin _ _ _
  | startTicker => exact startTicker_twin _ _ _
  | tick now => exact (tickAt_twin hcall _).bind fun _ => .pure _
  | hasPending | countPending | nextFire | now => exact lift_currentHost_bind_twin fun _ _ => .pure _
  | clear => exact (Attempt.Twin.lift clearTimers_twin).bind fun _ => .pure _
  | cancel id => exact (Attempt.Twin.lift (cancelTimer_twin _)).bind fun _ => .pure _
  | cancelHandle id =>
    refine (timerHandle_twin id).bind fun _ => (Attempt.Twin.lift (onTimers_twin _)).bind fun _ => ?_
    refine (Attempt.Twin.lift (record_twin rfl)).bind fun _ => ?_
    exact (Attempt.Twin.lift (cancelTimer_twin _)).bind fun _ => .pure _
  | isCancelled | showHandle => exact (timerHandle_twin _).bind fun _ => .pure _
  | advance seconds =>
    refine (Attempt.Twin.attempt _).bind fun seconds => ?_
    refine (Attempt.Twin.lift (onHost_twin fun _ errors => ⟨errors, rfl⟩)).bind fun _ => ?_
    exact lift_currentHost_bind_twin fun _ _ => .pure _
  | setClock now =>
    refine (Attempt.Twin.attempt _).bind fun now => ?_
    exact (Attempt.Twin.lift (onHost_twin fun _ errors => ⟨errors, rfl⟩)).bind fun _ => .pure _

theorem performHost_twin (c : HostCommand) :
    Attempt.Twin (performHost call c) (performHost call' c) := by
  cases c with
  | update elapsed => exact (update_twin hcall _).bind fun _ => .pure _
  | step elapsed => exact (step_twin hcall _).bind fun _ => .pure _
  | click x y button => exact (click_twin hcall _ _ _).bind fun _ => .pure _
  | root | config => exact lift_currentHost_bind_twin fun _ _ => .pure _
  | isShared => exact isShared_twin.bind fun _ => .pure _
  | forgetShared => exact (Attempt.Twin.lift forgetShared_twin).bind fun _ => .pure _
  | useShared =>
    exact useShared_twin.bind fun _ => lift_currentHost_bind_twin fun _ _ => .pure _

/-! ## Every command -/

theorem performMeant_twin (c : Command) (hc : c.tellsErrors = false) :
    Attempt.Twin (performMeant call c) (performMeant call' c) := by
  cases c with
  | name c => exact .lift (named_twin c)
  | frame c => exact performFrame_twin hcall c
  | registry c => exact performRegistry_twin c
  | script c => exact performScript_twin hcall c hc
  | event c => exact .lift (performEvent_twin hcall c)
  | timer c => exact performTimer_twin hcall c
  | host c => exact performHost_twin hcall c
  | template c => exact performTemplate_twin c
  | config c => exact performConfig_twin c
  | log c => exact performLog_twin c

/-- A command that tells of errors does the same, whatever it answers. -/
theorem performMeant_tells (c : Command) (hc : c.tellsErrors = true) :
    Act.Twin (fun _ _ => True) (performMeant call c).run (performMeant call' c).run := by
  have told (reply reply' : Reply) : Act.Twin (fun _ _ => True)
      (pure (.ok reply) : Act (Except Fault Reply)) (pure (.ok reply')) := .answer trivial
  unfold Command.tellsErrors at hc
  split at hc
  · exact (invokeValue_twin hcall _ _ _ _).bindBy (fun _ => id) fun _ _ _ => told _ _
  · let count (h : Host) : Act (Except Fault Reply) := pure (.ok (counted h.errors))
    have asked : Act.Twin (fun _ _ => True) (currentHost >>= count) (currentHost >>= count) :=
      currentHost_bind_twin fun _ _ => told _ _
    exact asked
  · cases hc

/-- **Carrying a command out answers the same**, unless it tells of errors. -/
theorem perform_twin (c : Command) : Act.Twin (fun r r' => c.quiet r' = c.quiet r)
    (perform call c).run (perform call' c).run := by
  change Act.Twin _ (registry >>= fun r => (performMeant call (c.meant r)).run)
    (registry >>= fun r => (performMeant call' (c.meant r)).run)
  refine registry_twin.bind fun r => ?_
  have hmeant := c.tellsErrors_meant r
  unfold Command.quiet
  cases hc : c.tellsErrors with
  | false =>
    exact (performMeant_twin hcall _ (hmeant.trans hc)).run.mono fun a a' ha => by rw [ha]
  | true => exact (performMeant_tells hcall _ (hmeant.trans hc)).mono fun _ _ _ => rfl

omit hcall in
theorem takeCalls_twin :
    Act.Twin (fun cs cs' => Call.bareAll cs' = Call.bareAll cs) takeCalls takeCalls where
  grows _ := List.suffix_refl _
  follows _ _ hs _ := by
    cases hs with
    | mk hshared hcalls hjournal => exact ⟨hcalls, .mk hshared rfl hjournal⟩

/-- **A command is answered the same**, and so are the commands of the callbacks that it runs. -/
theorem answer_twin (c : Command) :
    Act.Twin (fun a a' => a'.hush c = a.hush c) (answer call c) (answer call' c) := by
  unfold answer
  refine takeCalls_twin.bindBy (fun _ => rfl) fun before before' hbefore => ?_
  refine (perform_twin hcall c).bindBy (fun _ => rfl) fun outcome outcome' houtcome => ?_
  refine takeCalls_twin.bindBy (fun _ => rfl) fun calls calls' hcalls => ?_
  have restored : Act.Twin Eq
      (modify fun s => { s with calls := before } : Act Unit)
      (modify fun s => { s with calls := before' }) := by
    refine .modify (fun _ => List.suffix_refl _) fun s _ hs => ?_
    cases hs with
    | mk hshared _ hjournal => exact .mk hshared hbefore hjournal
  refine restored.bind fun _ => currentHost_bind_twin fun h errors => ?_
  have noted : Moment.hush (.answered c outcome' { h with errors }) =
      Moment.hush (.answered c outcome h) := congrArg (Moment.answered c · h.hush) houtcome
  refine (record_twin noted).bind fun _ => ?_
  exact .answer (congrArg₂ Answer.mk houtcome hcalls)

end Session

end FrameHost
