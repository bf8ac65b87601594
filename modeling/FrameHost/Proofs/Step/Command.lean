import FrameHost.Proofs.Step.Boot
import FrameHost.Proofs.Timers.Acts

/-!
# Commands go by steps

Every command goes by steps if the callbacks do. A command that writes past the order of the frames
goes by raw steps; one that turns to the host that callers share leaves the host of the session, and is
left out here.

* `Command.fits`: the commands that a run is made of.
* `Command.within`: those that callbacks may give.
* `answer_moves`: carrying out a command.
-/

namespace FrameHost

/-- Whether a command stays with the host of the session; and, unless the run is raw, leaves the links
between frames to it. -/
def Command.fits (raw : Bool) : Command → Bool
  | .host .isShared | .host .useShared => false
  | c => raw || c.isManaged

/-- Whether a command flushes the queue. -/
def Command.flushes : Command → Bool
  | .event .flush | .host (.step _) => true
  | _ => false

/-- Whether a command updates frames. -/
def Command.updates : Command → Bool
  | .host (.update _) | .host (.step _) => true
  | _ => false

/-- Whether callbacks may give a command in a run of a scope. -/
def Command.within (scope : Scope) (c : Command) : Bool :=
  c.fits scope.raw && (scope.flushes || !c.flushes) && (scope.updates || !c.updates)

/-- Where only links are restricted, callbacks may give what a caller may give. -/
theorem Command.within_of_fits {raw : Bool} {c : Command} (h : c.fits raw = true) :
    c.within raw = true := by
  rw [Command.within, h]
  rfl

/-- Whether a command may be given while some tasks are under way: those that callbacks may not give may
only be given while nothing is. -/
structure Command.Free (scope : Scope) (tasks : List Task) (c : Command) : Prop where
  fits : c.fits scope.raw = true
  flush : c.flushes = true → scope.flushes = true ∨ tasks = []
  update : c.updates = true → scope.updates = true ∨ tasks = []

theorem Command.free_of_within {scope : Scope} {c : Command} (h : c.within scope = true)
    (tasks : List Task) : c.Free scope tasks := by
  obtain ⟨h, hupdate⟩ := Bool.and_eq_true_iff.1 h
  obtain ⟨hfits, hflush⟩ := Bool.and_eq_true_iff.1 h
  refine ⟨hfits, fun hc => .inl ?_, fun hc => .inl ?_⟩
  · simpa [hc] using hflush
  · simpa [hc] using hupdate

theorem Command.free_of_fits {scope : Scope} {c : Command} (h : c.fits scope.raw = true) :
    c.Free scope [] := ⟨h, fun _ => .inr rfl, fun _ => .inr rfl⟩

theorem Command.Free.meant {scope : Scope} {tasks : List Task} {c : Command}
    (h : c.Free scope tasks) (r : Registry) : (c.meant r).Free scope tasks := by
  have hfits : (c.meant r).fits scope.raw = c.fits scope.raw := by
    cases c with
    | host c | log c => cases c <;> rfl
    | _ => rfl
  have hflushes : (c.meant r).flushes = c.flushes := by
    cases c with
    | host c | log c | event c => cases c <;> rfl
    | _ => rfl
  have hupdates : (c.meant r).updates = c.updates := by
    cases c with
    | host c | log c | event c => cases c <;> rfl
    | _ => rfl
  exact ⟨hfits.trans h.fits, fun hc => h.flush (hflushes ▸ hc), fun hc => h.update (hupdates ▸ hc)⟩

namespace Session

open Act

variable {scope : Scope} {s : Session} {call : Caller}

/-! ## The registry -/

/-- A frame is taken in and noted, all in one step. -/
theorem register_goes (hraw : scope.raw = true) (wanted : FrameId) (f : Frame) (s : Session) :
    Attempt.Goes scope (do
      let last := (← get).lastId
      let id ← register wanted f
      record (.enrolled wanted last (← registry))
      return valued (.int id)) s := by
  obtain ⟨id, last, log, hg, -, hafter⟩ := register_after wanted f s
  constructor
  refine .step fun tasks => ?_
  change Step scope _ ((after
    (record (.enrolled wanted s.lastId (after (register wanted f) s).host.registry))
    (after (register wanted f) s)).stage tasks)
  rw [hafter]
  exact .enrolled f hraw hg rfl

theorem registerAgain_goes (hraw : scope.raw = true) (id : FrameId) :
    Attempt.Goes scope (do
      match ← registerAgain id with
      | some id =>
        record (.tuned (← registry))
        return valued (.int id)
      | none => throw .missingPart) s := by
  constructor
  refine ⟨fun tasks => ?_⟩
  rw [after_lift_bind]
  unfold registerAgain
  rw [after_registry_bind, result_registry_bind]
  cases hf : s.host.registry.get? id with
  | none => exact .refl
  | some f =>
    obtain ⟨log, hafter⟩ := enroll_after id f s
    change Steps scope _ ((after (record (.tuned (after (enroll id f) s).host.registry))
      (after (enroll id f) s)).stage tasks)
    rw [hafter]
    exact .single (.enrolledAgain hraw hf rfl)

theorem performRegistry_goes (c : RegistryCommand)
    (h : (Command.registry c).fits scope.raw = true) (s : Session) :
    Attempt.Goes scope (performRegistry c) s := by
  have hraw : (Command.registry c).isManaged = false → scope.raw = true := fun hc => by
    have h : (scope.raw || (Command.registry c).isManaged) = true := h
    rw [hc, Bool.or_false] at h
    exact h
  cases c with
  | register id f =>
    cases id with
    | some id => exact register_goes (hraw rfl) id f s
    | none =>
      refine Attempt.Goes.bind (.lift (.step fun _ => .drew)) fun id _ => ?_
      exact register_goes (hraw rfl) id f _
  | registerAgain id =>
    cases id with
    | none => exact .throw _
    | some id => exact registerAgain_goes (hraw rfl) id
  | addChild parent child =>
    have linked (p c : FrameId) (s : Session) : Goes scope (onRegistry fun r => r.addChild p c) s :=
      .step fun _ => .rewritten (hraw rfl) (.childAdded p c)
    cases parent with
    | none => exact .pure _
    | some p =>
      cases child with
      | none => exact (Attempt.Goes.lift (touch_goes p s)).then fun _ _ => .pure _
      | some c => exact (Attempt.Goes.lift (linked p c s)).then fun _ _ => .pure _
  | removeChild parent child =>
    have unlinked (p c : FrameId) (s : Session) :
        Goes scope (onRegistry fun r => r.removeChild p c) s :=
      .step fun _ => .rewritten (hraw rfl) (.childRemoved p c)
    cases parent with
    | none => exact .pure _
    | some p =>
      cases child with
      | none => exact (Attempt.Goes.lift (touch_goes p s)).then fun _ _ => .pure _
      | some c => exact (Attempt.Goes.lift (unlinked p c s)).then fun _ _ => .pure _
  | get | getNamed | idNamed | ids | size | contains | isAncestor | depth | isVisible
  | descendants | listeners | anchorTargets | wouldLoop =>
    exact (Attempt.Goes.lift registry_goes).then fun _ _ => .pure _
  | getMutable id =>
    cases id with
    | none => exact (Attempt.Goes.lift registry_goes).then fun _ _ => .pure _
    | some id =>
      refine (Attempt.Goes.lift (touch_goes id s)).then fun _ _ => ?_
      exact (Attempt.Goes.lift registry_goes).then fun _ _ => .pure _
  | registerEvent id event =>
    refine (Attempt.Goes.lift registry_goes).bind fun r hr => ?_
    cases hr
    refine Attempt.Goes.bind (.lift (retune_goes ?_)) fun _ _ => .pure _
    cases id with
    | none => exact .absent
    | some id => exact .listening id event
  | markDirty => exact Attempt.Goes.bind (.lift (onRegistry_goes .dirtied)) fun _ _ => .pure _
  | takeDirty =>
    refine Attempt.Goes.bind (.lift registry_goes) fun r hr => ?_
    cases hr
    constructor
    exact Goes.step fun _ => .painted

/-! ## Timers -/

theorem timerCallback?_goes (callback : Value) : Goes scope (timerCallback? callback) s := by
  unfold timerCallback?
  split
  · exact .pure _
  · exact currentHost_bind_goes ((say_goes _ _ _ _).then fun _ _ => .pure _)

theorem startTimer_goes (delay callback : Value) (withHandle : Bool) (s : Session) :
    Attempt.Goes scope (startTimer delay callback withHandle) s := by
  unfold startTimer
  refine (Attempt.Goes.lift (timerCallback?_goes callback)).then fun callback s => ?_
  cases callback with
  | none => exact .pure _
  | some callback =>
    unfold dueIn
    cases delay.toFloat with
    | error e =>
      constructor
      exact .step fun _ => .numberDrawn
    | ok x =>
      constructor
      cases withHandle with
      | false => exact .step fun _ => .started _ false rfl
      | true => exact .step fun _ => .started _ true rfl

theorem startTicker_goes (interval callback iterations : Value) (s : Session) :
    Attempt.Goes scope (startTicker interval callback iterations) s := by
  unfold startTicker
  refine (Attempt.Goes.lift (timerCallback?_goes callback)).then fun callback s => ?_
  cases callback with
  | none => exact .pure _
  | some callback =>
    refine (Attempt.Goes.attempt _).then fun interval s => ?_
    refine (Attempt.Goes.attempt _).then fun remaining s => ?_
    constructor
    exact .step fun tasks => .started
      { fireAt := s.host.clock.now + Timers.delay (Timers.delay interval), callback
        interval := some (Timers.delay interval), remaining } true rfl

theorem cancelTimer_goes (id : Int) (s : Session) : Goes scope (cancelTimer id) s := by
  unfold cancelTimer
  refine currentHost_bind_goes ?_
  dsimp only
  split
  · rename_i h
    simp only [Bool.and_eq_true] at h
    exact .step fun _ => .cancelled h.2
  · exact .pure _

theorem clearTimers_goes (s : Session) : Goes scope clearTimers s := by
  refine .step fun tasks => ?_
  rw [after_clearTimers]
  exact .timersCleared

theorem timerHandle_goes (id : Int) (s : Session) : Attempt.Goes scope (timerHandle id) s :=
  ⟨.still fun _ => by rw [after_timerHandle]⟩

/-- The handle that is answered is one that is kept. -/
theorem timerHandle_ok {id : Int} {handle : TimerHandle} {s : Session}
    (h : result (timerHandle id).run s = .ok handle) :
    0 ≤ id ∧ s.host.timers.handles.get? id.toNat = some handle := by
  rw [timerHandle, result_lift_bind] at h
  dsimp only at h
  split at h
  · rename_i handle' heq
    cases h
    split at heq
    · exact ⟨‹0 ≤ id›, heq⟩
    · cases heq
  · cases h

theorem cancelHandle_goes (id : Int) (s : Session) :
    Attempt.Goes scope (do
      let _ ← timerHandle id
      onTimers fun t => t.cancelHandle id.toNat
      record (.handleCancelled id.toNat)
      let _ ← cancelTimer id
      return nothing) s := by
  refine (timerHandle_goes id s).bind fun handle hh => ?_
  have kept : (s.host.timers.handles.get? id.toNat).isSome = true := by
    rw [(timerHandle_ok hh).2]
    rfl
  have flagged : Goes scope (do
      onTimers fun t => t.cancelHandle id.toNat
      record (.handleCancelled id.toNat)) s := .step fun _ => .handleCancelled kept
  rw [after_timerHandle]
  exact .liftBoth flagged fun _ s => (Attempt.Goes.lift (cancelTimer_goes id s)).then fun _ _ => .pure _

/-! ## Names, configuration and log -/

theorem named_goes (c : NameCommand) (s : Session) : Goes scope (named c) s := by
  cases c <;> exact .pure _

theorem performTemplate_goes (c : TemplateCommand) (s : Session) :
    Attempt.Goes scope (performTemplate c) s := by
  cases c with
  | register name data =>
    exact (Attempt.Goes.lift (registerTemplate_goes _ _ _)).then fun _ _ => .pure _
  | load filename =>
    dsimp only [performTemplate]
    split
    · exact (loadTemplates_goes _ _).then fun _ _ => .pure _
    · exact .throw _
  | info name =>
    refine (templateInfo_yields name s).goes.then fun info s => ?_
    cases info with
    | none | some info => exact .pure _
  | contains | names => exact (Attempt.Goes.lift currentHost_goes).then fun _ _ => .pure _

theorem performConfig_goes (c : ConfigCommand) (s : Session) :
    Attempt.Goes scope (performConfig c) s := by
  cases c with
  | load filename defaults strict =>
    dsimp only [performConfig]
    split
    · exact (loadConfig_goes _ _ _ _).then fun _ _ => .pure _
    · exact .throw _
  | merge defaults override => exact (Attempt.Goes.attempt _).then fun _ _ => .pure _
  | buildIndex => exact Attempt.Goes.bind (.lift ⟨fun _ => .refl⟩) fun _ _ => .pure _
  | search | write | remove => exact Attempt.Goes.bind (.lift ⟨fun _ => .refl⟩) fun _ _ => .pure _

theorem performLog_goes (c : LogCommand) (s : Session) : Attempt.Goes scope (performLog c) s := by
  cases c with
  | apply config => exact (configureLog_goes _ _).then fun _ _ => .pure _
  | settings | admits => exact Attempt.Goes.bind (.lift ⟨fun _ => .refl⟩) fun _ _ => .pure _
  | say tag message category =>
    exact (Attempt.Goes.lift (say_goes _ _ _ _)).then fun _ _ => .pure _
  | heading | entry | detail => exact (Attempt.Goes.lift (onLog_goes _)).then fun _ _ => .pure _

/-! ## Commands that run callbacks -/

theorem throughHandle_goes (id : Option FrameId) {act : FrameId → Attempt Reply}
    (hact : ∀ id s, Attempt.Goes scope (act id) s) (s : Session) :
    Attempt.Goes scope (throughHandle id act) s := by
  unfold throughHandle
  refine (Attempt.Goes.lift registry_goes).then fun r s => ?_
  split
  · exact hact _ _
  · exact .pure _

variable (hcall : ∀ callback args s, Goes scope (call callback args) s)

include hcall

theorem performFrame_goes (c : FrameCommand) (s : Session) :
    Attempt.Goes scope (performFrame call c) s := by
  cases c with
  | create type name parent template scripts =>
    refine (Attempt.Goes.lift registry_goes).then fun r s => ?_
    exact (create_goes hcall _ _ _ _ _ _).then fun _ _ => .pure _
  | createHandle type name parent template scripts =>
    refine (Attempt.Goes.lift registry_goes).then fun r s => ?_
    refine (create_goes hcall _ _ _ _ _ _).then fun _ _ => ?_
    exact (Attempt.Goes.lift currentHost_goes).then fun _ _ => .pure _
  | act id a => exact frameAction_goes hcall id a s
  | slot id a => exact .lift (slotAction_goes id a s)
  | throughHandle id a =>
    exact throughHandle_goes id (fun id s => handleAction_goes hcall id a s) s
  | slotThroughHandle id a =>
    exact throughHandle_goes id (fun id s => .lift (slotAction_goes (some id) a s)) s
  | handleOf | handleNamed | sameHandle | showHandle =>
    exact (Attempt.Goes.lift currentHost_goes).then fun _ _ => .pure _
  | describe => exact (Attempt.Goes.lift registry_goes).then fun _ _ => .pure _
  | rectOf | screen | frameAt =>
    refine (Attempt.Goes.lift currentHost_goes).then fun _ _ => ?_
    exact (Attempt.Goes.attempt _).then fun _ _ => .pure _
  | pointOn point x y width height =>
    dsimp only [performFrame]
    split
    · exact .throw _
    · refine (Attempt.Goes.attempt _).then fun _ _ => ?_
      refine (Attempt.Goes.attempt _).then fun _ _ => ?_
      refine (Attempt.Goes.attempt _).then fun _ _ => ?_
      exact (Attempt.Goes.attempt _).then fun _ _ => .pure _

theorem performScript_goes (c : ScriptCommand) (s : Session) :
    Attempt.Goes scope (performScript call c) s := by
  cases c with
  | clear id =>
    exact ⟨.step fun _ => .scriptsCleared id⟩
  | framesWith handler =>
    refine (Attempt.Goes.lift currentHost_goes).then fun _ _ => ?_
    dsimp only
    split
    · exact (Attempt.Goes.attempt _).then fun _ _ => .pure _
    · exact .pure _
  | hooksOf | errorCount => exact (Attempt.Goes.lift currentHost_goes).then fun _ _ => .pure _
  | run id handler args =>
    dsimp only [performScript]
    split
    · exact (Attempt.Goes.lift (runSlot_goes hcall _ _ _)).then fun _ _ => .pure _
    · exact .pure _
  | runHooks id handler args =>
    dsimp only [performScript]
    split
    · exact (Attempt.Goes.lift (runSlotHooks_goes hcall _ _ _)).then fun _ _ => .pure _
    · exact .pure _
  | invoke callback args source category =>
    exact (Attempt.Goes.lift (invokeValue_goes hcall _ _ _ _ _)).then fun _ _ => .pure _
  | reportError message category =>
    have hm : Moment.error? (.reported message s.host.onError) = some (message, s.host.onError) := rfl
    exact lift_currentHost_bind_goes (.liftBoth (complain_goes hcall hm category) fun _ _ => .pure _)
  | setErrorHandler handler =>
    exact Attempt.Goes.bind (.lift (.step fun _ => .heeded handler)) fun _ _ => .pure _

theorem performEvent_moves (c : EventCommand) (s : Session) {tasks : List Task}
    (h : (Command.event c).Free scope tasks) : Moves scope (performEvent call c) s tasks tasks := by
  cases c with
  | fire event args => exact ((fire_goes hcall _ _ _).then fun _ _ => .pure _).moves _
  | enqueue event args => exact ((enqueue_goes _ _ _).then fun _ _ => .pure _).moves _
  | flush => exact (flush_moves hcall _ (h.flush rfl)).bind .refl
  | pending => exact (currentHost_bind_goes (.pure _)).moves _
  | clearQueue => exact ((clearQueue_goes _).then fun _ _ => .pure _).moves _

theorem tickAt_goes (now : Value) (s : Session) : Attempt.Goes scope (tickAt call now) s := by
  unfold tickAt
  refine (Attempt.Goes.lift currentHost_goes).then fun h s => ?_
  split
  · exact .lift (tick_goes hcall _ _)
  · split
    · exact .pure _
    · exact (Attempt.Goes.attempt _).then fun _ _ => .lift (tick_goes hcall _ _)

theorem performTimer_goes (c : TimerCommand) (s : Session) :
    Attempt.Goes scope (performTimer call c) s := by
  cases c with
  | after | start => exact startTimer_goes _ _ _ _
  | startTicker => exact startTicker_goes _ _ _ _
  | tick now => exact (tickAt_goes hcall _ _).then fun _ _ => .pure _
  | hasPending | countPending | nextFire | now =>
    exact (Attempt.Goes.lift currentHost_goes).then fun _ _ => .pure _
  | clear => exact (Attempt.Goes.lift (clearTimers_goes _)).then fun _ _ => .pure _
  | cancel id => exact (Attempt.Goes.lift (cancelTimer_goes _ _)).then fun _ _ => .pure _
  | cancelHandle id => exact cancelHandle_goes id s
  | isCancelled | showHandle => exact (timerHandle_goes _ _).then fun _ _ => .pure _
  | advance seconds =>
    refine (Attempt.Goes.attempt _).then fun seconds s => ?_
    refine Attempt.Goes.bind (.lift (.step fun _ => .advanced seconds)) fun _ _ => ?_
    exact (Attempt.Goes.lift currentHost_goes).then fun _ _ => .pure _
  | setClock now =>
    refine (Attempt.Goes.attempt _).then fun now s => ?_
    exact Attempt.Goes.bind (.lift (.step fun _ => .jumped now)) fun _ _ => .pure _

theorem performHost_moves (c : HostCommand) (s : Session) {tasks : List Task}
    (h : (Command.host c).Free scope tasks) : Moves scope (performHost call c).run s tasks tasks := by
  cases c with
  | update elapsed =>
    exact Attempt.Moves.bind (update_moves hcall _ _ (h.update rfl)) fun _ _ => .refl
  | step elapsed =>
    exact Attempt.Moves.bind (step_moves hcall _ _ (h.flush rfl) (h.update rfl)) fun _ _ => .refl
  | click x y button => exact ((click_goes hcall _ _ _ _).then fun _ _ => .pure _).run.moves _
  | root | config => exact ((Attempt.Goes.lift currentHost_goes).then fun _ _ => .pure _).run.moves _
  | isShared | useShared => cases h.fits
  | forgetShared => exact .refl

/-! ## Every command -/

theorem performMeant_moves (c : Command) (s : Session) {tasks : List Task} (h : c.Free scope tasks) :
    Moves scope (performMeant call c).run s tasks tasks := by
  cases c with
  | name c => exact (named_goes c s).moves _
  | frame c => exact (performFrame_goes hcall c s).run.moves _
  | registry c => exact (performRegistry_goes c h.fits s).run.moves _
  | script c => exact (performScript_goes hcall c s).run.moves _
  | event c => exact performEvent_moves hcall c s h
  | timer c => exact (performTimer_goes hcall c s).run.moves _
  | host c => exact performHost_moves hcall c s h
  | template c => exact (performTemplate_goes c s).run.moves _
  | config c => exact (performConfig_goes c s).run.moves _
  | log c => exact (performLog_goes c s).run.moves _

/-- **Carrying a command out goes by steps**, if callbacks do. -/
theorem answer_moves (c : Command) (s : Session) {tasks : List Task} (h : c.Free scope tasks) :
    Moves scope (answer call c) s tasks tasks := by
  refine Moves.bind (Goes.moves ⟨fun _ => .refl⟩ _) ?_
  refine Moves.bind (performMeant_moves hcall _ _ (h.meant _)) ?_
  exact .step (.answered _ _ ⟨rfl, rfl, rfl, rfl, rfl, rfl, rfl, rfl⟩)

end Session

end FrameHost
