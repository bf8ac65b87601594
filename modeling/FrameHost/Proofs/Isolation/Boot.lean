import FrameHost.Proofs.Isolation.Action
import FrameHost.Boot

/-!
# Building hosts and errors

A host is built without a look at the errors of the present one, or at what the log says.

* `loadConfig_twin`, `configureLog_twin`: files and settings.
* `build_twin`: building a host.
* `isShared_twin`, `useShared_twin`: the host that callers share.
-/

namespace FrameHost

/-! ## The log -/

namespace Log

variable (log : Log) (lines : Array String)

/-- A text is written, if the log is on, without a look at what was written before. -/
theorem write_lines (text code : String) :
    ∃ lines', (if log.enabled then write { log with lines } text code else { log with lines }) =
      { (if log.enabled then log.write text code else log) with lines := lines' } := by
  by_cases h : log.enabled = true
  · rw [if_pos h, if_pos h]
    exact ⟨_, rfl⟩
  · rw [if_neg h, if_neg h]
    exact ⟨lines, rfl⟩

theorem heading_lines (title : String) :
    ∃ lines', heading { log with lines } title = { log.heading title with lines := lines' } :=
  log.write_lines lines _ _

theorem entry_lines (name status : String) :
    ∃ lines', entry { log with lines } name status =
      { log.entry name status with lines := lines' } := log.write_lines lines _ _

theorem detail_lines (text : String) (depth : Int) :
    ∃ lines', detail { log with lines } text depth =
      { log.detail text depth with lines := lines' } := log.write_lines lines _ _

/-- The settings are changed without a look at what was written. -/
theorem apply_lines (config : Value) :
    apply { log with lines } config =
      ({ (log.apply config).1 with lines }, (log.apply config).2) := by
  unfold apply
  dsimp only
  split
  · rfl
  · split
    · split <;> rfl
    · rfl

end Log

namespace Session

open Act

/-! ## Configuration and templates -/

theorem store_twin {β : Type} {g : ConfigStore → ConfigStore} {f f' : ConfigStore → Attempt β}
    (hf : ∀ store, Attempt.Twin (f store) (f' store)) :
    Attempt.Twin
      (do
        let s ← get
        set { s with store := g s.store }
        f s.store)
      (do
        let s ← get
        set { s with store := g s.store }
        f' s.store) := by
  refine ⟨fun s => (hf s.store).run.grows { s with store := g s.store }, fun s s' hs hcalm => ?_⟩
  cases hs with
  | mk hshared hcalls hjournal =>
    exact (hf s.store).run.follows { s with store := g s.store } _ (.mk hshared hcalls hjournal) hcalm

theorem loadConfig_eq (filename : String) (defaults : Value) (strict : Bool) :
    loadConfig filename defaults strict = (do
      let s ← get
      set { s with store := (s.store.load filename defaults strict).2.1 }
      sayNotes "ConfigManager" (s.store.load filename defaults strict).2.2
      attempt (s.store.load filename defaults strict).1) := by
  unfold loadConfig
  refine congrArg ((get : Attempt Session) >>= ·) (funext fun s => ?_)
  rcases s.store.load filename defaults strict with ⟨result, store, notes⟩
  rfl

theorem loadConfig_twin (filename : String) (defaults : Value) (strict : Bool) :
    Attempt.Twin (loadConfig filename defaults strict) (loadConfig filename defaults strict) := by
  let settle (store : ConfigStore) : Attempt Value := do
    sayNotes "ConfigManager" (store.load filename defaults strict).2.2
    attempt (store.load filename defaults strict).1
  have loaded (store : ConfigStore) : Attempt.Twin (settle store) (settle store) :=
    (Attempt.Twin.lift (sayNotes_twin _ _)).bind fun _ => .attempt _
  have stored := store_twin (g := fun store => (store.load filename defaults strict).2.1) loaded
  rw [loadConfig_eq]
  exact stored

theorem loadTemplates_twin (filename : String) :
    Attempt.Twin (loadTemplates filename) (loadTemplates filename) := by
  unfold loadTemplates
  refine (loadConfig_twin _ _ _).bind fun config => ?_
  refine lift_currentHost_bind_twin fun h errors => ?_
  refine (Attempt.Twin.lift (onHost_twin fun _ errors => ⟨errors, rfl⟩)).bind fun _ => ?_
  exact (Attempt.Twin.lift (sayNotes_twin _ _)).bind fun _ => .pure _

theorem registerTemplate_twin (name data : Value) :
    Act.Twin Eq (registerTemplate name data) (registerTemplate name data) := by
  unfold registerTemplate
  refine currentHost_bind_twin fun h errors => ?_
  have hlabel : Host.label { h with errors } = h.label := rfl
  dsimp only
  rw [hlabel]
  refine (sayNotes_twin _ _).bind fun _ => ?_
  split
  · exact (onHost_twin fun _ errors => ⟨errors, rfl⟩).bind fun _ => .pure _
  · exact .pure _

theorem loadConfigured_twin (filename : Value) :
    Attempt.Twin (loadConfigured filename) (loadConfigured filename) := by
  unfold loadConfigured
  split
  · split
    · exact (loadTemplates_twin _).bind fun _ => .pure _
    · exact .pure _
  · split
    · exact .throw _
    · exact .pure _

theorem configureLog_twin (config : Value) :
    Attempt.Twin (configureLog config) (configureLog config) := by
  unfold configureLog
  refine .get_bind fun s s' hs => ?_
  cases hs with
  | @mk _ _ lines =>
    dsimp only
    rw [Log.apply_lines s.log lines config]
    exact (Attempt.Twin.lift (onLog_twin fun _ _ => ⟨_, rfl⟩)).bind fun _ => raise?_twin _

/-! ## Building -/

theorem noCallbacks_twin (callback : String) (args : List Value) :
    Act.Twin Milder (noCallbacks callback args) (noCallbacks callback args) := .answer (.inl rfl)

theorem createRoot_twin : Attempt.Twin createRoot createRoot := by
  unfold createRoot
  refine (create_twin noCallbacks_twin _ _ _ _ _).bind fun root => ?_
  refine (Attempt.Twin.lift (onHost_twin fun _ errors => ⟨errors, rfl⟩)).bind fun _ => ?_
  refine lift_currentHost_bind_twin fun h errors => ?_
  let tell : Attempt Unit := onLog fun log => log.detail (rootName ++ " id=" ++ showId root) 1
  have said : Attempt.Twin tell tell :=
    .lift (onLog_twin fun log lines => log.detail_lines lines _ _)
  cases root with
  | none => exact said
  | some id => exact (frameAction_twin noCallbacks_twin _ _).bind fun _ => said

theorem takeTemplates_twin (source : TemplateSource) :
    Attempt.Twin (takeTemplates source) (takeTemplates source) := by
  unfold takeTemplates
  split
  · exact .forM (fun _ => (Attempt.Twin.lift (registerTemplate_twin _ _)).bind fun _ => .pure _) _
  · exact .pure _

theorem readConfig_twin (config : Option Value) :
    Attempt.Twin (readConfig config) (readConfig config) := by
  unfold readConfig
  split
  · exact .attempt _
  · exact loadConfig_twin _ _ _

theorem loadNamed_twin (config : Entries) (source : TemplateSource) :
    Attempt.Twin (loadNamed config source) (loadNamed config source) := by
  unfold loadNamed
  split
  · exact loadConfigured_twin _
  · exact .pure _

theorem createWanted_twin (config : Entries) :
    Attempt.Twin (createWanted config) (createWanted config) := by
  unfold createWanted
  split
  · exact createRoot_twin
  · exact .pure _

theorem arrange_twin (source : TemplateSource) (config : Entries) :
    Attempt.Twin (arrange source config) (arrange source config) := by
  let enter (name : String) : Attempt Unit := onLog fun log => log.entry name "OK"
  have entered (name : String) : Attempt.Twin (enter name) (enter name) :=
    .lift (onLog_twin fun log lines => log.entry_lines lines name "OK")
  unfold arrange
  refine (Attempt.Twin.lift (onHost_twin fun _ errors => ⟨errors, rfl⟩)).bind fun _ => ?_
  refine (configureLog_twin _).bind fun _ => ?_
  refine (Attempt.Twin.lift (onLog_twin fun log lines => log.heading_lines lines _)).bind fun _ => ?_
  refine (entered "EventDispatcher").bind fun _ => (entered "TimerScheduler").bind fun _ => ?_
  refine (Attempt.Twin.attempt _).bind fun layout => ?_
  refine (Attempt.Twin.lift (onHost_twin fun _ errors => ⟨errors, rfl⟩)).bind fun _ => ?_
  refine (loadNamed_twin _ _).bind fun _ => (entered "FrameManager").bind fun _ => ?_
  exact createWanted_twin config

theorem furnish_twin (plan : Plan) : Attempt.Twin (furnish plan) (furnish plan) := by
  unfold furnish
  exact (takeTemplates_twin _).bind fun _ => (readConfig_twin _).bind fun _ => arrange_twin _ _

theorem construct_twin (plan : Plan) : Attempt.Twin (construct plan) (construct plan) := by
  let restart (now : Float) : Attempt Unit := do
    onHost fun _ => { clock := { now, manual := plan.clock.isSome } }
    furnish plan
  have furnished (now : Float) : Attempt.Twin (restart now) (restart now) :=
    (Attempt.Twin.lift (onHost_twin fun _ _ => ⟨0, rfl⟩)).bind fun _ => furnish_twin plan
  unfold construct
  dsimp only
  split
  · exact (Attempt.Twin.attempt _).bind furnished
  · exact (Attempt.Twin.pure _).bind furnished

/-- **A host is built in the same way, whatever errors the present one has had.** -/
theorem build_twin (plan : Plan) : Attempt.Twin (build plan) (build plan) := by
  unfold build
  refine lift_currentHost_bind_twin fun h errors => ?_
  refine (construct_twin plan).tryCatch fun fault => ?_
  exact (Attempt.Twin.lift (onHost_twin fun _ _ => ⟨errors, rfl⟩)).bind fun _ => .throw _

/-! ## The shared host -/

theorem isShared_twin : Attempt.Twin isShared isShared := by
  let ask : Attempt Bool := do
    let before ← currentHost
    build .shared
    modify fun s => { s with host := before, shared := .other s.host }
    return false
  have asked : Attempt.Twin ask ask := by
    refine lift_currentHost_bind_twin fun h errors => (build_twin _).bind fun _ => ?_
    refine Attempt.Twin.bind (.modify (fun _ => List.suffix_refl _) fun s _ hs => ?_) fun _ => .pure _
    cases hs with
    | mk hshared hcalls hjournal => exact .mk rfl hcalls hjournal
  unfold isShared
  refine .get_bind fun s s' hs => ?_
  cases hs with
  | @mk _ shared _ _ _ hshared =>
    dsimp only
    generalize s.shared = before at hshared
    rcases Shared.eq_of_hush hshared with rfl | ⟨host, errors, rfl, rfl⟩
    · cases shared with
      | none => exact asked
      | current | other => exact .pure _
    · exact .pure _

theorem forgetShared_twin : Act.Twin Eq forgetShared forgetShared := by
  refine .modify (fun _ => List.suffix_refl _) fun s _ hs => ?_
  cases hs with
  | mk hshared hcalls hjournal => exact .mk rfl hcalls hjournal

theorem useShared_twin : Attempt.Twin useShared useShared := by
  have shared (host : Host) (errors : Nat) : Attempt.Twin
      (modify fun s => { s with host, shared := .current })
      (modify fun s => { s with host := { host with errors }, shared := .current }) := by
    refine .modify (fun _ => List.suffix_refl _) fun s _ hs => ?_
    cases hs with
    | mk hshared hcalls hjournal => exact .mk rfl hcalls hjournal
  let share : Attempt Unit := do
    build .shared
    modify fun s => { s with shared := .current }
  have built : Attempt.Twin share share := by
    refine (build_twin _).bind fun _ => ?_
    refine .modify (fun _ => List.suffix_refl _) fun s _ hs => ?_
    cases hs with
    | mk hshared hcalls hjournal => exact .mk rfl hcalls hjournal
  unfold useShared
  refine .get_bind fun s s' hs => ?_
  cases hs with
  | @mk _ shared _ _ _ hshared =>
    dsimp only
    generalize s.shared = before at hshared
    rcases Shared.eq_of_hush hshared with rfl | ⟨host, errors, rfl, rfl⟩
    · cases shared with
      | none => exact built
      | current => exact .pure _
      | other host => exact shared host host.errors
    · exact shared host errors

end Session

end FrameHost
