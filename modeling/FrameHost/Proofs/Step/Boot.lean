import FrameHost.Run
import FrameHost.Proofs.Step.Action

/-!
# Building a host goes by steps

What reads configuration, templates and the settings of the log leaves the stage as it is; the root frame
is made and sized like any other. So a host is built by steps from one that has nothing but its clock.

* `furnish_goes`: filling a host.
* `start_steps`: setting a session up.
-/

namespace FrameHost.Session

open Act

variable {scope : Scope} {α β : Type} {s : Session}

/-! ## Configuration and templates -/

theorem loadConfig_goes (filename : String) (defaults : Value) (strict : Bool) (s : Session) :
    Attempt.Goes scope (loadConfig filename defaults strict) s := by
  unfold loadConfig
  refine Attempt.Goes.bind (.lift ⟨fun _ => .refl⟩) fun s' hs' => ?_
  cases hs'
  refine Attempt.Goes.bind (.lift ⟨fun _ => .refl⟩) fun _ _ => ?_
  exact (Attempt.Goes.lift (sayNotes_goes _ _)).then fun _ _ => .attempt _

theorem loadTemplates_goes (filename : String) (s : Session) :
    Attempt.Goes scope (loadTemplates filename) s := by
  unfold loadTemplates
  refine (loadConfig_goes _ _ _ _).then fun config s => ?_
  refine (Attempt.Goes.lift currentHost_goes).then fun h s => ?_
  refine Attempt.Goes.bind (.lift ⟨fun _ => .refl⟩) fun _ _ => ?_
  exact (Attempt.Goes.lift (sayNotes_goes _ _)).then fun _ _ => .pure _

theorem registerTemplate_goes (name data : Value) (s : Session) :
    Goes scope (registerTemplate name data) s := by
  unfold registerTemplate
  refine currentHost_bind_goes ((sayNotes_goes _ _).then fun _ s => ?_)
  split
  · exact Goes.bind ⟨fun _ => .refl⟩ (.pure _)
  · exact .pure _

theorem loadConfigured_goes (filename : Value) (s : Session) :
    Attempt.Goes scope (loadConfigured filename) s := by
  unfold loadConfigured
  split
  · split
    · exact (loadTemplates_goes _ _).then fun _ _ => .pure _
    · exact .pure _
  · split
    · exact .throw _
    · exact .pure _

theorem configureLog_goes (config : Value) (s : Session) :
    Attempt.Goes scope (configureLog config) s := by
  unfold configureLog
  refine Attempt.Goes.bind (.lift ⟨fun _ => .refl⟩) fun _ _ => ?_
  exact Attempt.Goes.bind (.lift (onLog_goes _)) fun _ _ => raise?_goes _ _

/-! ## Building -/

theorem noCallbacks_goes (callback : String) (args : List Value) (s : Session) :
    Goes scope (noCallbacks callback args) s := .pure _

theorem createRoot_goes (s : Session) : Attempt.Goes scope createRoot s := by
  unfold createRoot
  refine (create_goes noCallbacks_goes _ _ _ _ _ _).then fun root s => ?_
  refine Attempt.Goes.bind (.lift ⟨fun _ => .refl⟩) fun _ _ => ?_
  refine (Attempt.Goes.lift currentHost_goes).then fun h s => ?_
  have said (s : Session) : Attempt.Goes scope
      (onLog fun log => log.detail (rootName ++ " id=" ++ showId root) 1 : Attempt Unit) s :=
    .lift (onLog_goes _)
  cases root with
  | none => exact said s
  | some id => exact (frameAction_goes noCallbacks_goes _ _ _).then fun _ s => said s

theorem takeTemplates_goes (source : TemplateSource) (s : Session) :
    Attempt.Goes scope (takeTemplates source) s := by
  unfold takeTemplates
  split
  · refine Attempt.Goes.forM (fun e s => ?_) _
    exact (Attempt.Goes.lift (registerTemplate_goes _ _ _)).then fun _ _ => .pure _
  · exact .pure _

theorem readConfig_goes (config : Option Value) (s : Session) :
    Attempt.Goes scope (readConfig config) s := by
  unfold readConfig
  split
  · exact .attempt _
  · exact loadConfig_goes _ _ _ _

theorem loadNamed_goes (config : Entries) (source : TemplateSource) (s : Session) :
    Attempt.Goes scope (loadNamed config source) s := by
  unfold loadNamed
  split
  · exact loadConfigured_goes _ _
  · exact .pure _

theorem createWanted_goes (config : Entries) (s : Session) :
    Attempt.Goes scope (createWanted config) s := by
  unfold createWanted
  split
  · exact createRoot_goes s
  · exact .pure _

theorem arrange_goes (source : TemplateSource) (config : Entries) (s : Session) :
    Attempt.Goes scope (arrange source config) s := by
  unfold arrange
  refine Attempt.Goes.bind (.lift ⟨fun _ => .refl⟩) fun _ _ => ?_
  refine (configureLog_goes _ _).then fun _ s => ?_
  refine (Attempt.Goes.lift (onLog_goes _)).then fun _ s => ?_
  refine (Attempt.Goes.lift (onLog_goes _)).then fun _ s => ?_
  refine (Attempt.Goes.lift (onLog_goes _)).then fun _ s => ?_
  refine (Attempt.Goes.attempt _).then fun layout s => ?_
  refine Attempt.Goes.bind (.lift ⟨fun _ => .refl⟩) fun _ _ => ?_
  refine (loadNamed_goes _ _ _).then fun _ s => ?_
  refine (Attempt.Goes.lift (onLog_goes _)).then fun _ s => ?_
  exact createWanted_goes config s

theorem furnish_goes (plan : Plan) (s : Session) : Attempt.Goes scope (furnish plan) s := by
  unfold furnish
  refine (takeTemplates_goes _ _).then fun _ s => ?_
  exact (readConfig_goes _ _).then fun _ s => arrange_goes _ _ s

/-- What building a host comes to, when it does not fail. -/
theorem construct_steps (plan : Plan) {s : Session} (hok : result (construct plan).run s = .ok ()) :
    ∃ clock, ∀ tasks, Steps scope (Session.stage { s with host := { clock } } tasks)
      ((after (construct plan).run s).stage tasks) := by
  unfold construct at hok ⊢
  cases hc : plan.clock with
  | none =>
    rw [hc] at hok
    exact ⟨_, fun tasks => (furnish_goes plan _).run.steps tasks⟩
  | some v =>
    cases hv : v.toFloat with
    | error e =>
      rw [hc] at hok
      change result (ExceptT.bindCont _ v.toFloat) s = _ at hok
      rw [hv] at hok
      cases hok
    | ok now =>
      refine ⟨{ now, manual := true }, fun tasks => ?_⟩
      change Steps scope _ ((after (ExceptT.bindCont _ v.toFloat) s).stage tasks)
      rw [hv]
      exact (furnish_goes plan _).run.steps tasks

theorem run_bind (m : Act α) (f : α → Act β) (s : Session) :
    (m >>= f) s = f (result m s) (after m s) := rfl

/-- An operation that ends well has ended well before its last part, which goes on from there. -/
theorem bind_ok {m : Attempt α} {f : α → Attempt β} {b : β}
    (h : result (m >>= f).run s = .ok b) :
    ∃ a, result m.run s = .ok a ∧ (m >>= f).run s = (f a).run (after m.run s) := by
  have hrun : (m >>= f).run s = ExceptT.bindCont f (result m.run s) (after m.run s) := rfl
  cases hm : result m.run s with
  | ok a =>
    rw [hm] at hrun
    exact ⟨a, rfl, hrun⟩
  | error e =>
    rw [hm] at hrun
    cases (congrArg Prod.fst hrun).symm.trans h

theorem tryCatch_ok {m : Attempt α} {f : Fault → Attempt α} {a : α}
    (h : result m.run s = .ok a) : (tryCatch m f).run s = (.ok a, after m.run s) := by
  change ExceptT.tryCatch m f s = _
  unfold ExceptT.tryCatch ExceptT.mk
  refine (run_bind m.run _ s).trans ?_
  rw [h]
  rfl

theorem tryCatch_error {m : Attempt α} {f : Fault → Attempt α} {e : Fault}
    (h : result m.run s = .error e) : (tryCatch m f).run s = (f e).run (after m.run s) := by
  change ExceptT.tryCatch m f s = _
  unfold ExceptT.tryCatch ExceptT.mk
  refine (run_bind m.run _ s).trans ?_
  rw [h]
  rfl

/-- **A host is built by steps from one that has nothing but its clock.** -/
theorem build_steps (plan : Plan) {s : Session} (hok : result (build plan).run s = .ok ()) :
    ∃ clock, ∀ tasks, Steps scope (Session.stage { s with host := { clock } } tasks)
      ((after (build plan).run s).stage tasks) := by
  let restore (e : Fault) : Attempt Unit := do
    onHost fun _ => s.host
    throw e
  have hrun : (build plan).run s = (tryCatch (construct plan) restore).run s := rfl
  cases h : result (construct plan).run s with
  | ok a =>
    obtain ⟨clock, hsteps⟩ := construct_steps plan h
    have hbuilt := hrun.trans (tryCatch_ok h)
    have hafter : after (build plan).run s = after (construct plan).run s :=
      (congrArg Prod.snd hbuilt :)
    refine ⟨clock, fun tasks => ?_⟩
    rw [hafter]
    exact hsteps tasks
  | error e =>
    have hbuilt := hrun.trans (tryCatch_error h)
    have hresult : result (build plan).run s = .error e := (congrArg Prod.fst hbuilt :)
    cases hresult.symm.trans hok

theorem configureLog_after (config : Value) (s : Session) :
    ∃ log, after (configureLog config).run s = { s with log } :=
  ⟨(s.log.apply config).1, raise?_after (s.log.apply config).2 _⟩

theorem stage_withShared (s : Session) (shared : Shared) (tasks : List Task) :
    Session.stage { s with shared } tasks = s.stage tasks := rfl

theorem settleIn_steps (origin : Origin) (log : Log)
    (hok : result (settleIn origin).run { log } = .ok ()) :
    ∃ clock, Steps scope { clock } ((after (settleIn origin).run { log }).stage []) := by
  cases origin with
  | bare => exact ⟨{}, .refl⟩
  | planned plan =>
    obtain ⟨clock, h⟩ := build_steps plan hok
    exact ⟨clock, h []⟩
  | shared =>
    let share : Unit → Attempt Unit := fun _ => modify fun s => { s with shared := .current }
    have hrun : (settleIn .shared).run { log } = (build .shared >>= share).run { log } := by
      unfold settleIn useShared
      generalize build .shared = m
      rfl
    obtain ⟨a, hb, hbuilt⟩ := bind_ok ((congrArg Prod.fst hrun).symm.trans hok)
    obtain ⟨clock, h⟩ := build_steps .shared hb
    have hsettled := hrun.trans hbuilt
    have hafter : after (settleIn .shared).run { log } =
        { after (build .shared).run { log } with shared := .current } :=
      (congrArg Prod.snd hsettled :)
    refine ⟨clock, ?_⟩
    rw [hafter, stage_withShared]
    exact h []

/-- **A session that has been set up has come there by steps from one with nothing but a clock.** -/
theorem start_steps {logging : Option Value} {origin : Origin}
    (hok : result (start logging origin).run {} = .ok ()) :
    ∃ clock, Steps scope { clock } (Session.stage (after (start logging origin).run {}) []) := by
  cases logging with
  | none => exact settleIn_steps origin {} hok
  | some config =>
    let source : Attempt Unit := onLog fun log =>
      { log with source := Log.flag (config.entries?.getD []) "source" true }
    have hrun : (start (some config) origin).run {} =
        (configureLog config >>= fun _ => source >>= fun _ => settleIn origin).run
          { log := { enabled := true } } := rfl
    obtain ⟨a, hc, hconf⟩ := bind_ok ((congrArg Prod.fst hrun).symm.trans hok)
    obtain ⟨log, h⟩ := configureLog_after config { log := { enabled := true } }
    have hstart : (start (some config) origin).run {} = (settleIn origin).run
        { log := { log with source := Log.flag (config.entries?.getD []) "source" true } } :=
      (hrun.trans hconf).trans (h ▸ rfl)
    obtain ⟨clock, hsteps⟩ := settleIn_steps origin _ ((congrArg Prod.fst hstart).symm.trans hok)
    have hafter : after (start (some config) origin).run {} = _ := congrArg Prod.snd hstart
    exact ⟨clock, hafter ▸ hsteps⟩

end FrameHost.Session
