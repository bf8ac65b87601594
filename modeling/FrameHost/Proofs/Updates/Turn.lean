import FrameHost.Proofs.Step.Act

/-!
# What an update does

An update goes through the frames that it has found when it began, and gives each a turn. In its turn a frame
is passed by, or its primary callback is run: then the frame is muted if that run raised an error, and the
hooks are run.

* `Session.after_update`: the frames that an update goes through.
* `Session.updateFrame_passes`, `Session.updateFrame_runs`: the two kinds of turns.
* `Session.UpdatesWork`: **what updates do, in whatever session**.
-/

namespace FrameHost.Session

open Act

variable {call : Caller} {elapsed : Value} {frame : FrameId} {callback : String} {s : Session}
  {frames later : List FrameId}

/-! ## Turns -/

/-- A frame that is passed by is left alone, and so is all else. -/
theorem updateFrame_passes {primary : Option String}
    (hp : s.host.scripts.primary? ⟨frame, .onUpdate⟩ = primary)
    (hm : ∀ callback, primary = some callback → s.host.muted.get? frame = some callback) :
    after (updateFrame call elapsed frame) s =
        after (record (.reached frame primary false (s.host.label frame))) s ∧
      result (updateFrame call elapsed frame) s = false := by
  rw [updateFrame, after_currentHost_bind, result_currentHost_bind, hp]
  cases primary with
  | none => exact ⟨rfl, rfl⟩
  | some callback =>
    dsimp only
    rw [if_pos (hm callback rfl)]
    exact ⟨rfl, rfl⟩

/-- A session in which an update has come to a frame, and is to run its primary callback. -/
def reaching (frame : FrameId) (callback : String) (s : Session) : Session :=
  { s with
    host := { s.host with muted := s.host.muted.erase frame }
    journal := .reached frame (some callback) true (s.host.label frame) :: s.journal }

/-- A session in which the primary callback of a frame has been run in an update. A callback that failed is
muted. -/
def settled (frame : FrameId) (callback : String) (fine : Bool) (s : Session) : Session :=
  if fine then { s with journal := .updated frame callback false :: s.journal }
  else { s with
    host := { s.host with muted := s.host.muted.insert frame callback }
    log := s.log.emit "SimState" .warn "script" ("OnUpdate muted for " ++ s.host.label frame)
    journal := .updated frame callback true :: s.journal }

theorem run_updateFrame (call : Caller) (elapsed : Value)
    (hp : s.host.scripts.primary? ⟨frame, .onUpdate⟩ = some callback)
    (hm : s.host.muted.get? frame ≠ some callback) :
    (updateFrame call elapsed frame).run s = (do
      let fine ← runPrimary call ⟨frame, .onUpdate⟩ callback [elapsed]
      settle call elapsed frame callback fine : Act Bool).run (reaching frame callback s) := by
  rw [updateFrame, run_currentHost_bind, hp]
  dsimp only
  rw [if_neg hm]
  rfl

theorem after_settle (call : Caller) (elapsed : Value) (frame : FrameId) (callback : String) (fine : Bool)
    (s : Session) : after (settle call elapsed frame callback fine) s =
      after (runSlotHooks call ⟨frame, .onUpdate⟩ [elapsed]) (settled frame callback fine s) := by
  cases fine <;> rfl

/-- A frame that is not passed by has its primary callback run as that, and is muted for it if that run
failed; the hooks follow. -/
theorem updateFrame_runs (hp : s.host.scripts.primary? ⟨frame, .onUpdate⟩ = some callback)
    (hm : s.host.muted.get? frame ≠ some callback) :
    let began := reaching frame callback s
    let primary := invoke call callback [s.host.handle? frame, elapsed]
      (Handler.onUpdate.name ++ " on " ++ s.host.label frame) "script"
    after (updateFrame call elapsed frame) s =
        after (runSlotHooks call ⟨frame, .onUpdate⟩ [elapsed])
          (settled frame callback (result primary began) (after primary began)) ∧
      result (updateFrame call elapsed frame) s = true := by
  intro began primary
  have run := run_updateFrame call elapsed hp hm
  constructor
  · rw [← after_settle]
    exact congrArg Prod.snd run
  · refine (congrArg Prod.fst run).trans ?_
    change result (settle call elapsed frame callback (result primary began)) (after primary began) = true
    cases result primary began <;> rfl

/-! ## Updates -/

/-- The session in which an update has begun. -/
def updating (frames later : List FrameId) (s : Session) : Session :=
  after (record (.updateBegan frames later s.host.registry)) s

/-- An update that ends in a fault has not begun. -/
theorem update_faults {fault : Fault} (h : result (update call elapsed).run s = .error fault) :
    after (update call elapsed).run s = s := by
  rw [update, result_lift_bind] at h
  rw [update, after_lift_bind]
  change result (attempt (s.host.visibleWith .onUpdate) >>= _).run s = _ at h
  change after (attempt (s.host.visibleWith .onUpdate) >>= _).run s = s
  cases hf : s.host.visibleWith .onUpdate with
  | error => rfl
  | ok frames =>
    rw [hf] at h
    change result (attempt (s.host.visibleWith .onPostUpdate) >>= _).run s = _ at h
    change after (attempt (s.host.visibleWith .onPostUpdate) >>= _).run s = s
    cases hl : s.host.visibleWith .onPostUpdate with
    | error => rfl
    | ok later =>
      rw [hl] at h
      cases h

/-- An update goes through the frames that it has found when it began, whatever they do. -/
theorem after_update (hf : s.host.visibleWith .onUpdate = .ok frames)
    (hl : s.host.visibleWith .onPostUpdate = .ok later) :
    after (update call elapsed).run s = after (do
      updateLater call elapsed later
      record .updateEnded) (after (updateAll call elapsed frames) (updating frames later s)) := by
  rw [update, after_lift_bind]
  change after (attempt (s.host.visibleWith .onUpdate) >>= _).run s = _
  rw [hf]
  change after (attempt (s.host.visibleWith .onPostUpdate) >>= _).run s = _
  rw [hl]
  rfl

theorem after_updateAll (call : Caller) (elapsed : Value) (frames : List FrameId) (s : Session) :
    after (updateAll call elapsed frames) s =
      after (frames.forM fun frame => do let _ ← updateFrame call elapsed frame) s := by
  induction frames generalizing s with
  | nil => rfl
  | cons frame frames ih => exact ih _

/-- What updates do, in whatever session. -/
structure UpdatesWork (call : Caller) (s : Session) : Prop where
  /-- An update that can begin gives each of its frames a turn, and then runs what follows. -/
  goes : ∀ elapsed frames later, s.host.visibleWith .onUpdate = .ok frames →
    s.host.visibleWith .onPostUpdate = .ok later → after (update call elapsed).run s = after (do
      frames.forM fun frame => do let _ ← updateFrame call elapsed frame
      later.forM fun frame => do
        record (.followed frame)
        let _ ← runSlot call ⟨frame, .onPostUpdate⟩ [elapsed]
      record .updateEnded) (updating frames later s)
  faults : ∀ elapsed fault, result (update call elapsed).run s = .error fault →
    after (update call elapsed).run s = s
  /-- A frame without a primary callback, or muted for the one it has, is left alone. -/
  passes : ∀ elapsed (frame : FrameId), (∀ callback, s.host.scripts.primary? ⟨frame, .onUpdate⟩ = some callback →
      s.host.muted.get? frame = some callback) →
    after (updateFrame call elapsed frame) s =
        after (record (.reached frame (s.host.scripts.primary? ⟨frame, .onUpdate⟩) false
          (s.host.label frame))) s ∧
      result (updateFrame call elapsed frame) s = false
  /-- Any other frame has its primary callback run as that, and is muted for it if that run fails. -/
  runs : ∀ elapsed (frame : FrameId) callback, s.host.scripts.primary? ⟨frame, .onUpdate⟩ = some callback →
    s.host.muted.get? frame ≠ some callback →
    let began := reaching frame callback s
    let primary := invoke call callback [s.host.handle? frame, elapsed]
      (Handler.onUpdate.name ++ " on " ++ s.host.label frame) "script"
    after (updateFrame call elapsed frame) s =
        after (runSlotHooks call ⟨frame, .onUpdate⟩ [elapsed])
          (settled frame callback (result primary began) (after primary began)) ∧
      result (updateFrame call elapsed frame) s = true
  /-- A callback that is run fails exactly if it raises an error. -/
  fails : ∀ callback args source category,
    result (invoke call callback args source category) s = (result (call callback args) s).isNone

theorem updatesWork (call : Caller) (s : Session) : s.UpdatesWork call where
  goes := fun elapsed frames later hf hl => by
    rw [after_update hf hl, after_updateAll]
    rfl
  faults := fun _ _ => update_faults
  passes := fun _ _ hm => updateFrame_passes rfl hm
  runs := fun _ _ _ => updateFrame_runs
  fails := fun callback args source category => by
    rw [invoke, result_bind]
    cases result (call callback args) s <;> rfl

end FrameHost.Session
