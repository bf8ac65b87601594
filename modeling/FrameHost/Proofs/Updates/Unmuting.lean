import FrameHost.Proofs.Slots
import FrameHost.Proofs.Updates.Run
import FrameHost.Proofs.Visibility

/-!
# When a frame that is muted is updated again

An update that comes to a frame looks whether the callback in its slot is the one for which the frame is muted;
nothing is noted when a callback is put there. So a frame is updated again once its slot holds any other callback,
but the one that failed is passed by even when it has been put there anew, until an update has run another for
the frame.

* `Updates.Unforgiven`: the callback that an update ran last for a frame, if it failed.
* `Stage.Updating.muted_iff`: **a frame is muted for that callback**.
* `Session.updateFrame_runs_iff`: **a frame is updated unless the callback in its slot is unforgiven**.
* `Session.Amid.comes_to`: **an update that begins while a frame is visible comes to it, and updates it unless
  that is so**.
* `Session.not_runs_refilled`: a callback that failed is put into its slot again, and is not run.
-/

namespace FrameHost

variable {frame : FrameId} {callback other : String} {journal : List Moment}

/-- An update ran the primary callback of a frame, which raised an error, and since then no update has gone on
to run a primary callback of the frame. -/
inductive Updates.Unforgiven (frame : FrameId) (callback : String) : List Moment → Prop
  | intro {later during earlier : List Moment} (hr : Raised frame callback during earlier)
      (hlater : ∀ m ∈ later, m.mutes? frame = none) :
      Unforgiven frame callback (later ++ .updated frame callback true :: earlier)

theorem Updates.Told.mutedIn_eq_iff (h : Updates.Told journal) :
    mutedIn frame journal = some callback ↔ Updates.Unforgiven frame callback journal := by
  constructor
  · intro hm
    obtain ⟨later, m, earlier, rfl, hmutes, hlater⟩ :=
      List.findSome?_eq_some_iff.1 (Option.join_eq_some_iff.1 hm)
    cases Moment.eq_of_mutes? hmutes
    obtain ⟨during, hr⟩ := (h _ _ (List.suffix_append ..)).2 rfl
    exact .intro hr hlater
  · rintro ⟨-, hlater⟩
    rw [mutedIn, lastOf_quiet hlater, lastOf_cons, Moment.mutes?, if_pos rfl]
    rfl

/-- A callback stays unforgiven while no update runs a primary callback of its frame. -/
theorem Updates.Unforgiven.append {ms : List Moment} (h : Updates.Unforgiven frame callback journal)
    (hms : ∀ m ∈ ms, m.mutes? frame = none) : Updates.Unforgiven frame callback (ms ++ journal) := by
  obtain @⟨later, during, earlier, hr, hlater⟩ := h
  rw [← List.append_assoc]
  refine .intro hr fun m hm => ?_
  exact (List.mem_append.1 hm).elim (hms m) (hlater m)

/-- Only one callback of a frame is unforgiven. -/
theorem Updates.Told.unforgiven_unique (h : Updates.Told journal)
    (hc : Updates.Unforgiven frame callback journal) (ho : Updates.Unforgiven frame other journal) :
    callback = other := Option.some.inj ((h.mutedIn_eq_iff.2 hc).symm.trans (h.mutedIn_eq_iff.2 ho))

/-- **A frame is muted for the callback that is unforgiven.** -/
theorem Stage.Updating.muted_iff {scope : Scope} {σ : Stage} (h : σ.Updating scope) :
    σ.muted.get? frame = some callback ↔ Updates.Unforgiven frame callback σ.journal :=
  (h.muted frame).congr_left.trans h.told.mutedIn_eq_iff

namespace Session

open Act

variable {s : Session} {call : Caller} {elapsed : Value} {frames later front back : List FrameId}
  {scope : Scope} {script : Script}

/-! ## How an update comes to a frame -/

theorem after_updateAll_append (front back : List FrameId) (s : Session) :
    after (updateAll call elapsed (front ++ back)) s =
      after (updateAll call elapsed back) (after (updateAll call elapsed front) s) := by
  induction front generalizing s with
  | nil => rfl
  | cons frame front ih => exact ih _

theorem update_comes (hf : s.host.visibleWith .onUpdate = .ok (front ++ frame :: back))
    (hl : s.host.visibleWith .onPostUpdate = .ok later) :
    after (update call elapsed).run s = after (do
      let _ ← updateAll call elapsed back
      updateLater call elapsed later
      record .updateEnded)
        (after (updateFrame call elapsed frame)
          (after (updateAll call elapsed front) (updating (front ++ frame :: back) later s))) := by
  rw [after_update hf hl, after_updateAll_append]
  rfl

/-- Steps lead on to the turn of a frame, when an update begins in the middle of a run. -/
theorem turn_steps (hcall : ∀ callback args s, Goes scope (call callback args) s)
    (hf : s.host.visibleWith .onUpdate = .ok (front ++ frame :: back))
    (hl : s.host.visibleWith .onPostUpdate = .ok later) {tasks : List Task}
    (hn : scope.updates = true ∨ tasks = []) :
    ∃ tasks', Steps scope (s.stage tasks)
      ((after (updateAll call elapsed front) (updating (front ++ frame :: back) later s)).stage tasks') := by
  let rest : List Turn := (frame :: back).map .reach ++ later.map .follow
  have began : Step scope (s.stage tasks) ((updating (front ++ frame :: back) later s).stage
      (.updating (front.map .reach ++ rest) :: tasks)) := by
    have hturns : front.map Turn.reach ++ rest =
        (front ++ frame :: back).map .reach ++ later.map .follow := by
      rw [List.map_append, List.append_assoc]
    rw [hturns]
    exact .updateBegan ⟨rfl, rfl, rfl, rfl, rfl, rfl, rfl, rfl⟩ hf hl hn
  exact ⟨_, .head began (updateAll_moves hcall elapsed front rest _ tasks)⟩

/-! ## What it does there -/

/-- The turn of a frame is to run a callback, and then hooks, with the handle of the frame and the time that has
elapsed. -/
def Runs (call : Caller) (elapsed : Value) (frame : FrameId) (callback : String) (s : Session) : Prop :=
  ∃ hooks, Calls [.handle frame, elapsed] (callback :: hooks) (updateFrame call elapsed frame) s

/-- The turn of a frame that is muted for the callback in its slot is to do nothing. -/
theorem updateFrame_muted (hp : s.host.scripts.primary? (updateSlot frame) = some callback)
    (hm : s.host.muted.get? frame = some callback) : after (updateFrame call elapsed frame) s =
      after (record (.reached frame (some callback) false (s.host.label frame))) s :=
  (updateFrame_passes hp fun _ h => Option.some.inj h ▸ hm).1

/-- What calls a callback does not leave the calls as they are. -/
theorem not_calls_of_still {α : Type} {args : List Value} {callbacks : List String} {m : Act α}
    (h : (after m s).calls = s.calls) : ¬ Calls args (callback :: callbacks) m s := by
  rintro ⟨calls, hcalls, hturn⟩
  have none : calls = [] := List.append_right_eq_self.1 (hcalls.symm.trans h)
  cases hturn <;> cases none

/-- What a session in the middle of a run has to do with updates. -/
theorem Amid.updates (h : Amid scope s) : ∃ tasks, (s.stage tasks).Updating scope :=
  h.keep Stage.updating_fresh fun _ _ hστ hσ => hστ.updating hσ

/-- **An update that comes to a frame runs the callback in its slot unless that is unforgiven.** -/
theorem updateFrame_runs_iff
    (hscript : ∀ callback count args, ∀ c ∈ (script callback count args).steps, c.fits true = true)
    {depth : Nat} {tasks : List Task} (hσ : (s.stage tasks).Updating scope)
    (hframe : s.host.registry.contains frame = true)
    (hp : s.host.scripts.primary? (updateSlot frame) = some callback) :
    Runs (runCallback script (depth + 1)) elapsed frame callback s ↔
      ¬ Updates.Unforgiven frame callback s.journal := by
  have muted : s.host.muted.get? frame = some callback ↔ Updates.Unforgiven frame callback s.journal :=
    hσ.muted_iff
  constructor
  · rintro ⟨hooks, hcalls⟩ hun
    refine not_calls_of_still ?_ hcalls
    rw [updateFrame_muted hp (muted.2 hun)]
    rfl
  · intro hun
    exact ⟨_, calls_updateFrame hscript hframe hp (fun hm => hun (muted.1 hm)) elapsed⟩

/-- **An update that begins while a frame is visible comes to it**, at whatever point of a run that is, once it
has gone through the frames before. If nobody writes the slot of the frame meanwhile, the turn of the frame runs
the callback that was there, unless that is unforgiven, and then the update does nothing but go on. So, if any
callback of the frame is unforgiven, all others are run, however they have come into the slot. -/
theorem Amid.comes_to (h : Amid true s)
    (hscript : ∀ callback count args, ∀ c ∈ (script callback count args).steps, c.fits true = true)
    (depth : Nat) (elapsed : Value) (hf : s.host.visibleWith .onUpdate = .ok frames)
    (hl : s.host.visibleWith .onPostUpdate = .ok later) (hv : s.host.registry.isVisible frame = true)
    (hp : s.host.scripts.primary? (updateSlot frame) = some callback) :
    let call := runCallback script (depth + 1)
    ∃ front back, frames = front ++ frame :: back ∧
      let turn := after (updateAll call elapsed front) (updating frames later s)
      after (update call elapsed).run s = after (do
        let _ ← updateAll call elapsed back
        updateLater call elapsed later
        record .updateEnded) (after (updateFrame call elapsed frame) turn) ∧
      ∃ during, turn.journal = during ++ s.journal ∧
        ((∀ m ∈ during, m.written? (updateSlot frame) = none) →
          (Runs call elapsed frame callback turn ↔ ¬ Updates.Unforgiven frame callback turn.journal) ∧
          (Updates.Unforgiven frame callback turn.journal → after (updateFrame call elapsed frame) turn =
            after (record (.reached frame (some callback) false (turn.host.label frame))) turn) ∧
          ((∀ m ∈ during, m.mutes? frame = none) → ∀ failed, Updates.Unforgiven frame failed s.journal →
            (Runs call elapsed frame callback turn ↔ callback ≠ failed))) := by
  intro call
  have hcall : ∀ callback args s, Goes true (call callback args) s :=
    runCallback_goes_of_fits hscript (depth + 1)
  obtain ⟨tasks, hσ⟩ := h.updates
  have chosen : Updates.Chosen .onUpdate s.host.registry s.journal frames :=
    Host.chosen_of_visibleWith hσ.keys hσ.primary hf
  have hmem : frame ∈ frames := by
    have held : primaryIn (updateSlot frame) s.journal = some callback :=
      (hσ.primary (updateSlot frame)).symm.trans hp
    exact (chosen.iff frame).2 ⟨hv, congrArg Option.isSome held⟩
  obtain ⟨front, back, rfl⟩ := List.append_of_mem hmem
  obtain ⟨tasks', hturn⟩ := turn_steps hcall hf hl (.inl rfl)
  have hτ := hturn.keep (P := Stage.Updating true) (fun _ _ hστ hσ => hστ.updating hσ) hσ
  have hframe := hturn.keep (P := fun σ => σ.registry.contains frame = true)
    (fun _ _ hστ hσ => hστ.contains hσ) (Registry.isVisible_iff.1 hv).1
  obtain ⟨during, hduring⟩ := hturn.journal_suffix
  refine ⟨front, back, rfl, update_comes hf hl, during, hduring.symm, fun hquiet => ?_⟩
  let turn := after (updateAll call elapsed front) (updating (front ++ frame :: back) later s)
  have hj : turn.journal = during ++ s.journal := hduring.symm
  have held : turn.host.scripts.primary? (updateSlot frame) = some callback := by
    refine (hτ.primary (updateSlot frame)).trans ?_
    change primaryIn (updateSlot frame) turn.journal = _
    rw [hj, primaryIn, lastOf_quiet hquiet]
    exact (hσ.primary (updateSlot frame)).symm.trans hp
  have runs : Runs call elapsed frame callback turn ↔ ¬ Updates.Unforgiven frame callback turn.journal :=
    updateFrame_runs_iff hscript hτ hframe held
  refine ⟨runs, fun hun => ?_, fun hspared failed hfailed => runs.trans (not_congr ?_)⟩
  · exact updateFrame_muted held (hτ.muted_iff.2 hun)
  · have unforgiven : Updates.Unforgiven frame failed turn.journal := hj ▸ hfailed.append hspared
    constructor
    · intro hun
      exact hτ.told.unforgiven_unique hun unforgiven
    · rintro rfl
      exact unforgiven

/-! ## A callback that is put into its slot again -/

/-- The callback `boom` raises an error; all others do nothing. -/
def failing : Script := fun callback _ _ => if callback = "boom" then { raises := some "enough" } else {}

theorem failing_fits (callback : String) (count : Nat) (args : List Value) :
    ∀ c ∈ (failing callback count args).steps, c.fits true = true := by
  unfold failing
  split <;> decide

/-- A frame with the callback `boom`, before any update. -/
def unfailed : Session := runRootless failing
  [.frame (.create (.str "Frame") .null .none .null .null),
    .frame (.slot (some 1) (.setScript (.str "OnUpdate") (.callback "boom")))]

/-- Puts a callback into the slot of the frame for updates. -/
def refill (callback : String) : Act Bool := setScript (some 1) (.str "OnUpdate") (.callback callback)

/-- The callback `boom` has failed in an update; then another is put into the slot, and after it a last one. -/
def refilled (callback : String) : Session :=
  after (refill callback) (after (refill "calm") (after (update (caller failing) (.float 0.5)).run unfailed))

/-- A callback that is put into a slot is in no other way taken note of. -/
theorem host_after_setScript {handler : Value} {named : Handler} (hh : Handler.ofValue? handler = some named)
    (frame : Option FrameId) (callback : Value) (s : Session) :
    (after (setScript frame handler callback) s).host =
      { s.host with scripts := s.host.scripts.setPrimary ⟨frame, named⟩ callback.callback? } := by
  unfold setScript
  rw [hh]
  rfl

theorem amid_refilled (callback : String) : Amid true (refilled callback) := by
  have hcall : ∀ callback args s, Goes true (caller failing callback args) s :=
    runCallback_goes_of_fits failing_fits depthLimit
  have ready : Amid true unfailed := (ran_runRootless failing_fits (by decide)).within.amid
  have failed := ready.goes (m := (update (caller failing) (.float 0.5)).run)
    ⟨fun _ => update_moves hcall _ _ (.inl rfl)⟩
  exact (failed.goes (setScript_goes ..)).goes (setScript_goes ..)

/-- A host whose only callback is in the slot of a frame for updates, when that frame is shown. -/
theorem sees_frame {h : Host}
    (hf : (h.registry.get? frame).any (fun f => decide (f.parent = none ∧ f.visible = true)) = true)
    (hu : h.scripts.holders .onUpdate = .ok [some frame])
    (hl : h.scripts.holders .onPostUpdate = .ok []) : h.registry.isVisible frame = true ∧
      h.visibleWith .onUpdate = .ok [frame] ∧ h.visibleWith .onPostUpdate = .ok [] := by
  obtain ⟨f, hf, hshown⟩ := (Option.any_eq_true _ _).1 hf
  obtain ⟨hp, hv⟩ := of_decide_eq_true hshown
  have visible := Registry.isVisible_of_root hf hp hv
  refine ⟨visible, ?_, ?_⟩
  · rw [Host.visibleWith, hu]
    exact congrArg Except.ok (List.filter_cons_of_pos visible)
  · rw [Host.visibleWith, hl]
    rfl

/-- The host after the update, and after the two callbacks are put into the slot. -/
theorem refilled_host (callback : String) :
    let failed := after (updateAll (caller failing) (.float 0.5) [1]) (updating [1] [] unfailed)
    (refilled callback).host = { failed.host with
      scripts := (failed.host.scripts.setPrimary (updateSlot 1) (some "calm")).setPrimary (updateSlot 1)
        (some callback) } := by
  intro failed
  have named : Handler.ofValue? (.str "OnUpdate") = some .onUpdate := by decide +kernel
  obtain ⟨-, hf, hl⟩ : unfailed.host.registry.isVisible 1 = true ∧
      unfailed.host.visibleWith .onUpdate = .ok [1] ∧ unfailed.host.visibleWith .onPostUpdate = .ok [] :=
    sees_frame (by decide +kernel) (by decide +kernel) (by decide +kernel)
  have ended : (after (update (caller failing) (.float 0.5)).run unfailed).host = failed.host := by
    have quiet (s : Session) : (after (do
        updateLater (caller failing) (.float 0.5) []
        record .updateEnded) s).host = s.host := rfl
    rw [after_update hf hl]
    exact quiet failed
  unfold refilled refill
  rw [host_after_setScript named, host_after_setScript named, ended, Value.callback?, Value.callback?]

theorem refilled_ready (callback : String) (h : callback ∈ ["calm", "boom"]) :
    let s := refilled callback
    s.host.registry.isVisible 1 = true ∧ s.host.visibleWith .onUpdate = .ok [1] ∧
      s.host.visibleWith .onPostUpdate = .ok [] ∧ s.host.scripts.primary? (updateSlot 1) = some callback ∧
      s.host.muted.get? 1 = some "boom" := by
  intro s
  obtain ⟨hf, hu, hl, hp, hm⟩ :
      (s.host.registry.get? 1).any (fun f => decide (f.parent = none ∧ f.visible = true)) = true ∧
      s.host.scripts.holders .onUpdate = .ok [some 1] ∧ s.host.scripts.holders .onPostUpdate = .ok [] ∧
      s.host.scripts.primary? (updateSlot 1) = some callback ∧ s.host.muted.get? 1 = some "boom" := by
    simp only [s, refilled_host]
    revert callback
    decide +kernel
  obtain ⟨visible, frames, later⟩ := sees_frame hf hu hl
  exact ⟨visible, frames, later, hp, hm⟩

/-- The callback that has come into the slot last is not the one that failed, and the update runs it. -/
theorem comes_to_refilled :
    let s := refilled "calm"
    s.host.visibleWith .onUpdate = .ok [1] ∧ Updates.Unforgiven 1 "boom" s.journal ∧
      Runs (caller failing) (.float 0.5) 1 "calm" (updating [1] [] s) := by
  intro s
  obtain ⟨visible, hf, hl, hp, hm⟩ := refilled_ready "calm" (by decide)
  have amid : Amid true s := amid_refilled "calm"
  obtain ⟨tasks, hσ⟩ := amid.updates
  have unforgiven : Updates.Unforgiven 1 "boom" s.journal := hσ.muted_iff.1 hm
  obtain ⟨front, back, hcut, -, during, hj, hturn⟩ :=
    amid.comes_to failing_fits 399 (.float 0.5) hf hl visible hp
  have first : front = [] := by
    have hlength := congrArg List.length hcut
    simp only [List.length_append, List.length_cons, List.length_nil] at hlength
    exact List.eq_nil_of_length_eq_zero (by omega)
  subst first
  have began : during = [.updateBegan [1] [] s.host.registry] := List.append_cancel_right hj.symm
  subst began
  obtain ⟨-, -, runs⟩ := hturn (by simp [Moment.written?])
  exact ⟨hf, unforgiven, (runs (by simp [Moment.mutes?]) "boom" unforgiven).2 (by decide)⟩

/-- **A callback that failed is not run when it is put into the slot again**, even after another. -/
theorem not_runs_refilled :
    let s := refilled "boom"
    s.host.registry.isVisible 1 = true ∧ s.host.visibleWith .onUpdate = .ok [1] ∧
      s.host.scripts.primary? (updateSlot 1) = some "boom" ∧ Updates.Unforgiven 1 "boom" s.journal ∧
      ¬ ∃ hooks, Calls [.handle 1, .float 0.5] ("boom" :: hooks)
        (update (caller failing) (.float 0.5)).run s := by
  intro s
  obtain ⟨visible, hf, hl, hp, hm⟩ := refilled_ready "boom" (by decide)
  obtain ⟨tasks, hσ⟩ := (amid_refilled "boom").updates
  refine ⟨visible, hf, hp, hσ.muted_iff.1 hm, ?_⟩
  rintro ⟨hooks, hcalls⟩
  have still : (after (update (caller failing) (.float 0.5)).run s).calls = s.calls := by
    rw [after_update hf hl]
    change (after (updateFrame (caller failing) (.float 0.5) 1) (updating [1] [] s)).calls = _
    rw [updateFrame_muted (s := updating [1] [] s) hp hm]
    rfl
  exact not_calls_of_still still hcalls

end Session

end FrameHost
