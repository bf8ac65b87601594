import FrameHost.Proofs.Delivery

/-!
# Running a slot takes a snapshot of it

A slot that is run calls what it holds at the start: its primary callback, if it has one, and then its hooks in
the order in which they were added. These may write to any slot, to this one as well, and may run it again; that
changes nothing for the run that is under way. Hooks are never taken away, so all that happens to the hooks of a
slot is that more are added at the end.

* `Session.Snapshot`: a slot is run as it was at the start.
* `Step.hooksGrow`: **a step only adds hooks at the end**.
* `Session.Amid.run_snapshot`: **what running a slot comes to, wherever a run has come**.
-/

namespace FrameHost

variable {scope : Scope} {σ τ : Stage} {journal : List Moment}

/-! ## Hooks are only added -/

/-- The hooks that were met in a host are still there, and come first. -/
def HooksGrow (journal : List Moment) (t : ScriptTable) : Prop :=
  ∀ m ∈ journal, ∀ seen, m.host? = some seen → ∀ slot, seen.scripts.hooksOf slot <+: t.hooksOf slot

/-- **Every step only adds hooks at the end.** -/
theorem Step.hooksGrow (h : Step scope σ τ) (hσ : HooksGrow σ.journal σ.scripts) :
    HooksGrow τ.journal τ.scripts :=
  h.since (R := fun seen σ => ∀ slot, seen.scripts.hooksOf slot <+: σ.scripts.hooksOf slot)
    (fun _ hs slot => hs.scripts ▸ h.hooks_prefix slot)
    (fun _ hseen slot => (hseen slot).trans (h.hooks_prefix slot)) hσ

namespace Session

open Act

variable {s : Session} {script : Script} {call : Caller} {slot : Slot} {args : List Value}

/-- In every host that a run comes through, the hooks that earlier hosts had come first. -/
theorem Amid.hooksGrow (h : Amid scope s) {host : Host} (hp : s.Past journal host) :
    HooksGrow journal host.scripts := by
  refine h.past (I := fun σ => HooksGrow σ.journal σ.scripts)
    (P := fun journal host => HooksGrow journal host.scripts) (fun _ m hm => ?_)
    (fun _ _ hστ hσ => hστ.hooksGrow hσ) (fun σ host hs hσ => ?_) hp
  · cases hm
  · rw [hs.scripts]
    exact hσ

/-! ## Running a slot -/

/-- An act runs a slot as it is at the start: it answers how many callbacks are there, and calls them, the
primary callback before the hooks. Each is given the handle of the frame and the arguments. -/
structure Snapshot (call : Caller) (slot : Slot) (args : List Value) (m : Act (Except Fault Reply))
    (s : Session) : Prop where
  answer : result m s = .ok (counted (s.host.scripts.callbacksOf slot).length)
  calls : ∃ first rest, (after m s).calls = s.calls ++ (first ++ rest) ∧
    InTurn (s.host.handle? slot.frame :: args) (s.host.scripts.primary? slot).toList first ∧
    InTurn ((hooksDue call slot args s).host.handle? slot.frame :: args) (s.host.scripts.hooksOf slot) rest
  /-- A frame that is there at the start has the same handle for all of them. -/
  handle : ∀ frame, slot.frame = some frame → s.host.registry.contains frame = true →
    s.host.handle? slot.frame = .handle frame ∧
      (hooksDue call slot args s).host.handle? slot.frame = .handle frame

/-- The command that runs a slot runs the slot of its handler. -/
theorem performScript_run {id : Option FrameId} {handler : Value} (hslot : slotOf id handler = some slot)
    (call : Caller) (args : List Value) (s : Session) :
    let ran := (performScript call (.run id handler args)).run
    result ran s = .ok (counted (result (runSlot call slot args) s)) ∧
      after ran s = after (runSlot call slot args) s := by
  intro ran
  have hrun : ran = (liftM (runSlot call slot args) >>= fun n => pure (counted n) : Attempt Reply).run := by
    dsimp only [ran, performScript]
    rw [hslot]
  rw [hrun]
  exact ⟨rfl, rfl⟩

/-- The command that runs a slot does nothing if there is no such handler. -/
theorem performScript_run_of_unknown {id : Option FrameId} {handler : Value}
    (hslot : slotOf id handler = none) (call : Caller) (args : List Value) (s : Session) :
    let ran := (performScript call (.run id handler args)).run
    result ran s = .ok (counted 0) ∧ after ran s = s := by
  intro ran
  have hrun : ran = (pure (counted 0) : Attempt Reply).run := by
    dsimp only [ran, performScript]
    rw [hslot]
  rw [hrun]
  exact ⟨rfl, rfl⟩

/-- **What running a slot comes to, wherever a run has come and whatever callbacks do.** It is run as it is at
the start, for any id and any handler; what is no handler runs nothing. The run goes on from there, so all this
holds of slots that callbacks run, too. -/
theorem Amid.run_snapshot (h : Amid true s)
    (hscript : ∀ callback count args, ∀ c ∈ (script callback count args).steps, c.fits true = true)
    (depth : Nat) (id : Option FrameId) (handler : Value) (args : List Value) :
    let call := runCallback script (depth + 1)
    let ran := (performScript call (.run id handler args)).run
    (∀ slot, slotOf id handler = some slot → Snapshot call slot args ran s) ∧
      (slotOf id handler = none → result ran s = .ok (counted 0) ∧ after ran s = s) ∧
      (∀ journal host, s.Past journal host → HooksGrow journal host.scripts) ∧ Amid true (after ran s) := by
  intro call ran
  have hcall : ∀ callback args s, Goes true (call callback args) s :=
    runCallback_goes_of_fits hscript (depth + 1)
  refine ⟨fun slot hslot => ?_, fun hslot => performScript_run_of_unknown hslot call args s,
    fun journal host hp => h.hooksGrow hp, h.goes (performScript_goes hcall _ s).run⟩
  obtain ⟨hresult, hafter⟩ := performScript_run hslot call args s
  obtain ⟨first, rest, hcalls, hfirst, hrest⟩ := calls_primary_then_hooks script depth slot args s
  refine ⟨?_, ⟨first, rest, ?_, hfirst, hrest⟩, fun frame hframe hthere => ⟨?_, ?_⟩⟩
  · rw [hresult, runSlot_result]
  · rw [hafter]
    exact hcalls
  · exact handle?_of_contains hframe hthere
  · exact handle?_of_contains hframe (contains_hooksDue hscript slot args hthere)

/-- The primary callback adds a hook to the slot that is run; it waits for the next run. -/
theorem run_snapshot_growing :
    let slot : Slot := ⟨some 1, .onUpdate⟩
    let ran := (performScript (caller growing) (.run (some 1) (.str "OnUpdate") [.int 7])).run
    Amid true grown ∧ slotOf (some 1) (.str "OnUpdate") = some slot ∧
      Snapshot (caller growing) slot [.int 7] ran grown ∧ HooksGrow grown.journal grown.host.scripts ∧
      grown.host.scripts.hooksOf slot = ["early"] ∧
      (after ran grown).host.scripts.hooksOf slot = ["early", "late"] := by
  intro slot ran
  have amid : Amid true grown := (ran_runRootless growing_fits (by decide)).within.amid
  obtain ⟨hsnapshot, -, hgrow, -⟩ :=
    amid.run_snapshot growing_fits 399 (some 1) (.str "OnUpdate") [.int 7]
  have hslot : slotOf (some 1) (.str "OnUpdate") = some slot := by decide +kernel
  exact ⟨amid, hslot, hsnapshot slot hslot, hgrow _ _ .last, by decide +kernel, by decide +kernel⟩

end Session

end FrameHost
