import FrameHost.Proofs.Hierarchy
import FrameHost.Proofs.Reporting
import FrameHost.Proofs.Updates.Turn

/-!
# Two ways in which a slot is dispatched

A slot is run by `Session.runSlot`: the primary callback, then the hooks, all of them as they were at the
start. An update does the same by its own means, for it has to know whether the primary callback failed; but
it looks for the hooks when that callback has ended. So the two call the same callbacks with the same
arguments, up to hooks that the primary callback adds to its own slot: an update runs these at once, and
`runSlot` leaves them to the next dispatch.

* `Session.InTurn`: the calls of callbacks that are run one after another.
* `Step.hooks_prefix`, `Step.contains`: hooks are only added, and no frame is ever taken out.
* `Session.slot_dispatched`: **what either way calls**.
* `Session.growing`: a callback whose hook does not wait.
-/

namespace FrameHost

variable {scope : Scope} {σ τ : Stage}

/-! ## What steps keep -/

/-- No step takes a frame out. -/
theorem Step.contains (h : Step scope σ τ) {x : FrameId} (hx : σ.registry.contains x = true) :
    τ.registry.contains x = true := by
  cases h with
  | framed h => exact (h.alike.contains x).trans hx
  | keyed => exact (Registry.contains_edit _).trans hx
  | tied h => exact (h.alike.contains x).trans hx
  | listened h => exact (h.alike.contains x).trans hx
  | created hg ha hf hr =>
    subst hr
    exact (Registry.contains_link _).trans (Registry.contains_enroll.2 (.inr hx))
  | enrolled f hraw hg hr | enrolledAgain hraw hf hr =>
    subst hr
    exact Registry.contains_enroll.2 (.inr hx)
  | rewritten hraw h =>
    cases h with
    | childAdded | childRemoved => exact (Registry.contains_edit _).trans hx
  | changed h | changedInPart h => exact (h.contains x).trans hx
  | _ => exact hx

/-- Steps only add hooks to a slot. -/
theorem Step.hooks_prefix (h : Step scope σ τ) (slot : Slot) :
    σ.scripts.hooksOf slot <+: τ.scripts.hooksOf slot := by
  cases h with
  | primarySet slot' callback =>
    have same := σ.scripts.hooksOf_setPrimary slot' slot callback
    exact same.symm ▸ List.prefix_refl _
  | hooked slot' callback =>
    rw [ScriptTable.hooksOf_addHook]
    split
    · rename_i heq
      exact heq ▸ List.prefix_append ..
    · exact List.prefix_refl _
  | _ => exact List.prefix_refl _

namespace Session

open Act

variable {α β : Type} {s : Session} {script : Script} {depth : Nat} {args : List Value}

theorem contains_after {m : Act α} (h : Goes scope m s) {frame : FrameId}
    (hframe : s.host.registry.contains frame = true) :
    (after m s).host.registry.contains frame = true :=
  (h.steps []).keep (P := fun σ => σ.registry.contains frame = true) (fun _ _ h hσ => h.contains hσ)
    hframe

theorem hooks_prefix_after {m : Act α} (h : Goes scope m s) (slot : Slot) :
    s.host.scripts.hooksOf slot <+: (after m s).host.scripts.hooksOf slot :=
  (h.steps []).keep (P := fun σ => s.host.scripts.hooksOf slot <+: σ.scripts.hooksOf slot)
    (fun _ _ h hσ => hσ.trans (h.hooks_prefix slot)) (List.prefix_refl _)

/-! ## Calls -/

/-- What is called when an error is told of: the error handler, or nothing. -/
inductive Told : List Call → Prop
  | unheard : Told []
  | heard (handler message : String) (answers : List Answer) (raised : Option String) :
      Told [.mk handler [.str message] answers raised]

theorem Attempts.told {message : String} {raised : Option String} {handler : Value} {calls : List Call}
    (h : Attempts [.str message] raised handler calls) : Told calls := by
  cases h with
  | called callback answers => exact .heard callback message answers raised
  | uncalled => exact .unheard

/-- The calls of callbacks that are run one after another with the same arguments. When one has raised an
error, the error handler may be told before the next. -/
inductive InTurn (args : List Value) : List String → List Call → Prop
  | done : InTurn args [] []
  | fine {callback : String} {callbacks : List String} {answers : List Answer} {calls : List Call}
      (rest : InTurn args callbacks calls) :
      InTurn args (callback :: callbacks) (.mk callback args answers none :: calls)
  | raised {callback text : String} {callbacks : List String} {answers : List Answer}
      {told calls : List Call} (htold : Told told) (rest : InTurn args callbacks calls) :
      InTurn args (callback :: callbacks) (.mk callback args answers (some text) :: (told ++ calls))

theorem InTurn.append {xs ys : List String} {calls calls' : List Call} (h : InTurn args xs calls)
    (h' : InTurn args ys calls') : InTurn args (xs ++ ys) (calls ++ calls') := by
  induction h with
  | done => exact h'
  | fine _ ih => exact .fine ih
  | raised htold _ ih =>
    rw [List.cons_append, List.cons_append, List.append_assoc]
    exact .raised htold ih

/-- An act calls callbacks, one after another, and no others. -/
def Calls (args : List Value) (callbacks : List String) (m : Act α) (s : Session) : Prop :=
  ∃ calls, (after m s).calls = s.calls ++ calls ∧ InTurn args callbacks calls

/-- An act that calls nothing. -/
theorem Calls.silent {m : Act α} (h : (after m s).calls = s.calls) : Calls args [] m s :=
  ⟨[], h.trans (List.append_nil _).symm, .done⟩

theorem Calls.bind {m : Act α} {f : α → Act β} {xs ys : List String} (hm : Calls args xs m s)
    (hf : Calls args ys (f (result m s)) (after m s)) : Calls args (xs ++ ys) (m >>= f) s := by
  obtain ⟨calls, hcalls, h⟩ := hm
  obtain ⟨calls', hcalls', h'⟩ := hf
  refine ⟨calls ++ calls', ?_, h.append h'⟩
  rw [after_bind, hcalls', hcalls, List.append_assoc]

/-- An act that calls nothing once it has done something. -/
theorem Calls.pure {m : Act α} {xs : List String} (hm : Calls args xs m s) {f : α → Act β}
    (hf : ∀ a s, (after (f a) s).calls = s.calls) : Calls args xs (m >>= f) s := by
  have hrest : Calls args [] (f (result m s)) (after m s) := .silent (hf _ _)
  have h := hm.bind hrest
  rwa [List.append_nil] at h

/-- A callback that is run is called, and the error handler is told if it raises an error. -/
theorem calls_invoke (callback : String) (args : List Value) (source category : String) (s : Session) :
    Calls args [callback] (invoke (runCallback script (depth + 1)) callback args source category) s := by
  obtain ⟨ran, told, hcalls, hran, htold⟩ :=
    calls_invokeValue script depth (.callback callback) args source category s
  refine ⟨ran ++ told, hcalls, ?_⟩
  cases hran with
  | uncalled h => exact absurd rfl (h callback)
  | called callback answers =>
    cases hraised : result (callValue (runCallback script (depth + 1)) (.callback callback) args) s with
    | none =>
      rw [hraised] at htold
      cases htold
      exact .fine .done
    | some text =>
      rw [hraised] at htold
      cases htold with
      | told raised h =>
        have hend : InTurn args [callback] (.mk callback args answers (some text) :: (told ++ [])) :=
          .raised h.told .done
        rwa [List.append_nil] at hend

/-- The callbacks of a slot are given the handle of its frame. -/
theorem handle?_of_contains {slot : Slot} {frame : FrameId} (hslot : slot.frame = some frame)
    (hframe : s.host.registry.contains frame = true) : s.host.handle? slot.frame = .handle frame := by
  rw [hslot]
  exact if_pos hframe

theorem calls_runHooks (script : Script) (depth : Nat) (slot : Slot) (hooks : List String)
    (args : List Value) (s : Session) :
    Calls (s.host.handle? slot.frame :: args) hooks
      (runHooks (runCallback script (depth + 1)) slot hooks args) s := by
  have each (handle : Value) (hooks : List String) (source : String) (s : Session) :
      Calls (handle :: args) hooks
        (runHookList (runCallback script (depth + 1)) hooks (handle :: args) source) s := by
    induction hooks generalizing s with
    | nil => exact .silent rfl
    | cons hook hooks ih => exact ((calls_invoke hook _ source "script" s).pure fun _ _ => rfl).bind (ih _)
  unfold runHooks
  cases hooks with
  | nil => exact .silent rfl
  | cons hook hooks =>
    rw [if_neg (by simp), Calls, after_currentHost_bind]
    exact (each _ _ _ _).pure fun _ _ => rfl

theorem calls_runPrimary (script : Script) (depth : Nat) (slot : Slot) (callback : String)
    (args : List Value) (s : Session) :
    Calls (s.host.handle? slot.frame :: args) [callback]
      (runPrimary (runCallback script (depth + 1)) slot callback args) s := by
  rw [runPrimary, Calls, after_currentHost_bind]
  exact calls_invoke ..

/-- The session in which a slot begins to run its hooks: its primary callback has ended, if it has one. -/
def hooksDue (call : Caller) (slot : Slot) (args : List Value) (s : Session) : Session :=
  match s.host.scripts.primary? slot with
  | some callback => after (runPrimary call slot callback args) s
  | none => s

/-- A slot that is run runs the hooks that it had at the start. -/
theorem after_runSlot (call : Caller) (slot : Slot) (args : List Value) (s : Session) :
    after (runSlot call slot args) s =
      after (runHooks call slot (s.host.scripts.hooksOf slot) args) (hooksDue call slot args s) := by
  unfold runSlot hooksDue
  rw [after_currentHost_bind]
  dsimp only
  cases s.host.scripts.primary? slot <;> rfl

/-- What is called first when a slot is run is its primary callback, if it has one. -/
theorem calls_hooksDue (script : Script) (depth : Nat) (slot : Slot) (args : List Value) (s : Session) :
    ∃ first,
    (hooksDue (runCallback script (depth + 1)) slot args s).calls = s.calls ++ first ∧
      InTurn (s.host.handle? slot.frame :: args) (s.host.scripts.primary? slot).toList first := by
  unfold hooksDue
  cases s.host.scripts.primary? slot with
  | none => exact ⟨[], (List.append_nil _).symm, .done⟩
  | some callback => exact calls_runPrimary script depth slot callback args s

/-- **`runSlot` calls the primary callback, if there is one, and then the hooks that were there at the
start.** -/
theorem calls_primary_then_hooks (script : Script) (depth : Nat) (slot : Slot) (args : List Value)
    (s : Session) :
    let call := runCallback script (depth + 1)
    ∃ first rest, (after (runSlot call slot args) s).calls = s.calls ++ (first ++ rest) ∧
      InTurn (s.host.handle? slot.frame :: args) (s.host.scripts.primary? slot).toList first ∧
      InTurn ((hooksDue call slot args s).host.handle? slot.frame :: args)
        (s.host.scripts.hooksOf slot) rest := by
  intro call
  obtain ⟨first, hfirst, hprimary⟩ := calls_hooksDue script depth slot args s
  obtain ⟨rest, hrest, hhooks⟩ := calls_runHooks script depth slot (s.host.scripts.hooksOf slot) args
    (hooksDue call slot args s)
  refine ⟨first, rest, ?_, hprimary, hhooks⟩
  rw [after_runSlot, hrest, hfirst, List.append_assoc]

/-! ## Dispatches -/

variable {frame : FrameId} {callback : String}

theorem calls_runSlotHooks (hframe : s.host.registry.contains frame = true) (handler : Handler)
    (args : List Value) : Calls (.handle frame :: args) (s.host.scripts.hooksOf ⟨frame, handler⟩)
      (runSlotHooks (runCallback script (depth + 1)) ⟨frame, handler⟩ args) s := by
  have hooked := calls_runHooks script depth ⟨frame, handler⟩ (s.host.scripts.hooksOf ⟨frame, handler⟩) args s
  rwa [handle?_of_contains rfl hframe] at hooked

/-- What an update does once the primary callback has ended: it calls the hooks that are there then. -/
theorem calls_settle (hframe : s.host.registry.contains frame = true) (elapsed : Value) (fine : Bool) :
    Calls [.handle frame, elapsed] (s.host.scripts.hooksOf ⟨frame, .onUpdate⟩)
      (settle (runCallback script (depth + 1)) elapsed frame callback fine) s := by
  have hooked (t : Session) (hr : t.host.registry = s.host.registry)
      (hs : t.host.scripts = s.host.scripts) :
      Calls [.handle frame, elapsed] (s.host.scripts.hooksOf ⟨frame, .onUpdate⟩) (do
        let _ ← runSlotHooks (runCallback script (depth + 1)) ⟨frame, .onUpdate⟩ [elapsed]
        return true) t := by
    rw [← hs]
    exact (calls_runSlotHooks (hr ▸ hframe) .onUpdate [elapsed]).pure fun _ _ => rfl
  cases fine with
  | true => exact hooked (after (record (.updated frame callback false)) s) rfl rfl
  | false =>
    let noted := after (record (.updated frame callback true)) s
    let muted := after (onHost fun h => { h with muted := h.muted.insert frame callback }) noted
    exact hooked (after (say "SimState" .warn "script" ("OnUpdate muted for " ++ muted.host.label frame))
      muted) rfl rfl

section Dispatch

variable (hscript : ∀ callback count args, ∀ c ∈ (script callback count args).steps, c.fits true = true)
include hscript

theorem runPrimary_keeps {slot : Slot} (callback : String) (args : List Value) (s : Session) :
    Goes true (runPrimary (runCallback script depth) slot callback args) s :=
  runPrimary_goes (runCallback_goes_of_fits hscript depth) ..

/-- The frame of a slot is still there when its hooks begin. -/
theorem contains_hooksDue (slot : Slot) (args : List Value) (hframe : s.host.registry.contains frame = true) :
    (hooksDue (runCallback script depth) slot args s).host.registry.contains frame = true := by
  unfold hooksDue
  split
  · exact contains_after (runPrimary_keeps hscript _ args s) hframe
  · exact hframe

/-- A slot whose frame is there calls all its callbacks with the handle of the frame. -/
theorem calls_slot {slot : Slot} (hslot : slot.frame = some frame)
    (hframe : s.host.registry.contains frame = true) (args : List Value) :
    Calls (.handle frame :: args) ((s.host.scripts.primary? slot).toList ++ s.host.scripts.hooksOf slot)
      (runSlot (runCallback script (depth + 1)) slot args) s := by
  obtain ⟨first, rest, hcalls, hfirst, hrest⟩ := calls_primary_then_hooks script depth slot args s
  rw [handle?_of_contains hslot hframe] at hfirst
  rw [handle?_of_contains hslot (contains_hooksDue hscript slot args hframe)] at hrest
  exact ⟨first ++ rest, hcalls, hfirst.append hrest⟩

theorem calls_runSlot {slot : Slot} (hslot : slot.frame = some frame)
    (hframe : s.host.registry.contains frame = true)
    (hp : s.host.scripts.primary? slot = some callback) (args : List Value) :
    Calls (.handle frame :: args) (callback :: s.host.scripts.hooksOf slot)
      (runSlot (runCallback script (depth + 1)) slot args) s := by
  have all : Calls _ _ (runSlot (runCallback script (depth + 1)) slot args) s :=
    calls_slot hscript hslot hframe args
  rwa [hp] at all

/-- **An update calls the primary callback, and then the hooks that are there when that has ended.** -/
theorem calls_updateFrame (hframe : s.host.registry.contains frame = true)
    (hp : s.host.scripts.primary? ⟨frame, .onUpdate⟩ = some callback)
    (hm : s.host.muted.get? frame ≠ some callback) (elapsed : Value) :
    Calls [.handle frame, elapsed]
      (callback :: (after
        (runPrimary (runCallback script (depth + 1)) ⟨frame, .onUpdate⟩ callback [elapsed])
        (reaching frame callback s)).host.scripts.hooksOf ⟨frame, .onUpdate⟩)
      (updateFrame (runCallback script (depth + 1)) elapsed frame) s := by
  let call := runCallback script (depth + 1)
  have begun : after (updateFrame call elapsed frame) s = after (do
      let fine ← runPrimary call ⟨frame, .onUpdate⟩ callback [elapsed]
      settle call elapsed frame callback fine) (reaching frame callback s) :=
    congrArg Prod.snd (run_updateFrame _ _ hp hm)
  have hlater : (after (runPrimary call ⟨frame, .onUpdate⟩ callback [elapsed])
      (reaching frame callback s)).host.registry.contains frame = true :=
    contains_after (runPrimary_keeps hscript callback [elapsed] _) hframe
  rw [Calls, begun]
  have primary := calls_runPrimary script depth ⟨frame, .onUpdate⟩ callback [elapsed]
    (reaching frame callback s)
  have reached : (reaching frame callback s).host.registry.contains frame = true := hframe
  rw [handle?_of_contains rfl reached] at primary
  exact primary.bind (calls_settle hlater elapsed _)

/-- **What the two ways to dispatch a slot call.** Both call the primary callback and then the hooks that
were in the slot, in the same order and with the same arguments; the update goes on with the hooks that the
primary callback has added to the slot meanwhile. -/
theorem slot_dispatched (depth : Nat) (s : Session) (frame : FrameId) (callback : String)
    (hframe : s.host.registry.contains frame = true)
    (hp : s.host.scripts.primary? ⟨frame, .onUpdate⟩ = some callback)
    (hm : s.host.muted.get? frame ≠ some callback) (elapsed : Value) :
    let call := runCallback script (depth + 1)
    let hooks := s.host.scripts.hooksOf ⟨frame, .onUpdate⟩
    let ended := after (runPrimary call ⟨frame, .onUpdate⟩ callback [elapsed]) (reaching frame callback s)
    Calls [.handle frame, elapsed] (callback :: hooks) (runSlot call ⟨frame, .onUpdate⟩ [elapsed]) s ∧
      ∃ added, ended.host.scripts.hooksOf ⟨frame, .onUpdate⟩ = hooks ++ added ∧
        Calls [.handle frame, elapsed] (callback :: (hooks ++ added)) (updateFrame call elapsed frame) s := by
  intro call hooks ended
  have kept : hooks <+: ended.host.scripts.hooksOf ⟨frame, .onUpdate⟩ :=
    hooks_prefix_after (runPrimary_keeps hscript callback [elapsed] (reaching frame callback s)) _
  obtain ⟨added, hadded⟩ := kept
  refine ⟨calls_runSlot hscript rfl hframe hp [elapsed], added, hadded.symm, ?_⟩
  rw [hadded]
  exact calls_updateFrame hscript hframe hp hm elapsed

end Dispatch

/-! ## A hook that does not wait -/

/-- Which callback was called, and what it raised. -/
def Call.ending : Call → String × Option String
  | .mk callback _ _ raised => (callback, raised)

/-- The callback `grow` adds a hook to the slot of the first frame for updates; all others do nothing. -/
def growing : Script := fun callback _ _ =>
  if callback = "grow" then
    { steps := [.frame (.slot (some 1) (.hookScript (.str "OnUpdate") (.callback "late")))] }
  else {}

/-- A frame with a hook for updates, whose primary callback adds another. -/
def grown : Session := runRootless growing
  [.frame (.create (.str "Frame") .null .none .null .null),
    .frame (.slot (some 1) (.hookScript (.str "OnUpdate") (.callback "early"))),
    .frame (.slot (some 1) (.setScript (.str "OnUpdate") (.callback "grow")))]

theorem growing_fits (callback : String) (count : Nat) (args : List Value) :
    ∀ c ∈ (growing callback count args).steps, c.fits true = true := by
  unfold growing
  split <;> decide

/-- What an update of the frame is to find. -/
theorem grown_ready : grown.host.registry.contains 1 = true ∧
    grown.host.scripts.primary? ⟨some 1, .onUpdate⟩ = some "grow" ∧
    grown.host.scripts.hooksOf ⟨some 1, .onUpdate⟩ = ["early"] ∧
    grown.host.muted.get? 1 ≠ some "grow" := by
  decide +kernel

/-- The frame is updated, and its slot is run. -/
theorem slot_dispatched_growing :
    Calls [.handle 1, .float 0.5] ["grow", "early"]
        (runSlot (caller growing) ⟨some 1, .onUpdate⟩ [.float 0.5]) grown ∧
      ∃ added, Calls [.handle 1, .float 0.5] ("grow" :: (["early"] ++ added))
        (updateFrame (caller growing) (.float 0.5) 1) grown := by
  obtain ⟨hframe, hp, hhooks, hm⟩ := grown_ready
  obtain ⟨hrun, added, -, hupdate⟩ :=
    slot_dispatched growing_fits 399 grown 1 "grow" hframe hp hm (.float 0.5)
  rw [hhooks] at hrun hupdate
  exact ⟨hrun, added, hupdate⟩

/-- **A hook that is added while an update dispatches its slot does not wait**: the update calls it at once,
and so it does not call what was in the slot when the dispatch began. -/
theorem not_dispatched_growing :
    ¬ Calls [.handle 1, .float 0.5] ("grow" :: grown.host.scripts.hooksOf ⟨some 1, .onUpdate⟩)
      (updateFrame (caller growing) (.float 0.5) 1) grown := by
  obtain ⟨-, -, hhooks, -⟩ := grown_ready
  rw [hhooks]
  rintro ⟨calls, hcalls, h⟩
  have made : (after (updateFrame (caller growing) (.float 0.5) 1) grown).calls.map Call.ending =
      [("grow", none), ("early", none), ("late", none)] := by decide +kernel
  have before : grown.calls = [] := calls_answerAll ..
  rw [hcalls, before, List.nil_append] at made
  cases h with
  | fine rest =>
    cases rest with
    | fine rest =>
      cases rest
      cases made
    | raised _ rest => cases made
  | raised => cases made

end Session

end FrameHost
