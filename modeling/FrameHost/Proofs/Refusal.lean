import FrameHost.Proofs.Visibility

/-!
# Refused changes

An action on a frame checks what it is asked before it writes. So one that is refused, or that fails on a
value that is no number, leaves no trace but in the log. Some actions mark the registry for painters before
they check; then the mark is left.

* `Session.Unmoved`: what is left alone.
* `Session.Spared`: an operation that leaves that alone when it is refused, or when it fails.
* `Session.presentAction_spared`, `Session.absentAction_spared`: every action is one.
* `Session.Ran.spared`: **whenever the host of a run is met, an action that is refused or fails leaves no
  trace**.
-/

namespace FrameHost

/-- Whether an action fixes a layer. This is the one that may be refused after it has left a mark. -/
def FrameAction.fixesStrata : FrameAction → Bool
  | .setStrata _ => true
  | _ => false

namespace Session

open Act

variable {α β : Type} {s t u : Session} {call : Caller} {marked : Bool} {id : FrameId} {f : Frame}

/-- A session is as it was, but for its log and, if `marked`, the mark for painters. -/
def Unmoved (marked : Bool) (s t : Session) : Prop := ∃ log dirty,
  (marked = false → dirty = s.host.registry.dirty) ∧
    t = { s with log, host := { s.host with registry := { s.host.registry with dirty } } }

/-- An act leaves a session as it was, but for its log, when it answers `no`. -/
structure Refuses (m : Act α) (no : α) (s : Session) : Prop where
  refused : result m s = no → Unmoved false s (after m s)

/-- An operation leaves a session as it was, but for its log and perhaps the mark for painters, when it
answers `no` or fails. When it answers `no`, a mark is left only if `marked`. -/
structure Spared (marked : Bool) (m : Attempt α) (no : α) (s : Session) : Prop where
  refused : result m.run s = .ok no → Unmoved marked s (after m.run s)
  failed : ∀ e, result m.run s = .error e → Unmoved true s (after m.run s)

/-! ## What is left alone -/

theorem Unmoved.logged (s : Session) (log : Log) : Unmoved marked s { s with log } :=
  ⟨log, s.host.registry.dirty, fun _ => rfl, rfl⟩

theorem Unmoved.refl (s : Session) : Unmoved marked s s := .logged s s.log

theorem Unmoved.trans (h : Unmoved marked s t) (h' : Unmoved marked t u) : Unmoved marked s u := by
  obtain ⟨log, dirty, hd, rfl⟩ := h
  obtain ⟨log', dirty', hd', rfl⟩ := h'
  exact ⟨log', dirty', fun hm => (hd' hm).trans (hd hm), rfl⟩

/-- A mark may be left where none is. -/
theorem Unmoved.mark (h : Unmoved false s t) : Unmoved marked s t := by
  obtain ⟨log, dirty, hd, rfl⟩ := h
  exact ⟨log, dirty, fun _ => hd rfl, rfl⟩

theorem Unmoved.touch (id : FrameId) (s : Session) :
    Unmoved true s (after (onRegistry fun r => r.touch id) s) := by
  have touched : ∃ dirty, s.host.registry.touch id = { s.host.registry with dirty } := by
    unfold Registry.touch
    split
    · exact ⟨true, rfl⟩
    · exact ⟨s.host.registry.dirty, rfl⟩
  obtain ⟨dirty, hd⟩ := touched
  refine ⟨s.log, dirty, (fun h => by cases h), ?_⟩
  rw [← hd]
  rfl

/-! ## Operations that can be refused -/

variable {no : α}

namespace Refuses

theorem pure (a : α) : Refuses (pure a) no s := ⟨fun _ => .refl s⟩

/-- What answers something else was not refused. -/
theorem of_eq {m : Act α} {a : α} (h : result m s = a) (hne : a ≠ no) : Refuses m no s :=
  ⟨fun hno => absurd (h.symm.trans hno) hne⟩

/-- An act that begins by looking at the frames. -/
theorem look {f : Registry → Act α} (hf : Refuses (f s.host.registry) no s) :
    Refuses (registry >>= f) no s := ⟨hf.refused⟩

/-- An act that begins with what leaves no trace. -/
theorem bind {m : Act β} {f : β → Act α} (hm : Unmoved false s (after m s))
    (hf : Refuses (f (result m s)) no (after m s)) : Refuses (m >>= f) no s :=
  ⟨fun hno => hm.trans (hf.refused hno)⟩

end Refuses

namespace Spared

theorem pure (a : α) : Spared marked (pure a) no s := ⟨fun _ => .refl s, fun _ _ => .refl s⟩

theorem throw (e : Fault) : Spared marked (throw e : Attempt α) no s :=
  ⟨fun _ => .refl s, fun _ _ => .refl s⟩

/-- What answers something else was not refused. -/
theorem of_ok {m : Attempt α} {a : α} (h : result m.run s = .ok a) (hne : a ≠ no) :
    Spared marked m no s where
  refused := fun hno => absurd (Except.ok.inj (h.symm.trans hno)) hne
  failed := fun e he => by cases h.symm.trans he

/-- What is never refused, and fails before it writes. -/
theorem of_failed {m : Attempt α} {a : α} (hne : a ≠ no)
    (h : result m.run s = .ok a ∨
      (∃ e, result m.run s = .error e) ∧ Unmoved true s (after m.run s)) : Spared marked m no s := by
  rcases h with h | ⟨⟨e, he⟩, hm⟩
  · exact of_ok h hne
  · exact ⟨(fun hno => by cases he.symm.trans hno), fun _ _ => hm⟩

theorem lift {m : Act α} (h : Refuses m no s) : Spared false (liftM m : Attempt α) no s where
  refused := fun hno => h.refused (Except.ok.inj hno)
  failed := fun _ he => by cases he

/-- An operation that begins with a question. -/
theorem ask {m : Act β} {f : β → Attempt α} (hm : after m s = s)
    (hf : ∀ b, result m s = b → Spared marked (f b) no s) :
    Spared marked ((liftM m : Attempt β) >>= f) no s := by
  have hafter : after ((liftM m : Attempt β) >>= f).run s = after (f (result m s)).run s :=
    congrArg (after (f (result m s)).run) hm
  have hresult : result ((liftM m : Attempt β) >>= f).run s = result (f (result m s)).run s :=
    congrArg (result (f (result m s)).run) hm
  constructor
  case refused => rw [hafter, hresult]; exact (hf _ rfl).refused
  case failed => rw [hafter, hresult]; exact (hf _ rfl).failed

/-- An operation that begins with what leaves no trace. -/
theorem bind {m : Act β} {f : β → Attempt α} (hm : Unmoved false s (after m s))
    (hf : Spared marked (f (result m s)) no (after m s)) :
    Spared marked ((liftM m : Attempt β) >>= f) no s where
  refused := fun hno => hm.mark.trans (hf.refused hno)
  failed := fun e he => hm.mark.trans (hf.failed e he)

theorem attempt_bind {x : Except Fault β} {f : β → Attempt α} (hf : ∀ b, Spared marked (f b) no s) :
    Spared marked (attempt x >>= f) no s := by
  cases x with
  | error e => exact throw e
  | ok b => exact hf b

/-- A refusal may leave a mark where it leaves none. -/
theorem mark {m : Attempt α} (h : Spared false m no s) : Spared marked m no s :=
  ⟨fun hno => (h.refused hno).mark, h.failed⟩

/-- An answer that is given as a reply. -/
theorem reply {m : Attempt Bool} (h : Spared marked m false s) :
    Spared marked (m >>= fun b => Pure.pure (said b)) (said false) s := by
  constructor
  case refused =>
    rw [result_bind_pure, after_bind_pure]
    cases hm : result m.run s with
    | error e => exact fun h => by cases h
    | ok b =>
      cases b with
      | true => exact fun h => by cases h
      | false => exact fun _ => h.refused hm
  case failed =>
    intro e
    rw [result_bind_pure, after_bind_pure]
    cases hm : result m.run s with
    | error e' => exact fun _ => h.failed e' hm
    | ok b => exact fun h => by cases h

end Spared

/-! ## Hierarchy and visibility -/

theorem tryRegistry_ok {g : Registry → Registry × Option Fault} (h : (g s.host.registry).2 = none) :
    result (tryRegistry g).run s = .ok () := by
  rw [tryRegistry_result, h]
  rfl

/-- What is done at the end of an operation that then answers that it was not refused. -/
theorem result_done {m : Attempt Unit} (h : result m.run s = .ok ()) :
    result (m >>= fun _ => pure true).run s = .ok true := by
  rw [result_bind_pure, h]
  rfl

/-- A change that meets no fault ends well, whatever callbacks do that are told of it. -/
theorem withVisibility_result {change : Attempt Unit} (h : result change.run s = .ok ()) :
    result (withVisibility call id change).run s = .ok () := by
  have told (before : List (FrameId × Bool)) (s : Session) :
      result (before.forM fun e => (liftM (notify call e.1 e.2) : Attempt Unit)).run s = .ok () := by
    induction before generalizing s with
    | nil => rfl
    | cons e before ih => exact ih _
  change result (ExceptT.bindCont
    (fun _ => (s.host.registry.visibilities id).forM fun e => liftM (notify call e.1 e.2))
    (result change.run s)) (after change.run s) = _
  rw [h]
  exact told _ _

theorem setParent_spared (hr : s.host.registry.Linked) (hf : s.host.registry.get? id = some f)
    (parent : Option FrameId) : Spared false (setParent call id f parent) false s := by
  unfold setParent
  refine .ask rfl fun r hreg => ?_
  cases hreg
  split
  · exact .bind (.logged ..) (.pure _)
  · rename_i hok
    split
    · exact .pure _
    · rename_i hne
      have moved : TreeStep s.host.registry id (s.host.registry.moveTo id parent).1
          (s.host.registry.moveTo id parent).2 :=
        .moved hf (fun p hp => by subst hp; exact accepts_of_parentProblem? hok) hne
      have changed : result (tryRegistry fun r => r.moveTo id parent).run s = .ok () :=
        tryRegistry_ok (moved.fault_eq_none hr)
      exact .of_ok (result_done (withVisibility_result changed)) (by decide)

theorem setShown_spared (shown : Bool) : Spared false (setShown call id f shown) false s := by
  unfold setShown
  split
  · exact .pure _
  · exact .of_ok (result_done (withVisibility_result rfl)) (by decide)

theorem setParentKey_refuses (key : String) : Refuses (setParentKey id f key) false s := by
  unfold setParentKey
  refine .look ?_
  split
  · exact .pure _
  · exact .of_eq (a := true) rfl (by decide)

/-! ## Anchors -/

theorem mayAnchor_unmoved (id : FrameId) (f : Frame) (relativeTo : Option FrameId) (s : Session) :
    Unmoved false s (after (mayAnchor id f relativeTo) s) := by
  unfold mayAnchor
  rw [after_registry_bind]
  split
  · exact .refl s
  · split
    · exact .logged ..
    · exact .refl s

theorem writePoint_spared (relativeTo : Option FrameId) (p q : AnchorPoint) (x y : Value) :
    Spared false (writePoint id f relativeTo p q x y) false s := by
  unfold writePoint
  refine .bind (mayAnchor_unmoved id f relativeTo s) ?_
  cases result (mayAnchor id f relativeTo) s with
  | false => exact .pure _
  | true =>
    refine .attempt_bind fun dx => .attempt_bind fun dy => ?_
    dsimp only
    split
    · exact .pure _
    · exact .of_ok rfl (by decide)

theorem setPoint_spared (point : Value) (relativeTo : Option FrameId) (relativePoint x y : Value) :
    Spared false (setPoint id f point relativeTo relativePoint x y) false s := by
  rcases setPoint_cases id f point relativeTo relativePoint x y s with
    ⟨hresult, log, hafter⟩ | ⟨p, q, hpoints, hc⟩
  · exact ⟨fun _ => hafter ▸ .logged s log, fun e he => by cases hresult.symm.trans he⟩
  · have spared : Spared false (writePoint id f relativeTo p q x y) false s :=
      writePoint_spared relativeTo p q x y
    constructor
    case refused => rw [result_setPoint hpoints hc, after_setPoint hpoints hc]; exact spared.refused
    case failed => rw [result_setPoint hpoints hc, after_setPoint hpoints hc]; exact spared.failed

theorem setAllPoints_refuses (relativeTo : Option FrameId) :
    Refuses (setAllPoints id f relativeTo) false s := by
  unfold setAllPoints
  refine .look ?_
  dsimp only
  split
  · exact .pure _
  · refine .bind (mayAnchor_unmoved id f relativeTo s) ?_
    cases result (mayAnchor id f relativeTo) s with
    | false => exact .pure _
    | true => exact .of_eq (a := true) rfl (by decide)

theorem clearPoint_refuses (point : Value) : Refuses (clearPoint id f point) false s := by
  unfold clearPoint
  split
  · exact .pure _
  · split
    · exact .of_eq (a := true) rfl (by decide)
    · exact .pure _

theorem shiftPoints_spared (dx dy : Value) : Spared false (shiftPoints id f dx dy) false s := by
  refine .of_failed (a := true) (by decide) ?_
  unfold shiftPoints
  cases f.anchors.isEmpty with
  | true => exact .inl rfl
  | false =>
    cases dx.number with
    | error e => exact .inr ⟨⟨e, rfl⟩, .touch id s⟩
    | ok dx =>
      cases dy.number with
      | error e => exact .inr ⟨⟨e, rfl⟩, .touch id s⟩
      | ok dy => exact .inl rfl

/-! ## Sizes, layers and levels -/

theorem resize_refuses (width height : Float) : Refuses (resize call id f width height) false s := by
  unfold resize
  split
  · exact .pure _
  · exact .of_eq (a := true) rfl (by decide)

theorem setSize_spared (width height : Value) :
    Spared false (setSize call id f width height) false s := by
  unfold setSize
  exact .attempt_bind fun width => .attempt_bind fun height => .lift (resize_refuses width height)

/-- Among linked frames, what is below a frame settles without a fault. -/
theorem settleDescendants_eq_none {r : Registry} (hr : r.Linked) {g : Frame → Frame}
    (hg : ∀ f, (g f).links = f.links) : ((r.edit id g).settleDescendants id).2 = none :=
  have hedited : (r.edit id g).Linked := hr.of_alike (Registry.alike_edit id hg)
  Registry.settleAll_eq_none fun _ => hedited.contains_of_mem_descendants

theorem setStrata_spared (hr : s.host.registry.Linked) (strata : Value) :
    Spared true (setStrata id strata) false s := by
  have touched : (s.host.registry.touch id).Linked := hr.of_alike (Registry.alike_touch id)
  unfold setStrata
  cases Strata.ofValue? strata with
  | none => exact ⟨fun _ => (Unmoved.touch id s).trans (.logged ..), fun e he => by cases he⟩
  | some layer =>
    have settled : result (tryRegistry fun r => r.fixStrata id layer).run
        (after (onRegistry fun r => r.touch id) s) = .ok () :=
      tryRegistry_ok (settleDescendants_eq_none touched fun _ => rfl)
    exact .of_ok (a := true) (result_done settled) (by decide)

theorem setLevel_spared (hr : s.host.registry.Linked) (level : Value) :
    Spared false (setLevel id level) false s := by
  have touched : (s.host.registry.touch id).Linked := hr.of_alike (Registry.alike_touch id)
  refine .of_failed (a := true) (by decide) ?_
  unfold setLevel
  cases level.toInt with
  | error e => exact .inr ⟨⟨e, rfl⟩, .touch id s⟩
  | ok level =>
    have settled : result (tryRegistry fun r => r.fixLevel id level).run
        (after (onRegistry fun r => r.touch id) s) = .ok () :=
      tryRegistry_ok (settleDescendants_eq_none touched fun _ => rfl)
    exact .inl (result_done settled)

theorem listen_refuses (frame : FrameId) (event : String) : Refuses (listen frame event) false s := by
  unfold listen
  refine .look ?_
  split
  · exact .of_eq (a := true) rfl (by decide)
  · exact .pure _

/-! ## Actions -/

/-- An action on a frame that is there. -/
theorem result_frameAction (hf : s.host.registry.get? id = some f) (a : FrameAction) :
    result (frameAction call (some id) a).run s = result (presentAction call id f a).run s := by
  have hat : (result registry s).at? (some id) = some f := hf
  unfold frameAction
  rw [result_lift_bind, hat]
  rfl

theorem after_frameAction (hf : s.host.registry.get? id = some f) (a : FrameAction) :
    after (frameAction call (some id) a).run s = after (presentAction call id f a).run s := by
  have hat : (result registry s).at? (some id) = some f := hf
  unfold frameAction
  rw [after_lift_bind, hat]
  rfl

/-- A truth value that is given as a reply is the one that was found. -/
theorem said_iff {m : Attempt Bool} {b : Bool} :
    result (m >>= fun b => pure (said b)).run s = .ok (said b) ↔ result m.run s = .ok b := by
  rw [result_bind_pure]
  cases result m.run s with
  | error e => exact ⟨nofun, nofun⟩
  | ok c =>
    constructor
    · intro h
      cases h
      rfl
    · rintro ⟨⟩
      rfl

/-- What an action answers that looks at the frames and says what an operation finds. -/
theorem asked_iff {m : Registry → Attempt Bool} {b : Bool} :
    result (do return said (← m (← registry)) : Attempt Reply).run s = .ok (said b) ↔
      result (m s.host.registry).run s = .ok b := by
  rw [result_lift_bind]
  exact said_iff

theorem said_true_ne : said true ≠ said false := fun h => by cases h

theorem absentAction_spared (id : Option FrameId) (a : FrameAction) :
    Spared false (liftM (absentAction id a)) (said false) s := by
  refine .lift ?_
  unfold absentAction
  split <;> first
    | exact .pure _
    | exact .bind (.refl s) (.bind (.logged ..) (.pure _))

/-- **An action on a frame that is refused or fails leaves no trace**, if the frames are linked. -/
theorem presentAction_spared (hr : s.host.registry.Linked) (hf : s.host.registry.get? id = some f)
    (a : FrameAction) : Spared a.fixesStrata (presentAction call id f a) (said false) s := by
  cases a with
  | getName | getType | getParent | childByKey | countPoints | getPoint | isShown | getStrata
  | getLevel | getAttribute | isEventRegistered => exact .pure _
  | getChildren | getRegions | getParentKey | getWidth | getHeight | getSize | isVisible =>
    exact .ask rfl fun _ _ => .pure _
  | getRect => exact .ask rfl fun _ _ => .attempt_bind fun _ => .pure _
  | setParent parent => exact .ask rfl fun _ _ => .reply (setParent_spared hr hf _)
  | setParentKey key => exact .reply (.lift (setParentKey_refuses key))
  | setPoint => exact .ask rfl fun _ _ => .reply (setPoint_spared _ _ _ _ _)
  | setAllPoints => exact .ask rfl fun _ _ => .reply (.lift (setAllPoints_refuses _))
  | clearPoint point => exact .reply (.lift (clearPoint_refuses point))
  | shiftPoints dx dy => exact .reply (shiftPoints_spared dx dy)
  | setSize | setWidth | setHeight => exact .reply (setSize_spared _ _)
  | setShown shown => exact .reply (setShown_spared _)
  | setStrata strata => exact .reply (setStrata_spared hr strata)
  | setLevel level => exact .reply (setLevel_spared hr level)
  | registerEvent event => exact .reply (.lift (listen_refuses id event))
  | clearAllPoints | setFlag | unregisterEvent | registerAllEvents | unregisterAllEvents =>
    exact .of_ok rfl said_true_ne
  | setAttribute name value => exact .of_ok rfl said_true_ne

theorem frameAction_spared (hr : s.host.registry.Linked) (id : Option FrameId) (a : FrameAction) :
    Spared (a.fixesStrata && (s.host.registry.at? id).isSome) (frameAction call id a) (said false)
      s := by
  unfold frameAction
  refine .ask rfl fun r hreg => ?_
  cases hreg
  split
  · rename_i id f hf
    have hat : s.host.registry.at? (some id) = some f := hf
    rw [hat, Option.isSome_some, Bool.and_true]
    exact presentAction_spared hr hf a
  · exact .mark (absentAction_spared _ a)

/-- **Whenever the host of a run is met, an action on a frame that is refused or fails leaves no trace**, but
in the log: no callback runs, and nothing of the host has changed but perhaps the mark for painters. That
mark is left by a refusal only where a layer was to be fixed of a frame that is there. -/
theorem Ran.spared (h : s.Ran false) {host : Host} (hm : s.Met host) (ht : t.host = host)
    (call : Caller) (id : Option FrameId) (a : FrameAction) :
    Spared (a.fixesStrata && (host.registry.at? id).isSome) (frameAction call id a) (said false) t := by
  have linked : host.registry.Linked := h.met Stage.ordered_fresh (fun _ _ h hσ => h.ordered hσ)
    (fun _ _ hs hσ => hs.registry ▸ hσ.linked) hm
  subst ht
  exact frameAction_spared linked id a

/-- A frame is made, and another one that is not there is to be shown. -/
theorem spared_runRootless :
    let s := runRootless idle [.frame (.create (.str "Frame") .null .none .null .null)]
    let m := frameAction (caller idle) (some 7) (.setShown (.bool true))
    s.Ran false ∧ result m.run s = .ok (said false) ∧ Spared false m (said false) s := by
  intro s m
  have ran : s.Ran false := ran_idle (by decide)
  have habsent : s.host.registry.contains 7 = false := by decide +kernel
  refine ⟨ran, ?_, Ran.spared ran .last rfl (caller idle) (some 7) (.setShown (.bool true))⟩
  have hat : (result registry s).at? (some 7) = none :=
    Option.not_isSome_iff_eq_none.1 (Bool.eq_false_iff.1 habsent)
  clear_value s
  unfold m frameAction
  rw [result_lift_bind, hat]
  rfl

end Session

end FrameHost
