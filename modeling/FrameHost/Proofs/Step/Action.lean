import FrameHost.Proofs.Step.Frames

/-!
# Actions on frames go by steps

Every action on a frame is a few steps, with the callbacks that it tells in between. What an action
checks before it writes stands in the step.

* `withVisibility_goes`: a change of the tree and what it tells.
* `frameAction_goes`, `slotAction_goes`: the actions.
-/

namespace FrameHost.Session

open Act

variable {scope : Scope} {s : Session} {call : Caller}

/-! ## Writes -/

/-- How an operation ends that may have met a fault. -/
def ending : Option Fault → Except Fault Unit
  | none => .ok ()
  | some e => .error e

/-- A write into the frames. -/
theorem onRegistry_goes {g : Registry → Registry} (h : FrameStep s.host.registry (g s.host.registry)) :
    Goes scope (onRegistry g) s := .step fun _ => .framed h

/-- A frame begins or ceases to listen, and is noted. -/
theorem retune_goes {g : Registry → Registry} (h : EarStep s.host.registry (g s.host.registry)) :
    Goes scope (retune g) s := .step fun _ => .listened h

/-- A write into the anchors of a frame. -/
theorem tie_goes (id : FrameId) {g : Registry → Registry}
    (h : AnchorStep s.host.registry id (g s.host.registry)) : Goes scope (onRegistry g) s :=
  .step fun _ => .tied h

theorem tryRegistry_after (g : Registry → Registry × Option Fault) (s : Session) :
    after (tryRegistry g).run s =
      { s with host := { s.host with registry := (g s.host.registry).1 } } :=
  raise?_after (g s.host.registry).2 _

theorem tryRegistry_result (g : Registry → Registry × Option Fault) (s : Session) :
    result (tryRegistry g).run s = ending (g s.host.registry).2 := by
  change result (raise? (g s.host.registry).2).run _ = _
  cases (g s.host.registry).2 <;> rfl

/-- A write into the frames that may end in a fault. -/
theorem tryRegistry_goes {g : Registry → Registry × Option Fault}
    (h : FrameStep s.host.registry (g s.host.registry).1) : Attempt.Goes scope (tryRegistry g) s := by
  constructor
  refine .step fun tasks => ?_
  rw [tryRegistry_after]
  exact .framed h

/-! ## Links -/

theorem accepts_of_parentProblem? {r : Registry} {id p : FrameId} {f : Frame}
    (h : parentProblem? r id f p = none) : r.Accepts id f p := by
  unfold parentProblem? at h
  split at h
  · cases h
  split at h
  · cases h
  split at h
  · cases h
  rename_i hc hb hl
  simp only [Bool.or_eq_true, decide_eq_true_eq, not_or, Bool.not_eq_true] at hb
  refine ⟨by simpa using hc, hb.1, hb.2, fun hf => ?_⟩
  cases hw : r.wouldLoop id p with
  | false => rfl
  | true => exact absurd (by rw [hf, hw]; rfl) hl

theorem setParentKey_goes {id : FrameId} {f : Frame} (hf : s.host.registry.get? id = some f)
    (key : String) : Goes scope (setParentKey id f key) s := by
  unfold setParentKey
  refine registry_bind_goes ?_
  split
  · exact .pure _
  · rename_i parent hp
    have hp : f.parent = some parent := (Option.filter_eq_some_iff.1 hp).1
    exact Goes.bind (.step fun _ => .keyed key hf hp) (.pure _)

/-! ## Anchors -/

/-- Whether a frame may be tied is answered without a change, and truly. -/
theorem mayAnchor_yields (id : FrameId) (f : Frame) (relativeTo : Option FrameId) (s : Session) :
    (∀ tasks, (after (mayAnchor id f relativeTo) s).stage tasks = s.stage tasks) ∧
      (result (mayAnchor id f relativeTo) s = true →
        ∀ t, relativeTo.or f.parent = some t → s.host.registry.wouldLoop id t = false) := by
  unfold mayAnchor
  rw [after_registry_bind, result_registry_bind]
  cases ht : relativeTo.or f.parent with
  | none => exact ⟨fun _ => rfl, fun _ _ h => by cases h⟩
  | some t =>
    cases hw : s.host.registry.wouldLoop id t with
    | true =>
      dsimp only
      rw [hw]
      exact ⟨fun tasks => rfl, fun h => by cases h⟩
    | false =>
      dsimp only
      rw [hw]
      exact ⟨fun tasks => rfl, fun _ _ h => by cases h; exact hw⟩

theorem registry_mayAnchor (id : FrameId) (f : Frame) (relativeTo : Option FrameId) (s : Session) :
    (after (mayAnchor id f relativeTo) s).host.registry = s.host.registry :=
  congrArg Stage.registry ((mayAnchor_yields id f relativeTo s).1 [])

section SetPoint

variable {id : FrameId} {f : Frame} {point relativePoint x y : Value} {relativeTo : Option FrameId}
  {p q : AnchorPoint}

/-- Writes the anchor of a point, where points and frames are in order. -/
def writePoint (id : FrameId) (f : Frame) (relativeTo : Option FrameId) (p q : AnchorPoint)
    (x y : Value) : Attempt Bool := do
  if !(← mayAnchor id f relativeTo) then return false
  let anchor : Anchor := ⟨p, relativeTo, q, ← attempt x.toFloat, ← attempt y.toFloat⟩
  if (f.anchorAt? p).any anchor.agrees then return true
  onRegistry fun r => r.edit id fun f => { f with anchors := putAnchor anchor f.anchors }
  return true

theorem setPoint_run
    (hpoints : anchorPoints s.host.label id point relativePoint = .ok (p, q))
    (hc : ∀ t, relativeTo = some t → s.host.registry.contains t = true) :
    (setPoint id f point relativeTo relativePoint x y).run.run s =
      (writePoint id f relativeTo p q x y).run.run s := by
  have hpoints' : anchorPoints (result currentHost s).label id point relativePoint = .ok (p, q) :=
    hpoints
  unfold setPoint
  rw [run_lift_bind]
  dsimp only
  rw [hpoints']
  cases relativeTo with
  | none => rfl
  | some t =>
    have ht : (result currentHost s).registry.contains t = true := hc t rfl
    dsimp only
    rw [if_neg (by simp [ht])]
    rfl

theorem result_setPoint
    (hpoints : anchorPoints s.host.label id point relativePoint = .ok (p, q))
    (hc : ∀ t, relativeTo = some t → s.host.registry.contains t = true) :
    result (setPoint id f point relativeTo relativePoint x y).run s =
      result (writePoint id f relativeTo p q x y).run s :=
  congrArg (fun run => run.run.1) (setPoint_run hpoints hc)

theorem after_setPoint
    (hpoints : anchorPoints s.host.label id point relativePoint = .ok (p, q))
    (hc : ∀ t, relativeTo = some t → s.host.registry.contains t = true) :
    after (setPoint id f point relativeTo relativePoint x y).run s =
      after (writePoint id f relativeTo p q x y).run s :=
  congrArg (fun run => run.run.2) (setPoint_run hpoints hc)

/-- **An anchor is refused at once, unless its points and frames are in order.** -/
theorem setPoint_cases (id : FrameId) (f : Frame) (point : Value) (relativeTo : Option FrameId)
    (relativePoint x y : Value) (s : Session) :
    (result (setPoint id f point relativeTo relativePoint x y).run s = .ok false ∧
      ∃ log, after (setPoint id f point relativeTo relativePoint x y).run s = { s with log }) ∨
    ∃ p q, anchorPoints s.host.label id point relativePoint = .ok (p, q) ∧
      ∀ t, relativeTo = some t → s.host.registry.contains t = true := by
  unfold setPoint
  rw [result_lift_bind, after_lift_bind]
  dsimp only
  cases hpoints : anchorPoints s.host.label id point relativePoint with
  | error reason =>
    have hpoints' : anchorPoints (result currentHost s).label id point relativePoint = .error reason :=
      hpoints
    rw [hpoints']
    exact .inl ⟨rfl, _, rfl⟩
  | ok points =>
    have hpoints' : anchorPoints (result currentHost s).label id point relativePoint = .ok points :=
      hpoints
    by_cases hc : ∀ t, relativeTo = some t → s.host.registry.contains t = true
    · exact .inr ⟨_, _, rfl, hc⟩
    · obtain ⟨t, rfl, ht⟩ : ∃ t, relativeTo = some t ∧ ¬ s.host.registry.contains t = true := by
        simpa using hc
      have ht' : (!(result currentHost s).registry.contains t) = true :=
        Bool.not_eq_true' _ ▸ Bool.eq_false_iff.2 ht
      rw [hpoints']
      dsimp only
      rw [if_pos ht']
      exact .inl ⟨rfl, _, rfl⟩

theorem writePoint_goes (hf : s.host.registry.get? id = some f)
    (hc : ∀ t, relativeTo = some t → s.host.registry.contains t = true) (p q : AnchorPoint)
    (x y : Value) : Attempt.Goes scope (writePoint id f relativeTo p q x y) s := by
  unfold writePoint
  obtain ⟨hstill, hloop⟩ := mayAnchor_yields id f relativeTo s
  refine (Attempt.Goes.lift (.still hstill)).bind fun free hfree => ?_
  cases free with
  | false => exact .pure _
  | true =>
    refine (Attempt.Goes.attempt _).bind fun dx _ => (Attempt.Goes.attempt _).bind fun dy _ => ?_
    dsimp only
    split
    · exact .pure _
    · refine (Attempt.Goes.lift (tie_goes id ?_)).bind fun _ _ => .pure _
      change AnchorStep (after (mayAnchor id f relativeTo) s).host.registry id
        ((after (mayAnchor id f relativeTo) s).host.registry.edit id _)
      rw [registry_mayAnchor]
      exact .anchored ⟨p, relativeTo, q, dx, dy⟩ hf ⟨hc, hloop (Except.ok.inj hfree)⟩

theorem setPoint_goes (hf : s.host.registry.get? id = some f) (point : Value)
    (relativeTo : Option FrameId) (relativePoint x y : Value) :
    Attempt.Goes scope (setPoint id f point relativeTo relativePoint x y) s := by
  constructor
  rcases setPoint_cases id f point relativeTo relativePoint x y s with
    ⟨-, log, hafter⟩ | ⟨p, q, hpoints, hc⟩
  · exact .still fun _ => by rw [hafter]; rfl
  · constructor
    rw [after_setPoint hpoints hc]
    exact (writePoint_goes hf hc p q x y).run.steps

end SetPoint

theorem setAllPoints_goes {id : FrameId} {f : Frame} (hf : s.host.registry.get? id = some f)
    (relativeTo : Option FrameId) : Goes scope (setAllPoints id f relativeTo) s := by
  unfold setAllPoints
  refine registry_bind_goes ?_
  dsimp only
  split
  · exact .pure _
  · rename_i hc
    obtain ⟨hstill, hloop⟩ := mayAnchor_yields id f relativeTo s
    refine (Goes.still hstill).bind ?_
    cases hfree : result (mayAnchor id f relativeTo) s with
    | false => exact .pure _
    | true =>
      refine Goes.bind (tie_goes id ?_) (.pure _)
      rw [registry_mayAnchor]
      refine .pinned relativeTo hf ⟨fun t ht => ?_, hloop hfree⟩
      cases ht
      simpa using hc

theorem clearPoint_goes (id : FrameId) (f : Frame) (point : Value) (s : Session) :
    Goes scope (clearPoint id f point) s := by
  unfold clearPoint
  split
  · exact .pure _
  · split
    · exact Goes.bind (tie_goes id (.unpinned _)) (.pure _)
    · exact .pure _

theorem touch_goes (id : FrameId) (s : Session) : Goes scope (onRegistry fun r => r.touch id) s :=
  onRegistry_goes (.touched id)

theorem shiftPoints_goes {id : FrameId} {f : Frame} (hf : s.host.registry.get? id = some f)
    (dx dy : Value) : Attempt.Goes scope (shiftPoints id f dx dy) s := by
  have present : s.host.registry.contains id = true := congrArg Option.isSome hf
  have marked : (s.host.registry.touch id).dirty = true := by
    unfold Registry.touch
    rw [present]
    rfl
  unfold shiftPoints
  refine (Attempt.Goes.lift (touch_goes id s)).bind fun _ _ => ?_
  split
  · exact .pure _
  · refine (Attempt.Goes.attempt _).bind fun dx _ => ?_
    refine (Attempt.Goes.attempt _).bind fun dy _ => ?_
    exact Attempt.Goes.bind (.lift (tie_goes id (.shifted dx dy marked))) fun _ _ => .pure _

/-! ## Size, layer and level -/

theorem setStrata_goes (id : FrameId) (strata : Value) (s : Session) :
    Attempt.Goes scope (setStrata id strata) s := by
  unfold setStrata
  refine (Attempt.Goes.lift (touch_goes id s)).then fun _ s => ?_
  split
  · refine (Attempt.Goes.lift currentHost_goes).then fun _ s => ?_
    exact (Attempt.Goes.lift (say_goes _ _ _ _)).then fun _ _ => .pure _
  · rename_i layer hlayer
    have hs : layer ∈ Strata.order := by
      obtain ⟨h, he⟩ := Option.ite_none_right_eq_some.1 hlayer
      exact Option.some.inj he ▸ h
    exact (tryRegistry_goes (.layered id hs)).then fun _ _ => .pure _

theorem setLevel_goes (id : FrameId) (level : Value) (s : Session) :
    Attempt.Goes scope (setLevel id level) s := by
  unfold setLevel
  refine (Attempt.Goes.lift (touch_goes id s)).then fun _ s => ?_
  refine (Attempt.Goes.attempt _).then fun level s => ?_
  exact (tryRegistry_goes (.levelled id level)).then fun _ _ => .pure _

/-! ## Scripts and events -/

theorem hookScript_goes (frame : Option FrameId) (handler callback : Value) (s : Session) :
    Goes scope (hookScript frame handler callback) s := by
  unfold hookScript
  split
  · exact Goes.bind (.step fun _ => .hooked _ _) (.pure _)
  · exact currentHost_bind_goes ((say_goes _ _ _ _).then fun _ _ => .pure _)

theorem slotAction_goes (id : Option FrameId) (a : SlotAction) (s : Session) :
    Goes scope (slotAction id a) s := by
  cases a with
  | setScript handler callback => exact (setScript_goes _ _ _ _).map _
  | getScript handler => exact currentHost_bind_goes (.pure _)
  | hasScript handler => exact currentHost_bind_goes (.pure _)
  | hookScript handler callback => exact (hookScript_goes _ _ _ _).map _

theorem listen_goes (frame : FrameId) (event : String) (s : Session) :
    Goes scope (listen frame event) s := by
  unfold listen
  refine registry_bind_goes ?_
  split
  · refine (retune_goes (.listening frame event)).then fun _ s => ?_
    exact (say_goes _ _ _ _).then fun _ _ => .pure _
  · exact .pure _

/-! ## Actions -/

theorem absentAction_goes (id : Option FrameId) (a : FrameAction) (s : Session) :
    Goes scope (absentAction id a) s := by
  unfold absentAction
  split <;> first
    | exact .pure _
    | exact currentHost_bind_goes ((say_goes _ _ _ _).then fun _ _ => .pure _)

/-! ## What callbacks are told -/

variable (hcall : ∀ callback args s, Goes scope (call callback args) s)

include hcall

theorem notify_steps (frame : FrameId) (was : Bool) (rest : List (FrameId × Bool)) (s : Session)
    (tasks : List Task) :
    Steps scope (s.stage (.telling ((frame, was) :: rest) :: tasks))
      ((after (notify call frame was) s).stage (.telling rest :: tasks)) := by
  unfold notify
  rw [after_registry_bind]
  dsimp only
  split
  · rename_i hv
    refine .head ?_ ((runSlot_goes hcall ⟨frame, _⟩ [] _).steps _)
    exact .told rfl hv
  · rename_i hv
    exact .single (.untold rfl (Decidable.not_not.1 hv))

theorem notifyEach_steps (before : List (FrameId × Bool)) (s : Session) (tasks : List Task) :
    Steps scope (s.stage (.telling before :: tasks))
      ((after (before.forM fun e => (liftM (notify call e.1 e.2) : Attempt Unit)).run s).stage
        (.telling [] :: tasks)) := by
  induction before generalizing s with
  | nil => exact .refl
  | cons e before ih => exact (notify_steps hcall e.1 e.2 before s tasks).trans (ih _)

/-- A change of the tree goes by steps with what it tells. -/
theorem withVisibility_goes {id : FrameId} {change : Attempt Unit} {r : Registry}
    {fault : Option Fault} (h : TreeStep s.host.registry id r fault)
    (hresult : result change.run s = ending fault)
    (hafter : after change.run s = { s with host := { s.host with registry := r } }) :
    Attempt.Goes scope (withVisibility call id change) s := by
  constructor
  constructor
  intro tasks
  change Steps scope _ ((after (ExceptT.bindCont
    (fun _ => (s.host.registry.visibilities id).forM fun e => liftM (notify call e.1 e.2))
    (result change.run s)) (after change.run s)).stage tasks)
  rw [hresult, hafter]
  cases fault with
  | none =>
    refine .head ?_ ((notifyEach_steps hcall _ _ tasks).tail (.toldAll rfl))
    exact .changed h
  | some e => exact .single (.changedInPart h)

theorem setParent_goes {id : FrameId} {f : Frame} (hf : s.host.registry.get? id = some f)
    (parent : Option FrameId) : Attempt.Goes scope (setParent call id f parent) s := by
  unfold setParent
  refine (Attempt.Goes.lift registry_goes).bind fun r hr => ?_
  cases hr
  split
  · exact (Attempt.Goes.lift (say_goes _ _ _ _)).then fun _ _ => .pure _
  · rename_i hok
    split
    · exact .pure _
    · rename_i hne
      have accepted : ∀ p, parent = some p → s.host.registry.Accepts id f p := by
        rintro p rfl
        exact accepts_of_parentProblem? hok
      refine Attempt.Goes.bind ?_ fun _ _ => .pure _
      exact withVisibility_goes hcall (.moved hf accepted hne) (tryRegistry_result _ s)
        (tryRegistry_after _ s)

theorem resize_goes (id : FrameId) (f : Frame) (width height : Float) (s : Session) :
    Goes scope (resize call id f width height) s := by
  unfold resize
  split
  · exact .pure _
  · refine Goes.bind (onRegistry_goes (.resized id width height)) ?_
    exact (runSlot_goes hcall _ _ _).then fun _ _ => .pure _

theorem setSize_goes (id : FrameId) (f : Frame) (width height : Value) (s : Session) :
    Attempt.Goes scope (setSize call id f width height) s := by
  unfold setSize
  refine (Attempt.Goes.attempt _).then fun width s => ?_
  refine (Attempt.Goes.attempt _).then fun height s => ?_
  exact .lift (resize_goes hcall id f width height s)

theorem setShown_goes {id : FrameId} {f : Frame} (hf : s.host.registry.get? id = some f)
    (shown : Bool) : Attempt.Goes scope (setShown call id f shown) s := by
  unfold setShown
  split
  · exact .pure _
  · rename_i hv
    refine Attempt.Goes.bind ?_ fun _ _ => .pure _
    exact withVisibility_goes hcall (.shown hf hv) rfl rfl

theorem setAttribute_goes (id : FrameId) (name : String) (value : Value) (s : Session) :
    Goes scope (setAttribute call id name value) s := by
  unfold setAttribute
  refine Goes.bind (onRegistry_goes (.attributed id name _)) ?_
  exact (runSlot_goes hcall _ _ _).then fun _ _ => .pure _

theorem presentAction_goes {id : FrameId} {f : Frame} (hf : s.host.registry.get? id = some f)
    (a : FrameAction) : Attempt.Goes scope (presentAction call id f a) s := by
  cases a with
  | getName | getType | getParent | childByKey | countPoints | getPoint | isShown | getStrata
  | getLevel | getAttribute | isEventRegistered => exact .pure _
  | getChildren | getRegions | getParentKey | getWidth | getHeight | getSize | isVisible =>
    exact (Attempt.Goes.lift registry_goes).then fun _ _ => .pure _
  | getRect =>
    refine (Attempt.Goes.lift currentHost_goes).then fun _ _ => ?_
    exact (Attempt.Goes.attempt _).then fun _ _ => .pure _
  | setParent parent =>
    refine (Attempt.Goes.lift registry_goes).bind fun r hr => ?_
    cases hr
    exact (setParent_goes hcall hf _).then fun _ _ => .pure _
  | setParentKey key => exact (Attempt.Goes.lift (setParentKey_goes hf key)).then fun _ _ => .pure _
  | setPoint point relativeTo relativePoint x y =>
    refine (Attempt.Goes.lift registry_goes).bind fun r hr => ?_
    cases hr
    exact (setPoint_goes hf _ _ _ _ _).then fun _ _ => .pure _
  | setAllPoints relativeTo =>
    refine (Attempt.Goes.lift registry_goes).bind fun r hr => ?_
    cases hr
    exact (Attempt.Goes.lift (setAllPoints_goes hf _)).then fun _ _ => .pure _
  | clearAllPoints =>
    exact Attempt.Goes.bind (.lift (tie_goes id .unanchored)) fun _ _ => .pure _
  | clearPoint point =>
    exact (Attempt.Goes.lift (clearPoint_goes _ _ _ _)).then fun _ _ => .pure _
  | shiftPoints dx dy => exact (shiftPoints_goes hf _ _).then fun _ _ => .pure _
  | setSize | setWidth | setHeight =>
    exact (setSize_goes hcall _ _ _ _ _).then fun _ _ => .pure _
  | setShown shown => exact (setShown_goes hcall hf _).then fun _ _ => .pure _
  | setStrata strata => exact (setStrata_goes _ _ _).then fun _ _ => .pure _
  | setLevel level => exact (setLevel_goes _ _ _).then fun _ _ => .pure _
  | setAttribute name value =>
    exact (Attempt.Goes.lift (setAttribute_goes hcall _ _ _ _)).then fun _ _ => .pure _
  | setFlag flag value =>
    exact Attempt.Goes.bind (.lift (onRegistry_goes (.flagged id flag _))) fun _ _ => .pure _
  | registerEvent event => exact (Attempt.Goes.lift (listen_goes _ _ _)).then fun _ _ => .pure _
  | unregisterEvent event =>
    exact Attempt.Goes.bind (.lift (retune_goes (.deaf id event))) fun _ _ => .pure _
  | registerAllEvents =>
    exact Attempt.Goes.bind (.lift (retune_goes (.listeningToAll id))) fun _ _ => .pure _
  | unregisterAllEvents =>
    exact Attempt.Goes.bind (.lift (retune_goes (.deafToAll id))) fun _ _ => .pure _

theorem frameAction_goes (id : Option FrameId) (a : FrameAction) (s : Session) :
    Attempt.Goes scope (frameAction call id a) s := by
  unfold frameAction
  refine (Attempt.Goes.lift registry_goes).bind fun r hr => ?_
  cases hr
  split
  · rename_i hf
    exact presentAction_goes hcall hf a
  · exact .lift (absentAction_goes _ _ _)

theorem handleAction_goes (id : FrameId) (a : FrameAction) (s : Session) :
    Attempt.Goes scope (handleAction call id a) s := by
  unfold handleAction
  refine (frameAction_goes hcall _ _ _).then fun reply s => ?_
  split
  · exact (Attempt.Goes.lift currentHost_goes).then fun _ _ => .pure _
  · exact .pure _

end FrameHost.Session
