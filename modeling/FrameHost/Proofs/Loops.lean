import FrameHost.Proofs.AnchorGraph
import FrameHost.Proofs.Refusal

/-!
# Exactly the writes that would make a loop are refused

Before an anchor or a parent is written, a walk looks for the frame among what it would come to need, or to
be under. The walk goes over the edges as they are before the write, those of the frame that are about to be
replaced among them. That does no harm: a path that leads to the frame comes to it before it could leave it
again, so it is there after the write as well, and the new edge closes it.

* `Graph.loops_redirect_iff`: what turning the edges of one node closes.
* `Registry.Loops`: the parents or the anchors make a loop.
* `Registry.loops_edit_iff`, `Registry.loops_moveTo_iff`: what a write closes.
* `Session.Ran.loops_refused`: **the walk finds what leads back, and a write is refused exactly if it would
  make a loop**.
-/

namespace FrameHost

open Relation

/-! ## Turning the edges of a node -/

namespace Graph

variable {α : Type} {E E' : α → α → Prop} {a t x : α}

/-- **A node that is turned to another closes a loop exactly if that one led to it before.** -/
theorem loops_redirect_iff (hoff : ∀ x y, x ≠ a → (E' x y ↔ E x y)) (ht : E' a t)
    (hon : ∀ y, E' a y → E a y ∨ y = t) (h : ∀ x, Grounded E x) :
    (∃ x, TransGen E' x x) ↔ ReflTransGen E t a := by
  constructor
  · rintro ⟨x, hx⟩
    refine Classical.byContradiction fun hta => ?_
    have grounded : ∀ x, Grounded E' x :=
      grounded_redirect (fun x y hxa => (hoff x y hxa).1)
        (fun y hy => (hon y hy).imp_right fun (hyt : y = t) => hyt ▸ hta) h
    exact (grounded x).not_transGen hx
  · intro hta
    have back : ReflTransGen E' t a := reach_of_off (fun x y hxa => (hoff x y hxa).2) hta
    exact ⟨a, .head' ht back⟩

end Graph

/-! ## What a write closes -/

namespace Registry

variable {r : Registry} {id : FrameId} {f : Frame} {g : Frame → Frame}

/-- The parents or the anchors make a loop. -/
inductive Loops (r : Registry) : Prop
  | parents {id : FrameId} (h : TransGen r.Under id id)
  | anchors {id : FrameId} (h : TransGen r.Needs id id)

theorem loops_iff : r.Loops ↔ (∃ id, TransGen r.Under id id) ∨ ∃ id, TransGen r.Needs id id := by
  constructor
  · rintro (⟨h⟩ | ⟨h⟩)
    · exact .inl ⟨_, h⟩
    · exact .inr ⟨_, h⟩
  · rintro (⟨_, h⟩ | ⟨_, h⟩)
    · exact .parents h
    · exact .anchors h

/-- Among linked frames, the parents make no loop. -/
theorem Linked.not_under_loops (h : r.Linked) : ¬ ∃ id, TransGen r.Under id id :=
  fun ⟨id, hid⟩ => (h.grounded id).not_transGen hid

theorem needs_update_of_ne {x y : FrameId} (hx : x ≠ id) :
    (r.update id g).Needs x y ↔ r.Needs x y := by
  rw [needs_iff, needs_iff, get?_update_of_ne hx]

theorem needs_update_self {y : FrameId} (hf : r.get? id = some f) :
    (r.update id g).Needs id y ↔ y ∈ (g f).anchorTargets := by
  rw [needs_iff, get?_update, if_pos (beq_self_eq_true id), hf, Frame.mem_anchorTargets]
  simp

/-- **What the anchors of a frame close** that are changed to be tied to a frame, or to none that they were
not tied to before. -/
theorem needs_loops_update_iff (target : Option FrameId) (h : ∀ x, Graph.Grounded r.Needs x)
    (hf : r.get? id = some f) (htied : ∀ t, target = some t → t ∈ (g f).anchorTargets)
    (hnew : ∀ y ∈ (g f).anchorTargets, y ∈ f.anchorTargets ∨ target = some y) :
    (∃ x, TransGen (r.update id g).Needs x x) ↔ ∃ t, target = some t ∧ r.wouldLoop id t = true := by
  have kept {y : FrameId} (hy : y ∈ f.anchorTargets) : r.Needs id y :=
    needs_iff.2 ⟨f, hf, Frame.mem_anchorTargets.1 hy⟩
  cases target with
  | none =>
    have grounded : ∀ x, Graph.Grounded (r.update id g).Needs x :=
      grounded_update h fun f' y hf' hy => by
        cases hf.symm.trans hf'
        exact .inl (kept ((hnew y hy).resolve_right (by simp)))
    constructor
    · exact fun ⟨x, hx⟩ => absurd hx (grounded x).not_transGen
    · exact fun ⟨t, ht, _⟩ => by cases ht
  | some t =>
    have closes : (∃ x, TransGen (r.update id g).Needs x x) ↔ ReflTransGen r.Needs t id := by
      refine Graph.loops_redirect_iff (fun x y hx => needs_update_of_ne hx)
        ((needs_update_self hf).2 (htied t rfl)) (fun y hy => ?_) h
      exact (hnew y ((needs_update_self hf).1 hy)).imp kept fun he => (Option.some.inj he).symm
    rw [closes, ← wouldLoop_iff]
    exact ⟨fun hw => ⟨t, rfl, hw⟩, fun ⟨_, ht, hw⟩ => Option.some.inj ht ▸ hw⟩

/-- **What an anchor closes** that is written for a frame. -/
theorem loops_edit_iff (target : Option FrameId) (hr : r.Linked) (h : ∀ x, Graph.Grounded r.Needs x)
    (hf : r.get? id = some f) (hplace : ∀ f, (g f).links = f.links)
    (htied : ∀ t, target = some t → t ∈ (g f).anchorTargets)
    (hnew : ∀ y ∈ (g f).anchorTargets, y ∈ f.anchorTargets ∨ target = some y) :
    (r.edit id g).Loops ↔ ∃ t, target = some t ∧ r.wouldLoop id t = true := by
  have linked : (r.edit id g).Linked := hr.of_alike (alike_edit id hplace)
  have hneeds : (r.edit id g).Needs = (r.update id g).Needs :=
    Alike.needs (alike_update_edit id g)
  rw [loops_iff, or_iff_right linked.not_under_loops, hneeds,
    needs_loops_update_iff target h hf htied hnew]

/-- What the parents close when a frame is moved. -/
theorem under_loops_moveTo_iff {p : FrameId} (hr : r.Linked) (hid : r.contains id = true) :
    (∃ x, TransGen (r.moveTo id (some p)).1.Under x x) ↔ p = id ∨ r.isAncestor id p = true := by
  have hparent (x : FrameId) : (r.moveTo id (some p)).1.parentOf x =
      if x = id then some p else r.parentOf x :=
    ((alike_moveTo id _).links.parentOf Prod.fst (fun _ => rfl) x).trans (parentOf_relink hid _)
  have hon (y : FrameId) : (r.moveTo id (some p)).1.Under id y ↔ y = p := by
    rw [Under, hparent, if_pos rfl, Option.some.injEq, eq_comm]
  have hoff (x y : FrameId) (hx : x ≠ id) :
      (r.moveTo id (some p)).1.Under x y ↔ r.Under x y := by
    rw [Under, hparent, if_neg hx, Under]
  rw [Graph.loops_redirect_iff hoff ((hon p).2 rfl) (fun y hy => .inr ((hon y).1 hy)) hr.grounded,
    reflTransGen_iff_eq_or_transGen, isAncestor_iff, eq_comm]

/-- What the anchors close when a frame is moved: those turn that are tied to no frame. -/
theorem needs_loops_moveTo_iff {parent : Option FrameId} (h : ∀ x, Graph.Grounded r.Needs x)
    (hf : r.get? id = some f) : (∃ x, TransGen (r.moveTo id parent).1.Needs x x) ↔
      ∃ p, parent = some p ∧ (f.anchors.any fun a => a.relativeTo.isNone) = true ∧
        r.wouldLoop id p = true := by
  have halike : Alike Frame.ties (r.setParentField id parent) (r.moveTo id parent).1 :=
    (alike_relink (fun _ _ _ => rfl) fun f f' h => by
      exact congrArg (fun ties => (parent, ties.2)) h).trans (alike_moveTo id _).ties
  let turned : Option FrameId :=
    if f.anchors.any fun a => a.relativeTo.isNone then parent else none
  have hturned (p : FrameId) : turned = some p ↔
      parent = some p ∧ (f.anchors.any fun a => a.relativeTo.isNone) = true := by
    simp only [turned, Option.ite_none_right_eq_some, and_comm]
  rw [halike.needs, setParentField, needs_loops_update_iff turned h hf]
  · simp only [hturned, and_assoc]
  · intro t ht
    obtain ⟨hp, hany⟩ := (hturned t).1 ht
    obtain ⟨a, ha, hnone⟩ := List.any_eq_true.1 hany
    refine Frame.mem_anchorTargets.2 ⟨a, ha, ?_⟩
    rw [Anchor.target, Option.isNone_iff_eq_none.1 hnone, Option.none_or, hp]
  · intro y hy
    obtain ⟨a, ha, hy⟩ := Frame.mem_anchorTargets.1 hy
    cases hrel : a.relativeTo with
    | some t =>
      refine .inl (Frame.mem_anchorTargets.2 ⟨a, ha, ?_⟩)
      rw [Anchor.target, hrel, Option.some_or] at hy ⊢
      exact hy
    | none =>
      rw [Anchor.target, hrel, Option.none_or] at hy
      exact .inr ((hturned y).2 ⟨hy, List.any_eq_true.2 ⟨a, ha, by rw [hrel]; rfl⟩⟩)

/-- **What moving a frame under another closes.** -/
theorem loops_moveTo_iff {parent : Option FrameId} (hr : r.Linked)
    (h : ∀ x, Graph.Grounded r.Needs x) (hf : r.get? id = some f)
    (hp : ∀ p, parent = some p → r.contains p = true) : (r.moveTo id parent).1.Loops ↔
      (parent.bind (Session.parentProblem? r id f)).isSome = true := by
  rw [loops_iff, needs_loops_moveTo_iff h hf]
  cases parent with
  | none =>
    have hid : r.contains id = true := congrArg Option.isSome hf
    have relinked : (r.relink id none).Linked := hr.relink hid fun p hp => by cases hp
    have linked := relinked.of_alike (alike_moveTo id none).links
    simpa using linked.not_under_loops
  | some p =>
    have hc : r.contains p = true := hp p rfl
    have hid : r.contains id = true := congrArg Option.isSome hf
    rw [under_loops_moveTo_iff hr hid, Option.bind_some, Session.parentProblem?]
    simp only [hc, Bool.not_true, Bool.false_eq_true, if_false, Option.some.injEq, exists_eq_left']
    by_cases hbelow : p = id ∨ r.isAncestor id p = true
    · simp [hbelow]
    · simp [hbelow]

end Registry

/-! ## Refusals -/

namespace Session

open Act

variable {s t : Session} {host : Host} {call : Caller} {id : FrameId} {f : Frame}
  {relativeTo : Option FrameId}

theorem mayAnchor_eq_false_iff : result (mayAnchor id f relativeTo) s = false ↔
    ∃ t, relativeTo.or f.parent = some t ∧ s.host.registry.wouldLoop id t = true := by
  unfold mayAnchor
  rw [result_registry_bind]
  cases ht : relativeTo.or f.parent with
  | none => exact ⟨fun h => (Bool.noConfusion h :), fun ⟨_, h, _⟩ => by cases h⟩
  | some t =>
    simp only [Option.some.injEq, exists_eq_left']
    cases hw : s.host.registry.wouldLoop id t with
    | true => exact ⟨fun _ => rfl, fun _ => rfl⟩
    | false => exact ⟨fun h => (Bool.noConfusion h :), fun h => by cases h⟩

/-- An anchor is refused by the walk alone, where points and frames are in order. -/
theorem setPoint_refused_iff {point relativePoint x y : Value} {p q : AnchorPoint}
    (hpoints : anchorPoints s.host.label id point relativePoint = .ok (p, q))
    (hc : ∀ t, relativeTo = some t → s.host.registry.contains t = true) :
    result (setPoint id f point relativeTo relativePoint x y).run s = .ok false ↔
      ∃ t, relativeTo.or f.parent = some t ∧ s.host.registry.wouldLoop id t = true := by
  rw [← mayAnchor_eq_false_iff, result_setPoint hpoints hc]
  unfold writePoint
  rw [result_lift_bind]
  cases result (mayAnchor id f relativeTo) s with
  | false => exact ⟨fun _ => rfl, fun _ => rfl⟩
  | true =>
    refine ⟨fun h => ?_, fun h => by cases h⟩
    cases hx : x.toFloat with
    | error e =>
      rw [hx] at h
      cases h
    | ok dx =>
      cases hy : y.toFloat with
      | error e =>
        rw [hx, hy] at h
        cases h
      | ok dy =>
        rw [hx, hy] at h
        change result (if (f.anchorAt? p).any (Anchor.agrees ⟨p, relativeTo, q, dx, dy⟩)
          then pure true else do
            onRegistry fun r => r.edit id fun f =>
              { f with anchors := putAnchor ⟨p, relativeTo, q, dx, dy⟩ f.anchors }
            pure true : Attempt Bool).run _ = _ at h
        split at h <;> cases h

theorem setAllPoints_refused_iff
    (hc : ∀ t, relativeTo = some t → s.host.registry.contains t = true) :
    result (setAllPoints id f relativeTo) s = false ↔
      ∃ t, relativeTo.or f.parent = some t ∧ s.host.registry.wouldLoop id t = true := by
  rw [← mayAnchor_eq_false_iff]
  have known : (relativeTo.any fun t => !s.host.registry.contains t) = false := by
    cases relativeTo with
    | none => rfl
    | some t => simp [hc t rfl]
  unfold setAllPoints
  rw [result_registry_bind, known]
  change result (mayAnchor id f relativeTo >>= _) s = false ↔ _
  rw [result_bind]
  cases result (mayAnchor id f relativeTo) s with
  | false => exact ⟨fun _ => rfl, fun _ => rfl⟩
  | true => exact ⟨fun h => (Bool.noConfusion h :), fun h => by cases h⟩

theorem setParent_refused_iff (hr : s.host.registry.Linked) (hf : s.host.registry.get? id = some f)
    (parent : Option FrameId) : result (setParent call id f parent).run s = .ok false ↔
      (parent.bind (parentProblem? s.host.registry id f)).isSome = true := by
  unfold setParent
  rw [result_lift_bind]
  cases hok : parent.bind (parentProblem? s.host.registry id f) with
  | some problem =>
    have hok' : parent.bind (parentProblem? (result registry s) id f) = some problem := hok
    rw [hok']
    exact ⟨fun _ => rfl, fun _ => rfl⟩
  | none =>
    have hok' : parent.bind (parentProblem? (result registry s) id f) = none := hok
    rw [hok']
    refine ⟨fun h => ?_, fun h => by cases h⟩
    dsimp only at h
    split at h
    · cases h
    · rename_i hne
      have moved : TreeStep s.host.registry id (s.host.registry.moveTo id parent).1
          (s.host.registry.moveTo id parent).2 :=
        .moved hf (fun p hp => by subst hp; exact accepts_of_parentProblem? hok) hne
      have changed : result (tryRegistry fun r => r.moveTo id parent).run s = .ok () :=
        tryRegistry_ok (moved.fault_eq_none hr)
      cases h.symm.trans (result_done (withVisibility_result changed))

/-- **Writes of anchors and parents are refused exactly if they would make a loop**, where what is written is
in order: points that there are, and frames that there are, or none. -/
structure RefusesLoops (call : Caller) (s : Session) : Prop where
  setPoint : ∀ id point relativeTo relativePoint x y p q, s.host.registry.contains id = true →
    anchorPoints s.host.label id point relativePoint = .ok (p, q) →
    (∀ t, relativeTo.resolve s.host.registry = some t → s.host.registry.contains t = true) →
    ∀ dx dy, result (frameAction call (some id) (.setPoint point relativeTo relativePoint x y)).run s =
        .ok (said false) ↔
      (s.host.registry.edit id fun f => { f with
        anchors := putAnchor ⟨p, relativeTo.resolve s.host.registry, q, dx, dy⟩ f.anchors }).Loops
  setAllPoints : ∀ id relativeTo, s.host.registry.contains id = true →
    (∀ t, relativeTo.resolve s.host.registry = some t → s.host.registry.contains t = true) →
    (result (frameAction call (some id) (.setAllPoints relativeTo)).run s = .ok (said false) ↔
      (s.host.registry.edit id fun f => { f with anchors :=
        [{ point := .topLeft, relativeTo := relativeTo.resolve s.host.registry, relativePoint := .topLeft },
          { point := .bottomRight, relativeTo := relativeTo.resolve s.host.registry,
            relativePoint := .bottomRight }] }).Loops)
  setParent : ∀ id parent, s.host.registry.contains id = true →
    (∀ p, parent.resolve s.host.registry = some p → s.host.registry.contains p = true) →
    (result (frameAction call (some id) (.setParent parent)).run s = .ok (said false) ↔
      (s.host.registry.moveTo id (parent.resolve s.host.registry)).1.Loops)

theorem mem_anchors_putAnchor {a : Anchor} {l : List Anchor} : a ∈ putAnchor a l := by
  induction l with
  | nil => exact List.mem_cons_self
  | cons b l ih =>
    unfold putAnchor
    split
    · exact List.mem_cons_self
    · exact List.mem_cons_of_mem _ ih

/-- **Where links and anchors are in order, writes are refused exactly if they would make a loop.** -/
theorem refusesLoops_of_grounded (hr : s.host.registry.Linked)
    (h : ∀ x, Graph.Grounded s.host.registry.Needs x) : RefusesLoops call s where
  setPoint := by
    intro id point relativeTo relativePoint x y p q hid hpoints hc dx dy
    obtain ⟨f, hf⟩ := Option.isSome_iff_exists.1 hid
    rw [result_frameAction hf, presentAction, asked_iff, setPoint_refused_iff hpoints hc]
    refine (Registry.loops_edit_iff _ hr h hf ?_ (fun t ht => ?_) fun y hy => ?_).symm
    · exact fun _ => rfl
    · exact Frame.mem_anchorTargets.2 ⟨_, mem_anchors_putAnchor, ht⟩
    · obtain ⟨a, ha, hy⟩ := Frame.mem_anchorTargets.1 hy
      rcases mem_putAnchor ha with rfl | ha
      · exact .inr hy
      · exact .inl (Frame.mem_anchorTargets.2 ⟨a, ha, hy⟩)
  setAllPoints := by
    intro id relativeTo hid hc
    obtain ⟨f, hf⟩ := Option.isSome_iff_exists.1 hid
    have lifted (m : Act Bool) : result (liftM m : Attempt Bool).run s = .ok false ↔
        result m s = false := ⟨fun h => Except.ok.inj h, congrArg Except.ok⟩
    rw [result_frameAction hf, presentAction,
      asked_iff (m := fun r => liftM (setAllPoints id f (relativeTo.resolve r))), lifted,
      setAllPoints_refused_iff hc]
    refine (Registry.loops_edit_iff _ hr h hf ?_ (fun t ht => ?_) fun y hy => ?_).symm
    · exact fun _ => rfl
    · exact Frame.mem_anchorTargets.2 ⟨_, List.mem_cons_self, ht⟩
    · obtain ⟨a, ha, hy⟩ := Frame.mem_anchorTargets.1 hy
      rcases List.mem_cons.1 ha with rfl | ha
      · exact .inr hy
      · obtain rfl := List.mem_singleton.1 ha
        exact .inr hy
  setParent := by
    intro id parent hid hc
    obtain ⟨f, hf⟩ := Option.isSome_iff_exists.1 hid
    rw [result_frameAction hf, presentAction, asked_iff, setParent_refused_iff hr hf]
    exact (Registry.loops_moveTo_iff hr h hf hc).symm

/-! ## Runs -/

/-- **The walk finds exactly what leads back to a frame, whatever the frames are; and whenever the host of a
run is met, a write of an anchor or a parent is refused exactly if it would make a loop**, however callbacks
are nested. -/
theorem Ran.loops_refused (h : s.Ran false) {host : Host} (hm : s.Met host) (ht : t.host = host)
    (call : Caller) :
    (∀ (r : Registry) (id candidate : FrameId), (r.dependencies candidate).Nodup ∧
      (r.wouldLoop id candidate = true ↔ id = candidate ∨ TransGen r.Needs candidate id)) ∧
    RefusesLoops call t := by
  have linked : host.registry.Linked := h.met Stage.ordered_fresh (fun _ _ h hσ => h.ordered hσ)
    (fun _ _ hs hσ => hs.registry ▸ hσ.linked) hm
  have grounded : ∀ x, Graph.Grounded host.registry.Needs x :=
    h.met (fun _ => Registry.grounded_empty) (fun _ _ h hσ => h.grounded hσ)
      (fun _ _ hs hσ => hs.registry ▸ hσ) hm
  subst ht
  refine ⟨fun r id candidate => ⟨Walk.explore_nodup .., ?_⟩, refusesLoops_of_grounded linked grounded⟩
  rw [Registry.wouldLoop_iff, reflTransGen_iff_eq_or_transGen]

/-- Two frames are tied to each other in turn, the second time in vain. -/
theorem loops_refused_runRootless :
    let s := runRootless idle [.frame (.create (.str "Frame") .null .none .null .null),
      .frame (.create (.str "Frame") .null .none .null .null),
      .frame (.act (some 1) (.setAllPoints (.id 2))),
      .frame (.act (some 2) (.setAllPoints (.id 1)))]
    s.Ran false ∧ RefusesLoops (caller idle) s := by
  intro s
  have ran : s.Ran false := ran_idle (by decide)
  exact ⟨ran, (Ran.loops_refused ran .last rfl (caller idle)).2⟩

end Session

end FrameHost
