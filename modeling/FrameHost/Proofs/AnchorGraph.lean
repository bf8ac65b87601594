import FrameHost.Proofs.Alike
import FrameHost.Proofs.Graph
import FrameHost.Proofs.Step.Run
import FrameHost.Proofs.Walk

/-!
# The graph of anchors has no loop

A frame needs the frames that its anchors are tied to, or its parent for an anchor that is tied to none.
Anchors and parents are only written after a walk has shown that the frame is not needed, through
whatever others, by what it comes to need. So every path of needs ends, and with it every search for a
size, which follows needs without a guard of its own.

* `Registry.wouldLoop_iff`: what the walk shows.
* `Registry.Measured`: the search for a size, with the frames that it visits.
* `Session.Ran.anchored`: **whenever the host of a run is met, no frame needs itself, and the search for
  the size of any frame ends**, visiting each frame at most once.
-/

namespace FrameHost

open Relation

/-! ## Needs -/

theorem Frame.mem_anchorTargets {f : Frame} {t : FrameId} :
    t ∈ f.anchorTargets ↔ ∃ a ∈ f.anchors, a.target f.parent = some t := by
  unfold anchorTargets
  rw [List.mem_eraseDups, List.mem_filterMap]

namespace Registry

variable {r r' : Registry} {id x y : FrameId}

/-- A frame is placed by another. -/
def Needs (r : Registry) (a b : FrameId) : Prop := b ∈ r.anchorTargets a

theorem needs_iff :
    r.Needs x y ↔ ∃ f, r.get? x = some f ∧ ∃ a ∈ f.anchors, a.target f.parent = some y := by
  unfold Needs anchorTargets
  cases r.get? x with
  | none => simp
  | some f => simp [Frame.mem_anchorTargets]

theorem Alike.needs (h : Alike Frame.ties r r') : r'.Needs = r.Needs := by
  let targets : Option FrameId × List Anchor → List FrameId := fun (parent, anchors) =>
    (anchors.filterMap fun a => a.target parent).eraseDups
  have htargets (id : FrameId) : r'.anchorTargets id = r.anchorTargets id :=
    (h.getD targets [] id :)
  unfold Needs
  simp only [htargets]

/-- **The walk shows whether tying a frame to another closes a loop.** -/
theorem wouldLoop_iff {candidate : FrameId} :
    r.wouldLoop id candidate = true ↔ ReflTransGen r.Needs candidate id := by
  have hedge : Walk.Edge r.anchorTargets r.ids = r.Needs := by
    funext a b
    refine propext ⟨fun h => h.2, fun h => ⟨?_, h⟩⟩
    obtain ⟨f, hf, -⟩ := needs_iff.1 h
    exact r.contains_iff.1 (congrArg Option.isSome hf)
  unfold wouldLoop dependencies
  simp only [Bool.or_eq_true, beq_iff_eq, List.any_eq_true, List.contains_iff_mem,
    Walk.mem_explore_iff, hedge, List.mem_singleton, exists_eq_left]
  constructor
  · rintro (rfl | ⟨a, ha, hid⟩)
    · exact .refl
    · exact ha.tail hid
  · intro h
    rcases h.cases_tail with rfl | ⟨a, ha, hid⟩
    · exact .inl rfl
    · exact .inr ⟨a, ha, hid⟩

/-- A frame without anchors needs no other. -/
theorem wouldLoop_of_bare {candidate : FrameId} {g : Frame} (hne : candidate ≠ id)
    (hg : r.get? candidate = some g) (hbare : g.anchors = []) : r.wouldLoop id candidate = false := by
  refine Bool.eq_false_iff.2 fun hloop => ?_
  rcases (wouldLoop_iff.1 hloop).cases_head with h | ⟨c, hc, -⟩
  · exact hne h
  · obtain ⟨g', hg', a, ha, -⟩ := needs_iff.1 hc
    cases hg.symm.trans hg'
    rw [hbare] at ha
    cases ha

/-- A frame may be tied to another one that has no anchors. -/
theorem Admits.of_bare {relativeTo : Option FrameId} {t : FrameId} {f g : Frame}
    (htarget : relativeTo.or f.parent = some t) (hne : t ≠ id) (hg : r.get? t = some g)
    (hbare : g.anchors = []) : r.Admits id f relativeTo where
  contains := fun t' ht => by
    rw [ht, Option.some_or] at htarget
    cases htarget
    exact congrArg Option.isSome hg
  noLoop := fun t' ht => by
    cases ht.symm.trans htarget
    exact wouldLoop_of_bare hne hg hbare

/-! ## Writes -/

/-- **What a frame needs may be changed to what does not need it.** -/
theorem grounded_update {g : Frame → Frame} (h : ∀ x, Graph.Grounded r.Needs x)
    (hnew : ∀ f y, r.get? id = some f → y ∈ (g f).anchorTargets →
      r.Needs id y ∨ r.wouldLoop id y = false) :
    ∀ x, Graph.Grounded (r.update id g).Needs x := by
  refine Graph.grounded_redirect (a := id) (fun x y hx hxy => ?_) (fun y hy => ?_) h
  · obtain ⟨f, hf, ha⟩ := needs_iff.1 hxy
    rw [get?_update, if_neg (by simpa using hx)] at hf
    exact needs_iff.2 ⟨f, hf, ha⟩
  · obtain ⟨f', hf', ha⟩ := needs_iff.1 hy
    rw [get?_update, if_pos (beq_self_eq_true id)] at hf'
    obtain ⟨f, hf, rfl⟩ := Option.map_eq_some_iff.1 hf'
    refine (hnew f y hf (Frame.mem_anchorTargets.2 ha)).imp_right fun hw hreach => ?_
    cases hw.symm.trans (wouldLoop_iff.2 hreach)

theorem grounded_of_alike (ha : Alike Frame.ties r r') (h : ∀ x, Graph.Grounded r.Needs x) :
    ∀ x, Graph.Grounded r'.Needs x := ha.needs ▸ h

theorem grounded_edit {g : Frame → Frame} (h : ∀ x, Graph.Grounded r.Needs x)
    (hnew : ∀ f y, r.get? id = some f → y ∈ (g f).anchorTargets →
      r.Needs id y ∨ r.wouldLoop id y = false) :
    ∀ x, Graph.Grounded (r.edit id g).Needs x :=
  grounded_of_alike (alike_update_edit id g) (grounded_update h hnew)

end Registry

theorem Session.mem_putAnchor {a b : Anchor} {l : List Anchor} (h : b ∈ Session.putAnchor a l) :
    b = a ∨ b ∈ l := by
  induction l with
  | nil => exact .inl (List.mem_singleton.1 h)
  | cons c l ih =>
    unfold putAnchor at h
    split at h
    · exact (List.mem_cons.1 h).imp_right (List.mem_cons_of_mem _)
    · rcases List.mem_cons.1 h with rfl | h
      · exact .inr List.mem_cons_self
      · exact (ih h).imp_right (List.mem_cons_of_mem _)

variable {r r' : Registry} {id : FrameId} {fault : Option Fault} {σ τ : Stage}

/-- The anchors that steps write make no loop. -/
theorem AnchorStep.grounded (h : AnchorStep r id r') (hr : ∀ x, Graph.Grounded r.Needs x) :
    ∀ x, Graph.Grounded r'.Needs x := by
  have kept {f f' : Frame} {a : Anchor} {y : FrameId} (hf : r.get? id = some f)
      (hp : f'.parent = f.parent) (hmem : a ∈ f.anchors) (ha : a.target f'.parent = some y) :
      r.Needs id y := Registry.needs_iff.2 ⟨f, hf, a, hmem, hp ▸ ha⟩
  cases h with
  | anchored a hf ha =>
    refine Registry.grounded_edit hr fun f' y hf' hy => ?_
    cases hf.symm.trans hf'
    obtain ⟨b, hb, hy⟩ := Frame.mem_anchorTargets.1 hy
    rcases Session.mem_putAnchor hb with rfl | hb
    · exact .inr (ha.noLoop y hy)
    · exact .inl (kept hf rfl hb hy)
  | @pinned f relativeTo hf ha =>
    refine Registry.grounded_edit hr fun f' y hf' hy => ?_
    cases hf.symm.trans hf'
    obtain ⟨b, hb, hy⟩ := Frame.mem_anchorTargets.1 hy
    have htarget : relativeTo.or f.parent = some y := by
      rcases List.mem_cons.1 hb with rfl | hb
      · exact hy
      · obtain rfl := List.mem_singleton.1 hb
        exact hy
    exact .inr (ha.noLoop y htarget)
  | unanchored =>
    refine Registry.grounded_edit hr fun f y hf hy => ?_
    obtain ⟨b, hb, -⟩ := Frame.mem_anchorTargets.1 hy
    cases hb
  | unpinned p =>
    refine Registry.grounded_edit hr fun f y hf hy => ?_
    obtain ⟨b, hb, hy⟩ := Frame.mem_anchorTargets.1 hy
    exact .inl (kept hf rfl (List.mem_of_mem_eraseP hb) hy)
  | shifted dx dy =>
    refine Registry.grounded_update hr fun f y hf hy => ?_
    obtain ⟨b, hb, hy⟩ := Frame.mem_anchorTargets.1 hy
    obtain ⟨a, ha, rfl⟩ := List.mem_map.1 hb
    exact .inl (kept hf rfl ha hy)

/-- Moving a frame turns every anchor that follows the parent, and makes no loop. -/
theorem TreeStep.grounded (h : TreeStep r id r' fault) (hr : ∀ x, Graph.Grounded r.Needs x) :
    ∀ x, Graph.Grounded r'.Needs x := by
  cases h with
  | shown => exact Registry.grounded_of_alike (Registry.alike_edit id fun _ => rfl) hr
  | @moved f parent hf hp hne =>
    have halike : Registry.Alike Frame.ties (r.setParentField id parent) (r.moveTo id parent).1 :=
      (Registry.alike_relink (fun _ _ _ => rfl) fun f f' h => by
        exact congrArg (fun ties => (parent, ties.2)) h).trans (Registry.alike_moveTo id _).ties
    refine Registry.grounded_of_alike halike (Registry.grounded_update hr fun f' y hf' hy => ?_)
    cases hf.symm.trans hf'
    obtain ⟨a, ha, hy⟩ := Frame.mem_anchorTargets.1 hy
    cases hrel : a.relativeTo with
    | some t =>
      refine .inl (Registry.needs_iff.2 ⟨f, hf, a, ha, ?_⟩)
      unfold Anchor.target at hy ⊢
      rw [hrel] at hy ⊢
      exact hy
    | none =>
      -- an anchor that is tied to no frame turns to the new parent: the guard has looked at just that
      have hparent : parent = some y := by
        unfold Anchor.target at hy
        rw [hrel] at hy
        exact hy
      refine .inr ((hp y hparent).noLoop (List.any_eq_true.2 ⟨a, ha, ?_⟩))
      rw [hrel]
      rfl

/-- **Every step keeps the anchors without a loop.** -/
theorem Step.grounded (h : Step false σ τ) (hσ : ∀ x, Graph.Grounded σ.registry.Needs x) :
    ∀ x, Graph.Grounded τ.registry.Needs x := by
  cases h with
  | framed h => exact Registry.grounded_of_alike h.alike.ties hσ
  | listened h => exact Registry.grounded_of_alike (h.alike.map Frame.ties :) hσ
  | keyed => exact Registry.grounded_of_alike (Registry.alike_edit _ fun _ => rfl) hσ
  | tied h => exact h.grounded hσ
  | painted => exact Registry.grounded_of_alike (fun _ => rfl) hσ
  | @created kind name above f id last r hg ha hf hr =>
    subst hr
    refine Registry.grounded_of_alike (Registry.alike_link (fun _ _ _ => rfl) _) fun x => ?_
    refine (hσ x).mono fun a b hab => ?_
    obtain ⟨q, hq, hget⟩ := σ.registry.get?_enroll id f
    obtain ⟨g, hg, anchor, hanchor, hb⟩ := Registry.needs_iff.1 hab
    rw [hget] at hg
    -- the new frame has no anchors yet; the others keep theirs
    split at hg
    · cases hg
      have hanchors : f.anchors = [] := congrArg (·.2.2) (Frame.place_of_sized hf).2
      rw [hanchors] at hanchor
      cases hanchor
    · exact hq.place.ties.needs ▸ Registry.needs_iff.2 ⟨g, hg, anchor, hanchor, hb⟩
  | enrolled _ hraw | enrolledAgain hraw | rewritten hraw => cases hraw
  | changed h | changedInPart h => exact h.grounded hσ
  | _ => exact hσ

/-! ## Sizes -/

/-- What spans a size: the first anchors on two opposite edges, that name what they are tied to in the same
way. -/
theorem Axis.span?_eq_some_iff {axis : Axis} {f : Frame} {near far : Anchor} {t : FrameId} :
    axis.span? f = some (near, far, t) ↔
      f.firstAnchor? axis.near = some near ∧ f.firstAnchor? axis.far = some far ∧
        near.relativeTo = far.relativeTo ∧ near.target f.parent = some t := by
  unfold span?
  constructor
  · intro h
    obtain ⟨a, ha, h⟩ := Option.bind_eq_some_iff.1 h
    obtain ⟨b, hb, h⟩ := Option.bind_eq_some_iff.1 h
    obtain ⟨u, hsame, h⟩ := Option.bind_eq_some_iff.1 h
    obtain ⟨c, hc, h⟩ := Option.bind_eq_some_iff.1 h
    cases h
    refine ⟨ha, hb, ?_, hc⟩
    refine Decidable.byContradiction fun hne => ?_
    cases (if_neg hne).symm.trans hsame
  · rintro ⟨hnear, hfar, hsame, htarget⟩
    have hguard : (guard (near.relativeTo = far.relativeTo) : Option Unit) = some () := if_pos hsame
    rw [hnear, hfar]
    dsimp only [bind, Option.bind]
    rw [hguard, htarget]
    rfl

/-- A pair of anchors that spans a size is tied to a frame that is needed. -/
theorem Axis.mem_anchorTargets_of_span? {axis : Axis} {f : Frame} {near far : Anchor} {t : FrameId}
    (h : axis.span? f = some (near, far, t)) : t ∈ f.anchorTargets := by
  obtain ⟨hnear, -, -, htarget⟩ := Axis.span?_eq_some_iff.1 h
  exact Frame.mem_anchorTargets.2 ⟨near, List.mem_of_find?_eq_some hnear, htarget⟩

namespace Registry

/-- The search for the size of a frame along an axis, with the frames that it visits. It has no guard
against frames that it has visited. -/
inductive Measured (r : Registry) (axis : Axis) : FrameId → List FrameId → Float → Prop
  | absent {id : FrameId} (hf : r.get? id = none) : Measured r axis id [id] 0.0
  | given {id : FrameId} {f : Frame} (hf : r.get? id = some f)
      (hs : ∀ near far t, axis.span? f = some (near, far, t) → r.contains t = false) :
      Measured r axis id [id] (axis.given f)
  | spanned {id t : FrameId} {f : Frame} {near far : Anchor} {path : List FrameId} {x : Float}
      (hf : r.get? id = some f) (hs : axis.span? f = some (near, far, t))
      (ht : r.contains t = true) (h : Measured r axis t path x) :
      Measured r axis id (id :: path) (axis.between near far x)

variable {axis : Axis} {path : List FrameId} {x : Float}

/-- Where every path of needs ends, the search ends. -/
theorem exists_measured (h : Graph.Grounded r.Needs id) : ∃ path x, r.Measured axis id path x := by
  induction h with
  | intro id _ ih =>
    cases hf : r.get? id with
    | none => exact ⟨[id], 0.0, .absent hf⟩
    | some f =>
      by_cases hs : ∃ near far t, axis.span? f = some (near, far, t) ∧ r.contains t = true
      · obtain ⟨near, far, t, hs, ht⟩ := hs
        have hneeds : r.Needs id t := by
          obtain ⟨a, ha, htarget⟩ := Frame.mem_anchorTargets.1 (Axis.mem_anchorTargets_of_span? hs)
          exact needs_iff.2 ⟨f, hf, a, ha, htarget⟩
        obtain ⟨path, x, hpath⟩ := ih t hneeds
        exact ⟨id :: path, _, .spanned hf hs ht hpath⟩
      · refine ⟨[id], axis.given f, .given hf fun near far t h => ?_⟩
        exact Bool.eq_false_iff.2 fun ht => hs ⟨near, far, t, h, ht⟩

/-- The search visits frames only, but perhaps for the first id. -/
theorem Measured.contains (h : r.Measured axis id path x) (hid : r.contains id = true) :
    ∀ a ∈ path, r.contains a = true := by
  induction h with
  | absent | given => exact fun a ha => List.mem_singleton.1 ha ▸ hid
  | spanned _ _ ht _ ih =>
    intro a ha
    rcases List.mem_cons.1 ha with rfl | ha
    · exact hid
    · exact ih ht a ha

/-- The search goes in one way only. -/
theorem Measured.unique {path' : List FrameId} {x' : Float} (h : r.Measured axis id path x)
    (h' : r.Measured axis id path' x') : path = path' ∧ x = x' := by
  induction h generalizing path' x' with
  | absent hf =>
    cases h' with
    | absent => exact ⟨rfl, rfl⟩
    | given hf' | spanned hf' => cases hf.symm.trans hf'
  | given hf hs =>
    cases h' with
    | absent hf' => cases hf.symm.trans hf'
    | given hf' =>
      cases hf.symm.trans hf'
      exact ⟨rfl, rfl⟩
    | spanned hf' hs' ht' =>
      cases hf.symm.trans hf'
      cases (hs _ _ _ hs').symm.trans ht'
  | spanned hf hs ht _ ih =>
    cases h' with
    | absent hf' => cases hf.symm.trans hf'
    | given hf' hs' =>
      cases hf.symm.trans hf'
      cases ht.symm.trans (hs' _ _ _ hs)
    | spanned hf' hs' ht' h' =>
      cases hf.symm.trans hf'
      cases hs.symm.trans hs'
      obtain ⟨rfl, rfl⟩ := ih h'
      exact ⟨rfl, rfl⟩

/-- From any frame that is visited, the search goes on as it would start there. -/
theorem Measured.exists_from (h : r.Measured axis id path x) {a : FrameId} (ha : a ∈ path) :
    ∃ before later y, path = before ++ later ∧ r.Measured axis a later y := by
  induction h with
  | @absent id hf =>
    obtain rfl := List.mem_singleton.1 ha
    exact ⟨[], [a], _, rfl, .absent hf⟩
  | @given id f hf hs =>
    obtain rfl := List.mem_singleton.1 ha
    exact ⟨[], [a], _, rfl, .given hf hs⟩
  | @spanned id t f near far path x hf hs ht h ih =>
    rcases List.mem_cons.1 ha with rfl | ha
    · exact ⟨[], a :: path, _, rfl, .spanned hf hs ht h⟩
    · obtain ⟨before, later, y, rfl, hlater⟩ := ih ha
      exact ⟨id :: before, later, y, rfl, hlater⟩

/-- **A search that ends visits no frame twice**: from there on it would go as before. -/
theorem Measured.nodup (h : r.Measured axis id path x) : path.Nodup := by
  induction h with
  | absent | given => simp
  | @spanned id t f near far path x hf hs ht h ih =>
    refine List.nodup_cons.2 ⟨fun hid => ?_, ih⟩
    obtain ⟨before, later, y, rfl, hlater⟩ := h.exists_from hid
    have hagain : later = id :: (before ++ later) := (hlater.unique (.spanned hf hs ht h)).1
    have hlength := congrArg List.length hagain
    rw [List.length_cons, List.length_append] at hlength
    omega

/-- The bounded search finds what the search finds, if it may visit as many frames. -/
theorem Measured.extent? (h : r.Measured axis id path x) :
    r.extent? axis path.length id = some x := by
  induction h with
  | absent hf => simp only [List.length_singleton, Registry.extent?, hf]
  | @given id f hf hs =>
    simp only [List.length_singleton, Registry.extent?, hf]
    split
    · rfl
    · rename_i h
      rw [hs _ _ _ h]
      rfl
  | spanned hf hs ht _ ih =>
    simp only [List.length_cons, Registry.extent?, hf, hs, if_pos ht, ih]
    rfl

/-- **The size of a frame is what the search without a bound finds.** -/
theorem Measured.extent (h : r.Measured axis id path x) : r.extent axis id = x := by
  have hlength : path.length ≤ r.size + 1 := by
    by_cases hid : r.contains id = true
    · have hsub : path ⊆ r.ids := fun a ha => r.contains_iff.1 (h.contains hid a ha)
      have hle : path.length ≤ r.ids.length := h.nodup.length_le_of_subset hsub
      have hsize : r.ids.length = r.size := List.length_map ..
      omega
    · cases h with
      | absent => exact Nat.succ_le_succ (Nat.zero_le _)
      | given hf | spanned hf => exact absurd (congrArg Option.isSome hf) hid
  unfold Registry.extent
  rw [r.extent?_mono hlength h.extent?]
  rfl

/-- A search that ends finds the size. -/
theorem Measured.measured_extent (h : r.Measured axis id path x) :
    r.Measured axis id path (r.extent axis id) := h.extent ▸ h

theorem measured_extent (h : Graph.Grounded r.Needs id) :
    ∃ path, r.Measured axis id path (r.extent axis id) ∧ path.Nodup := by
  obtain ⟨path, x, hpath⟩ := exists_measured h
  exact ⟨path, hpath.measured_extent, hpath.nodup⟩

end Registry

/-! ## Runs -/

/-- No frame needs itself, and the search for the size of any frame ends, visits no frame twice, and finds
the size. -/
structure Registry.Anchored (r : Registry) : Prop where
  noLoop : ∀ id, ¬ TransGen r.Needs id id
  width : ∀ id, ∃ path, r.Measured .horizontal id path (r.widthOf id) ∧ path.Nodup
  height : ∀ id, ∃ path, r.Measured .vertical id path (r.heightOf id) ∧ path.Nodup

theorem Registry.grounded_empty (x : FrameId) : Graph.Grounded (Registry.Needs {}) x :=
  Acc.intro x fun _ hy => by cases hy

theorem Registry.anchored_of_grounded (h : ∀ x, Graph.Grounded r.Needs x) : r.Anchored :=
  ⟨fun id => (h id).not_transGen, fun id => measured_extent (h id), fun id => measured_extent (h id)⟩

/-- **Whenever the host of a run is met, its anchors make no loop, and every size can be found**, however
callbacks are nested. -/
theorem Session.Ran.anchored {s : Session} (h : s.Ran false) {host : Host} (hm : s.Met host) :
    host.registry.Anchored := by
  refine h.met (P := fun host => host.registry.Anchored)
    (I := fun σ => ∀ x, Graph.Grounded σ.registry.Needs x) (fun clock x => ?_)
    (fun _ _ h hσ => h.grounded hσ) (fun σ host hs hσ => ?_) hm
  · refine Acc.intro x fun y hy => ?_
    cases hy
  · rw [hs.registry]
    exact Registry.anchored_of_grounded hσ

/-- Two frames are tied to each other in turn, the second time in vain. -/
theorem Session.anchored_runRootless : (Session.runRootless (fun _ _ _ => {})
    [.frame (.create (.str "Frame") .null .none .null .null),
      .frame (.create (.str "Frame") .null .none .null .null),
      .frame (.act (some 1) (.setAllPoints (.id 2))),
      .frame (.act (some 2) (.setAllPoints (.id 1)))]).host.registry.Anchored :=
  Session.Ran.anchored (Session.ran_runRootless (fun _ _ _ => by decide) (by decide)) .last

end FrameHost
