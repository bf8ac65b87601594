import FrameHost.Proofs.Hierarchy

/-!
# Layers and levels come from above

A frame is in the layer of its parent and one level above it, unless its own layer or level is fixed. One
change is carried down a whole subtree, and while this goes on, some frames do not follow their parents
yet. They are the frames that the walk has still to come to: it comes to every frame before it comes to
the children of that frame, so nobody falls behind who has settled.

* `Frame.Follows`: what a frame has from its parent.
* `Registry.Linked.downward_descendants`: the walk comes to parents before their children.
* `Registry.LayeredBut.settleAll`: going down such a list leaves nobody behind.
* `Session.Ran.layered`: **whenever the host of a run is met, every frame follows its parent**.
-/

namespace FrameHost

open Relation

namespace Frame

/-- What a frame has of layer and level. -/
def rank (f : Frame) : String × Int × Bool × Bool :=
  (f.strata, f.level, f.strataFixed, f.levelFixed)

/-- What following the parent looks at. -/
def layer (f : Frame) : Option FrameId × String × Int × Bool × Bool := (f.parent, f.rank)

/-- A frame is in the layer of its parent and one level above it, but for what is fixed. -/
structure Follows (f p : Frame) : Prop where
  strata : f.strataFixed = false → f.strata = p.strata
  level : f.levelFixed = false → f.level = p.level + 1

theorem Follows.congr {f f' p p' : Frame} (h : f.Follows p) (hf : f.rank = f'.rank)
    (hp : p.rank = p'.rank) : f'.Follows p' := by
  simp only [rank, Prod.mk.injEq] at hf hp
  obtain ⟨hstrata, hlevel, hstrataFixed, hlevelFixed⟩ := hf
  constructor
  · rw [← hstrata, ← hstrataFixed, ← hp.1]
    exact h.strata
  · rw [← hlevel, ← hlevelFixed, ← hp.2.1]
    exact h.level

/-- A layer in which frames are drawn, and a level that is not below the lowest. -/
structure Drawable (f : Frame) : Prop where
  strata : f.strata ∈ Strata.order
  level : 0 ≤ f.level

theorem Drawable.congr {f f' : Frame} (h : f.Drawable) (hf : f.rank = f'.rank) : f'.Drawable := by
  simp only [rank, Prod.mk.injEq] at hf
  exact ⟨hf.1 ▸ h.strata, hf.2.1 ▸ h.level⟩

/-- A frame once it has settled under another. -/
def under (p f : Frame) : Frame :=
  { f with
    strata := if f.strataFixed then f.strata else p.strata
    level := if f.levelFixed then f.level else p.level + 1 }

theorem follows_under (p f : Frame) : (under p f).Follows p where
  strata := fun h => if_neg (ne_true_of_eq_false h)
  level := fun h => if_neg (ne_true_of_eq_false h)

theorem Drawable.under {p f : Frame} (hp : p.Drawable) (hf : f.Drawable) :
    (Frame.under p f).Drawable := by
  constructor
  · dsimp only [Frame.under]
    split
    · exact hf.strata
    · exact hp.strata
  · dsimp only [Frame.under]
    split
    · exact hf.level
    · exact Int.add_nonneg hp.level (by decide)

/-- The frame that is made follows the one above it. -/
theorem drawable_of_sized {kind : WidgetType} {name : Option String}
    {above : Option (FrameId × Frame)} {f : Frame}
    (hf : (Session.blankFrame kind name above).Sized f)
    (ha : ∀ p g, above = some (p, g) → g.Drawable) :
    f.Drawable ∧ ∀ p g, above = some (p, g) → f.Follows g := by
  obtain ⟨width, height, rfl⟩ := hf
  cases above with
  | none =>
    have hdefault : Strata.default ∈ Strata.order := by decide
    exact ⟨⟨hdefault, Int.le_refl 0⟩, fun _ _ h => by cases h⟩
  | some above =>
    obtain ⟨p, g⟩ := above
    obtain ⟨hstrata, hlevel⟩ := ha p g rfl
    refine ⟨⟨hstrata, Int.add_nonneg hlevel (by decide)⟩, fun _ _ h => ?_⟩
    cases h
    exact ⟨fun _ => rfl, fun _ => rfl⟩

end Frame

namespace Registry

variable {r r' : Registry} {id a x : FrameId} {late late' ids : List FrameId}

/-- Every frame can be drawn, and every frame that has a parent follows it, but for some. -/
structure LayeredBut (r : Registry) (late : List FrameId) : Prop where
  drawable : ∀ c f, r.get? c = some f → f.Drawable
  follows : ∀ c f p, r.get? c = some f → f.parent = some p → c ∉ late →
    ∃ g, r.get? p = some g ∧ f.Follows g

/-- Every frame can be drawn, and every frame that has a parent follows it. -/
def Layered (r : Registry) : Prop := r.LayeredBut []

theorem layered_empty : Layered {} where
  drawable := fun _ _ h => by cases h
  follows := fun _ _ _ h => by cases h

theorem LayeredBut.mono (h : r.LayeredBut late) (hlate : ∀ c ∈ late, c ∈ late') :
    r.LayeredBut late' :=
  ⟨h.drawable, fun c f p hf hp hc => h.follows c f p hf hp fun hl => hc (hlate c hl)⟩

theorem Linked.ne_of_parent (h : r.Linked) {f : Frame} {p : FrameId} (hf : r.get? id = some f)
    (hp : f.parent = some p) : p ≠ id := by
  rintro rfl
  have hloop : r.Under p p := Option.bind_eq_some_iff.2 ⟨f, hf, hp⟩
  exact (h.grounded p).not_transGen (.single hloop)

/-! ## Changes of single frames -/

/-- Who keeps layer, level and parent keeps following it. -/
theorem LayeredBut.of_alike (h : r.LayeredBut late) (ha : Alike Frame.rank r r')
    (hparent : ∀ c, c ∉ late' → c ∉ late ∧ r'.parentOf c = r.parentOf c) : r'.LayeredBut late' := by
  constructor
  · intro c f hf
    obtain ⟨f₀, hf₀, hrank⟩ := ha.exists_get? hf
    exact (h.drawable c f₀ hf₀).congr hrank
  · intro c f p hf hp hc
    obtain ⟨f₀, hf₀, hrank⟩ := ha.exists_get? hf
    obtain ⟨hlate, hsame⟩ := hparent c hc
    have hp₀ : f₀.parent = some p := by
      unfold parentOf at hsame
      rw [hf, hf₀] at hsame
      exact hsame.symm.trans hp
    obtain ⟨g₀, hg₀, hfollows⟩ := h.follows c f₀ p hf₀ hp₀ hlate
    obtain ⟨g, hg, hgrank⟩ := ha.symm.exists_get? hg₀
    exact ⟨g, hg, hfollows.congr hrank hgrank.symm⟩

theorem Layered.of_alike (h : r.Layered) (ha : Alike Frame.layer r r') : r'.Layered :=
  LayeredBut.of_alike h (ha.map Prod.snd :) fun _ hc =>
    ⟨hc, ha.parentOf Prod.fst (fun _ => rfl) _⟩

/-- When one frame is written anew, its children may fall behind. -/
theorem LayeredBut.rewrite (h : r.LayeredBut late) (id : FrameId)
    (hsame : ∀ x, x ≠ id → (r'.get? x).map Frame.layer = (r.get? x).map Frame.layer)
    (hdrawable : ∀ f, r'.get? id = some f → f.Drawable)
    (hfollows : ∀ f p, r'.get? id = some f → f.parent = some p → id ∉ late' →
      ∃ g, r'.get? p = some g ∧ f.Follows g)
    (hlate : ∀ c ∈ late, c = id ∨ c ∈ late')
    (hbelow : ∀ c, c ≠ id → r'.Under c id → c ∈ late') : r'.LayeredBut late' := by
  constructor
  · intro c f hf
    by_cases hc : c = id
    · exact hdrawable f (hc ▸ hf)
    · obtain ⟨f₀, hf₀, hlayer⟩ := exists_of_map_eq (hsame c hc) hf
      exact (h.drawable c f₀ hf₀).congr (congrArg Prod.snd hlayer)
  · intro c f p hf hp hcl
    by_cases hc : c = id
    · subst hc
      exact hfollows f p hf hp hcl
    · have hpid : p ≠ id := by
        rintro rfl
        exact hcl (hbelow c hc (Option.bind_eq_some_iff.2 ⟨f, hf, hp⟩))
      obtain ⟨f₀, hf₀, hlayer⟩ := exists_of_map_eq (hsame c hc) hf
      have hp₀ : f₀.parent = some p := (congrArg Prod.fst hlayer).trans hp
      obtain ⟨g₀, hg₀, hfollows⟩ := h.follows c f₀ p hf₀ hp₀ fun hl =>
        (hlate c hl).elim hc hcl
      obtain ⟨g, hg, hglayer⟩ := exists_of_map_eq (hsame p hpid).symm hg₀
      exact ⟨g, hg, hfollows.congr (congrArg Prod.snd hlayer) (congrArg Prod.snd hglayer).symm⟩

/-! ## Going down -/

/-- Lists in which what is under a frame comes after it. -/
def Downward (r : Registry) (ids : List FrameId) : Prop :=
  ∀ before a after, ids = before ++ a :: after → ∀ c, r.Under c a → c ∈ after

/-- **The walk down comes to every frame before it comes to the children of that frame.** -/
theorem Linked.downward_descendants (h : r.Linked) (id : FrameId) :
    r.Downward (r.descendants id) := by
  intro before a after hids c hca
  have hmem : a ∈ r.descendants id := hids ▸ List.mem_append_right _ List.mem_cons_self
  have hid : r.contains id = true := by
    obtain ⟨q, hq, -⟩ := Walk.reached_of_mem_explore hmem
    exact contains_of_mem_childrenOf hq
  have hbelow : TransGen r.Under a id := (h.mem_descendants_iff hid).1 hmem
  have hc : c ∈ before ++ a :: after := hids ▸ (h.mem_descendants_iff hid).2 (.head hca hbelow)
  rcases List.mem_append.1 hc with hc | hc
  · -- only `a` leads to `c`, so the walk cannot have come to `c` before
    obtain ⟨first, between, rfl⟩ := List.append_of_mem hc
    rw [List.append_assoc] at hids
    rcases Walk.edge_before hids with hq | ⟨b, hb, hbc⟩
    · have hcid : r.Under c id := (h.mem_childrenOf_iff hid).1 hq
      obtain rfl : a = id := Option.some.inj (hca.symm.trans hcid)
      exact absurd hbelow (h.grounded a).not_transGen
    · have hcb : r.Under c b := (h.mem_childrenOf_iff (r.contains_iff.2 hbc.1)).1 hbc.2
      obtain rfl : a = b := Option.some.inj (hca.symm.trans hcb)
      have hnodup : (first ++ c :: (between ++ a :: after)).Nodup :=
        hids ▸ Walk.explore_nodup _ _ _ _
      have hagain : a ∈ c :: (between ++ a :: after) :=
        List.mem_cons_of_mem c (List.mem_append_right _ List.mem_cons_self)
      exact absurd rfl ((List.nodup_append.1 hnodup).2.2 a hb a hagain)
  · rcases List.mem_cons.1 hc with rfl | hc
    · exact absurd (.single hca) (h.grounded c).not_transGen
    · exact hc

/-- **A frame settles, and only its children may fall behind.** -/
theorem LayeredBut.settle (h : r.LayeredBut (a :: late)) (hr : r.Linked)
    (hbelow : ∀ c, r.Under c a → c ∈ late) : (r.settle a).LayeredBut late := by
  have hunder (c : FrameId) (hc : (r.settle a).Under c a) : c ∈ late :=
    hbelow c (((alike_settle a).parentOf (·.1.1) (fun _ => rfl) c).symm.trans hc)
  have hlate (c : FrameId) (hc : c ∈ a :: late) : c = a ∨ c ∈ late := List.mem_cons.1 hc
  unfold Registry.settle at hunder ⊢
  cases hp : r.at? (r.parentOf a) with
  | none =>
    refine h.rewrite a (fun x _ => rfl) (h.drawable a) (fun f p hf hfp _ => ?_) hlate
      fun c _ => hbelow c
    have hparent : r.parentOf a = some p := Option.bind_eq_some_iff.2 ⟨f, hf, hfp⟩
    cases hparent.symm.trans (hr.parentOf_eq_none hp)
  | some g =>
    change (r.update a (Frame.under g)).LayeredBut late
    rw [hp] at hunder
    obtain ⟨p, hparent, hg⟩ := Option.bind_eq_some_iff.1 hp
    refine h.rewrite a (fun x hx => ?_) (fun f' hf' => ?_) (fun f' q hf' hq _ => ?_) hlate
      fun c _ => hunder c
    · rw [get?_update_of_ne hx]
    · obtain ⟨f, hf, rfl⟩ := exists_of_update hf'
      exact (h.drawable p g hg).under (h.drawable a f hf)
    · obtain ⟨f, hf, rfl⟩ := exists_of_update hf'
      have hfq : f.parent = some q := hq
      have hap : r.parentOf a = some q := Option.bind_eq_some_iff.2 ⟨f, hf, hfq⟩
      obtain rfl : q = p := Option.some.inj (hap.symm.trans hparent)
      refine ⟨g, ?_, Frame.follows_under g f⟩
      rwa [get?_update_of_ne (hr.ne_of_parent hf hfq)]

/-- **Settling a list in which children come after their parents leaves nobody behind.** -/
theorem LayeredBut.settleAll (h : r.LayeredBut ids) (hr : r.Linked) (hdown : r.Downward ids)
    (hids : ∀ x ∈ ids, r.contains x = true) : (r.settleAll ids).1.Layered := by
  induction ids generalizing r with
  | nil => exact h
  | cons a ids ih =>
    have halike : Alike Frame.place r (r.settle a) := alike_settle a
    have hunder : (r.settle a).Under = r.Under := by
      unfold Under
      rw [funext (halike.parentOf (·.1.1) fun _ => rfl)]
    unfold Registry.settleAll
    rw [if_pos (hids a List.mem_cons_self)]
    refine ih (h.settle hr (hdown [] a ids rfl)) (hr.of_alike halike.links) ?_ fun x hx => ?_
    · unfold Downward
      rw [hunder]
      exact fun before b after hb => hdown (a :: before) b after (congrArg (a :: ·) hb)
    · exact (halike.contains x).trans (hids x (List.mem_cons_of_mem _ hx))

theorem LayeredBut.settleDescendants (h : r.LayeredBut (r.descendants id)) (hr : r.Linked) :
    (r.settleDescendants id).1.Layered :=
  h.settleAll hr (hr.downward_descendants id) fun _ => hr.contains_of_mem_descendants

/-- What is under a frame is among what lies below it. -/
theorem Linked.mem_descendants_of_under (h : r.Linked) (hx : r.Under x id) :
    x ∈ r.descendants id := (h.mem_descendants_iff (h.parent x id hx)).2 (.single hx)

/-! ## Changes that are carried down -/

/-- A frame is written anew, and its descendants settle. -/
theorem Layered.fix (h : r.Layered) (hr : r.Linked) (id : FrameId) {g : Frame → Frame}
    (hlinks : ∀ f, (g f).links = f.links) (hdrawable : ∀ f, f.Drawable → (g f).Drawable)
    (hfollows : ∀ f p, f.Follows p → (g f).Follows p) :
    ((r.edit id g).settleDescendants id).1.Layered := by
  have hr' : (r.edit id g).Linked := hr.of_alike (alike_edit id hlinks)
  have hget {x : FrameId} : (r.edit id g).get? x = (r.update id g).get? x := by
    rw [get?_edit, get?_update]
  refine LayeredBut.settleDescendants ?_ hr'
  refine LayeredBut.rewrite h id (fun x hx => ?_) (fun f' hf' => ?_) (fun f' p hf' hp _ => ?_)
    (fun c hc => absurd hc List.not_mem_nil) fun c _ => hr'.mem_descendants_of_under
  · rw [hget, get?_update_of_ne hx]
  · obtain ⟨f, hf, rfl⟩ := exists_of_update (hget.symm.trans hf')
    exact hdrawable f (h.drawable id f hf)
  · obtain ⟨f, hf, rfl⟩ := exists_of_update (hget.symm.trans hf')
    have hfp : f.parent = some p := (congrArg Prod.fst (hlinks f)).symm.trans hp
    obtain ⟨q, hq, hfq⟩ := h.follows id f p hf hfp List.not_mem_nil
    refine ⟨q, ?_, hfollows f q hfq⟩
    rwa [hget, get?_update_of_ne (hr.ne_of_parent hf hfp)]

theorem Layered.fixStrata (h : r.Layered) (hr : r.Linked) (id : FrameId) {strata : String}
    (hs : strata ∈ Strata.order) : (r.fixStrata id strata).1.Layered :=
  h.fix hr id (fun _ => rfl) (fun _ hf => ⟨hs, hf.level⟩)
    fun _ _ hf => ⟨fun hfree => (Bool.noConfusion hfree), hf.level⟩

theorem Layered.fixLevel (h : r.Layered) (hr : r.Linked) (id : FrameId) (level : Int) :
    (r.fixLevel id level).1.Layered :=
  h.fix hr id (fun _ => rfl) (fun _ hf => ⟨hf.strata, Int.le_max_left 0 level⟩)
    fun _ _ hf => ⟨hf.strata, fun hfree => (Bool.noConfusion hfree)⟩

/-- When only one frame has not settled, settling it and what is below it leaves nobody behind. -/
theorem LayeredBut.settleTree (h : r.LayeredBut [id]) (hr : r.Linked) :
    (r.settleTree id).1.Layered := by
  unfold Registry.settleTree
  have hr' : (r.settle id).Linked := hr.of_alike (alike_settle id).links
  have hbelow (c : FrameId) (hc : r.Under c id) : c ∈ (r.settle id).descendants id := by
    refine hr'.mem_descendants_of_under ?_
    exact ((alike_settle id).parentOf (·.1.1) (fun _ => rfl) c).trans hc
  split
  · rename_i hnone
    refine ⟨h.drawable, fun c f p hf hp _ => ?_⟩
    by_cases hc : c = id
    · subst hc
      have hparent : r.parentOf c = some p := Option.bind_eq_some_iff.2 ⟨f, hf, hp⟩
      cases hparent.symm.trans (hr.parentOf_eq_none hnone)
    · exact h.follows c f p hf hp fun hid => hc (List.mem_singleton.1 hid)
  · refine LayeredBut.settleDescendants ?_ hr'
    refine LayeredBut.settle (h.mono fun c hc => ?_) hr hbelow
    exact List.mem_cons.2 (.inl (List.mem_singleton.1 hc))

/-- A frame that is moved may not follow the frame that it comes under. -/
theorem Layered.relink (h : r.Layered) (hid : r.contains id = true) (parent : Option FrameId) :
    (r.relink id parent).LayeredBut [id] := by
  have hset : Alike Frame.rank r (r.setParentField id parent) := alike_update id fun _ => rfl
  have hrelink := hset.trans (alike_relink (fun _ _ _ => rfl) fun _ _ h => h)
  refine LayeredBut.of_alike h hrelink fun c hc => ⟨List.not_mem_nil, ?_⟩
  rw [parentOf_relink hid, if_neg fun e => hc (List.mem_singleton.2 e)]

/-- **Moving a frame, with all that is below it, leaves nobody behind.** -/
theorem Layered.moveTo (h : r.Layered) (hid : r.contains id = true) {parent : Option FrameId}
    (hr : (r.relink id parent).Linked) : (r.moveTo id parent).1.Layered := by
  have hsettled := (h.relink hid parent).settleTree hr
  cases parent with
  | some p => exact hsettled
  | none =>
    have htop : (r.relink id none).parentOf id = none := by rw [parentOf_relink hid, if_pos rfl]
    unfold Registry.settleTree at hsettled
    rw [htop] at hsettled
    exact hsettled

/-- **A frame that is made follows its parent.** -/
theorem Layered.make (h : r.Layered) (hr : r.Linked) (hid : r.contains id = false)
    {kind : WidgetType} {name : Option String} {above : Option (FrameId × Frame)} {f : Frame}
    (ha : ∀ p g, above = some (p, g) → r.get? p = some g)
    (hf : (Session.blankFrame kind name above).Sized f) :
    ((r.enroll id f).link f.parent id).Layered := by
  have hparent : f.parent = above.map (·.1) := (Frame.place_of_sized hf).1
  obtain ⟨hdrawable, hfollows⟩ := Frame.drawable_of_sized hf fun p g hpg =>
    h.drawable p g (ha p g hpg)
  obtain ⟨q, hq, hget⟩ := r.get?_enroll id f
  refine Layered.of_alike ?_ (alike_link (fun _ _ _ => rfl) f.parent)
  refine LayeredBut.rewrite h id (fun x hx => ?_) (fun f' hf' => ?_)
    (fun f' p hf' hp _ => ?_) (fun c hc => absurd hc List.not_mem_nil) fun c hc hcid => ?_
  · rw [hget, if_neg hx]
    exact (hq.map Frame.layer :) x
  · rw [hget, if_pos rfl] at hf'
    cases hf'
    exact hdrawable
  · rw [hget, if_pos rfl] at hf'
    cases hf'
    obtain ⟨⟨p, g⟩, habove, rfl⟩ := Option.map_eq_some_iff.1 (hparent.symm.trans hp)
    have hg : r.get? p = some g := ha p g habove
    obtain ⟨g', hg', hrank⟩ := (hq.map Frame.rank).symm.exists_get? hg
    refine ⟨g', ?_, (hfollows p g habove).congr rfl hrank.symm⟩
    have hne : p ≠ id := by
      rintro rfl
      cases hid.symm.trans (congrArg Option.isSome hg)
    rwa [hget, if_neg hne]
  · unfold Under at hcid
    rw [parentOf_enroll, if_neg hc] at hcid
    cases hid.symm.trans (hr.parent c id hcid)

end Registry

/-! ## Steps -/

variable {r r' : Registry} {id : FrameId} {fault : Option Fault} {σ τ : Stage}

theorem FrameStep.keepsLayers (h : FrameStep r r') (hr : r.Linked) (hl : r.Layered) : r'.Layered := by
  cases h with
  | touched id => exact hl.of_alike (Registry.alike_touch id)
  | dirtied => exact hl.of_alike fun _ => rfl
  | resized id | attributed id => exact hl.of_alike (Registry.alike_edit id fun _ => rfl)
  | layered id hs => exact hl.fixStrata hr id hs
  | levelled id level => exact hl.fixLevel hr id level
  | flagged id flag =>
    refine hl.of_alike (Registry.alike_edit id fun _ => ?_)
    cases flag <;> rfl

theorem TreeStep.keepsLayers (h : TreeStep r id r' fault) (hr : r.Linked) (hl : r.Layered) :
    r'.Layered := by
  cases h with
  | shown => exact hl.of_alike (Registry.alike_edit id fun _ => rfl)
  | moved hf hp =>
    have hid : r.contains id = true := congrArg Option.isSome hf
    exact hl.moveTo hid <| hr.relink hid fun p h => ⟨(hp p h).contains, (hp p h).ne, (hp p h).notBelow⟩

/-- **Every step leaves nobody behind.** -/
theorem Step.keepsLayers (h : Step false σ τ) (hσ : σ.Ordered) (hl : σ.registry.Layered) :
    τ.registry.Layered := by
  cases h with
  | framed h => exact h.keepsLayers hσ.linked hl
  | listened h => exact hl.of_alike (h.alike.map Frame.layer :)
  | keyed => exact hl.of_alike (Registry.alike_edit _ fun _ => rfl)
  | tied h => exact hl.of_alike (h.alike.map Frame.layer :)
  | painted => exact hl.of_alike fun _ => rfl
  | created hg ha hf hr =>
    rw [hr, ← (Frame.place_of_sized hf).1]
    exact hl.make hσ.linked (hσ.granted hg).1 ha hf
  | enrolled _ hraw | enrolledAgain hraw | rewritten hraw => cases hraw
  | changed h | changedInPart h => exact h.keepsLayers hσ.linked hl
  | _ => exact hl

/-! ## Runs -/

/-- **Whenever the host of a run is met, every frame that has a parent is in the layer of that parent and
one level above it**, but for what is fixed, and every frame can be drawn. -/
theorem Session.Ran.layered {s : Session} (h : s.Ran false) {host : Host} (hm : s.Met host) :
    host.registry.Layered :=
  h.met (P := fun host => host.registry.Layered)
    (I := fun σ => σ.Ordered ∧ σ.registry.Layered)
    (fun clock => ⟨Stage.ordered_fresh clock, Registry.layered_empty⟩)
    (fun _ _ h hσ => ⟨h.ordered hσ.1, h.keepsLayers hσ.1 hσ.2⟩)
    (fun _ _ hs hσ => hs.registry ▸ hσ.2) hm

/-- A frame is raised while the callback of its child is told of a change. -/
theorem Session.layered_runRootless : (Session.runRootless
    (fun _ _ _ => { steps := [.frame (.act (some 1) (.setLevel (.int 5)))] })
    [.frame (.create (.str "Frame") .null .none .null .null),
      .frame (.create (.str "Frame") .null (.id 1) .null
        (.map [(.str "OnLoad", .callback "raise")])),
      .frame (.act (some 1) (.setStrata (.str "high")))]).host.registry.Layered :=
  Session.Ran.layered (Session.ran_runRootless (fun _ _ _ => by decide) (by decide)) .last

end FrameHost
