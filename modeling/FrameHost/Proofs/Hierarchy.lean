import FrameHost.Proofs.Alike
import FrameHost.Proofs.Graph
import FrameHost.Proofs.Step.Run
import FrameHost.Proofs.Walk

/-!
# The tree of frames

The tree is kept twice, as the parent of each frame and as its list of children. A registry is linked
when the two agree, every id in them is registered, every chain of parents ends, and the names of children
name children. A frame that is made or moved is for a moment listed nowhere; listing it under its parent
links the registry again.

* `Registry.Linked`: the two sides of the tree agree.
* `Registry.Unlisted.link`: listing a frame under its parent.
* `Registry.mem_ancestors_iff`, `Registry.Linked.mem_descendants_iff`: what the walks reach.
* `Session.Ran.linked`: **whenever the host of a run is met, its frames are linked**.
-/

namespace FrameHost

open Relation

namespace Registry

variable {r r' : Registry} {id p c x : FrameId}

/-- The names under which a frame reaches its children. -/
def keysOf (r : Registry) (id : FrameId) : Table String FrameId :=
  ((r.get? id).map (·.keys)).getD {}

/-- `a` is a child of `b`, by its own account. -/
def Under (r : Registry) (a b : FrameId) : Prop := r.parentOf a = some b

/-- The chain of parents from a frame up to one without a parent. -/
inductive Climbs (r : Registry) : FrameId → List FrameId → Prop
  | top {id : FrameId} (h : r.parentOf id = none) : Climbs r id [id]
  | up {id p : FrameId} {chain : List FrameId} (h : r.parentOf id = some p)
      (hp : Climbs r p chain) : Climbs r id (id :: chain)

/-- The two sides of the tree agree. -/
structure Linked (r : Registry) : Prop where
  /-- A frame lists exactly the frames whose parent it is, each once. -/
  listed : ∀ p c, r.contains p = true → r.contains c = true →
    (r.childrenOf p).count c = if r.parentOf c = some p then 1 else 0
  parent : ∀ c p, r.parentOf c = some p → r.contains p = true
  child : ∀ p c, c ∈ r.childrenOf p → r.contains c = true
  /-- Following parents ends, and meets no frame twice. -/
  climbs : ∀ id, ∃ chain, r.Climbs id chain ∧ chain.Nodup
  /-- A name for a child belongs to a child. -/
  keyed : ∀ p c, c ∈ (r.keysOf p).values → c ∈ r.childrenOf p

/-! ## Chains -/

theorem contains_of_parentOf (h : r.parentOf c = some p) : r.contains c = true := by
  obtain ⟨f, hf, -⟩ := Option.bind_eq_some_iff.1 h
  exact congrArg Option.isSome hf

theorem contains_of_mem_childrenOf (h : c ∈ r.childrenOf p) : r.contains p = true := by
  unfold childrenOf at h
  cases hf : r.get? p with
  | none =>
    rw [hf] at h
    cases h
  | some f => exact congrArg Option.isSome hf

/-- In a registry whose chains end, a chain meets no frame twice. -/
theorem exists_climbs (h : Graph.Grounded r.Under id) :
    ∃ chain, r.Climbs id chain ∧ chain.Nodup ∧ ∀ a ∈ chain, ReflTransGen r.Under id a := by
  induction h with
  | intro id hacc ih =>
    cases hp : r.parentOf id with
    | none =>
      refine ⟨[id], .top hp, by simp, fun a ha => ?_⟩
      exact List.mem_singleton.1 ha ▸ .refl
    | some p =>
      obtain ⟨chain, hchain, hnodup, hreach⟩ := ih p hp
      have hid : Graph.Grounded r.Under id := .intro id hacc
      obtain ⟨hnodup, hreach⟩ := hid.nodup_cons hp hnodup hreach
      exact ⟨id :: chain, .up hp hchain, hnodup, hreach⟩

theorem Climbs.grounded {chain : List FrameId} (h : r.Climbs id chain) :
    Graph.Grounded r.Under id := by
  induction h with
  | top h => exact Acc.intro _ fun b hb => by cases h.symm.trans hb
  | up h _ ih => exact Acc.intro _ fun b hb => by cases h.symm.trans hb; exact ih

theorem Linked.grounded (h : r.Linked) (id : FrameId) : Graph.Grounded r.Under id := by
  obtain ⟨chain, hchain, -⟩ := h.climbs id
  exact hchain.grounded

/-! ## Walks -/

theorem edge_parentOf : Walk.Edge (fun a => (r.parentOf a).toList) r.ids = r.Under := by
  funext a b
  refine propext ⟨fun h => Option.mem_toList.1 h.2, fun h => ⟨?_, Option.mem_toList.2 h⟩⟩
  exact r.contains_iff.1 (contains_of_parentOf h)

/-- **The walk along the parents meets what lies above a frame.** -/
theorem mem_ancestors_iff : x ∈ r.ancestors id ↔ TransGen r.Under id x := by
  unfold ancestors chain
  rw [Walk.mem_explore_iff, edge_parentOf]
  constructor
  · rintro ⟨q, hq, hqx⟩
    exact TransGen.head' (Option.mem_toList.1 hq) hqx
  · intro h
    obtain ⟨q, hq, hqx⟩ := TransGen.head'_iff.1 h
    exact ⟨q, Option.mem_toList.2 hq, hqx⟩

theorem isAncestor_iff : r.isAncestor p id = true ↔ TransGen r.Under id p := by
  unfold isAncestor
  rw [List.contains_iff_mem, mem_ancestors_iff]

theorem Linked.parentOf_eq_none (h : r.Linked) (hnone : r.at? (r.parentOf id) = none) :
    r.parentOf id = none := by
  cases hp : r.parentOf id with
  | none => rfl
  | some p =>
    obtain ⟨g, hg⟩ := Option.isSome_iff_exists.1 (h.parent id p hp)
    rw [hp] at hnone
    cases hnone.symm.trans hg

theorem Linked.mem_childrenOf_iff (h : r.Linked) (hp : r.contains p = true) :
    c ∈ r.childrenOf p ↔ r.parentOf c = some p := by
  constructor
  · intro hc
    by_cases hn : r.parentOf c = some p
    · exact hn
    · have hcount := h.listed p c hp (h.child p c hc)
      rw [if_neg hn] at hcount
      exact absurd hc (List.count_eq_zero.1 hcount)
  · intro hc
    have hcount := h.listed p c hp (contains_of_parentOf hc)
    rw [if_pos hc] at hcount
    exact List.count_pos_iff.1 (hcount ▸ Nat.one_pos)

/-- **The walk along the children meets what lies below a frame.** -/
theorem Linked.mem_descendants_iff (h : r.Linked) (hid : r.contains id = true) :
    x ∈ r.descendants id ↔ TransGen r.Under x id := by
  have hedge : Walk.Edge r.childrenOf r.ids = fun a b => r.Under b a := by
    funext a b
    refine propext ⟨fun hab => ?_, fun hab => ?_⟩
    · exact (h.mem_childrenOf_iff (r.contains_iff.2 hab.1)).1 hab.2
    · have ha : r.contains a = true := h.parent b a hab
      exact ⟨r.contains_iff.1 ha, (h.mem_childrenOf_iff ha).2 hab⟩
  unfold descendants
  rw [Walk.mem_explore_below_iff (r.contains_iff.1 hid), hedge, transGen_swap]
  constructor
  · exact fun hx => hx.2
  · exact fun hx => ⟨fun e => (h.grounded id).not_transGen (e ▸ hx), hx⟩

/-- What lies below a frame is registered. -/
theorem Linked.contains_of_mem_descendants (h : r.Linked) (hx : x ∈ r.descendants id) :
    r.contains x = true := by
  obtain ⟨c, hc, -⟩ := Walk.reached_of_mem_explore hx
  obtain ⟨p, hp, -⟩ :=
    TransGen.head'_iff.1 ((h.mem_descendants_iff (contains_of_mem_childrenOf hc)).1 hx)
  exact contains_of_parentOf hp

theorem childrenOf_of_absent (hc : r.contains id = false) : r.childrenOf id = [] := by
  have hnone : r.get? id = none := Option.not_isSome_iff_eq_none.1 (Bool.eq_false_iff.1 hc)
  unfold childrenOf
  rw [hnone]
  rfl

theorem descendants_of_absent (hc : r.contains id = false) : r.descendants id = [] := by
  unfold descendants
  rw [childrenOf_of_absent hc]
  exact Walk.explore.eq_1 ..

/-! ## What a law of links looks at -/

theorem exists_climbs_nodup (h : Graph.Grounded r.Under id) :
    ∃ chain, r.Climbs id chain ∧ chain.Nodup := by
  obtain ⟨chain, hchain, hnodup, -⟩ := exists_climbs h
  exact ⟨chain, hchain, hnodup⟩

theorem Alike.childrenOf (h : Alike Frame.links r r') (id : FrameId) :
    r'.childrenOf id = r.childrenOf id := h.getD (·.2.1) [] id

theorem Alike.keysOf (h : Alike Frame.links r r') (id : FrameId) : r'.keysOf id = r.keysOf id :=
  h.getD (·.2.2) {} id

/-- Registries with the same tree are linked together, if the names for children are in order. -/
theorem Linked.of_alike_tree (h : r.Linked) (ha : Alike (fun f => (f.parent, f.children)) r r')
    (hkeyed : ∀ p c, c ∈ (r'.keysOf p).values → c ∈ r.childrenOf p) : r'.Linked := by
  have hparent : r'.parentOf = r.parentOf := funext (ha.parentOf Prod.fst fun _ => rfl)
  have hchildren : r'.childrenOf = r.childrenOf := funext (ha.getD Prod.snd [])
  have hcontains : r'.contains = r.contains := funext ha.contains
  have hunder : r'.Under = r.Under := by
    unfold Under
    rw [hparent]
  refine ⟨?_, ?_, ?_, fun id => exists_climbs_nodup ?_, ?_⟩
  · rw [hparent, hchildren, hcontains]
    exact h.listed
  · rw [hparent, hcontains]
    exact h.parent
  · rw [hchildren, hcontains]
    exact h.child
  · rw [hunder]
    exact h.grounded id
  · rw [hchildren]
    exact hkeyed

/-- Registries with the same links are linked together. -/
theorem Linked.of_alike (h : r.Linked) (ha : Alike Frame.links r r') : r'.Linked := by
  refine h.of_alike_tree (ha.map fun (parent, children, _) => (parent, children) :) fun p c hc => ?_
  rw [ha.keysOf] at hc
  exact h.keyed p c hc

/-! ## Changes of links -/

@[simp] theorem contains_edit (g : Frame → Frame) : (r.edit id g).contains x = r.contains x := by
  rw [Bool.eq_iff_iff, contains_iff, contains_iff, ids_edit]

theorem childrenOf_removeChild :
    (r.removeChild p c).childrenOf x =
      if x = p then (r.childrenOf p).erase c else r.childrenOf x := by
  unfold childrenOf removeChild
  rw [get?_edit]
  by_cases hx : x = p
  · subst hx
    rw [if_pos rfl, if_pos (beq_self_eq_true x)]
    cases r.get? x <;> rfl
  · rw [if_neg hx, if_neg (by simpa using hx)]

theorem keysOf_removeChild :
    (r.removeChild p c).keysOf x =
      if x = p then (r.keysOf p).filter fun _ k => decide (k ≠ c) else r.keysOf x := by
  unfold keysOf removeChild
  rw [get?_edit]
  by_cases hx : x = p
  · subst hx
    rw [if_pos rfl, if_pos (beq_self_eq_true x)]
    cases r.get? x <;> rfl
  · rw [if_neg hx, if_neg (by simpa using hx)]

theorem childrenOf_addChild (hp : r.contains p = true) :
    (r.addChild p c).childrenOf x =
      if x = p then if c ∈ r.childrenOf p then r.childrenOf p else r.childrenOf p ++ [c]
      else r.childrenOf x := by
  obtain ⟨f, hf⟩ := Option.isSome_iff_exists.1 hp
  unfold childrenOf addChild
  rw [get?_edit]
  by_cases hx : x = p
  · subst hx
    have hf : r.get? x = some f := hf
    rw [if_pos rfl, if_pos (beq_self_eq_true x), hf]
    rfl
  · rw [if_neg hx, if_neg (by simpa using hx)]

theorem alike_addChild : Alike (fun f => (f.parent, f.keys)) r (r.addChild p c) :=
  alike_edit p fun _ => rfl

theorem parentOf_setParentField (hid : r.contains id = true) (parent : Option FrameId) :
    (r.setParentField id parent).parentOf x = if x = id then parent else r.parentOf x := by
  obtain ⟨f, hf⟩ := Option.isSome_iff_exists.1 hid
  unfold parentOf setParentField
  rw [get?_update]
  by_cases hx : x = id
  · subst hx
    have hf : r.get? x = some f := hf
    rw [if_pos rfl, if_pos (beq_self_eq_true x), hf]
    rfl
  · rw [if_neg hx, if_neg (by simpa using hx)]

/-! ## Frames that are listed nowhere -/

/-- The two sides of the tree agree, but for one frame, which is listed nowhere. -/
structure Unlisted (r : Registry) (id : FrameId) : Prop where
  listed : ∀ p c, r.contains p = true → r.contains c = true →
    (r.childrenOf p).count c = if r.parentOf c = some p ∧ c ≠ id then 1 else 0
  parent : ∀ c p, r.parentOf c = some p → r.contains p = true
  child : ∀ p c, c ∈ r.childrenOf p → r.contains c = true
  grounded : ∀ x, Graph.Grounded r.Under x
  keyed : ∀ p c, c ∈ (r.keysOf p).values → c ∈ r.childrenOf p

/-- A frame without a parent is rightly listed nowhere. -/
theorem count_of_top (hid : r.parentOf id = none) :
    (if r.parentOf c = some p ∧ c ≠ id then 1 else 0) =
      if r.parentOf c = some p then 1 else 0 := by
  have hne : r.parentOf c = some p → c ≠ id := by
    rintro hc rfl
    cases hid.symm.trans hc
  by_cases hc : r.parentOf c = some p
  · rw [if_pos ⟨hc, hne hc⟩, if_pos hc]
  · rw [if_neg fun h => hc h.1, if_neg hc]

theorem Unlisted.addChild (h : r.Unlisted id) (hp : r.parentOf id = some p) :
    (r.addChild p id).Linked := by
  have hcp : r.contains p = true := h.parent id p hp
  have hcid : r.contains id = true := contains_of_parentOf hp
  have hnot : id ∉ r.childrenOf p := by
    have hcount := h.listed p id hcp hcid
    rw [if_neg fun hc => hc.2 rfl] at hcount
    exact List.count_eq_zero.1 hcount
  have hparent : (r.addChild p id).parentOf = r.parentOf :=
    funext (alike_addChild.parentOf Prod.fst fun _ => rfl)
  have hcontains : (r.addChild p id).contains = r.contains :=
    funext (alike_addChild (p := p) (c := id)).contains
  have hkeys : (r.addChild p id).keysOf = r.keysOf := funext (alike_addChild.getD Prod.snd {})
  have hunder : (r.addChild p id).Under = r.Under := by
    unfold Under
    rw [hparent]
  have hchildren (x : FrameId) : (r.addChild p id).childrenOf x =
      if x = p then r.childrenOf p ++ [id] else r.childrenOf x := by
    rw [childrenOf_addChild hcp, if_neg hnot]
  constructor
  case listed =>
    intro q c hq hc
    rw [hcontains] at hq hc
    rw [hparent, hchildren]
    have hcount := h.listed q c hq hc
    by_cases hcid : c = id
    · -- `id` was listed nowhere, and is now at the end of one list
      subst hcid
      rw [if_neg fun hc => hc.2 rfl] at hcount
      by_cases hqp : q = p
      · subst hqp
        rw [if_pos rfl, if_pos hp, List.count_append, hcount]
        simp
      · rw [if_neg hqp, hcount, if_neg]
        exact fun hq => hqp (Option.some.inj (hq.symm.trans hp))
    · have hsame : (if q = p then r.childrenOf p ++ [id] else r.childrenOf q).count c =
          (r.childrenOf q).count c := by
        split
        · rename_i hqp
          rw [hqp, List.count_append, List.count_singleton, if_neg (by simpa using Ne.symm hcid),
            Nat.add_zero]
        · rfl
      rw [hsame, hcount]
      simp [hcid]
  case parent =>
    rw [hparent, hcontains]
    exact h.parent
  case child =>
    intro q c hc
    rw [hchildren] at hc
    rw [hcontains]
    split at hc
    · rcases List.mem_append.1 hc with hc | hc
      · exact h.child p c hc
      · exact List.mem_singleton.1 hc ▸ hcid
    · exact h.child q c hc
  case climbs =>
    intro x
    refine exists_climbs_nodup ?_
    rw [hunder]
    exact h.grounded x
  case keyed =>
    intro q c hc
    rw [hkeys] at hc
    have hmem := h.keyed q c hc
    rw [hchildren]
    split
    · rename_i hqp
      exact List.mem_append_left _ (hqp ▸ hmem)
    · exact hmem

/-- **Listing a frame under its parent links the registry again.** -/
theorem Unlisted.link (h : r.Unlisted id) : (r.link (r.parentOf id) id).Linked := by
  cases hp : r.parentOf id with
  | some p => exact h.addChild hp
  | none =>
    change r.Linked
    constructor
    case listed => exact fun p c hcp hcc => (h.listed p c hcp hcc).trans (count_of_top hp)
    case parent => exact h.parent
    case child => exact h.child
    case climbs => exact fun x => exists_climbs_nodup (h.grounded x)
    case keyed => exact h.keyed

/-! ## Taking a frame in -/

theorem contains_enroll {f : Frame} :
    (r.enroll id f).contains x = true ↔ x = id ∨ r.contains x = true := by
  obtain ⟨q, hq, hget⟩ := get?_enroll r id f
  change ((r.enroll id f).get? x).isSome = true ↔ _
  rw [hget]
  by_cases hx : x = id
  · simp [hx]
  · rw [if_neg hx, hq.isSome]
    exact ⟨.inr, fun h => h.resolve_left hx⟩

theorem parentOf_enroll {f : Frame} :
    (r.enroll id f).parentOf x = if x = id then f.parent else r.parentOf x := by
  obtain ⟨q, hq, hget⟩ := get?_enroll r id f
  rw [← hq.parentOf (·.parent) (fun _ => rfl) x]
  unfold parentOf
  rw [hget]
  split <;> rfl

/-- Taking in a frame without children changes no list of children. -/
theorem links_enroll (hid : r.contains id = false) {f : Frame}
    (hf : f.links = (f.parent, [], {})) :
    (r.enroll id f).childrenOf x = r.childrenOf x ∧ (r.enroll id f).keysOf x = r.keysOf x := by
  obtain ⟨q, hq, hget⟩ := get?_enroll r id f
  have hnone : r.get? id = none := Option.not_isSome_iff_eq_none.1 (Bool.eq_false_iff.1 hid)
  rw [← hq.place.links.childrenOf x, ← hq.place.links.keysOf x]
  unfold childrenOf keysOf
  rw [hget]
  by_cases hx : x = id
  · have hq : q.get? id = none := Option.not_isSome_iff_eq_none.1 (by rw [hq.isSome, hnone]; simp)
    rw [if_pos hx, hx, hq]
    exact ⟨congrArg (·.2.1) hf, congrArg (·.2.2) hf⟩
  · rw [if_neg hx]
    exact ⟨rfl, rfl⟩

/-- A frame that has just been taken in, without children, is listed nowhere. -/
theorem Linked.enroll (h : r.Linked) (hid : r.contains id = false) {f : Frame}
    (hf : f.links = (f.parent, [], {})) (hp : ∀ p, f.parent = some p → r.contains p = true) :
    (r.enroll id f).Unlisted id := by
  have unknown {b : Bool} (hb : b = true) (hidb : r.contains id = b) : False := by
    cases hid.symm.trans (hidb.trans hb)
  have hchildren (x : FrameId) : (r.enroll id f).childrenOf x = r.childrenOf x :=
    (links_enroll hid hf).1
  have below (c : FrameId) : r.parentOf c ≠ some id := fun hc => unknown (h.parent c id hc) rfl
  constructor
  case listed =>
    intro p c hcp hcc
    rw [hchildren, parentOf_enroll]
    by_cases hc : c = id
    · rw [if_neg fun hn => hn.2 hc]
      refine List.count_eq_zero.2 fun hmem => ?_
      exact unknown (h.child p c hmem) (hc ▸ rfl)
    · have hcc : r.contains c = true := (contains_enroll.1 hcc).resolve_left hc
      rw [if_neg hc]
      rcases contains_enroll.1 hcp with rfl | hcp
      · rw [if_neg fun hn => below c hn.1]
        refine List.count_eq_zero.2 fun hmem => ?_
        exact unknown (contains_of_mem_childrenOf hmem) rfl
      · rw [h.listed p c hcp hcc]
        simp [hc]
  case parent =>
    intro c p hc
    rw [parentOf_enroll] at hc
    refine contains_enroll.2 (.inr ?_)
    split at hc
    · exact hp p hc
    · exact h.parent c p hc
  case child =>
    intro p c hc
    rw [hchildren] at hc
    exact contains_enroll.2 (.inr (h.child p c hc))
  case grounded =>
    refine Graph.grounded_redirect (a := id) (fun x y hx hxy => ?_) (fun y hy => .inr ?_) h.grounded
    · rwa [Under, parentOf_enroll, if_neg hx] at hxy
    · rw [Under, parentOf_enroll, if_pos rfl] at hy
      intro hreach
      rcases hreach.cases_tail with rfl | ⟨c, -, hc⟩
      · exact unknown (hp _ hy) rfl
      · exact below c hc
  case keyed =>
    intro p c hc
    rw [(links_enroll hid hf).2] at hc
    rw [hchildren]
    exact h.keyed p c hc

theorem contains_link (parent : Option FrameId) : (r.link parent id).contains x = r.contains x :=
  (alike_link (fun _ _ _ => rfl) parent : Alike Frame.parent r (r.link parent id)).contains x

/-- **Making a frame keeps the registry linked.** -/
theorem Linked.make (h : r.Linked) (hid : r.contains id = false) {f : Frame}
    (hf : f.links = (f.parent, [], {})) (hp : ∀ p, f.parent = some p → r.contains p = true) :
    ((r.enroll id f).link f.parent id).Linked := by
  have hlinked := (h.enroll hid hf hp).link
  rwa [parentOf_enroll, if_pos rfl] at hlinked

/-! ## Moving a frame -/

/-- A frame that is taken off the list above it is listed nowhere, and its names go with it. -/
theorem Linked.lists_detach (h : r.Linked) (id : FrameId) :
    (∀ p c, r.contains p = true → r.contains c = true →
      ((r.detach id).childrenOf p).count c = if r.parentOf c = some p ∧ c ≠ id then 1 else 0) ∧
    (∀ p c, c ∈ (r.detach id).childrenOf p → c ∈ r.childrenOf p) ∧
    ∀ p c, c ∈ ((r.detach id).keysOf p).values → c ∈ (r.detach id).childrenOf p := by
  unfold detach
  cases ho : r.parentOf id with
  | none =>
    exact ⟨fun p c hp hc => (h.listed p c hp hc).trans (count_of_top ho).symm,
      fun _ _ hc => hc, h.keyed⟩
  | some o =>
    dsimp only
    refine ⟨fun p c hp hc => ?_, fun p c hc => ?_, fun p c hc => ?_⟩
    · have hcount := h.listed p c hp hc
      rw [childrenOf_removeChild]
      by_cases hpo : p = o
      · subst hpo
        rw [if_pos rfl, List.count_erase, hcount]
        by_cases hcid : c = id
        · subst hcid
          simp [ho]
        · simp [hcid, Ne.symm hcid]
      · rw [if_neg hpo, hcount]
        by_cases hcid : c = id
        · subst hcid
          rw [ho, if_neg fun he => hpo (Option.some.inj he).symm, if_neg fun hn => hn.2 rfl]
        · simp [hcid]
    · rw [childrenOf_removeChild] at hc
      split at hc
      · rename_i hpo
        exact hpo ▸ List.mem_of_mem_erase hc
      · exact hc
    · rw [keysOf_removeChild] at hc
      rw [childrenOf_removeChild]
      split at hc
      · rename_i hpo
        rw [if_pos hpo]
        obtain ⟨hc, hne⟩ := Table.mem_values_filter.1 hc
        exact (List.mem_erase_of_ne (by simpa using hne)).2 (h.keyed o c hc)
      · rename_i hpo
        rw [if_neg hpo]
        exact h.keyed p c hc

theorem contains_detach : (r.detach id).contains x = r.contains x :=
  (alike_detach fun _ _ _ => rfl : Alike Frame.parent r (r.detach id)).contains x

theorem parentOf_detach : (r.detach id).parentOf x = r.parentOf x :=
  (alike_detach fun _ _ _ => rfl : Alike Frame.parent r (r.detach id)).parentOf (fun p => p)
    (fun _ => rfl) x

theorem alike_setParentField (parent : Option FrameId) :
    Alike (fun f => (f.children, f.keys)) r (r.setParentField id parent) :=
  alike_update id fun _ => rfl

theorem parentOf_detach_setParentField (hid : r.contains id = true) (parent : Option FrameId) :
    ((r.detach id).setParentField id parent).parentOf x =
      if x = id then parent else r.parentOf x := by
  rw [parentOf_setParentField (contains_detach.trans hid), parentOf_detach]

/-- A frame that is taken off the list above it, and given another parent, is listed nowhere. -/
theorem Linked.detach (h : r.Linked) (hid : r.contains id = true) {parent : Option FrameId}
    (hp : ∀ p, parent = some p → r.contains p = true ∧ p ≠ id ∧ r.isAncestor id p = false) :
    ((r.detach id).setParentField id parent).Unlisted id := by
  obtain ⟨hlisted, hchild, hkeyed⟩ := h.lists_detach id
  have hset : Alike (fun f => (f.children, f.keys)) (r.detach id)
      ((r.detach id).setParentField id parent) := alike_setParentField parent
  have hcontains (x : FrameId) :
      ((r.detach id).setParentField id parent).contains x = r.contains x :=
    (hset.contains x).trans contains_detach
  have hchildren (x : FrameId) : ((r.detach id).setParentField id parent).childrenOf x =
      (r.detach id).childrenOf x := hset.getD Prod.fst [] x
  have hkeys (x : FrameId) : ((r.detach id).setParentField id parent).keysOf x =
      (r.detach id).keysOf x := hset.getD Prod.snd {} x
  constructor
  case listed =>
    intro p c hcp hcc
    rw [hcontains] at hcp hcc
    rw [hchildren, hlisted p c hcp hcc, parentOf_detach_setParentField hid]
    by_cases hc : c = id
    · rw [if_neg fun hn => hn.2 hc, if_neg fun hn => hn.2 hc]
    · rw [if_neg hc]
  case parent =>
    intro c p hc
    rw [parentOf_detach_setParentField hid] at hc
    rw [hcontains]
    split at hc
    · exact (hp p hc).1
    · exact h.parent c p hc
  case child =>
    intro p c hc
    rw [hchildren] at hc
    rw [hcontains]
    exact h.child p c (hchild p c hc)
  case grounded =>
    -- only the edge above `id` is turned, and the guard has looked at what it leads to now
    refine Graph.grounded_redirect (a := id) (fun x y hx hxy => ?_) (fun y hy => .inr ?_) h.grounded
    · rwa [Under, parentOf_detach_setParentField hid, if_neg hx] at hxy
    · rw [Under, parentOf_detach_setParentField hid, if_pos rfl] at hy
      obtain ⟨-, hne, hnot⟩ := hp y hy
      intro hreach
      rcases reflTransGen_iff_eq_or_transGen.1 hreach with rfl | hreach
      · exact hne rfl
      · cases hnot.symm.trans (isAncestor_iff.2 hreach)
  case keyed =>
    intro p c hc
    rw [hkeys] at hc
    rw [hchildren]
    exact hkeyed p c hc

/-- **Moving a frame keeps the registry linked.** -/
theorem Linked.relink (h : r.Linked) (hid : r.contains id = true) {parent : Option FrameId}
    (hp : ∀ p, parent = some p → r.contains p = true ∧ p ≠ id ∧ r.isAncestor id p = false) :
    (r.relink id parent).Linked := by
  have hlinked := (h.detach hid hp).link
  rwa [parentOf_detach_setParentField hid, if_pos rfl] at hlinked

theorem contains_relink (parent : Option FrameId) :
    (r.relink id parent).contains x = r.contains x := by
  have hset : Alike (fun f => (f.children, f.keys)) (r.detach id)
      ((r.detach id).setParentField id parent) := alike_setParentField parent
  have hcontains : ((r.detach id).setParentField id parent).contains x = r.contains x :=
    (hset.contains x).trans contains_detach
  exact (contains_link parent).trans hcontains

theorem parentOf_relink (hid : r.contains id = true) (parent : Option FrameId) :
    (r.relink id parent).parentOf x = if x = id then parent else r.parentOf x := by
  have hlink : Alike Frame.parent ((r.detach id).setParentField id parent) (r.relink id parent) :=
    alike_link (fun _ _ _ => rfl) parent
  rw [hlink.parentOf (fun p => p) fun _ => rfl, parentOf_detach_setParentField hid]

/-- Naming a child keeps the registry linked. -/
theorem Linked.setKey (h : r.Linked) (key : String) (hp : r.parentOf id = some p) :
    (r.edit p fun f => { f with keys := f.keys.insert key id }).Linked := by
  have hchild : id ∈ r.childrenOf p := (h.mem_childrenOf_iff (h.parent id p hp)).2 hp
  refine h.of_alike_tree (alike_edit p fun _ => rfl) fun x c hc => ?_
  unfold keysOf at hc
  rw [get?_edit] at hc
  split at hc
  · rename_i hx
    have hx : x = p := eq_of_beq hx
    subst hx
    cases hf : r.get? x with
    | none =>
      rw [hf] at hc
      cases hc
    | some f =>
      rw [hf] at hc
      rcases Table.mem_values_insert hc with rfl | hc
      · exact hchild
      · exact h.keyed x c (by rwa [keysOf, hf])
  · exact h.keyed x c hc

end Registry

/-! ## Steps -/

variable {r r' : Registry} {id : FrameId} {fault : Option Fault} {σ τ : Stage}

theorem TreeStep.keeps (h : TreeStep r id r' fault) (hr : r.Linked) : r'.Linked := by
  cases h with
  | shown => exact hr.of_alike (Registry.alike_edit id fun _ => rfl)
  | moved hf hp hne =>
    have hid : r.contains id = true := congrArg Option.isSome hf
    have hrelink := hr.relink hid fun p h => ⟨(hp p h).contains, (hp p h).ne, (hp p h).notBelow⟩
    exact hrelink.of_alike (Registry.alike_moveTo id _).links

theorem TreeStep.contains (h : TreeStep r id r' fault) (x : FrameId) :
    r'.contains x = r.contains x := by
  cases h with
  | shown => exact Registry.contains_edit _
  | moved hf hp hne =>
    exact ((Registry.alike_moveTo id _).contains x).trans (Registry.contains_relink _)

namespace Stage

/-- The frames are linked, and their ids were drawn. -/
structure Ordered (σ : Stage) : Prop where
  linked : σ.registry.Linked
  numbered : ∀ id, σ.registry.contains id = true → id ≤ σ.lastId

end Stage

/-- An id that is granted is new, if ids were drawn and so was the one that was asked for. -/
theorem Registry.Granted.new {r : Registry} {last wanted last' : FrameId}
    (hg : r.Granted last wanted id last') (hnumbered : ∀ x, r.contains x = true → x ≤ last)
    (hw : wanted ≤ last) : r.contains id = false ∧ last ≤ last' ∧ id ≤ last' := by
  cases hg with
  | asked h => exact ⟨h, Int.le_refl _, hw⟩
  | fresh h =>
    have hlt : last < last + 1 := Int.lt_succ _
    refine ⟨Bool.eq_false_iff.2 fun hc => ?_, Int.le_of_lt hlt, Int.le_refl _⟩
    exact absurd (hnumbered _ hc) (Int.not_le_of_gt hlt)

theorem Stage.Ordered.granted (hσ : σ.Ordered) {last : FrameId}
    (hg : σ.registry.Granted σ.lastId σ.lastId id last) :
    σ.registry.contains id = false ∧ σ.lastId ≤ last ∧ id ≤ last :=
  hg.new hσ.numbered (Int.le_refl _)

/-- **Every step keeps the frames linked.** -/
theorem Step.ordered (h : Step false σ τ) (hσ : σ.Ordered) : τ.Ordered := by
  cases h with
  | drew => exact ⟨hσ.linked, fun id h => Int.le_of_lt (Int.lt_add_one_of_le (hσ.numbered id h))⟩
  | framed h =>
    exact ⟨hσ.linked.of_alike h.alike.links, fun id hid =>
      hσ.numbered id ((h.alike.contains id).symm.trans hid)⟩
  | listened h =>
    exact ⟨hσ.linked.of_alike (h.alike.map Frame.links :), fun id hid =>
      hσ.numbered id ((h.alike.contains id).symm.trans hid)⟩
  | keyed key hf hp =>
    refine ⟨hσ.linked.setKey key (Option.bind_eq_some_iff.2 ⟨_, hf, hp⟩), fun id hid => ?_⟩
    exact hσ.numbered id ((Registry.contains_edit _).symm.trans hid)
  | tied h =>
    exact ⟨hσ.linked.of_alike (h.alike.map Frame.links), fun id hid =>
      hσ.numbered id ((h.alike.contains id).symm.trans hid)⟩
  | painted => exact ⟨hσ.linked.of_alike fun _ => rfl, hσ.numbered⟩
  | created hg ha hf hr =>
    obtain ⟨hnew, hlast, hid⟩ := hσ.granted hg
    obtain ⟨hparent, hplace⟩ := Frame.place_of_sized hf
    subst hr
    constructor
    · rw [← hparent]
      refine hσ.linked.make hnew (congrArg Prod.fst hplace :) fun p hp => ?_
      obtain ⟨⟨q, g⟩, habove, rfl⟩ := Option.map_eq_some_iff.1 (hparent.symm.trans hp)
      exact congrArg Option.isSome (ha q g habove)
    · intro x hx
      rcases Registry.contains_enroll.1 ((Registry.contains_link _).symm.trans hx) with rfl | hx
      · exact hid
      · exact Int.le_trans (hσ.numbered x hx) hlast
  | enrolled _ hraw | enrolledAgain hraw | rewritten hraw => cases hraw
  | changed h | changedInPart h =>
    exact ⟨h.keeps hσ.linked, fun id hid => hσ.numbered id ((h.contains id).symm.trans hid)⟩
  | _ => exact ⟨hσ.linked, hσ.numbered⟩

/-! ## Runs -/

theorem Stage.ordered_fresh (clock : Clock) : Ordered { clock } where
  linked :=
    { listed := fun _ _ h => by cases h
      parent := fun _ _ h => by cases h
      child := fun _ _ h => by cases h
      climbs := fun id => ⟨[id], .top rfl, by simp⟩
      keyed := fun _ _ h => by cases h }
  numbered := fun _ h => by cases h

/-- **Whenever the host of a run is met, its frames are linked**, however callbacks are nested and
whatever they raise. -/
theorem Session.Ran.linked {s : Session} (h : s.Ran false) {host : Host} (hm : s.Met host) :
    host.registry.Linked :=
  h.met Stage.ordered_fresh (fun _ _ h hσ => h.ordered hσ)
    (fun _ _ hs hσ => hs.registry ▸ hσ.linked) hm

/-- A frame is made, another one under it, and the callback of that one takes it out again. -/
theorem Session.linked_runRootless : (Session.runRootless
    (fun _ _ _ => { steps := [.frame (.act (some 2) (.setParent .none))] })
    [.frame (.create (.str "Frame") .null .none .null .null),
      .frame (.create (.str "Frame") .null (.id 1) .null
        (.map [(.str "OnLoad", .callback "leave")]))]).host.registry.Linked :=
  Session.Ran.linked (Session.ran_runRootless (fun _ _ _ => by decide) (by decide)) .last

end FrameHost
