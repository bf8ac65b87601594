import FrameHost.Proofs.Visibility
import Mathlib.Data.List.TakeWhile
import Mathlib.Data.Set.Card

/-!
# Ways up from a frame

The parents that frames name may be anything: a frame may be its own parent, parents may make a loop, and a
parent may be registered nowhere. Whether a frame lies above another one, how deep a frame is and whether it
is visible are found by going up along the parents, until they end or come to an id that has been seen. What
has been seen at the start is not the same for all: the depth of a frame does not count the frame itself,
also where the way up comes back to it.

* `Registry.mem_chain_self_iff`: what the way up meets besides the frame.
* `Registry.Ascends`: the loop that goes up, with the test that may stop it; `Registry.exists_ascends`: it ends.
* `Registry.Ascends.eq_chain`: what the loop passes, and what stops it.
* `Registry.ways_up`: **on every graph of parents, the ways up end, and what is found is what is there.**
-/

namespace FrameHost.Registry

open Relation

variable {r : Registry} {id x : FrameId} {seen passed : List FrameId} {next stopped : Option FrameId}
  {stops : FrameId → Bool}

/-! ## The way up -/

theorem parentOf_of_not_mem_ids (h : id ∉ r.ids) : r.parentOf id = none := by
  cases hp : r.parentOf id with
  | none => rfl
  | some p => exact absurd (r.contains_iff.1 (contains_of_parentOf hp)) h

@[simp] theorem chain_none (r : Registry) (seen : List FrameId) : r.chain seen none = [] := by
  unfold chain
  rw [Option.toList_none, Walk.explore]

theorem chain_of_mem (h : id ∈ seen) : r.chain seen (some id) = [] := by
  unfold chain
  rw [Option.toList_some, Walk.explore, if_pos h, Walk.explore]

theorem chain_of_not_mem (h : id ∉ seen) :
    r.chain seen (some id) = id :: r.chain (id :: seen) (r.parentOf id) := by
  unfold chain
  rw [Option.toList_some, Walk.explore, if_neg h]
  split
  · rw [List.nil_append]
  case isFalse hid => rw [parentOf_of_not_mem_ids hid, Option.toList_none]

theorem nodup_chain (r : Registry) (seen : List FrameId) (start : Option FrameId) :
    (r.chain seen start).Nodup := Walk.explore_nodup ..

/-- **The way up from a frame that counts as seen meets what lies above it, without the frame itself.** -/
theorem mem_chain_self_iff :
    x ∈ r.chain [id] (r.parentOf id) ↔ x ≠ id ∧ TransGen r.Under id x := by
  by_cases hid : id ∈ r.ids
  · rw [← edge_parentOf]
    exact Walk.mem_explore_below_iff hid
  · have hnone : r.parentOf id = none := parentOf_of_not_mem_ids hid
    have hnothing : ¬ TransGen r.Under id x := by
      intro h
      obtain ⟨p, hp, -⟩ := TransGen.head'_iff.1 h
      cases hnone.symm.trans hp
    rw [hnone, chain_none]
    simp [hnothing]

/-- **The depth of a frame is the number of ids that lie above it, without its own.** -/
theorem encard_above (r : Registry) (id : FrameId) :
    {a | a ≠ id ∧ TransGen r.Under id a}.encard = r.depth id := by
  have hset : {a | a ≠ id ∧ TransGen r.Under id a} = ((r.chain [id] (r.parentOf id)).toFinset : Set FrameId) := by
    ext a
    simp [mem_chain_self_iff]
  rw [hset, Set.encard_coe_eq_coe_finsetCard, List.toFinset_card_of_nodup (nodup_chain ..)]
  rfl

/-! ## The loops -/

/-- The loop up from an id, which a test may stop. Otherwise it ends where the chain of parents does, or at
an id that has been seen; no such id stops it, so that it does not matter which is looked at first. It has
passed some ids, and remembers the one that it was stopped by. Nothing bounds it but the ids that it has
seen. -/
inductive Ascends (r : Registry) (stops : FrameId → Bool) :
    (seen : List FrameId) → (next : Option FrameId) → (passed : List FrameId) → (stopped : Option FrameId) → Prop
  | top {seen : List FrameId} : Ascends r stops seen none [] none
  | stop {seen : List FrameId} {p : FrameId} (hp : stops p = true) : Ascends r stops seen (some p) [] (some p)
  | again {seen : List FrameId} {p : FrameId} (hp : stops p = false) (hs : p ∈ seen) :
      Ascends r stops seen (some p) [] none
  | up {seen passed : List FrameId} {p : FrameId} {stopped : Option FrameId} (hp : stops p = false)
      (hs : p ∉ seen) (h : Ascends r stops (p :: seen) (r.parentOf p) passed stopped) :
      Ascends r stops seen (some p) (p :: passed) stopped

/-- Whether a frame that is not shown has this id. -/
def hides (r : Registry) (a : FrameId) : Bool := (r.get? a).any fun f => !f.visible

theorem eq_some_of_toList {queue : List FrameId} (h : next.toList = x :: queue) :
    next = some x ∧ queue = [] := by
  cases next with
  | none => cases h
  | some p =>
    obtain ⟨rfl, rfl⟩ := List.cons.inj h
    exact ⟨rfl, rfl⟩

/-- **The loop ends**, whatever stops it: the walk along the same parents does. -/
theorem exists_ascends (r : Registry) (stops : FrameId → Bool) (seen : List FrameId) (next : Option FrameId) :
    ∃ passed stopped, r.Ascends stops seen next passed stopped := by
  have hvisits : Walk.Visits (fun a => (r.parentOf a).toList) next.toList seen (r.chain seen next) := by
    apply Walk.visits_explore
    intro a ha
    rw [parentOf_of_not_mem_ids ha]
    rfl
  -- a frame has one parent at most, so that the queue of the walk never holds more than one id
  generalize hqueue : next.toList = queue at hvisits
  generalize r.chain seen next = visited at hvisits
  induction hvisits generalizing next with
  | done =>
    obtain rfl := Option.toList_eq_nil_iff.1 hqueue
    exact ⟨[], none, .top⟩
  | @skip a queue seen visited ha _ _ =>
    obtain ⟨rfl, -⟩ := eq_some_of_toList hqueue
    cases hp : stops a with
    | true => exact ⟨[], some a, .stop hp⟩
    | false => exact ⟨[], none, .again hp ha⟩
  | @visit a queue seen visited ha _ ih =>
    obtain ⟨rfl, rfl⟩ := eq_some_of_toList hqueue
    cases hp : stops a with
    | true => exact ⟨[], some a, .stop hp⟩
    | false =>
      obtain ⟨passed, stopped, h⟩ := ih (r.parentOf a) (List.nil_append _).symm
      exact ⟨a :: passed, stopped, .up hp ha h⟩

/-- **What the loop passes, and what stops it**, can be read off the chain of parents. -/
theorem Ascends.eq_chain (h : r.Ascends stops seen next passed stopped) (hseen : ∀ a ∈ seen, stops a = false) :
    passed = (r.chain seen next).takeWhile (fun a => !stops a) ∧ stopped = (r.chain seen next).find? stops := by
  induction h with
  | top => simp
  | @stop seen p hp =>
    have hs : p ∉ seen := fun hs => absurd hp (by simp [hseen p hs])
    simp [chain_of_not_mem hs, hp]
  | again _ hs => simp [chain_of_mem hs]
  | @up seen passed p stopped hp hs _ ih =>
    obtain ⟨rfl, rfl⟩ := ih fun a ha => by
      rcases List.mem_cons.1 ha with rfl | ha
      · exact hp
      · exact hseen a ha
    simp [chain_of_not_mem hs, hp]

/-- Whether a frame lies above another one is whether that frame stops the loop. -/
theorem Ascends.isAncestor_iff_stopped {a : FrameId}
    (h : r.Ascends (· == a) [] (r.parentOf id) passed stopped) :
    r.isAncestor a id = true ↔ stopped = some a := by
  obtain ⟨-, rfl⟩ := h.eq_chain (by simp)
  unfold isAncestor ancestors
  rw [List.contains_iff_mem]
  constructor
  · intro ha
    cases hfind : (r.chain [] (r.parentOf id)).find? (· == a) with
    | none => exact absurd (List.find?_eq_none.1 hfind a ha) (by simp)
    | some b =>
      have hb := List.find?_some hfind
      rw [beq_iff_eq.1 hb]
  · exact List.mem_of_find?_eq_some

/-- The depth of a frame is how many ids the loop passes, if the frame itself has been seen. -/
theorem Ascends.depth_eq (h : r.Ascends (fun _ => false) [id] (r.parentOf id) passed stopped) :
    r.depth id = passed.length := by
  have hpassed : passed = (r.chain [id] (r.parentOf id)).takeWhile fun _ => true :=
    (h.eq_chain fun _ _ => rfl).1
  rw [hpassed, List.takeWhile_eq_self_iff.2 fun _ _ => rfl]
  rfl

/-- A frame that is shown is visible if no hidden one stops the loop. -/
theorem Ascends.isVisible_iff_stopped {f : Frame} (hf : r.get? id = some f)
    (h : r.Ascends r.hides [] (r.parentOf id) passed stopped) :
    r.isVisible id = true ↔ f.visible = true ∧ stopped = none := by
  obtain ⟨-, rfl⟩ := h.eq_chain (by simp)
  have hshown (a : FrameId) : (r.get? a).all (·.visible) = true ↔ ¬ r.hides a = true := by
    unfold hides
    cases r.get? a with
    | none => simp
    | some g => simp
  unfold isVisible ancestors
  rw [hf]
  simp [hshown]

/-! ## Every graph -/

/-- What is found on the ways up from a frame. -/
structure WaysUp (r : Registry) (id : FrameId) : Prop where
  /-- The loops up end, whatever stops them and whatever has been seen. -/
  ends : ∀ stops seen, ∃ passed stopped, r.Ascends stops seen (r.parentOf id) passed stopped
  /-- The loop that looks for an id starts with nothing seen. -/
  looksFor : ∀ a passed stopped, r.Ascends (· == a) [] (r.parentOf id) passed stopped →
    (r.isAncestor a id = true ↔ stopped = some a)
  /-- The loop that counts ids starts with the frame itself seen. -/
  counts : ∀ passed stopped, r.Ascends (fun _ => false) [id] (r.parentOf id) passed stopped →
    r.depth id = passed.length
  /-- The loop that looks for a frame that is not shown starts with nothing seen, too. -/
  looksAt : ∀ f passed stopped, r.get? id = some f → r.Ascends r.hides [] (r.parentOf id) passed stopped →
    (r.isVisible id = true ↔ f.visible = true ∧ stopped = none)
  /-- A frame lies above if one or more links lead up to it. -/
  ancestor : ∀ a, r.isAncestor a id = true ↔ TransGen r.Under id a
  /-- The depth counts the ids above, each once and but for that of the frame. -/
  depth : {a | a ≠ id ∧ TransGen r.Under id a}.encard = r.depth id
  /-- A frame is visible if it is there, and it and all frames above it are shown. -/
  visible : r.isVisible id = true ↔ r.contains id = true ∧
    ∀ a, ReflTransGen r.Under id a → ∀ f, r.get? a = some f → f.visible = true

/-- **On every graph of parents, the ways up end, and what is found is what is there.** -/
theorem ways_up (r : Registry) (id : FrameId) : r.WaysUp id where
  ends := fun stops seen => r.exists_ascends stops seen (r.parentOf id)
  looksFor := fun _ _ _ h => h.isAncestor_iff_stopped
  counts := fun _ _ h => h.depth_eq
  looksAt := fun _ _ _ hf h => h.isVisible_iff_stopped hf
  ancestor := fun _ => isAncestor_iff
  depth := r.encard_above id
  visible := isVisible_iff

end FrameHost.Registry
