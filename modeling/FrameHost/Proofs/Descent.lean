import FrameHost.Proofs.Inheritance
import FrameHost.Proofs.Nearest

/-!
# Ways down from a frame

The children that frames list may be anything, too: lists may make a loop, an id may stand on several lists or
twice on one, and may be registered nowhere. The walk down from a frame comes by each id that the lists lead
to once, and by the nearest first. Where the two sides of the tree agree, these are the frames that the frame
lies above, and each of them comes after its parent.

* `Registry.breadthFirst`: the walk down on any graph of children.
* `Registry.Linked.descends`: the walk down where the tree is linked.
* `Session.ways_down`: **the walk down is breadth-first on every graph, and agrees with the ways up in every
  host that a run meets**.
-/

namespace FrameHost

open Relation

namespace Registry

variable {r : Registry} {id x p : FrameId}

/-- A frame lists another one as its child. -/
def Lists (r : Registry) (a b : FrameId) : Prop := b ∈ r.childrenOf a

theorem edge_childrenOf : Walk.Edge r.childrenOf r.ids = r.Lists := by
  funext a b
  refine propext ⟨fun h => h.2, fun h => ⟨?_, h⟩⟩
  exact r.contains_iff.1 (contains_of_mem_childrenOf h)

/-! ## Every graph -/

/-- The walk down from a frame. -/
structure BreadthFirst (r : Registry) (id : FrameId) : Prop where
  /-- The walk ends. -/
  ends : Walk.Visits r.childrenOf (r.childrenOf id) [id] (r.descendants id)
  once : (r.descendants id).Nodup
  /-- It comes by what the lists of children lead to, and not by the frame itself. -/
  reached : ∀ x, x ∈ r.descendants id ↔ x ≠ id ∧ TransGen r.Lists id x
  /-- No id comes before one that fewer lists lead to. -/
  nearest : Graph.NearestFirst r.Lists id 1 (r.descendants id)

theorem mem_descendants_iff_lists : x ∈ r.descendants id ↔ x ≠ id ∧ TransGen r.Lists id x := by
  by_cases hid : r.contains id = true
  · rw [← edge_childrenOf]
    exact Walk.mem_explore_below_iff (r.contains_iff.1 hid)
  · have hnothing : ¬ TransGen r.Lists id x := by
      intro h
      obtain ⟨c, hc, -⟩ := TransGen.head'_iff.1 h
      exact hid (contains_of_mem_childrenOf hc)
    rw [descendants_of_absent (Bool.eq_false_iff.2 hid)]
    simp [hnothing]

theorem nearestFirst_descendants (r : Registry) (id : FrameId) :
    Graph.NearestFirst r.Lists id 1 (r.descendants id) := by
  by_cases hid : r.contains id = true
  · have hstart : Walk.Level r.childrenOf r.ids id 1 (r.childrenOf id) [] [id] := .start (r.contains_iff.1 hid)
    have h := Walk.nearestFirst_explore hstart
    rwa [List.append_nil, edge_childrenOf] at h
  · rw [descendants_of_absent (Bool.eq_false_iff.2 hid)]
    exact .nil

/-- **On every graph of children, the walk down is breadth-first.** -/
theorem breadthFirst (r : Registry) (id : FrameId) : r.BreadthFirst id where
  ends := by
    apply Walk.visits_explore
    intro a ha
    exact childrenOf_of_absent (Bool.eq_false_iff.2 fun hc => ha (r.contains_iff.1 hc))
  once := Walk.explore_nodup ..
  reached := fun _ => mem_descendants_iff_lists
  nearest := r.nearestFirst_descendants id

/-! ## Linked trees -/

/-- The walk down from a frame agrees with the ways up to it. -/
structure Descends (r : Registry) (id : FrameId) : Prop where
  /-- It comes by the frames that the frame lies above. -/
  below : ∀ x, x ∈ r.descendants id ↔ r.isAncestor id x = true
  /-- It comes by a frame after the parent of that one, unless it started there. -/
  later : ∀ before x after p, r.descendants id = before ++ x :: after → r.parentOf x = some p →
    p ≠ id → p ∈ before

theorem Linked.mem_descendants_iff_isAncestor (h : r.Linked) :
    x ∈ r.descendants id ↔ r.isAncestor id x = true := by
  rw [isAncestor_iff]
  by_cases hid : r.contains id = true
  · exact h.mem_descendants_iff hid
  · have hnothing : ¬ TransGen r.Under x id := by
      intro hx
      obtain ⟨c, -, hc⟩ := TransGen.tail'_iff.1 hx
      exact hid (h.parent c id hc)
    rw [descendants_of_absent (Bool.eq_false_iff.2 hid)]
    simp [hnothing]

/-- **Where the tree is linked, the walk down agrees with the ways up.** -/
theorem Linked.descends (h : r.Linked) (id : FrameId) : r.Descends id where
  below := fun _ => h.mem_descendants_iff_isAncestor
  later := by
    intro before x after p hids hp hne
    have habove {y : FrameId} (hy : y ∈ r.descendants id) : TransGen r.Under y id :=
      isAncestor_iff.1 (h.mem_descendants_iff_isAncestor.1 hy)
    have hx : x ∈ r.descendants id := hids ▸ List.mem_append_right _ List.mem_cons_self
    have hpx : p ∈ r.descendants id := by
      obtain ⟨q, hq, hqid⟩ := TransGen.head'_iff.1 (habove hx)
      obtain rfl : p = q := Option.some.inj (hp.symm.trans hq)
      have hp : TransGen r.Under p id := (reflTransGen_iff_eq_or_transGen.1 hqid).resolve_left (Ne.symm hne)
      exact h.mem_descendants_iff_isAncestor.2 (isAncestor_iff.2 hp)
    rw [hids] at hpx
    rcases List.mem_append.1 hpx with hp | hpx
    · exact hp
    · -- what is under `p` comes after it, so that `p` cannot come after `x`
      exfalso
      rcases List.mem_cons.1 hpx with rfl | hpx
      · exact (h.grounded p).not_transGen (.single hp)
      · obtain ⟨between, later, rfl⟩ := List.append_of_mem hpx
        have hagain : x ∈ later :=
          h.downward_descendants id (before ++ x :: between) p later (by rw [hids]; simp) x hp
        have hnodup : (before ++ x :: (between ++ p :: later)).Nodup := hids ▸ Walk.explore_nodup ..
        have hnot := (List.nodup_cons.1 (List.nodup_append.1 hnodup).2.1).1
        exact hnot (List.mem_append_right _ (List.mem_cons_of_mem p hagain))

end Registry

/-! ## Runs -/

/-- **On every graph of children the walk down is breadth-first, and whenever the host of a run is met it
agrees with the ways up**, however callbacks are nested. -/
theorem Session.ways_down : (∀ (r : Registry) (id : FrameId), r.BreadthFirst id) ∧
    ∀ s : Session, s.Ran false → ∀ host, s.Met host → ∀ id, host.registry.Descends id := by
  refine ⟨Registry.breadthFirst, fun s hs host hm id => ?_⟩
  have hlinked : host.registry.Linked :=
    hs.met (P := fun host => host.registry.Linked) Stage.ordered_fresh (fun _ _ h hσ => h.ordered hσ)
      (fun _ _ hs hσ => hs.registry ▸ hσ.linked) hm
  exact hlinked.descends id

/-- Two frames are made, then one under the second, which a callback puts under the first. -/
theorem Session.descends_runRootless : ∀ id, (Session.runRootless
    (fun _ _ _ => { steps := [.frame (.act (some 3) (.setParent (.id 1)))] })
    [.frame (.create (.str "Frame") .null .none .null .null),
      .frame (.create (.str "Frame") .null .none .null .null),
      .frame (.create (.str "Frame") .null (.id 2) .null
        (.map [(.str "OnLoad", .callback "leave")]))]).host.registry.Descends id :=
  Session.ways_down.2 _ (Session.ran_runRootless (fun _ _ _ => by decide) (by decide)) _ .last

end FrameHost
