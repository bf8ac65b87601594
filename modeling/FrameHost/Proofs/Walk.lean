import FrameHost.Walk
import Mathlib.Logic.Relation

/-!
# What a walk reaches

`Walk.explore` follows the edges of the nodes of a list. `Walk.Edge` is that relation.

* `Walk.mem_explore_iff`: from a queue, a walk visits what the queue reaches.
* `Walk.mem_explore_below_iff`: from the successors of a node, it visits what the node reaches, without
  the node itself.
* `Walk.edge_before`: what is visited comes off the queue, or a walk has come by a node that leads there.
* `Walk.Visits`: the walk as a loop without a bound; `Walk.visits_explore`: it ends on every graph.
-/

namespace FrameHost.Walk

open Relation

variable {α : Type} [DecidableEq α] (next : α → List α) (nodes : List α)

/-- An edge that a walk follows. -/
def Edge (a b : α) : Prop := a ∈ nodes ∧ b ∈ next a

variable {next nodes} {queue seen : List α} {a b : α}

/-- What is visited is reached from the queue. -/
theorem reached_of_mem_explore (h : a ∈ explore next nodes queue seen) :
    ∃ q ∈ queue, ReflTransGen (Edge next nodes) q a := by
  fun_induction explore next nodes queue seen with
  | case1 => simp at h
  | case2 c queue seen _ ih =>
    obtain ⟨q, hq, hqa⟩ := ih h
    exact ⟨q, List.mem_cons_of_mem _ hq, hqa⟩
  | case3 c queue seen _ hn ih =>
    rcases List.mem_cons.1 h with rfl | h
    · exact ⟨a, List.mem_cons_self, .refl⟩
    · obtain ⟨q, hq, hqa⟩ := ih h
      rcases List.mem_append.1 hq with hq | hq
      · exact ⟨q, List.mem_cons_of_mem _ hq, hqa⟩
      · exact ⟨c, List.mem_cons_self, .head ⟨hn, hq⟩ hqa⟩
  | case4 c queue seen _ _ ih =>
    rcases List.mem_cons.1 h with rfl | h
    · exact ⟨a, List.mem_cons_self, .refl⟩
    · obtain ⟨q, hq, hqa⟩ := ih h
      exact ⟨q, List.mem_cons_of_mem _ hq, hqa⟩

/-- The queue is visited, but for what was seen before. -/
theorem mem_explore_of_mem_queue (h : a ∈ queue) :
    a ∈ seen ∨ a ∈ explore next nodes queue seen := by
  fun_induction explore next nodes queue seen with
  | case1 => simp at h
  | case2 c queue seen hs ih =>
    rcases List.mem_cons.1 h with rfl | h
    · exact .inl hs
    · exact ih h
  | case3 c queue seen _ _ ih =>
    rcases List.mem_cons.1 h with rfl | h
    · exact .inr List.mem_cons_self
    · rcases ih (List.mem_append_left _ h) with h | h
      · rcases List.mem_cons.1 h with rfl | h
        · exact .inr List.mem_cons_self
        · exact .inl h
      · exact .inr (List.mem_cons_of_mem _ h)
  | case4 c queue seen _ _ ih =>
    rcases List.mem_cons.1 h with rfl | h
    · exact .inr List.mem_cons_self
    · rcases ih h with h | h
      · rcases List.mem_cons.1 h with rfl | h
        · exact .inr List.mem_cons_self
        · exact .inl h
      · exact .inr (List.mem_cons_of_mem _ h)

/-- **A walk leaves no edge out**: the successors of what is visited are visited, but for what was
seen before. -/
theorem mem_explore_of_edge (ha : a ∈ explore next nodes queue seen) (hab : Edge next nodes a b) :
    b ∈ seen ∨ b ∈ explore next nodes queue seen := by
  have later {c : α} {seen walk : List α} (h : b ∈ c :: seen ∨ b ∈ walk) :
      b ∈ seen ∨ b ∈ c :: walk := by
    rcases h with h | h
    · rcases List.mem_cons.1 h with rfl | h
      · exact .inr List.mem_cons_self
      · exact .inl h
    · exact .inr (List.mem_cons_of_mem _ h)
  fun_induction explore next nodes queue seen with
  | case1 => simp at ha
  | case2 c queue seen _ ih => exact ih ha
  | case3 c queue seen _ _ ih =>
    rcases List.mem_cons.1 ha with rfl | ha
    · exact later (mem_explore_of_mem_queue (List.mem_append_right _ hab.2))
    · exact later (ih ha)
  | case4 c queue seen _ hn ih =>
    rcases List.mem_cons.1 ha with rfl | ha
    · exact absurd hab.1 hn
    · exact later (ih ha)

/-- **What is visited was in the queue, or is a successor of what was visited before it.** -/
theorem edge_before {before after : List α}
    (h : explore next nodes queue seen = before ++ a :: after) :
    a ∈ queue ∨ ∃ b ∈ before, Edge next nodes b a := by
  fun_induction explore next nodes queue seen generalizing before with
  | case1 => simp at h
  | case2 c queue seen _ ih => exact (ih h).imp_left (List.mem_cons_of_mem c)
  | case3 c queue seen _ hn ih =>
    cases before with
    | nil => exact .inl ((List.cons.inj h).1 ▸ List.mem_cons_self)
    | cons d before =>
      obtain ⟨rfl, hrest⟩ := List.cons.inj h
      rcases ih hrest with hq | ⟨b, hb, hba⟩
      · rcases List.mem_append.1 hq with hq | hq
        · exact .inl (List.mem_cons_of_mem c hq)
        · exact .inr ⟨c, List.mem_cons_self, hn, hq⟩
      · exact .inr ⟨b, List.mem_cons_of_mem c hb, hba⟩
  | case4 c queue seen _ _ ih =>
    cases before with
    | nil => exact .inl ((List.cons.inj h).1 ▸ List.mem_cons_self)
    | cons d before =>
      obtain ⟨rfl, hrest⟩ := List.cons.inj h
      rcases ih hrest with hq | ⟨b, hb, hba⟩
      · exact .inl (List.mem_cons_of_mem c hq)
      · exact .inr ⟨b, List.mem_cons_of_mem c hb, hba⟩

/-- **A walk from a queue visits what the queue reaches.** -/
theorem mem_explore_iff :
    a ∈ explore next nodes queue [] ↔ ∃ q ∈ queue, ReflTransGen (Edge next nodes) q a := by
  constructor
  · exact reached_of_mem_explore
  · rintro ⟨q, hq, hqa⟩
    induction hqa with
    | refl => exact (mem_explore_of_mem_queue hq).resolve_left List.not_mem_nil
    | tail _ hbc ih => exact (mem_explore_of_edge ih hbc).resolve_left List.not_mem_nil

/-- **A walk from the successors of a node visits what the node reaches**, without the node itself. -/
theorem mem_explore_below_iff (hb : b ∈ nodes) :
    a ∈ explore next nodes (next b) [b] ↔ a ≠ b ∧ TransGen (Edge next nodes) b a := by
  constructor
  · intro h
    refine ⟨fun e => not_mem_of_seen _ _ _ _ a h (e ▸ List.mem_cons_self), ?_⟩
    obtain ⟨q, hq, hqa⟩ := reached_of_mem_explore h
    exact TransGen.head' ⟨hb, hq⟩ hqa
  · rintro ⟨hne, h⟩
    have closed : a = b ∨ a ∈ explore next nodes (next b) [b] := by
      induction h with
      | single h =>
        exact (mem_explore_of_mem_queue h.2).imp_left List.mem_singleton.1
      | @tail c d _ hcd ih =>
        by_cases hc : c = b
        · subst hc
          exact (mem_explore_of_mem_queue hcd.2).imp_left List.mem_singleton.1
        · exact (mem_explore_of_edge ((ih hc).resolve_left hc) hcd).imp_left List.mem_singleton.1
    exact closed.resolve_left hne

/-! ## The loop -/

/-- The walk as a loop that goes on until its queue is empty, with the nodes that it visits. Nothing bounds
it but the nodes that it has seen. -/
inductive Visits (next : α → List α) : (queue seen visited : List α) → Prop
  | done {seen : List α} : Visits next [] seen []
  | skip {a : α} {queue seen visited : List α} (ha : a ∈ seen) (hrest : Visits next queue seen visited) :
      Visits next (a :: queue) seen visited
  | visit {a : α} {queue seen visited : List α} (ha : a ∉ seen)
      (hrest : Visits next (queue ++ next a) (a :: seen) visited) :
      Visits next (a :: queue) seen (a :: visited)

/-- **The loop ends on every graph in which finitely many nodes have successors**, and visits what the walk
does. -/
theorem visits_explore (hnodes : ∀ a, a ∉ nodes → next a = []) (queue seen : List α) :
    Visits next queue seen (explore next nodes queue seen) := by
  fun_induction explore next nodes queue seen with
  | case1 => exact .done
  | case2 a queue seen hs ih => exact .skip hs ih
  | case3 a queue seen hs _ ih => exact .visit hs ih
  | case4 a queue seen hs hn ih =>
    refine .visit hs ?_
    rw [hnodes a hn, List.append_nil]
    exact ih

end FrameHost.Walk
