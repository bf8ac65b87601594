/-!
# Walks over a graph that may have loops

`Walk.explore` visits what can be reached from a queue of nodes, each node once, nearest first. Only
the nodes of a finite list have successors, and that list bounds the walk whatever shape the graph
has.

* `Walk.unseen_cons_lt`: visiting a node of the list leaves fewer of them unvisited.
* `Walk.explore_nodup`, `Walk.not_mem_of_seen`: no node is visited twice.
-/

namespace FrameHost.Walk

variable {α : Type} [DecidableEq α]

/-- How many nodes of a list have not been visited. -/
def unseen (nodes seen : List α) : Nat := (nodes.filter (· ∉ seen)).length

theorem unseen_cons_le (nodes seen : List α) (a : α) :
    unseen nodes (a :: seen) ≤ unseen nodes seen := by
  induction nodes with
  | nil => simp [unseen]
  | cons n nodes ih =>
    simp only [unseen] at ih ⊢
    by_cases hs : n ∈ seen
    · rw [List.filter_cons_of_neg (by simp [hs]), List.filter_cons_of_neg (by simp [hs])]
      exact ih
    · rw [List.filter_cons_of_pos (l := nodes) (p := fun x => decide (x ∉ seen)) (by simp [hs])]
      by_cases ha : n = a
      · rw [List.filter_cons_of_neg (by simp [ha])]
        exact Nat.le_succ_of_le ih
      · rw [List.filter_cons_of_pos (by simp [ha, hs])]
        exact Nat.succ_le_succ ih

theorem unseen_cons_lt {nodes seen : List α} {a : α} (ha : a ∈ nodes) (hs : a ∉ seen) :
    unseen nodes (a :: seen) < unseen nodes seen := by
  induction nodes with
  | nil => simp at ha
  | cons n nodes ih =>
    have hle := unseen_cons_le nodes seen a
    simp only [unseen] at ih hle ⊢
    by_cases hn : n = a
    · subst hn
      rw [List.filter_cons_of_neg (by simp),
        List.filter_cons_of_pos (l := nodes) (p := fun x => decide (x ∉ seen)) (by simp [hs])]
      exact Nat.lt_succ_of_le hle
    · have ha' : a ∈ nodes := (List.mem_cons.1 ha).resolve_left fun h => hn h.symm
      by_cases hns : n ∈ seen
      · rw [List.filter_cons_of_neg (by simp [hns]), List.filter_cons_of_neg (by simp [hns])]
        exact ih ha'
      · rw [List.filter_cons_of_pos (by simp [hn, hns]),
          List.filter_cons_of_pos (l := nodes) (p := fun x => decide (x ∉ seen)) (by simp [hns])]
        exact Nat.succ_lt_succ (ih ha')

/-- Visits the queue from the front; a node is visited once, and its successors join the queue at
the end. Nodes outside `nodes` have no successors. -/
def explore (next : α → List α) (nodes : List α) : (queue seen : List α) → List α
  | [], _ => []
  | a :: queue, seen =>
    if a ∈ seen then explore next nodes queue seen
    else if a ∈ nodes then a :: explore next nodes (queue ++ next a) (a :: seen)
    else a :: explore next nodes queue (a :: seen)
termination_by queue seen => (unseen nodes seen, queue.length)
decreasing_by
  · exact Prod.Lex.right _ (Nat.lt_succ_self _)
  · rename_i hs hn
    exact Prod.Lex.left _ _ (unseen_cons_lt hn hs)
  · rcases Nat.lt_or_eq_of_le (unseen_cons_le nodes seen a) with h | h
    · exact Prod.Lex.left _ _ h
    · rw [h]
      exact Prod.Lex.right _ (Nat.lt_succ_self _)

/-- What is visited was not visited before. -/
theorem not_mem_of_seen (next : α → List α) (nodes queue seen : List α) :
    ∀ a ∈ explore next nodes queue seen, a ∉ seen := by
  fun_induction explore next nodes queue seen with
  | case1 => simp
  | case2 _ _ _ _ ih => exact ih
  | case3 _ _ _ hs _ ih =>
    intro b hb
    rcases List.mem_cons.1 hb with rfl | hb
    · exact hs
    · exact fun h => ih b hb (List.mem_cons_of_mem _ h)
  | case4 _ _ _ hs _ ih =>
    intro b hb
    rcases List.mem_cons.1 hb with rfl | hb
    · exact hs
    · exact fun h => ih b hb (List.mem_cons_of_mem _ h)

/-- No node is visited twice. -/
theorem explore_nodup (next : α → List α) (nodes queue seen : List α) :
    (explore next nodes queue seen).Nodup := by
  fun_induction explore next nodes queue seen with
  | case1 => exact List.nodup_nil
  | case2 _ _ _ _ ih => exact ih
  | case3 _ _ _ _ _ ih =>
    exact List.nodup_cons.2 ⟨fun h => not_mem_of_seen _ _ _ _ _ h List.mem_cons_self, ih⟩
  | case4 _ _ _ _ _ ih =>
    exact List.nodup_cons.2 ⟨fun h => not_mem_of_seen _ _ _ _ _ h List.mem_cons_self, ih⟩

end FrameHost.Walk
