import Mathlib.Logic.Relation

/-!
# Graphs whose paths end

A graph is a relation between its nodes; `E a b` is an edge from `a` to `b`. A node is grounded when
every path from it ends. In a graph all of whose nodes are grounded there is no loop, and turning the
edges of one node to other nodes makes none, unless one of these leads back to the node.

* `Grounded.not_transGen`: no path leads from a grounded node to itself.
* `grounded_redirect`: how the edges of one node may be changed.
-/

namespace FrameHost.Graph

open Relation

variable {α : Type} {E E' : α → α → Prop} {a x y : α}

/-- Every path from the node ends. -/
def Grounded (E : α → α → Prop) (x : α) : Prop := Acc (fun b a => E a b) x

theorem Grounded.next (h : Grounded E x) (hxy : E x y) : Grounded E y := h.inv hxy

/-- **No path leads from a grounded node to itself.** -/
theorem Grounded.not_transGen (h : Grounded E x) : ¬ TransGen E x x := by
  induction h with
  | intro x _ ih =>
    intro hx
    obtain ⟨y, hxy, hyx⟩ := TransGen.head'_iff.1 hx
    exact ih y hxy (TransGen.tail' hyx hxy)

/-- A node from which `a` is out of reach stays grounded, whatever becomes of the edges of `a`. -/
theorem Grounded.of_avoids (hoff : ∀ x y, x ≠ a → E' x y → E x y) (h : Grounded E x)
    (ha : ¬ ReflTransGen E x a) : Grounded E' x := by
  induction h with
  | intro x _ ih =>
    refine Acc.intro x fun y hxy => ?_
    have hne : x ≠ a := fun e => ha (e ▸ ReflTransGen.refl)
    have hE : E x y := hoff x y hne hxy
    exact ih y hE fun hya => ha (ReflTransGen.head hE hya)

/-- A path to a node needs none of the edges of that node. -/
theorem reach_of_off (hoff : ∀ x y, x ≠ a → E x y → E' x y) (h : ReflTransGen E x a) :
    ReflTransGen E' x a := by
  induction h using ReflTransGen.head_induction_on with
  | refl => exact .refl
  | @head x y hxy _ ih =>
    by_cases hx : x = a
    · exact hx ▸ .refl
    · exact .head (hoff x y hx hxy) ih

/-- **The edges of one node may be turned to nodes from which it is out of reach.** -/
theorem grounded_redirect (hoff : ∀ x y, x ≠ a → E' x y → E x y)
    (hon : ∀ y, E' a y → E a y ∨ ¬ ReflTransGen E y a) (h : ∀ x, Grounded E x) :
    ∀ x, Grounded E' x := by
  have ha : Grounded E' a := by
    refine Acc.intro a fun y hy => (h y).of_avoids hoff ?_
    rcases hon y hy with hE | hy
    · exact fun hya => (h a).not_transGen (TransGen.head' hE hya)
    · exact hy
  intro x
  induction h x with
  | intro x _ ih =>
    by_cases hx : x = a
    · exact hx ▸ ha
    · exact Acc.intro x fun y hxy => ih y (hoff x y hx hxy)

/-- Fewer edges make no new path. -/
theorem Grounded.mono (h : Grounded E x) (hE : ∀ a b, E' a b → E a b) : Grounded E' x := by
  induction h with
  | intro x _ ih => exact Acc.intro x fun y hxy => ih y (hE x y hxy)

/-- A path is put together from its first edge and the path from there: it repeats no node if that
one repeats none. -/
theorem Grounded.nodup_cons {path : List α} (h : Grounded E x) (hxy : E x y) (hpath : path.Nodup)
    (hreach : ∀ b ∈ path, ReflTransGen E y b) :
    (x :: path).Nodup ∧ ∀ b ∈ x :: path, ReflTransGen E x b := by
  have beyond (b : α) (hb : b ∈ path) : TransGen E x b := .head' hxy (hreach b hb)
  refine ⟨List.nodup_cons.2 ⟨fun hx => h.not_transGen (beyond x hx), hpath⟩, fun b hb => ?_⟩
  rcases List.mem_cons.1 hb with rfl | hb
  · exact .refl
  · exact (beyond b hb).to_reflTransGen

end FrameHost.Graph
