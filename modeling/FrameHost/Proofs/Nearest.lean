import FrameHost.Proofs.Walk

/-!
# Walks come to the nearest nodes first

A walk takes nodes off the front of its queue, and puts their successors at the end. So the queue holds nodes
at one distance from where the walk started, and behind them nodes one edge further away; everything nearer
has been seen. A node that comes to the front and has not been seen is as near as any that is still to come.

* `Graph.Distance`: how many edges lead from one node to another, at least.
* `Graph.NearestFirst`: nodes whose distances do not decrease.
* `Walk.Level`: what a queue in two parts says about distances, with a lemma for each thing that a walk does.
* `Walk.nearestFirst_explore`: **distances do not decrease along a walk**.
-/

namespace FrameHost

namespace Graph

variable {α : Type} {E : α → α → Prop} {a b : α} {n : Nat}

/-- A path of `n` edges. -/
inductive Path (E : α → α → Prop) (a : α) : Nat → α → Prop
  | nil : Path E a 0 a
  | snoc {n : Nat} {b c : α} (h : Path E a n b) (hbc : E b c) : Path E a (n + 1) c

/-- No fewer than `n` edges lead from one node to another, and `n` do. -/
structure Distance (E : α → α → Prop) (a b : α) (n : Nat) : Prop where
  path : Path E a n b
  least : ∀ m, Path E a m b → n ≤ m

/-- The distances of nodes from `root` do not decrease, and none is less than `n`. -/
inductive NearestFirst (E : α → α → Prop) (root : α) : Nat → List α → Prop
  | nil {n : Nat} : NearestFirst E root n []
  | cons {n d : Nat} {a : α} {later : List α} (hd : n ≤ d) (ha : Distance E root a d)
      (hlater : NearestFirst E root d later) : NearestFirst E root n (a :: later)

theorem NearestFirst.mono {m n : Nat} {nodes : List α} (h : NearestFirst E a n nodes) (hmn : m ≤ n) :
    NearestFirst E a m nodes := by
  cases h with
  | nil => exact .nil
  | cons hd hb hlater => exact .cons (Nat.le_trans hmn hd) hb hlater

theorem Path.eq_of_zero (h : Path E a 0 b) : b = a := by
  cases h
  rfl

theorem Path.exists_of_succ (h : Path E a (n + 1) b) : ∃ c, Path E a n c ∧ E c b := by
  cases h with
  | snoc h hcb => exact ⟨_, h, hcb⟩

end Graph

namespace Walk

open FrameHost.Graph

variable {α : Type} {next : α → List α} {nodes front back seen : List α} {root a : α} {n : Nat}

/-- What a walk from `root` has come to: `n` edges lead to the nodes at the front of its queue, and one more
to those at the back. -/
structure Level (next : α → List α) (nodes : List α) (root : α) (n : Nat) (front back seen : List α) :
    Prop where
  atFront : ∀ a ∈ front, Path (Edge next nodes) root n a
  atBack : ∀ a ∈ back, Path (Edge next nodes) root (n + 1) a
  /-- All nodes that fewer edges lead to have been seen. -/
  nearer : ∀ m a, m < n → Path (Edge next nodes) root m a → a ∈ seen
  /-- All nodes that as many edges lead to have been seen, or wait. -/
  level : ∀ a, Path (Edge next nodes) root n a → a ∈ seen ∨ a ∈ front
  /-- The successors of what has been seen have been seen, or wait. -/
  onward : ∀ a b, a ∈ seen → Edge next nodes a b → b ∈ seen ∨ b ∈ front ++ back

namespace Level

/-- A walk starts with the nodes that one edge leads to. -/
theorem start (hroot : root ∈ nodes) : Level next nodes root 1 (next root) [] [root] where
  atFront := fun a ha => .snoc .nil ⟨hroot, ha⟩
  atBack := by simp
  nearer := by
    intro m a hm ha
    obtain rfl : m = 0 := by omega
    exact List.mem_singleton.2 ha.eq_of_zero
  level := by
    intro a ha
    obtain ⟨b, hb, hba⟩ := ha.exists_of_succ
    obtain rfl := hb.eq_of_zero
    exact .inr hba.2
  onward := by
    intro a b ha hab
    obtain rfl := List.mem_singleton.1 ha
    exact .inr (by simpa using hab.2)

/-- When no node of a level waits any more, the next level begins. -/
theorem descend (h : Level next nodes root n [] back seen) :
    Level next nodes root (n + 1) back [] seen := by
  have hseen (a : α) (ha : Path (Edge next nodes) root n a) : a ∈ seen :=
    (h.level a ha).resolve_right List.not_mem_nil
  constructor
  case atFront => exact h.atBack
  case atBack => simp
  case nearer =>
    intro m a hm ha
    rcases Nat.lt_succ_iff_lt_or_eq.1 hm with hm | rfl
    · exact h.nearer m a hm ha
    · exact hseen a ha
  case level =>
    intro a ha
    obtain ⟨b, hb, hba⟩ := ha.exists_of_succ
    exact h.onward b a (hseen b hb) hba
  case onward =>
    intro a b ha hab
    rw [List.append_nil]
    exact h.onward a b ha hab

/-- A node that has been seen is passed over. -/
theorem skip (h : Level next nodes root n (a :: front) back seen) (ha : a ∈ seen) :
    Level next nodes root n front back seen := by
  constructor
  case atFront => exact fun b hb => h.atFront b (List.mem_cons_of_mem a hb)
  case atBack => exact h.atBack
  case nearer => exact h.nearer
  case level =>
    intro b hb
    rcases h.level b hb with hb | hb
    · exact .inl hb
    · rcases List.mem_cons.1 hb with rfl | hb
      · exact .inl ha
      · exact .inr hb
  case onward =>
    intro b c hb hbc
    rcases h.onward b c hb hbc with hc | hc
    · exact .inl hc
    · rcases List.mem_cons.1 hc with rfl | hc
      · exact .inl ha
      · exact .inr hc

/-- A node that is visited has been seen from then on, and its successors wait at the end. -/
theorem visit (h : Level next nodes root n (a :: front) back seen) {more : List α}
    (hmore : ∀ b, b ∈ more ↔ Edge next nodes a b) :
    Level next nodes root n front (back ++ more) (a :: seen) := by
  have hpath : Path (Edge next nodes) root n a := h.atFront a List.mem_cons_self
  constructor
  case atFront => exact fun b hb => h.atFront b (List.mem_cons_of_mem a hb)
  case atBack =>
    intro b hb
    rcases List.mem_append.1 hb with hb | hb
    · exact h.atBack b hb
    · exact .snoc hpath ((hmore b).1 hb)
  case nearer => exact fun m b hm hb => List.mem_cons_of_mem a (h.nearer m b hm hb)
  case level =>
    intro b hb
    rcases h.level b hb with hb | hb
    · exact .inl (List.mem_cons_of_mem a hb)
    · rcases List.mem_cons.1 hb with rfl | hb
      · exact .inl List.mem_cons_self
      · exact .inr hb
  case onward =>
    intro b c hb hbc
    rw [← List.append_assoc]
    rcases List.mem_cons.1 hb with rfl | hb
    · exact .inr (List.mem_append_right _ ((hmore c).2 hbc))
    · rcases h.onward b c hb hbc with hc | hc
      · exact .inl (List.mem_cons_of_mem a hc)
      · rcases List.mem_cons.1 hc with rfl | hc
        · exact .inl List.mem_cons_self
        · exact .inr (List.mem_append_left _ hc)

/-- **A node at the front that has not been seen is as far away as its level.** -/
theorem distance (h : Level next nodes root n (a :: front) back seen) (ha : a ∉ seen) :
    Distance (Edge next nodes) root a n where
  path := h.atFront a List.mem_cons_self
  least := by
    intro m hm
    by_cases hlt : m < n
    · exact absurd (h.nearer m a hlt hm) ha
    · omega

/-- Whatever the queue begins with belongs to a level. -/
theorem exists_front {queue : List α} (h : Level next nodes root n front back seen)
    (hqueue : a :: queue = front ++ back) :
    ∃ n' front' back', n ≤ n' ∧ queue = front' ++ back' ∧
      Level next nodes root n' (a :: front') back' seen := by
  cases front with
  | nil =>
    refine ⟨n + 1, queue, [], by omega, by simp, ?_⟩
    rw [show a :: queue = back by simpa using hqueue]
    exact h.descend
  | cons b front =>
    obtain ⟨rfl, rfl⟩ := List.cons.inj hqueue
    exact ⟨n, front, back, by omega, rfl, h⟩

end Level

/-- **A walk comes to the nearest nodes first.** -/
theorem nearestFirst_explore [DecidableEq α] (h : Level next nodes root n front back seen) :
    NearestFirst (Edge next nodes) root n (explore next nodes (front ++ back) seen) := by
  generalize hqueue : front ++ back = queue
  fun_induction explore next nodes queue seen generalizing n front back with
  | case1 seen => exact .nil
  | case2 a queue seen hseen ih =>
    obtain ⟨n', front, back, hn, rfl, h⟩ := h.exists_front hqueue.symm
    exact (ih (h.skip hseen) rfl).mono hn
  | case3 a queue seen hseen hnode ih =>
    obtain ⟨n', front, back, hn, rfl, h⟩ := h.exists_front hqueue.symm
    have hmore (b : α) : b ∈ next a ↔ Edge next nodes a b := ⟨fun hb => ⟨hnode, hb⟩, fun hb => hb.2⟩
    exact .cons hn (h.distance hseen) (ih (h.visit hmore) (List.append_assoc ..).symm)
  | case4 a queue seen hseen hnode ih =>
    obtain ⟨n', front, back, hn, rfl, h⟩ := h.exists_front hqueue.symm
    have hmore (b : α) : b ∈ [] ↔ Edge next nodes a b :=
      ⟨fun hb => absurd hb List.not_mem_nil, fun hb => absurd hb.1 hnode⟩
    exact .cons hn (h.distance hseen) (ih (h.visit hmore) (by simp))

end Walk

end FrameHost
