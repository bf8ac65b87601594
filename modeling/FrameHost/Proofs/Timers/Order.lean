import FrameHost.Timer
import Mathlib.Data.Prod.Lex
import Mathlib.Order.Compare

/-!
# The order of fire times

Times are doubles. Those that are numbers stand in a line, with the two zeros at one place; what is not a
number stands nowhere. So the agenda, which is ordered by comparing times, is ordered as long as no time on
it is NaN.

* `rank`: the place of a double in the line.
* `lt_iff_place`, `le_iff_place`, `beq_iff_place`: comparing times is comparing places.
* `Due.before_iff`: earlier on the agenda.
* `Timers.ordered_schedule`: what is put onto an ordered agenda leaves it ordered.
* `Timers.mem_due_iff`: what a tick takes off it.
-/

namespace FrameHost

/-! ## Doubles -/

/-- The place of a double: first the infinities, the numbers below zero, zero and the numbers above it, then
the exponent, then the mantissa. What is not a number has no place of its own. -/
def rank : Float.Model.UnpackedFloat → ℤ ×ₗ ℤ ×ₗ ℤ
  | .infinity .negative => toLex (-2, toLex (0, 0))
  | .finite .negative mantissa exponent _ => toLex (-1, toLex (-exponent, -mantissa))
  | .zero _ | .notANumber => toLex (0, toLex (0, 0))
  | .finite .positive mantissa exponent _ => toLex (1, toLex (exponent, mantissa))
  | .infinity .positive => toLex (2, toLex (0, 0))

/-- Doubles of one kind are compared by exponents and then by mantissas. -/
theorem compare_exponents (c e₁ e₂ m₁ m₂ : ℤ) :
    compare (toLex (c, toLex (e₁, m₁))) (toLex (c, toLex (e₂, m₂))) =
      (compare e₁ e₂).then (compare m₁ m₂) := by
  have hc : compare c c = .eq := compare_eq_iff_eq.2 rfl
  rw [Prod.Lex.compare_def]
  change (compare c c).then (compare (toLex (e₁, m₁)) (toLex (e₂, m₂))) = _
  rw [hc, Prod.Lex.compare_def]
  rfl

theorem compare_neg (a b : ℤ) : compare (-a) (-b) = (compare a b).swap := by
  rcases lt_trichotomy a b with h | rfl | h
  · rw [compare_lt_iff_lt.2 h, compare_gt_iff_gt.2 (by omega)]
    rfl
  · rw [compare_eq_iff_eq.2 rfl, compare_eq_iff_eq.2 rfl]
    rfl
  · rw [compare_gt_iff_gt.2 h, compare_lt_iff_lt.2 (by omega)]
    rfl

theorem compare_cast (m n : ℕ) : compare (m : ℤ) (n : ℤ) = compare m n := by
  rcases lt_trichotomy m n with h | rfl | h
  · rw [compare_lt_iff_lt.2 h, compare_lt_iff_lt.2 (by omega)]
  · rw [compare_eq_iff_eq.2 rfl, compare_eq_iff_eq.2 rfl]
  · rw [compare_gt_iff_gt.2 h, compare_gt_iff_gt.2 (by omega)]

/-- **Comparing doubles that are numbers is comparing their places.** -/
theorem compare_eq_rank {a b : Float.Model.UnpackedFloat} (ha : a.isNaN = false) (hb : b.isNaN = false) :
    a.compare b = some (compare (rank a) (rank b)) := by
  cases a with
  | notANumber => cases ha
  | infinity s =>
    cases b with
    | notANumber => cases hb
    | infinity t => cases s <;> cases t <;> rfl
    | zero t => cases s <;> rfl
    | finite t m e hm => cases s <;> cases t <;> rfl
  | zero s =>
    cases b with
    | notANumber => cases hb
    | infinity t => cases t <;> rfl
    | zero t => rfl
    | finite t m e hm => cases t <;> rfl
  | finite s m e hm =>
    cases b with
    | notANumber => cases hb
    | infinity t => cases s <;> cases t <;> rfl
    | zero t => cases s <;> rfl
    | finite t n f hn =>
      cases s with
      | positive =>
        cases t with
        | negative => rfl
        | positive =>
          change _ = some (compare (toLex (1, toLex (e, (m : ℤ)))) (toLex (1, toLex (f, (n : ℤ)))))
          rw [compare_exponents, compare_cast]
          rfl
      | negative =>
        cases t with
        | positive => rfl
        | negative =>
          change _ = some (compare (toLex (-1, toLex (-e, -(m : ℤ)))) (toLex (-1, toLex (-f, -(n : ℤ)))))
          rw [compare_exponents, compare_neg, compare_neg, compare_cast, ← Ordering.swap_then]
          rfl

/-- The place of a time. -/
def place (x : Float) : ℤ ×ₗ ℤ ×ₗ ℤ := rank x.toModel.unpack

variable {x y : Float}

theorem lt_iff_place (hx : x.isNaN = false) (hy : y.isNaN = false) : x < y ↔ place x < place y := by
  have hlt : x < y ↔ x.toModel.unpack.compare y.toModel.unpack = some .lt :=
    decide_eq_true_iff.trans beq_iff_eq
  rw [hlt, compare_eq_rank hx hy, Option.some.injEq, compare_lt_iff_lt]
  rfl

theorem le_iff_compare : x ≤ y ↔ (x.toModel.unpack.compare y.toModel.unpack).any Ordering.isLE = true :=
  decide_eq_true_iff

theorem le_iff_place (hx : x.isNaN = false) (hy : y.isNaN = false) : x ≤ y ↔ place x ≤ place y := by
  rw [le_iff_compare, compare_eq_rank hx hy, Option.any_some, Ordering.isLE_iff_ne_gt]
  exact compare_le_iff_le

theorem beq_iff_place (hx : x.isNaN = false) (hy : y.isNaN = false) :
    (x == y) = true ↔ place x = place y := by
  have hbeq : (x == y) = (x.toModel.unpack.compare y.toModel.unpack == some .eq) := rfl
  rw [hbeq, compare_eq_rank hx hy, beq_iff_eq, Option.some.injEq, compare_eq_iff_eq]
  rfl

/-- What compares as not later is a number. -/
theorem isNaN_of_le (h : x ≤ y) : x.isNaN = false := by
  have hle := le_iff_compare.1 h
  change x.toModel.unpack.isNaN = false
  cases hx : x.toModel.unpack with
  | notANumber =>
    rw [hx] at hle
    cases hle
  | _ => rfl

/-- Of two times that are numbers, one that is not later is not after the other. -/
theorem not_le_iff (hx : x.isNaN = false) (hy : y.isNaN = false) : ¬ x ≤ y ↔ y < x := by
  rw [le_iff_place hx hy, lt_iff_place hy hx, not_le]

/-! ## Agendas -/

/-- The place of an entry of the agenda: by its time, then by its number. -/
def Due.place (d : Due) : (ℤ ×ₗ ℤ ×ₗ ℤ) ×ₗ ℕ := toLex (FrameHost.place d.time, d.id)

theorem Due.before_iff {d e : Due} (hd : d.time.isNaN = false) (he : e.time.isNaN = false) :
    d.before e = true ↔ d.place < e.place := by
  rw [Due.before, Bool.or_eq_true, Bool.and_eq_true, decide_eq_true_iff, decide_eq_true_iff,
    lt_iff_place hd he, beq_iff_place hd he]
  exact (Prod.Lex.toLex_lt_toLex (x := (FrameHost.place d.time, d.id))
    (y := (FrameHost.place e.time, e.id))).symm

/-- An agenda in order: earlier times first, then lower numbers, and every time is a number. -/
structure Ordered (agenda : List Due) : Prop where
  numbers : ∀ d ∈ agenda, d.time.isNaN = false
  sorted : agenda.Pairwise fun d e => d.place ≤ e.place

theorem Ordered.nil : Ordered [] where
  numbers := fun d hd => by cases hd
  sorted := .nil

theorem Ordered.sublist {agenda agenda' : List Due} (h : Ordered agenda) (hs : agenda'.Sublist agenda) :
    Ordered agenda' := ⟨fun d hd => h.numbers d (hs.subset hd), h.sorted.sublist hs⟩

namespace Timers

variable {d : Due} {agenda : List Due}

theorem mem_schedule {e : Due} : e ∈ schedule d agenda ↔ e = d ∨ e ∈ agenda := by
  induction agenda with
  | nil => exact List.mem_cons
  | cons f agenda ih =>
    unfold schedule
    split
    · exact List.mem_cons
    · rw [List.mem_cons, ih, List.mem_cons]
      exact or_left_comm

/-- **What is put onto an ordered agenda leaves it ordered.** -/
theorem ordered_schedule (h : Ordered agenda) (hd : d.time.isNaN = false) : Ordered (schedule d agenda) := by
  constructor
  case numbers =>
    intro e he
    rcases mem_schedule.1 he with rfl | he
    · exact hd
    · exact h.numbers e he
  case sorted =>
    obtain ⟨hnumbers, hsorted⟩ := h
    induction agenda with
    | nil => exact List.pairwise_singleton _ d
    | cons e agenda ih =>
      have he : e.time.isNaN = false := hnumbers e List.mem_cons_self
      obtain ⟨hfirst, hrest⟩ := List.pairwise_cons.1 hsorted
      unfold schedule
      split
      · rename_i hbefore
        have hlt : d.place < e.place := (Due.before_iff hd he).1 hbefore
        refine List.pairwise_cons.2 ⟨fun f hf => ?_, hsorted⟩
        rcases List.mem_cons.1 hf with rfl | hf
        · exact le_of_lt hlt
        · exact le_trans (le_of_lt hlt) (hfirst f hf)
      · rename_i hbefore
        have hle : e.place ≤ d.place := not_lt.1 fun hlt => hbefore ((Due.before_iff hd he).2 hlt)
        refine List.pairwise_cons.2 ⟨fun f hf => ?_, ih (fun f hf => hnumbers f (.tail e hf)) hrest⟩
        rcases mem_schedule.1 hf with rfl | hf
        · exact hle
        · exact hfirst f hf

/-- **Of an ordered agenda, a tick takes exactly what is due.** -/
theorem mem_due_iff (h : Ordered agenda) {now : Float} (hnow : now.isNaN = false) :
    d ∈ agenda.takeWhile (fun d => d.time ≤ now) ↔ d ∈ agenda ∧ d.time ≤ now := by
  constructor
  · intro hd
    refine ⟨(List.takeWhile_sublist _).subset hd, ?_⟩
    exact of_decide_eq_true (List.all_eq_true.1 List.all_takeWhile d hd)
  · rintro ⟨hd, hdue⟩
    obtain ⟨hnumbers, hsorted⟩ := h
    induction agenda with
    | nil => cases hd
    | cons e agenda ih =>
      obtain ⟨hfirst, hrest⟩ := List.pairwise_cons.1 hsorted
      have he : e.time.isNaN = false := hnumbers e List.mem_cons_self
      have hdn : d.time.isNaN = false := hnumbers d hd
      -- what comes before an entry that is due is due as well
      have hearly : e.time ≤ now := by
        rcases List.mem_cons.1 hd with rfl | hd
        · exact hdue
        · refine (le_iff_place he hnow).2 (le_trans ?_ ((le_iff_place hdn hnow).1 hdue))
          rcases Prod.Lex.toLex_le_toLex.1 (hfirst d hd) with hlt | ⟨heq, -⟩
          · exact le_of_lt hlt
          · exact le_of_eq heq
      rw [List.takeWhile_cons_of_pos (by simpa using hearly)]
      rcases List.mem_cons.1 hd with rfl | hd
      · exact List.mem_cons_self
      · exact List.mem_cons_of_mem e (ih hd (fun f hf => hnumbers f (.tail e hf)) hrest)

end Timers

end FrameHost
