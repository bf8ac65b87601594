import FrameHost.Value

/-!
# Entries of a mapping

Entries are read and written under keys, and a key may be written in several ways: whole numbers, doubles that
are whole and truth values stand for each other. So a law of entries is one of keys up to that.

* `Key.same_iff`: keys are one key when they have one canonical form.
* `Entries.get?_put`: what a write does to a look-up.
* `Entries.Distinct`: no two entries have one key; writes keep that.
-/

namespace FrameHost

/-! ## Keys -/

namespace Key

/-- A key as it is compared: a number that is whole stands for all keys of its value. -/
def canonical (k : Key) : Key :=
  match k.whole? with
  | some n => .int n
  | none => k

theorem whole?_int (n : Int) : (Key.int n).whole? = some n := rfl

/-- Two keys are one key of a mapping exactly when they have one canonical form. -/
theorem same_iff {a b : Key} : a.same b = true ↔ a.canonical = b.canonical := by
  unfold same canonical
  cases ha : a.whole? with
  | some m =>
    cases hb : b.whole? with
    | some n => simp
    | none =>
      have hne : a ≠ b := by
        rintro rfl
        cases ha.symm.trans hb
      have hint : Key.int m ≠ b := by
        rintro rfl
        cases (whole?_int m).symm.trans hb
      simp [hne, hint]
  | none =>
    cases hb : b.whole? with
    | some n =>
      have hne : a ≠ b := by
        rintro rfl
        cases ha.symm.trans hb
      have hint : a ≠ Key.int n := by
        rintro rfl
        cases (whole?_int n).symm.trans ha
      simp [hne, hint]
    | none => simp

/-- A text is one key only with itself. -/
theorem same_str {k : Key} {s : String} : k.same (.str s) = true ↔ k = .str s := by
  have hnone : (Key.str s).whole? = none := rfl
  unfold same
  rw [hnone]
  cases k.whole? <;> simp

end Key

/-! ## Entries -/

namespace Entries

variable {es : Entries} {k k' : Key} {v w : Value}

theorem get?_congr (h : k.same k' = true) (es : Entries) : get? es k = get? es k' := by
  induction es with
  | nil => rfl
  | cons e es ih =>
    obtain ⟨a, v⟩ := e
    have hboth : a.same k = a.same k' := by
      rw [Bool.eq_iff_iff, Key.same_iff, Key.same_iff, Key.same_iff.1 h]
    rw [get?, get?, hboth, ih]

/-- A write is seen under its key and under no other. -/
theorem get?_put (es : Entries) (k k' : Key) (v : Value) :
    get? (put es k v) k' = if k.same k' then some v else get? es k' := by
  induction es with
  | nil => simp [put, get?]
  | cons e es ih =>
    obtain ⟨a, w⟩ := e
    by_cases hak : a.same k
    · have hboth : a.same k' = k.same k' := by
        rw [Bool.eq_iff_iff, Key.same_iff, Key.same_iff, Key.same_iff.1 hak]
      by_cases hk : k.same k' <;> simp [put, get?, hak, hboth, hk]
    · simp only [put, hak, Bool.false_eq_true, if_false, get?, ih]
      by_cases hak' : a.same k'
      · have hk : ¬ k.same k' = true := fun hk => hak (Key.same_iff.2
          ((Key.same_iff.1 hak').trans (Key.same_iff.1 hk).symm))
        simp [hak', hk]
      · simp [hak']

/-- Writing what is there changes nothing. -/
theorem put_of_get? (h : get? es k = some v) : put es k v = es := by
  induction es with
  | nil => cases h
  | cons e es ih =>
    obtain ⟨a, w⟩ := e
    by_cases hak : a.same k
    · simp only [get?, hak, if_true, Option.some.injEq] at h
      simp [put, hak, h]
    · simp only [get?, hak, Bool.false_eq_true, if_false] at h
      simp [put, hak, ih h]

/-- What a look-up finds is the value of an entry of that key. -/
theorem exists_mem_of_get? (h : get? es k = some v) : ∃ a, (a, v) ∈ es ∧ a.same k = true := by
  induction es with
  | nil => cases h
  | cons e es ih =>
    obtain ⟨a, w⟩ := e
    by_cases hak : a.same k
    · simp only [get?, hak, if_true, Option.some.injEq] at h
      exact ⟨a, h ▸ List.mem_cons_self, hak⟩
    · simp only [get?, hak, Bool.false_eq_true, if_false] at h
      obtain ⟨b, hb, hbk⟩ := ih h
      exact ⟨b, List.mem_cons_of_mem _ hb, hbk⟩

/-- No two entries have one key. -/
def Distinct (es : Entries) : Prop := es.Pairwise fun e e' => e.1.same e'.1 = false

instance (es : Entries) : Decidable (Distinct es) := inferInstanceAs (Decidable (es.Pairwise _))

theorem Distinct.get?_eq_none (h : Distinct ((k, v) :: es)) (hk : k.same k' = true) : get? es k' = none := by
  have hall := (List.pairwise_cons.1 h).1
  rw [← get?_congr hk]
  cases hget : get? es k with
  | none => rfl
  | some w =>
    exfalso
    induction es with
    | nil => cases hget
    | cons e es ih =>
      obtain ⟨a, u⟩ := e
      have hka : k.same a = false := hall (a, u) List.mem_cons_self
      have hak : ¬ a.same k = true := fun hak => by
        rw [Bool.eq_false_iff] at hka
        exact hka (Key.same_iff.2 (Key.same_iff.1 hak).symm)
      simp only [get?, hak, Bool.false_eq_true, if_false] at hget
      have hrest : Distinct ((k, v) :: es) :=
        h.sublist ((List.sublist_cons_self (a, u) es).cons_cons (k, v))
      exact ih hrest (fun e he => hall e (List.mem_cons_of_mem _ he)) hget

/-- The entries of a mapping are what look-ups find. -/
theorem Distinct.get?_of_mem (h : Distinct es) (he : (k, v) ∈ es) : get? es k = some v := by
  induction es with
  | nil => cases he
  | cons e es ih =>
    obtain ⟨a, w⟩ := e
    have hrest : Distinct es := (List.pairwise_cons.1 h).2
    rcases List.mem_cons.1 he with heq | he
    · cases heq
      have hself : k.same k = true := Key.same_iff.2 rfl
      simp [get?, hself]
    · by_cases hak : a.same k
      · cases (h.get?_eq_none hak).symm.trans (ih hrest he)
      · simp [get?, hak, ih hrest he]

/-- A write keeps the keys and adds no other than its own. -/
theorem exists_key_of_mem_put {e : Key × Value} (h : e ∈ put es k v) :
    (∃ a, e = (a, v) ∧ a.canonical = k.canonical) ∨ e ∈ es := by
  induction es with
  | nil => exact .inl ⟨k, List.mem_singleton.1 h, rfl⟩
  | cons e' es ih =>
    obtain ⟨a, w⟩ := e'
    by_cases hak : a.same k
    · rw [put, if_pos hak] at h
      rcases List.mem_cons.1 h with rfl | h
      · exact .inl ⟨a, rfl, Key.same_iff.1 hak⟩
      · exact .inr (List.mem_cons_of_mem _ h)
    · rw [put, if_neg hak] at h
      rcases List.mem_cons.1 h with rfl | h
      · exact .inr List.mem_cons_self
      · exact (ih h).imp_right (List.mem_cons_of_mem _)

/-- Keys stay distinct under writes. -/
theorem Distinct.put (h : Distinct es) (k : Key) (v : Value) : Distinct (put es k v) := by
  induction es with
  | nil => exact List.pairwise_singleton _ _
  | cons e es ih =>
    obtain ⟨a, w⟩ := e
    obtain ⟨hhead, htail⟩ := List.pairwise_cons.1 h
    by_cases hak : a.same k
    · rw [Entries.put, if_pos hak]
      exact List.pairwise_cons.2 ⟨hhead, htail⟩
    · rw [Entries.put, if_neg hak]
      refine List.pairwise_cons.2 ⟨fun e he => ?_, ih htail⟩
      rcases exists_key_of_mem_put he with ⟨b, rfl, hb⟩ | he
      · simpa [Bool.eq_false_iff, Key.same_iff, hb] using hak
      · exact hhead e he

end Entries

end FrameHost
