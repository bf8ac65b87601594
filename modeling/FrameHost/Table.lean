/-!
# Tables in order of first insertion

`Table κ α` maps keys to values and lists them in the order in which the keys were first written:
writing a key again changes its value and leaves its place, removing it and writing it again moves
it to the end.

* `Table.get?_insert`, `Table.get?_erase`: what a write and a removal do to a look-up.
* `Table.keys_insert`: a write adds at most one key, at the end.
* `Table.nodup_insert`, `Table.nodup_erase`: no operation repeats a key.
-/

namespace FrameHost

/-- Keys with their values, oldest key first. -/
structure Table (κ α : Type) where
  entries : List (κ × α) := []
  deriving DecidableEq, Inhabited, Repr

namespace Table

variable {κ α β : Type}

def empty : Table κ α := ⟨[]⟩

/-- The keys, oldest first. -/
def keys (t : Table κ α) : List κ := t.entries.map (·.1)

/-- The values, in the order of their keys. -/
def values (t : Table κ α) : List α := t.entries.map (·.2)

def size (t : Table κ α) : Nat := t.entries.length

def isEmpty (t : Table κ α) : Bool := t.entries.isEmpty

/-- Every value replaced by its image; the keys stay. -/
def map (t : Table κ α) (f : α → β) : Table κ β := ⟨t.entries.map fun e => (e.1, f e.2)⟩

variable [BEq κ]

/-- The value written under a key. -/
def get? (t : Table κ α) (k : κ) : Option α := t.entries.lookup k

def contains (t : Table κ α) (k : κ) : Bool := (t.get? k).isSome

/-- Writes into a list of entries: in place when the key is there, else at the end. -/
def insertEntry (k : κ) (v : α) : List (κ × α) → List (κ × α)
  | [] => [(k, v)]
  | e :: es => if k == e.1 then (e.1, v) :: es else e :: insertEntry k v es

def insert (t : Table κ α) (k : κ) (v : α) : Table κ α := ⟨insertEntry k v t.entries⟩

/-- Writes a value under a key that has none yet. -/
def insertNew (t : Table κ α) (k : κ) (v : α) : Table κ α :=
  if t.contains k then t else t.insert k v

def erase (t : Table κ α) (k : κ) : Table κ α := ⟨t.entries.filter fun e => !(k == e.1)⟩

/-- Changes the value under a key, if there is one. -/
def modify (t : Table κ α) (k : κ) (f : α → α) : Table κ α :=
  ⟨t.entries.map fun e => if k == e.1 then (e.1, f e.2) else e⟩

/-- Keeps the entries that pass a test. -/
def filter (t : Table κ α) (p : κ → α → Bool) : Table κ α := ⟨t.entries.filter fun e => p e.1 e.2⟩

/-! ## Look-ups after a change -/

variable [LawfulBEq κ]

omit [LawfulBEq κ] in
@[simp] theorem get?_empty (k : κ) : (empty : Table κ α).get? k = none := rfl

theorem lookup_insertEntry (k k' : κ) (v : α) (es : List (κ × α)) :
    (insertEntry k v es).lookup k' = if k' == k then some v else es.lookup k' := by
  induction es with
  | nil => cases h : k' == k <;> simp [insertEntry, List.lookup_cons, h]
  | cons e es ih =>
    obtain ⟨a, b⟩ := e
    by_cases hk : k = a
    · subst hk
      simp only [insertEntry, beq_self_eq_true, if_true, List.lookup_cons]
      by_cases h : k' = k
      · simp [h]
      · have : (k' == k) = false := by simpa using h
        simp [this]
    · have : (k == a) = false := by simpa using hk
      simp only [insertEntry, this, Bool.false_eq_true, if_false, List.lookup_cons, ih]
      by_cases h : k' = a
      · subst h
        have : (k' == k) = false := by simpa using fun h => hk h.symm
        simp [this]
      · have : (k' == a) = false := by simpa using h
        simp [this]

/-- A write is seen under its key and under no other. -/
theorem get?_insert (t : Table κ α) (k k' : κ) (v : α) :
    (t.insert k v).get? k' = if k' == k then some v else t.get? k' :=
  lookup_insertEntry k k' v t.entries

@[simp] theorem get?_insert_self (t : Table κ α) (k : κ) (v : α) :
    (t.insert k v).get? k = some v := by simp [get?_insert]

theorem get?_insert_of_ne (t : Table κ α) {k k' : κ} (v : α) (h : k' ≠ k) :
    (t.insert k v).get? k' = t.get? k' := by simp [get?_insert, h]

/-- A write under a key that has none yet is seen under that key only. -/
theorem get?_insertNew (t : Table κ α) (k k' : κ) (v : α) :
    (t.insertNew k v).get? k' = if k' == k then some ((t.get? k).getD v) else t.get? k' := by
  unfold insertNew contains
  cases h : t.get? k with
  | none => exact get?_insert t k k' v
  | some w =>
    by_cases hk : k' = k
    · subst hk
      simp [h]
    · simp [hk]

theorem lookup_filter_key (p : κ → Bool) (k : κ) (es : List (κ × α)) :
    (es.filter fun e => p e.1).lookup k = if p k then es.lookup k else none := by
  induction es with
  | nil => simp
  | cons e es ih =>
    obtain ⟨a, b⟩ := e
    by_cases hk : k = a
    · subst hk
      cases hp : p k with
      | true => rw [List.filter_cons_of_pos (by exact hp)]; simp
      | false => rw [List.filter_cons_of_neg (by simp [hp]), ih]; simp [hp]
    · have hka : (k == a) = false := by simpa using hk
      cases hp : p a with
      | true => rw [List.filter_cons_of_pos (by exact hp), List.lookup_cons, List.lookup_cons, hka, ih]
      | false => rw [List.filter_cons_of_neg (by simp [hp]), List.lookup_cons, hka, ih]

/-- Entries whose keys pass a test are seen, and no others. -/
theorem get?_filter (t : Table κ α) (p : κ → Bool) (k : κ) :
    (t.filter fun k _ => p k).get? k = if p k then t.get? k else none :=
  lookup_filter_key p k t.entries

/-- A removal is seen under its key and under no other. -/
theorem get?_erase (t : Table κ α) (k k' : κ) :
    (t.erase k).get? k' = if k' == k then none else t.get? k' := by
  refine (get?_filter t (fun a => !(k == a)) k').trans ?_
  by_cases h : k' = k
  · simp [h]
  · simp [h, Ne.symm h]

theorem lookup_map_entry (k k' : κ) (f : α → α) (es : List (κ × α)) :
    (es.map fun e => if k == e.1 then (e.1, f e.2) else e).lookup k' =
      if k' == k then (es.lookup k').map f else es.lookup k' := by
  induction es with
  | nil => simp
  | cons e es ih =>
    obtain ⟨a, b⟩ := e
    simp only [List.map_cons]
    by_cases hk : k = a
    · subst hk
      simp only [beq_self_eq_true, if_true, List.lookup_cons, ih]
      by_cases h : k' = k
      · simp [h]
      · have : (k' == k) = false := by simpa using h
        simp [this]
    · have hka : (k == a) = false := by simpa using hk
      simp only [hka, Bool.false_eq_true, if_false, List.lookup_cons, ih]
      by_cases h : k' = a
      · subst h
        have : (k' == k) = false := by simpa using fun h => hk h.symm
        simp [this]
      · have : (k' == a) = false := by simpa using h
        simp [this]

/-- A change in place is seen under its key and under no other. -/
theorem get?_modify (t : Table κ α) (k k' : κ) (f : α → α) :
    (t.modify k f).get? k' = if k' == k then (t.get? k').map f else t.get? k' :=
  lookup_map_entry k k' f t.entries

omit [LawfulBEq κ] in
/-- A change of every value is seen under every key. -/
theorem get?_map (t : Table κ α) (f : α → β) (k : κ) : (t.map f).get? k = (t.get? k).map f := by
  obtain ⟨es⟩ := t
  change (es.map fun e => (e.1, f e.2)).lookup k = (es.lookup k).map f
  induction es with
  | nil => rfl
  | cons e es ih =>
    obtain ⟨a, b⟩ := e
    rw [List.map_cons, List.lookup_cons, List.lookup_cons, ih]
    cases k == a <;> rfl

/-! ## Keys after a change -/

omit [LawfulBEq κ] in
@[simp] theorem keys_modify (t : Table κ α) (k : κ) (f : α → α) : (t.modify k f).keys = t.keys := by
  simp only [keys, modify, List.map_map]
  refine List.map_congr_left fun e _ => ?_
  simp only [Function.comp_apply]
  split <;> rfl

theorem keys_insertEntry (k : κ) (v : α) (es : List (κ × α)) :
    (insertEntry k v es).map (·.1) =
      if k ∈ es.map (·.1) then es.map (·.1) else es.map (·.1) ++ [k] := by
  induction es with
  | nil => simp [insertEntry]
  | cons e es ih =>
    by_cases hk : k = e.1
    · simp [insertEntry, hk]
    · have : (k == e.1) = false := by simpa using hk
      simp only [insertEntry, this, Bool.false_eq_true, if_false, List.map_cons, ih, List.mem_cons,
        hk, false_or]
      split <;> simp

/-- A write keeps the places of the keys and adds a new key at the end. -/
theorem keys_insert (t : Table κ α) (k : κ) (v : α) [DecidableEq κ] :
    (t.insert k v).keys = if k ∈ t.keys then t.keys else t.keys ++ [k] := by
  refine (keys_insertEntry k v t.entries).trans ?_
  by_cases h : k ∈ t.keys
  · exact (if_pos h).trans (if_pos h).symm
  · exact (if_neg h).trans (if_neg h).symm

/-- Keys stay distinct under writes. -/
theorem nodup_insert {t : Table κ α} (h : t.keys.Nodup) (k : κ) (v : α) :
    (t.insert k v).keys.Nodup := by
  have hk := keys_insertEntry k v t.entries
  simp only [keys, insert] at h ⊢
  rw [hk]
  split
  · exact h
  · rename_i hn
    rw [List.nodup_append]
    refine ⟨h, by simp, ?_⟩
    rintro a ha b hb rfl
    simp only [List.mem_singleton] at hb
    exact hn (hb ▸ ha)

theorem nodup_insertNew {t : Table κ α} (h : t.keys.Nodup) (k : κ) (v : α) :
    (t.insertNew k v).keys.Nodup := by
  unfold insertNew
  split
  · exact h
  · exact nodup_insert h k v

omit [BEq κ] [LawfulBEq κ] in
/-- Keys stay distinct under removals. -/
theorem nodup_filter {t : Table κ α} (h : t.keys.Nodup) (p : κ → α → Bool) : (t.filter p).keys.Nodup :=
  h.sublist ((List.filter_sublist).map _)

omit [LawfulBEq κ] in
theorem nodup_erase {t : Table κ α} (h : t.keys.Nodup) (k : κ) : (t.erase k).keys.Nodup :=
  nodup_filter h fun a _ => !(k == a)

/-- A key is listed exactly when it has a value. -/
theorem mem_keys_iff {t : Table κ α} {k : κ} : k ∈ t.keys ↔ (t.get? k).isSome := by
  obtain ⟨es⟩ := t
  simp only [keys, get?]
  induction es with
  | nil => simp
  | cons e es ih =>
    obtain ⟨a, b⟩ := e
    by_cases h : k = a
    · simp [h]
    · have : (k == a) = false := by simpa using h
      simp only [List.map_cons, List.mem_cons, h, false_or, List.lookup_cons, this]
      exact ih

/-- The entries of a table whose keys are distinct are what look-ups find. -/
theorem mem_entries_iff {t : Table κ α} (h : t.keys.Nodup) {k : κ} {v : α} :
    (k, v) ∈ t.entries ↔ t.get? k = some v := by
  obtain ⟨es⟩ := t
  simp only [keys, get?] at h ⊢
  induction es with
  | nil => simp
  | cons e es ih =>
    obtain ⟨a, b⟩ := e
    obtain ⟨hnot, hes⟩ := List.nodup_cons.1 h
    by_cases hk : k = a
    · subst hk
      have habsent : (k, v) ∉ es := fun hmem => hnot (List.mem_map.2 ⟨_, hmem, rfl⟩)
      simp [habsent, eq_comm]
    · have hka : (k == a) = false := by simpa using hk
      have hlookup : ((a, b) :: es).lookup k = es.lookup k := by rw [List.lookup_cons, hka]
      simp [hk, ih hes, hlookup]

/-! ## Values after a change -/

omit [BEq κ] [LawfulBEq κ] in
theorem mem_values {t : Table κ α} {v : α} : v ∈ t.values ↔ ∃ k, (k, v) ∈ t.entries := by
  simp [values]

omit [BEq κ] [LawfulBEq κ] in
theorem mem_values_filter {t : Table κ α} {p : α → Bool} {v : α} :
    v ∈ (t.filter fun _ => p).values ↔ v ∈ t.values ∧ p v = true := by
  simp [mem_values, filter]

omit [LawfulBEq κ] in
theorem mem_insertEntry {k : κ} {v : α} {e : κ × α} {es : List (κ × α)}
    (h : e ∈ insertEntry k v es) : e.2 = v ∨ e ∈ es := by
  induction es with
  | nil =>
    simp only [insertEntry, List.mem_singleton] at h
    exact .inl (h ▸ rfl)
  | cons a es ih =>
    unfold insertEntry at h
    split at h
    · rcases List.mem_cons.1 h with rfl | h
      · exact .inl rfl
      · exact .inr (List.mem_cons_of_mem _ h)
    · rcases List.mem_cons.1 h with rfl | h
      · exact .inr List.mem_cons_self
      · exact (ih h).imp_right (List.mem_cons_of_mem _)

omit [LawfulBEq κ] in
/-- A write brings in no value but the one that is written. -/
theorem mem_values_insert {t : Table κ α} {k : κ} {v w : α} (h : w ∈ (t.insert k v).values) :
    w = v ∨ w ∈ t.values := by
  obtain ⟨l, hl⟩ := mem_values.1 h
  exact (mem_insertEntry hl).imp_right fun h => mem_values.2 ⟨l, h⟩

end Table

end FrameHost
