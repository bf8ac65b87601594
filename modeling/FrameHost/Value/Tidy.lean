import FrameHost.Value.Entries

/-!
# Tidy values

A mapping has every key once. Values are written so that entries could repeat a key; what reads a document
never leaves such a value.

* `Value.Tidy`: every mapping in a value has distinct keys.
* `Value.Tidy.put`: a write keeps a mapping tidy.
-/

namespace FrameHost

/-- Every mapping in a value, also one in a list, has distinct keys. -/
inductive Value.Tidy : Value → Prop
  | map {es : Entries} (hkeys : Entries.Distinct es) (hes : ∀ e ∈ es, e.2.Tidy) : Tidy (.map es)
  | list {vs : List Value} (hvs : ∀ v ∈ vs, v.Tidy) : Tidy (.list vs)
  | plain {v : Value} (hmap : v.entries? = none) (hlist : ∀ vs, v ≠ .list vs) : Tidy v

namespace Value

variable {es : Entries} {k : Key} {v : Value} {vs : List Value}

@[simp] theorem tidy_map : (map es).Tidy ↔ Entries.Distinct es ∧ ∀ e ∈ es, e.2.Tidy := by
  constructor
  · intro h
    cases h with
    | map hkeys hes => exact ⟨hkeys, hes⟩
    | plain hmap => cases hmap
  · exact fun h => .map h.1 h.2

@[simp] theorem tidy_list : (list vs).Tidy ↔ ∀ v ∈ vs, v.Tidy := by
  constructor
  · intro h
    cases h with
    | list hvs => exact hvs
    | plain _ hlist => exact absurd rfl (hlist vs)
  · exact .list

@[simp] theorem tidy_null : null.Tidy := .plain rfl (by simp)
@[simp] theorem tidy_bool (b : Bool) : (bool b).Tidy := .plain rfl (by simp)
@[simp] theorem tidy_int (n : Int) : (int n).Tidy := .plain rfl (by simp)
@[simp] theorem tidy_float (x : Float) : (float x).Tidy := .plain rfl (by simp)
@[simp] theorem tidy_str (s : String) : (str s).Tidy := .plain rfl (by simp)

/-- A write keeps a mapping tidy. -/
theorem Tidy.put (h : (Value.map es).Tidy) (k : Key) (hv : v.Tidy) : (Value.map (Entries.put es k v)).Tidy := by
  obtain ⟨hkeys, hes⟩ := tidy_map.1 h
  refine .map (hkeys.put k v) fun e he => ?_
  rcases Entries.exists_key_of_mem_put he with ⟨a, rfl, -⟩ | he
  · exact hv
  · exact hes e he

end Value

end FrameHost
