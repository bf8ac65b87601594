import FrameHost.Proofs.Loading
import FrameHost.Value.Entries
import Mathlib.Data.List.Basic

/-!
# What a merged configuration holds

A configuration is a mapping whose values may be mappings in turn, so a value is found along a path of keys.
Merging goes down such paths together in the defaults and in what is laid over them, as far as both hold
mappings. Where one of them ends, the value that is laid over is taken as a whole, with all that is below it.

* `Config.at?`: the value at a path.
* `Config.get?_merge`: **what one level of a merged mapping holds**.
* `Config.merge_law`: **where the values of a merged mapping come from, and that merging again changes nothing**.
-/

namespace FrameHost

namespace Config

open Entries

variable {d o es : Entries} {k : Key} {ks path : List Key} {v w : Value}

/-! ## One level -/

/-- **What one level of a merged mapping holds**: what is laid over the default where there is such a value, and
the default elsewhere and under `_notes`. -/
theorem get?_merge (ho : Distinct o) (d : Entries) (k : Key) :
    get? (merge d o) k = if k = notesKey then get? d k else
      match get? o k with
      | some v => some (overlay (get? d k) v)
      | none => get? d k := by
  induction o generalizing d with
  | nil => simp [merge, get?]
  | cons e o ih =>
    obtain ⟨a, v⟩ := e
    have hrest : Distinct o := (List.pairwise_cons.1 ho).2
    by_cases hnotes : a = notesKey
    · rw [merge, if_pos hnotes, ih hrest]
      by_cases hk : k = notesKey
      · rw [if_pos hk, if_pos hk]
      · have hother : ¬ a.same k = true := fun hsame => by
          rw [hnotes, Key.same_iff, eq_comm, ← Key.same_iff] at hsame
          exact hk (Key.same_str.1 hsame)
        simp [hk, get?, hother]
    · rw [merge, if_neg hnotes, ih hrest]
      by_cases hk : k = notesKey
      · subst hk
        have hother : ¬ a.same notesKey = true := fun hsame => hnotes (Key.same_str.1 hsame)
        simp [get?_put, hother]
      · by_cases hsame : a.same k
        · simp [hk, get?_put, get?, hsame, ho.get?_eq_none hsame, get?_congr hsame]
        · simp [hk, get?_put, get?, hsame]

/-- A value that is laid over a default stays as it is, unless both are mappings. -/
theorem overlay_cases (default : Option Value) (v : Value) :
    ((∀ d o, default = some (.map d) → v ≠ .map o) ∧ overlay default v = v) ∨
      ∃ d o, default = some (.map d) ∧ v = .map o ∧ overlay default v = .map (merge d o) := by
  cases v with
  | map o =>
    cases default with
    | none => exact .inl ⟨nofun, by simp [overlay]⟩
    | some w =>
      cases w with
      | map d => exact .inr ⟨d, o, rfl, rfl, by simp [overlay]⟩
      | _ => exact .inl ⟨nofun, by simp [overlay]⟩
  | _ => exact .inl ⟨nofun, by simp [overlay]⟩

theorem overlay_of_no_map {default : Option Value} (h : ∀ d, default ≠ some (.map d)) (v : Value) :
    overlay default v = v := by
  rcases overlay_cases default v with ⟨-, heq⟩ | ⟨d, -, hd, -, -⟩
  · exact heq
  · exact absurd hd (h d)

theorem overlay_map (d o : Entries) : overlay (some (.map d)) (.map o) = .map (merge d o) := by
  simp [overlay]

/-! ## Paths -/

/-- The value at a path of keys, through nested mappings. -/
def at? (v : Value) : List Key → Option Value
  | [] => some v
  | k :: ks => v.entries?.bind fun es => (get? es k).bind fun w => at? w ks

/-- A path into a mapping goes by one of its values. -/
theorem at?_map_cons : at? (.map es) (k :: ks) = some v ↔ ∃ w, get? es k = some w ∧ at? w ks = some v := by
  change (get? es k).bind (fun w => at? w ks) = some v ↔ _
  exact Option.bind_eq_some_iff

/-- What a path leads to from a value that is no mapping is that value itself. -/
theorem eq_nil_of_at? (hv : v.entries? = none) (h : at? v path = some w) : path = [] ∧ v = w := by
  cases path with
  | nil => exact ⟨rfl, Option.some.inj h⟩
  | cons k ks => simp [at?, hv] at h

theorem exists_map_of_entries? (h : v.entries? ≠ none) : ∃ es, v = .map es := by
  cases v with
  | map es => exact ⟨es, rfl⟩
  | _ => exact absurd rfl h

/-- A mapping in which no nested mapping, and not the mapping itself, has two entries of one key. -/
def Proper (v : Value) : Prop := ∀ path es, at? v path = some (.map es) → Distinct es

theorem Proper.distinct (h : Proper (.map es)) : Distinct es := h [] es rfl

theorem Proper.of_get? (h : Proper (.map es)) (hv : get? es k = some v) : Proper v :=
  fun path es' he => h (k :: path) es' (at?_map_cons.2 ⟨v, hv, he⟩)

theorem Proper.of_mem (h : Proper (.map es)) (hv : (k, v) ∈ es) : Proper v :=
  h.of_get? (h.distinct.get?_of_mem hv)

/-- What is no mapping has no entries. -/
theorem Proper.plain (hv : v.entries? = none) : Proper v := fun path es he => by
  obtain ⟨-, rfl⟩ := eq_nil_of_at? hv he
  cases hv

theorem Proper.map (h : Distinct es) (hes : ∀ e ∈ es, Proper e.2) : Proper (.map es) := fun path es' he => by
  cases path with
  | nil =>
    cases he
    exact h
  | cons k ks =>
    obtain ⟨w, hw, he⟩ := at?_map_cons.1 he
    obtain ⟨a, hmem, -⟩ := exists_mem_of_get? hw
    exact hes (a, w) hmem ks es' he

/-! ## Where values come from -/

/-- Below `_notes` a merged mapping holds what the defaults hold. -/
theorem at?_merge_notes (ho : Proper (.map o)) :
    at? (.map (merge d o)) (notesKey :: ks) = at? (.map d) (notesKey :: ks) := by
  simp only [at?, Value.entries?, Option.bind_some, get?_merge ho.distinct, if_true]

/-- Below a key over which nothing is laid it holds what the defaults hold. -/
theorem at?_merge_kept (ho : Proper (.map o)) (hu : get? o k = none) :
    at? (.map (merge d o)) (k :: ks) = at? (.map d) (k :: ks) := by
  simp only [at?, Value.entries?, Option.bind_some, get?_merge ho.distinct, hu, ite_self]

/-- Below any other key it holds what the value that is laid over the default has become. -/
theorem at?_merge_laid (ho : Proper (.map o)) (hk : k ≠ notesKey) (hw : get? o k = some w) :
    at? (.map (merge d o)) (k :: ks) = at? (overlay (get? d k) w) ks := by
  simp only [at?, Value.entries?, Option.bind_some, get?_merge ho.distinct, hw, if_neg hk]

/-- What is laid over is found where it was, unless `_notes` is on the way. -/
theorem at?_merge_of_override (ho : Proper (.map o)) (h : at? (.map o) path = some v) (hv : v.entries? = none)
    (hpath : notesKey ∉ path) : at? (.map (merge d o)) path = some v := by
  induction path generalizing d o with
  | nil =>
    cases h
    cases hv
  | cons k ks ih =>
    obtain ⟨w, hw, h⟩ := at?_map_cons.1 h
    obtain ⟨hk, hks⟩ := not_or.1 (mt List.mem_cons.2 hpath)
    rw [at?_merge_laid ho (Ne.symm hk) hw]
    rcases overlay_cases (get? d k) w with ⟨-, heq⟩ | ⟨d', o', -, rfl, heq⟩
    · rw [heq]
      exact h
    · rw [heq]
      exact ih (ho.of_get? hw) h hks

/-- A default is found where it was, unless something is laid over it or over a mapping that it is in. -/
theorem at?_merge_of_default (ho : Proper (.map o)) (h : at? (.map d) path = some v) (hv : v.entries? = none)
    (hkeep : ∀ q w, q <+: path → notesKey ∉ q → at? (.map o) q = some w → w.entries? ≠ none ∧ q ≠ path) :
    at? (.map (merge d o)) path = some v := by
  induction path generalizing d o with
  | nil =>
    cases h
    cases hv
  | cons k ks ih =>
    by_cases hk : k = notesKey
    · subst hk
      rw [at?_merge_notes ho]
      exact h
    cases hu : get? o k with
    | none =>
      rw [at?_merge_kept ho hu]
      exact h
    | some u =>
      obtain ⟨w, hw, h⟩ := at?_map_cons.1 h
      -- what is laid over this key is a mapping, and the path goes on below it
      have hone : [k] <+: k :: ks := ⟨ks, rfl⟩
      have hfree : notesKey ∉ [k] := fun hmem => hk (List.mem_singleton.1 hmem).symm
      obtain ⟨hmap, hshort⟩ := hkeep [k] u hone hfree (at?_map_cons.2 ⟨u, hu, rfl⟩)
      obtain ⟨o', rfl⟩ := exists_map_of_entries? hmap
      have hdeep : w.entries? ≠ none := fun hplain => by
        obtain ⟨rfl, -⟩ := eq_nil_of_at? hplain h
        exact hshort rfl
      obtain ⟨d', rfl⟩ := exists_map_of_entries? hdeep
      rw [at?_merge_laid ho hk hu, hw, overlay_map]
      refine ih (ho.of_get? hu) h fun q w hq hnotes hat => ?_
      have hlonger : k :: q <+: k :: ks := List.cons_prefix_cons.2 ⟨rfl, hq⟩
      have hnotes' : notesKey ∉ k :: q := fun hmem =>
        (List.mem_cons.1 hmem).elim (fun heq => hk heq.symm) hnotes
      obtain ⟨hmap, hne⟩ := hkeep (k :: q) w hlonger hnotes' (at?_map_cons.2 ⟨_, hu, hat⟩)
      exact ⟨hmap, fun heq => hne (congrArg (k :: ·) heq)⟩

/-- What a merged mapping holds was laid over or was there before, at the same place. -/
theorem at?_of_merge (ho : Proper (.map o)) (h : at? (.map (merge d o)) path = some v) (hv : v.entries? = none) :
    at? (.map o) path = some v ∨ at? (.map d) path = some v := by
  induction path generalizing d o with
  | nil =>
    cases h
    cases hv
  | cons k ks ih =>
    by_cases hk : k = notesKey
    · subst hk
      rw [at?_merge_notes ho] at h
      exact .inr h
    cases hu : get? o k with
    | none =>
      rw [at?_merge_kept ho hu] at h
      exact .inr h
    | some u =>
      rw [at?_merge_laid ho hk hu] at h
      rcases overlay_cases (get? d k) u with ⟨-, heq⟩ | ⟨d', o', hd', rfl, heq⟩
      · rw [heq] at h
        exact .inl (at?_map_cons.2 ⟨u, hu, h⟩)
      · rw [heq] at h
        rcases ih (ho.of_get? hu) h with hlaid | hkept
        · exact .inl (at?_map_cons.2 ⟨_, hu, hlaid⟩)
        · exact .inr (at?_map_cons.2 ⟨_, hd', hkept⟩)

/-! ## Merging again -/

/-- Nothing changes where all that is laid over is there already. -/
theorem merge_of_absorbed (h : ∀ e ∈ o, e.1 ≠ notesKey → ∃ w, get? d e.1 = some w ∧ overlay (some w) e.2 = w) :
    merge d o = d := by
  induction o with
  | nil => simp [merge]
  | cons e o ih =>
    obtain ⟨k, v⟩ := e
    have hrest := ih fun e he => h e (List.mem_cons_of_mem _ he)
    by_cases hk : k = notesKey
    · rw [merge, if_pos hk, hrest]
    · obtain ⟨w, hw, hover⟩ := h (k, v) List.mem_cons_self hk
      rw [merge, if_neg hk, hw, hover, put_of_get? hw, hrest]

theorem sizeOf_lt_of_mem {k : Key} {es es' : Entries} (h : (k, .map es') ∈ es) : sizeOf es' < sizeOf es := by
  have hmem := List.sizeOf_lt_of_mem h
  simp only [Prod.mk.sizeOf_spec, Value.map.sizeOf_spec] at hmem
  omega

/-- Laying a mapping over itself changes nothing. -/
theorem merge_self {es : Entries} (h : Proper (.map es)) : merge es es = es := by
  refine merge_of_absorbed fun e he _ => ⟨e.2, h.distinct.get?_of_mem he, ?_⟩
  obtain ⟨k, v⟩ := e
  cases v with
  | map es' =>
    have hsmaller : sizeOf es' < sizeOf es := sizeOf_lt_of_mem he
    rw [overlay_map, merge_self (h.of_mem he)]
  | _ => simp [overlay]
termination_by sizeOf es

/-- **Laying the same mapping over a second time changes nothing.** -/
theorem merge_merge {d o : Entries} (ho : Proper (.map o)) : merge (merge d o) o = merge d o := by
  refine merge_of_absorbed fun e he hk => ⟨overlay (get? d e.1) e.2, ?_, ?_⟩
  · rw [get?_merge ho.distinct, if_neg hk, ho.distinct.get?_of_mem he]
  · obtain ⟨k, v⟩ := e
    cases v with
    | map o' =>
      have hsmaller : sizeOf o' < sizeOf o := sizeOf_lt_of_mem he
      rcases overlay_cases (get? d k) (.map o') with ⟨-, heq⟩ | ⟨d', o'', -, hmap, heq⟩
      · rw [heq, overlay_map, merge_self (ho.of_mem he)]
      · cases hmap
        rw [heq, overlay_map, merge_merge (ho.of_mem he)]
    | _ => simp [overlay]
termination_by sizeOf o

/-- What one mapping is of two others, of which the second was laid over the first. -/
structure Merged (d o m : Entries) : Prop where
  /-- What was laid over is there, unless `_notes` is on the way. -/
  override : ∀ path v, at? (.map o) path = some v → v.entries? = none → notesKey ∉ path →
    at? (.map m) path = some v
  /-- A default is there, unless something was laid over it, or something else than a mapping over one of the
  mappings that it is in. -/
  default : ∀ path v, at? (.map d) path = some v → v.entries? = none →
    (∀ q w, q <+: path → notesKey ∉ q → at? (.map o) q = some w → w.entries? ≠ none ∧ q ≠ path) →
    at? (.map m) path = some v
  /-- All that is there was there before. -/
  origin : ∀ path v, at? (.map m) path = some v → v.entries? = none →
    at? (.map o) path = some v ∨ at? (.map d) path = some v
  /-- Laying the same over again changes nothing. -/
  again : mergeValue (.map m) (.map o) = .ok (.map m)

/-- **Where the values of a merged mapping come from, and that merging again changes nothing.** -/
theorem merge_law (d : Entries) (ho : Proper (.map o)) :
    ∃ m, mergeValue (.map d) (.map o) = .ok (.map m) ∧ Merged d o m := by
  refine ⟨merge d o, rfl, ?_⟩
  constructor
  case override => exact fun path v h hv hpath => at?_merge_of_override ho h hv hpath
  case default => exact fun path v h hv hkeep => at?_merge_of_default ho h hv hkeep
  case origin => exact fun path v h hv => at?_of_merge ho h hv
  case again => exact congrArg (fun m => Except.ok (Value.map m)) (merge_merge ho)

/-- A file that changes one part of a setting, has a note on it, and sets something new. -/
def adjusted : Entries :=
  [(.str "display", .map [(.str "width", .int 1920), (notesKey, .str "wide")]),
    (.str "panel", .map [(.str "title", .str "Bags"), (notesKey, .str "new")])]

theorem proper_adjusted : Proper (.map adjusted) := by
  have plain (s : String) : Proper (.str s) := .plain rfl
  have number (n : Int) : Proper (.int n) := .plain rfl
  have display : Proper (.map [(.str "width", .int 1920), (notesKey, .str "wide")]) :=
    .map (by decide) (by simp [plain, number])
  have panel : Proper (.map [(.str "title", .str "Bags"), (notesKey, .str "new")]) :=
    .map (by decide) (by simp [plain])
  exact .map (by decide) (by simp [adjusted, display, panel])

/-- The defaults of a display. -/
def displayed : Entries :=
  [(.str "display", .map [(.str "width", .int 1024), (.str "height", .int 768)])]

theorem merge_law_adjusted : Proper (.map adjusted) ∧
    ∃ m, mergeValue (.map displayed) (.map adjusted) = .ok (.map m) ∧ Merged displayed adjusted m :=
  ⟨proper_adjusted, merge_law displayed proper_adjusted⟩

end Config

end FrameHost
