import FrameHost.Document.Yaml
import FrameHost.Text.Decode
import FrameHost.Value.Tidy

/-!
# Readers of YAML

What reads YAML documents is no part of the host, which is given a reader. The fields of `Yaml.Reader` say what
the host relies on: a document that is text gives a value or is malformed, and the mappings in a value have every
key once. A reader takes the bytes of a document as it comes to them. So it may find a document malformed before
it comes to bytes that are no text, and which of the two it tells is its own affair.

`Yaml.plainReader` is a reader for plain data. It takes the whole text first; dates are texts to it, and
documents with sets, ordered mappings or bytes are malformed.

* `Yaml.Reader`: a reader of YAML, with what is relied on.
* `Yaml.tidy_read`: what is read has every key once.
* `Yaml.plainReader`: the reader of a host that is given no other.
-/

namespace FrameHost.Yaml

/-- Why a document gives no value. -/
inductive Problem
  /-- It is malformed, in these words. -/
  | malformed (reason : String)
  /-- The reader came to bytes that are no text. -/
  | notText

/-- A reader of documents. What is no plain data, such as a date, stands in a value as a host object. -/
structure Reader where
  read : ByteArray → Except Problem Value
  /-- The reader comes to bytes that are no text only in documents that are none. -/
  notText : ∀ {content}, read content = .error .notText → String.fromUTF8? content = none
  tidy : ∀ {content v}, read content = .ok v → v.Tidy

/-! ## Reading plain data -/

variable {v : Value} {anchors : Anchors} {tag : Option Tag}

/-- The values of the anchors are tidy. -/
def Anchors.Tidy (anchors : Anchors) : Prop := ∀ name v, anchors.get? name = some v → v.Tidy

theorem Anchors.Tidy.insert (h : anchors.Tidy) (name : List Char) (hv : v.Tidy) :
    Anchors.Tidy (anchors.insert name v) := fun name' w hw => by
  rw [Table.get?_insert] at hw
  split at hw
  · cases hw
    exact hv
  · exact h name' w hw

/-- What the entries of a mapping come to is tidy. -/
structure Entered.Tidy (entered : Entered) : Prop where
  merged : ∀ e ∈ entered.merged, e.2.Tidy
  own : ∀ e ∈ entered.own, e.2.Tidy

theorem tidy_foldl_put {es es' : Entries} (hes : (Value.map es).Tidy) (h : ∀ e ∈ es', e.2.Tidy) :
    (Value.map (es'.foldl (fun es (k, v) => Entries.put es k v) es)).Tidy := by
  induction es' generalizing es with
  | nil => exact hes
  | cons e es' ih =>
    obtain ⟨he, hes'⟩ := List.forall_mem_cons.1 h
    exact ih (hes.put e.1 he) hes'

theorem Entered.Tidy.toValue {entered : Entered} (h : entered.Tidy) : entered.toValue.Tidy :=
  tidy_foldl_put (by simp [Entries.Distinct]) (List.forall_mem_append.2 ⟨h.merged, h.own⟩)

theorem tidy_meaning (s : String) : (Plain.meaning s).Tidy := by
  unfold Plain.meaning
  repeat' split
  all_goals simp

theorem tidy_scalar {text : String} {plain : Bool} (h : scalarValue? tag text plain = some v) : v.Tidy := by
  have huntagged : ∀ w, (if text = Plain.mergeWord ∨ text = Plain.valueWord then none
      else some (Plain.meaning text)) = some w → w.Tidy := fun w hw => by
    split at hw <;> cases hw
    exact tidy_meaning text
  unfold scalarValue? at h
  dsimp only at h
  split at h
  · split at h
    · exact huntagged v h
    · cases h
      simp
  · split at h
    · exact huntagged v h
    · split at h
      · cases h
        simp
      · cases h
        simp
      · split at h <;> cases h
        simp
      · obtain ⟨n, -, rfl⟩ := Option.map_eq_some_iff.1 h
        simp
      · obtain ⟨x, -, rfl⟩ := Option.map_eq_some_iff.1 h
        simp
      · cases h

theorem mem_of_mapM {items : List Value} {maps : List Entries} (h : items.mapM Value.entries? = some maps) :
    ∀ es ∈ maps, Value.map es ∈ items := by
  induction items generalizing maps with
  | nil =>
    cases h
    simp
  | cons v items ih =>
    simp only [List.mapM_cons, Option.bind_eq_bind, Option.bind_eq_some_iff] at h
    obtain ⟨es, hes, maps', hmaps, h⟩ := h
    cases h
    have hv : v = .map es := by
      unfold Value.entries? at hes
      split at hes <;> cases hes
      rfl
    refine List.forall_mem_cons.2 ⟨hv ▸ List.mem_cons_self, fun es hes => ?_⟩
    exact List.mem_cons_of_mem v (ih hmaps es hes)

theorem tidy_merged {es : Entries} (hv : v.Tidy) (h : mergedEntries? v = some es) : ∀ e ∈ es, e.2.Tidy := by
  unfold mergedEntries? at h
  split at h
  · cases h
    exact (Value.tidy_map.1 hv).2
  · obtain ⟨maps, hmaps, h⟩ := Option.bind_eq_some_iff.1 h
    cases h
    intro e he
    obtain ⟨es, hes, he⟩ := List.mem_flatten.1 he
    have hitem := List.mem_reverse.1 (mem_of_mapM hmaps es hes)
    exact (Value.tidy_map.1 (Value.tidy_list.1 hv _ hitem)).2 e he
  · cases h

mutual

/-- A node means what is tidy, and leaves no anchor with anything else. -/
theorem tidy_value {anchors after : Anchors} {v : Value} (hanchors : anchors.Tidy) : ∀ node : Node,
    value? anchors node = some (v, after) → v.Tidy ∧ after.Tidy
  | .alias name, h => by
    obtain ⟨w, hw, h⟩ := Option.bind_eq_some_iff.1 h
    cases h
    exact ⟨hanchors name v hw, hanchors⟩
  | .mk anchor tag content, h => by
    obtain ⟨-, -, h⟩ := Option.bind_eq_some_iff.1 h
    obtain ⟨⟨w, anchors'⟩, hw, h⟩ := Option.bind_eq_some_iff.1 h
    obtain ⟨-, -, h⟩ := Option.bind_eq_some_iff.1 h
    obtain ⟨hv, hanchors'⟩ := tidy_content hanchors content hw
    cases anchor with
    | none =>
      cases h
      exact ⟨hv, hanchors'⟩
    | some name =>
      cases h
      exact ⟨hv, hanchors'.insert name hv⟩

theorem tidy_content {anchors after : Anchors} {tag : Option Tag} {v : Value} (hanchors : anchors.Tidy) :
    ∀ content : Content, contentValue? anchors tag content = some (v, after) → v.Tidy ∧ after.Tidy
  | .scalar text plain, h => by
    obtain ⟨w, hw, h⟩ := Option.bind_eq_some_iff.1 h
    cases h
    exact ⟨tidy_scalar hw, hanchors⟩
  | .sequence items, h => by
    obtain ⟨-, -, h⟩ := Option.bind_eq_some_iff.1 h
    obtain ⟨⟨vs, anchors'⟩, hvs, h⟩ := Option.bind_eq_some_iff.1 h
    obtain ⟨htidy, hafter⟩ := tidy_items hanchors items hvs
    cases h
    exact ⟨.list htidy, hafter⟩
  | .mapping entries, h => by
    obtain ⟨-, -, h⟩ := Option.bind_eq_some_iff.1 h
    obtain ⟨⟨entered, anchors'⟩, hentered, h⟩ := Option.bind_eq_some_iff.1 h
    have hempty : Entered.Tidy {} := ⟨by simp, by simp⟩
    obtain ⟨htidy, hafter⟩ := tidy_entries hanchors hempty entries hentered
    cases h
    exact ⟨htidy.toValue, hafter⟩

theorem tidy_items {anchors after : Anchors} {vs : List Value} (hanchors : anchors.Tidy) : ∀ items : List Node,
    itemValues? anchors items = some (vs, after) → (∀ v ∈ vs, v.Tidy) ∧ after.Tidy
  | [], h => by
    cases h
    exact ⟨by simp, hanchors⟩
  | item :: items, h => by
    simp only [itemValues?, Option.bind_eq_bind, Option.bind_eq_some_iff] at h
    obtain ⟨⟨v, anchors'⟩, hv, ⟨vs', anchors''⟩, hvs, h⟩ := h
    obtain ⟨hv, hanchors'⟩ := tidy_value hanchors item hv
    obtain ⟨hvs, hafter⟩ := tidy_items hanchors' items hvs
    cases h
    exact ⟨List.forall_mem_cons.2 ⟨hv, hvs⟩, hafter⟩

theorem tidy_entries {anchors after : Anchors} {before entered : Entered} (hanchors : anchors.Tidy)
    (hbefore : before.Tidy) : ∀ entries : List (Node × Node),
    entryValues? anchors before entries = some (entered, after) → entered.Tidy ∧ after.Tidy
  | [], h => by
    cases h
    exact ⟨hbefore, hanchors⟩
  | (k, v) :: entries, h => by
    -- what is entered under a key of the mapping's own, wherever the anchors come from
    have hown (key : Key) (anchors : Anchors) (hanchors : anchors.Tidy)
        (h : ((value? anchors v).bind fun w => entryValues? w.2
          { before with own := before.own ++ [(key, w.1)] } entries) = some (entered, after)) :
        entered.Tidy ∧ after.Tidy := by
      obtain ⟨⟨w, anchors'⟩, hw, h⟩ := Option.bind_eq_some_iff.1 h
      obtain ⟨hw, hanchors'⟩ := tidy_value hanchors v hw
      have hmore : Entered.Tidy { before with own := before.own ++ [(key, w)] } :=
        ⟨hbefore.merged, List.forall_mem_append.2 ⟨hbefore.own, by simp [hw]⟩⟩
      exact tidy_entries hanchors' hmore entries h
    simp only [entryValues?, Option.bind_eq_bind] at h
    split at h
    · obtain ⟨⟨w, anchors'⟩, hw, h⟩ := Option.bind_eq_some_iff.1 h
      obtain ⟨more, hmore, h⟩ := Option.bind_eq_some_iff.1 h
      obtain ⟨hw, hanchors'⟩ := tidy_value hanchors v hw
      have hmore : Entered.Tidy { before with merged := before.merged ++ more } :=
        ⟨List.forall_mem_append.2 ⟨hbefore.merged, tidy_merged hw hmore⟩, hbefore.own⟩
      exact tidy_entries hanchors' hmore entries h
    · split at h
      · simp only [Option.bind_some] at h
        obtain ⟨key, -, h⟩ := Option.bind_eq_some_iff.1 h
        exact hown key anchors hanchors h
      · obtain ⟨⟨w, anchors'⟩, hw, h⟩ := Option.bind_eq_some_iff.1 h
        obtain ⟨key, -, h⟩ := Option.bind_eq_some_iff.1 h
        exact hown key anchors' (tidy_value hanchors k hw).2 h

end

theorem tidy_read {text : String} (h : read text = .ok v) : v.Tidy := by
  unfold read at h
  dsimp only at h
  split at h
  · split at h
    · split at h
      · cases h
        have hnone : Anchors.Tidy {} := fun _ _ hw => nomatch hw
        exact (tidy_value hnone _ ‹_›).1
      · cases h
    · cases h
      simp
    · cases h
  · cases h

/-- The reader of plain data. -/
def plainReader : Reader where
  read content :=
    match Text.decode content with
    | none => .error .notText
    | some text => (read text).mapError .malformed
  notText {content} h := by
    split at h
    · exact Option.map_eq_none_iff.1 ‹_›
    · cases hread : read _ <;> rw [hread] at h <;> cases h
  tidy {content v} h := by
    split at h
    · cases h
    · cases hread : read _ <;> rw [hread] at h <;> cases h
      exact tidy_read hread

instance : Inhabited Reader := ⟨plainReader⟩

end FrameHost.Yaml
