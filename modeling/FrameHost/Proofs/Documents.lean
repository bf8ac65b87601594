import FrameHost.Proofs.Merging
import Mathlib.Data.Option.Basic

/-!
# What documents hold

No mapping in a document's value has two entries of one key: the readers write entries under keys, and none
puts entries together by itself. A reader of YAML comes with this as a law.

* `Json.tidy_read`, `Assignment.tidy_read`: what the other readers read is tidy.
* `ConfigStore.tidy_readFile`: **what a file holds is tidy**.
-/

namespace FrameHost

variable {v : Value} {cs rest : List Char}

theorem Value.Tidy.proper (h : v.Tidy) : Config.Proper v := by
  induction h with
  | map hkeys _ ih => exact .map hkeys ih
  | list => exact .plain rfl
  | plain hmap => exact .plain hmap

/-! ## JSON -/

namespace Json

theorem bind_eq_ok {α β : Type} {x : Except Problem α} {f : α → Except Problem β} {b : β} :
    (x >>= f) = .ok b ↔ ∃ a, x = .ok a ∧ f a = .ok b := by
  cases x with
  | error p => exact ⟨nofun, nofun⟩
  | ok a => exact ⟨fun h => ⟨a, rfl, h⟩, fun ⟨_, rfl, h⟩ => h⟩

theorem tidy_word (h : word? cs = some (v, rest)) : v.Tidy := by
  obtain ⟨w, hw, heq⟩ := Option.map_eq_some_iff.1 h
  cases heq
  have hmem := List.mem_of_find?_eq_some hw
  simp only [words, List.mem_cons, List.not_mem_nil, or_false] at hmem
  rcases hmem with rfl | rfl | rfl | rfl | rfl | rfl <;> simp

theorem tidy_number (h : number? cs = some (v, rest)) : v.Tidy := by
  unfold number? at h
  obtain ⟨_, -, h⟩ := Option.bind_eq_some_iff.1 h
  dsimp only at h
  split at h <;> cases h <;> simp

/-- The readers of values, of the items of a list, and of the members of a mapping read what is tidy. -/
structure ReadsTidy (fuel : Nat) : Prop where
  value : ∀ cs v rest, value fuel cs = .ok (v, rest) → v.Tidy
  items : ∀ read cs v rest, (∀ v ∈ read, v.Tidy) → items fuel read cs = .ok (v, rest) → v.Tidy
  members : ∀ read cs v rest, (Value.map read).Tidy → members fuel read cs = .ok (v, rest) → v.Tidy

theorem readsTidy (fuel : Nat) : ReadsTidy fuel := by
  -- each of the three calls the others with less fuel, and hands on what has been read so far
  induction fuel with
  | zero => exact ⟨nofun, nofun, nofun⟩
  | succ fuel ih =>
    constructor
    case value =>
      intro cs v rest h
      simp only [Json.value] at h
      split at h
      · obtain ⟨_, _, heq⟩ := bind_eq_ok.1 h
        cases heq
        simp
      · split at h
        · cases h
          simp
        · exact ih.items [] _ v rest (by simp) h
      · split at h
        · cases h
          simp [Entries.Distinct]
        · exact ih.members [] _ v rest (by simp [Entries.Distinct]) h
      · split at h
        · cases h
          exact tidy_word ‹_›
        · split at h
          · cases h
            exact tidy_number ‹_›
          · cases h
    case items =>
      intro read cs v rest hread h
      simp only [Json.items] at h
      obtain ⟨⟨w, cs'⟩, hw, h⟩ := bind_eq_ok.1 h
      have hread : ∀ u ∈ w :: read, u.Tidy := List.forall_mem_cons.2 ⟨ih.value cs w cs' hw, hread⟩
      split at h
      · cases h
        exact .list fun u hu => hread u (List.mem_reverse.1 hu)
      · exact ih.items _ _ v rest hread h
      · cases h
    case members =>
      intro read cs v rest hread h
      simp only [Json.members] at h
      split at h
      · obtain ⟨⟨key, cs'⟩, -, h⟩ := bind_eq_ok.1 h
        split at h
        · obtain ⟨⟨w, cs''⟩, hw, h⟩ := bind_eq_ok.1 h
          have hread := hread.put (.str key) (ih.value _ w cs'' hw)
          split at h
          · cases h
            exact hread
          · exact ih.members _ _ v rest hread h
          · cases h
        · cases h
      · cases h

theorem tidy_read {text : String} (h : read text = .ok v) : v.Tidy := by
  unfold read at h
  dsimp only at h
  split at h
  · cases h
  · obtain ⟨⟨w, rest⟩, hw, h⟩ := bind_eq_ok.1 h
    split at h
    · cases h
      exact (readsTidy _).value _ _ _ hw
    · cases h

end Json

/-! ## Assignments -/

namespace Assignment

theorem tidy_negate {w : Value} (h : negate? w = some v) : v.Tidy := by
  unfold negate? at h
  split at h <;> cases h <;> simp

theorem tidy_word {name : List Char} (h : word? name = some v) : v.Tidy := by
  unfold word? at h
  repeat' split at h
  all_goals cases h
  all_goals simp

theorem tidy_decimal (h : numberValue?.decimal? cs = some v) : v.Tidy := by
  unfold numberValue?.decimal? at h
  split at h
  · obtain ⟨n, -, h⟩ := Option.bind_eq_some_iff.1 h
    split at h <;> cases h
    simp
  · split at h
    · obtain ⟨x, -, rfl⟩ := Option.map_eq_some_iff.1 h
      simp
    · cases h

theorem tidy_number (h : numberValue? cs = some v) : v.Tidy := by
  unfold numberValue? at h
  split at h
  · cases h
  · dsimp only at h
    split at h
    · obtain ⟨n, -, rfl⟩ := Option.map_eq_some_iff.1 h
      simp
    · exact tidy_decimal h
  · exact tidy_decimal h

/-- The readers of literals, of the items of a list, and of the entries of a mapping read what is tidy. -/
structure ReadsTidy (fuel : Nat) : Prop where
  literal : ∀ inside cs v rest, literal? fuel inside cs = some (v, rest) → v.Tidy
  items : ∀ closing before cs after rest, (∀ v ∈ before.read, v.Tidy) →
    items? fuel closing before cs = some (after, rest) → ∀ v ∈ after.read, v.Tidy
  entries : ∀ read cs v rest, (Value.map read).Tidy → entries? fuel read cs = some (v, rest) → v.Tidy

theorem readsTidy (fuel : Nat) : ReadsTidy fuel := by
  induction fuel with
  | zero => exact ⟨nofun, nofun, nofun⟩
  | succ fuel ih =>
    constructor
    case literal =>
      intro inside cs v rest h
      simp only [literal?] at h
      generalize (if inside = true then skipInside cs.length cs else cs.dropWhile isSpace) = next at h
      split at h
      · exact ih.entries [] _ v rest (by simp [Entries.Distinct]) h
      · obtain ⟨⟨items, cs'⟩, hitems, h⟩ := Option.bind_eq_some_iff.1 h
        have hread := ih.items _ _ _ items cs' (by simp) hitems
        cases h
        exact .list fun u hu => hread u (List.mem_reverse.1 hu)
      · obtain ⟨⟨items, cs'⟩, hitems, h⟩ := Option.bind_eq_some_iff.1 h
        have hread := ih.items _ _ _ items cs' (by simp) hitems
        split at h
        · cases h
          exact hread v (by simp_all)
        · cases h
          exact .list fun u hu => hread u (List.mem_reverse.1 hu)
      · obtain ⟨⟨w, cs'⟩, -, h⟩ := Option.bind_eq_some_iff.1 h
        obtain ⟨u, hu, h⟩ := Option.bind_eq_some_iff.1 h
        cases h
        exact tidy_negate hu
      · split at h
        · obtain ⟨⟨s, cs'⟩, -, heq⟩ := Option.map_eq_some_iff.1 h
          cases heq
          simp
        · split at h
          · obtain ⟨u, hu, heq⟩ := Option.map_eq_some_iff.1 h
            cases heq
            exact tidy_word hu
          · obtain ⟨u, hu, heq⟩ := Option.map_eq_some_iff.1 h
            cases heq
            exact tidy_number hu
    case items =>
      intro closing before cs after rest hbefore h
      simp only [items?] at h
      split at h
      · cases h
      · split at h
        · cases h
          exact hbefore
        · obtain ⟨⟨w, cs'⟩, hw, h⟩ := Option.bind_eq_some_iff.1 h
          have hread : ∀ u ∈ w :: before.read, u.Tidy :=
            List.forall_mem_cons.2 ⟨ih.literal true _ w cs' hw, hbefore⟩
          split at h
          · exact ih.items closing _ _ after rest hread h
          · split at h <;> cases h
            exact hread
          · cases h
    case entries =>
      intro read cs v rest hread h
      simp only [entries?] at h
      split at h
      · cases h
        exact hread
      · obtain ⟨⟨w, cs'⟩, -, h⟩ := Option.bind_eq_some_iff.1 h
        obtain ⟨k, -, h⟩ := Option.bind_eq_some_iff.1 h
        split at h
        · obtain ⟨⟨u, cs''⟩, hu, h⟩ := Option.bind_eq_some_iff.1 h
          have hread := hread.put k (ih.literal true _ u cs'' hu)
          split at h
          · exact ih.entries _ _ v rest hread h
          · cases h
            exact hread
          · cases h
        · cases h

theorem tidy_statement {name : List Char} (h : statement? cs = some (.assign name v, rest)) : v.Tidy := by
  unfold statement? at h
  split at h
  · obtain ⟨_, -, heq⟩ := Option.map_eq_some_iff.1 h
    cases heq
  · obtain ⟨⟨name', cs'⟩, -, h⟩ := Option.bind_eq_some_iff.1 h
    dsimp only at h
    split at h
    · obtain ⟨_, -, h⟩ := Option.bind_eq_some_iff.1 h
      cases h
    · split at h
      · obtain ⟨⟨u, cs''⟩, hu, h⟩ := Option.bind_eq_some_iff.1 h
        cases h
        exact (readsTidy _).literal _ _ _ _ hu
      · cases h

/-- What a statement assigns is tidy. -/
def Statement.Tidy : Statement → Prop
  | .assign _ v => v.Tidy
  | _ => True

theorem tidy_statements {fuel : Nat} {before after : List Statement} (hbefore : ∀ s ∈ before, s.Tidy)
    (h : statements? fuel before cs = some after) : ∀ s ∈ after, s.Tidy := by
  induction fuel generalizing before cs with
  | zero => cases h
  | succ fuel ih =>
    simp only [statements?] at h
    split at h
    · cases h
      exact fun s hs => hbefore s (List.mem_reverse.1 hs)
    · obtain ⟨⟨s, cs'⟩, hs, h⟩ := Option.bind_eq_some_iff.1 h
      have htidy : s.Tidy := by
        cases s with
        | assign name v => exact tidy_statement hs
        | _ => trivial
      have hmore : ∀ t ∈ s :: before, t.Tidy := List.forall_mem_cons.2 ⟨htidy, hbefore⟩
      split at h
      · exact ih hmore h
      · exact ih hmore h
      · exact ih hmore h
      · cases h

theorem tidy_run {config : Value} {ss : List Statement} (hconfig : config.Tidy) (hss : ∀ s ∈ ss, s.Tidy)
    (h : run config ss = .ok v) : v.Tidy := by
  induction ss generalizing config with
  | nil =>
    cases h
    exact hconfig
  | cons s ss ih =>
    obtain ⟨hs, hrest⟩ := List.forall_mem_cons.1 hss
    cases s with
    | assign name w =>
      refine ih ?_ hrest h
      split
      · exact hs
      · exact hconfig
    | load module => cases h
    | remark => exact ih hconfig hrest h

theorem tidy_read {text : String} (h : read text = .ok v) : v.Tidy := by
  unfold read at h
  split at h
  · have hnone : ∀ s ∈ ([] : List Statement), s.Tidy := by simp
    exact tidy_run Value.tidy_null (tidy_statements hnone ‹_›) h
  · cases h

end Assignment

/-! ## Files -/

namespace ConfigStore

theorem tidy_readContent {yaml : Yaml.Reader} {path : String} {format : ConfigFormat} {content : ByteArray}
    {note : LoadNote} (h : readContent yaml path content format = .ok (v, note)) : v.Tidy := by
  cases format with
  | yaml =>
    rw [readContent] at h
    split at h <;> cases h
    exact yaml.tidy ‹_›
  | json =>
    rw [readContent] at h
    split at h
    · cases h
    · split at h <;> cases h
      exact Json.tidy_read ‹_›
  | assignment =>
    rw [readContent] at h
    split at h
    · cases h
      simp
    · split at h <;> cases h
      · exact Assignment.tidy_read ‹_›
      · simp

/-- **What a file holds is tidy**, in whatever format it is read. -/
theorem tidy_readFile {store : ConfigStore} {path : String} {note : LoadNote}
    (h : store.readFile path = .ok (v, note)) : v.Tidy := by
  unfold readFile at h
  dsimp only at h
  split at h
  · split at h
    · cases h
    · exact tidy_readContent h
  all_goals split at h <;> cases h

end ConfigStore

end FrameHost
