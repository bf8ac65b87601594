import FrameHost.Proofs.Documents

/-!
# The notes that a caller gets

Entries under `_notes` are passed over where two mappings are merged, and nowhere else. A mapping that is laid
over a key under which the defaults have none is taken as it is, with its notes. So a note comes through
exactly where its path leaves the mappings of the defaults before it comes by `_notes`: none at the top, and
all that stand below a key which the defaults do not have.

* `Config.NotesFree`: a value without notes.
* `Config.Strays`: the paths along which notes come through.
* `Config.notesStray_merge`: which notes a merged mapping has.
* `ConfigStore.eq_merge_of_loadOver`: what a load gives is the file's mapping laid over the defaults.
* `ConfigStore.notes_stray`: **which notes a caller gets**, from merging and from loading.
* `ConfigStore.not_notesFree_noted`: a note on a part that the defaults do not have.
-/

namespace FrameHost

namespace Config

open Entries

variable {d o es : Entries} {k : Key} {ks path : List Key} {v w : Value}

/-! ## Values without notes -/

/-- No path to a value of a mapping comes by `_notes`. -/
def NotesFree (v : Value) : Prop := ∀ path w, at? v path = some w → notesKey ∉ path

theorem NotesFree.plain (hv : v.entries? = none) : NotesFree v := fun path w h hnotes => by
  obtain ⟨rfl, -⟩ := eq_nil_of_at? hv h
  cases hnotes

theorem NotesFree.map (h : ∀ e ∈ es, e.1 ≠ notesKey ∧ NotesFree e.2) : NotesFree (.map es) :=
    fun path w hat hnotes => by
  cases path with
  | nil => cases hnotes
  | cons k ks =>
    obtain ⟨v, hv, hat⟩ := at?_map_cons.1 hat
    obtain ⟨a, he, hak⟩ := exists_mem_of_get? hv
    obtain ⟨ha, hfree⟩ := h (a, v) he
    rcases List.mem_cons.1 hnotes with rfl | hnotes
    · exact ha (Key.same_str.1 hak)
    · exact hfree ks w hat hnotes

theorem NotesFree.of_get? (h : NotesFree (.map es)) (hv : get? es k = some v) : NotesFree v :=
  fun path w hat hnotes => h (k :: path) w (at?_map_cons.2 ⟨v, hv, hat⟩) (List.mem_cons_of_mem k hnotes)

theorem NotesFree.get?_notes (h : NotesFree (.map es)) : get? es notesKey = none := by
  cases hv : get? es notesKey with
  | none => rfl
  | some v => exact absurd List.mem_cons_self (h [notesKey] v (at?_map_cons.2 ⟨v, hv, rfl⟩))

/-! ## Paths of notes -/

/-- A path goes along the nested mappings of the defaults to a key other than `_notes` under which they have no
mapping, and comes by `_notes` after that. -/
inductive Strays : Entries → List Key → Prop
  | leaves {d : Entries} {k : Key} {ks : List Key} (hk : k ≠ notesKey)
      (hnone : ∀ d', get? d k ≠ some (.map d')) (hnotes : notesKey ∈ ks) : Strays d (k :: ks)
  | follows {d d' : Entries} {k : Key} {ks : List Key} (hd : get? d k = some (.map d')) (h : Strays d' ks) :
      Strays d (k :: ks)

theorem Strays.notes_mem (h : Strays d path) : notesKey ∈ path := by
  induction h with
  | leaves _ _ hnotes => exact List.mem_cons_of_mem _ hnotes
  | follows _ _ ih => exact List.mem_cons_of_mem _ ih

/-- A path that comes by `_notes` does so by a key of a mapping. -/
theorem exists_map_of_notes (h : at? v path = some w) (hnotes : notesKey ∈ path) : ∃ es, v = .map es := by
  refine exists_map_of_entries? fun hv => ?_
  obtain ⟨rfl, -⟩ := eq_nil_of_at? hv h
  cases hnotes

/-- Notes of a merged mapping come from what is laid over the defaults, along paths that stray from them. -/
theorem strays_of_merge (hd : NotesFree (.map d)) (ho : Proper (.map o)) (hnotes : notesKey ∈ path)
    (h : at? (.map (merge d o)) path = some w) : Strays d path ∧ at? (.map o) path = some w := by
  induction path generalizing d o with
  | nil => cases hnotes
  | cons k ks ih =>
    by_cases hk : k = notesKey
    · subst hk
      rw [at?_merge_notes ho] at h
      exact absurd hnotes (hd _ w h)
    cases hu : get? o k with
    | none =>
      rw [at?_merge_kept ho hu] at h
      exact absurd hnotes (hd _ w h)
    | some u =>
      rw [at?_merge_laid ho hk hu] at h
      have hks : notesKey ∈ ks := (List.mem_cons.1 hnotes).resolve_left (Ne.symm hk)
      rcases overlay_cases (get? d k) u with ⟨hapart, heq⟩ | ⟨d', o', hd', rfl, heq⟩
      · rw [heq] at h
        obtain ⟨es, rfl⟩ := exists_map_of_notes h hks
        have hnone : ∀ d', get? d k ≠ some (.map d') := fun d' hd' => hapart d' es hd' rfl
        exact ⟨.leaves hk hnone hks, at?_map_cons.2 ⟨_, hu, h⟩⟩
      · rw [heq] at h
        obtain ⟨hstrays, hat⟩ := ih (hd.of_get? hd') (ho.of_get? hu) hks h
        exact ⟨.follows hd' hstrays, at?_map_cons.2 ⟨_, hu, hat⟩⟩

/-- Along a path that strays from the defaults, what is laid over them is there. -/
theorem at?_merge_of_strays (hd : NotesFree (.map d)) (ho : Proper (.map o)) (hstrays : Strays d path)
    (h : at? (.map o) path = some w) : at? (.map (merge d o)) path = some w := by
  induction hstrays generalizing o with
  | @leaves d k ks hk hnone _ =>
    obtain ⟨u, hu, h⟩ := at?_map_cons.1 h
    rw [at?_merge_laid ho hk hu, overlay_of_no_map hnone]
    exact h
  | @follows d d' k ks hd' hstrays ih =>
    obtain ⟨u, hu, h⟩ := at?_map_cons.1 h
    obtain ⟨o', rfl⟩ := exists_map_of_notes h hstrays.notes_mem
    have hk : k ≠ notesKey := by
      rintro rfl
      cases hd.get?_notes.symm.trans hd'
    rw [at?_merge_laid ho hk hu, hd', overlay_map]
    exact ih (hd.of_get? hd') (ho.of_get? hu) h

/-- A value has those notes of a mapping that was laid over defaults whose paths stray from the defaults. -/
def NotesStray (d o : Entries) (v : Value) : Prop :=
  ∀ path w, notesKey ∈ path → (at? v path = some w ↔ Strays d path ∧ at? (.map o) path = some w)

theorem notesStray_merge (hd : NotesFree (.map d)) (ho : Proper (.map o)) : NotesStray d o (.map (merge d o)) :=
  fun _ _ hnotes => ⟨strays_of_merge hd ho hnotes, fun h => at?_merge_of_strays hd ho h.1 h.2⟩

end Config

/-! ## Loading -/

namespace ConfigStore

open Config

variable {store : ConfigStore} {filename : String} {strict : Bool} {d : Entries} {m : Value}

/-- The entries of the mapping that a file holds: none where it cannot be read or holds no mapping. -/
def held (store : ConfigStore) (filename : String) : Entries :=
  match store.readFile (store.resolve filename).1 with
  | .ok (v, _) => v.entries?.getD []
  | .error _ => []

theorem proper_held (store : ConfigStore) (filename : String) : Proper (.map (store.held filename)) := by
  have hempty : Proper (.map []) := .map .nil (by simp)
  unfold held
  split
  · rename_i v note hread
    cases v with
    | map o => exact (tidy_readFile hread).proper
    | _ => exact hempty
  · exact hempty

/-- A load that succeeds gives what the file holds, laid over the defaults. -/
theorem eq_merge_of_loadOver (h : store.loadOver filename (some d) strict = .ok m) :
    m = .map (merge d (store.held filename)) := by
  unfold held
  cases hread : store.readFile (store.resolve filename).1 with
  | ok found =>
    rw [loadOver_of_ok hread] at h
    cases h
    rfl
  | error failure =>
    cases failure with
    | fault f =>
      rw [loadOver_of_fault hread] at h
      cases h
    | unreadable reason =>
      rw [loadOver_of_unreadable hread] at h
      split at h <;> cases h
      simp [merge]

/-- **Which notes a caller gets**, over defaults without notes: from merging and from loading, those of what is
laid over the defaults whose paths stray from them, and no others. -/
theorem notes_stray (hd : NotesFree (.map d)) :
    (∀ o, Proper (.map o) → ∃ m, mergeValue (.map d) (.map o) = .ok m ∧ NotesStray d o m) ∧
    ∀ store filename strict m, loadOver store filename (some d) strict = .ok m →
      NotesStray d (store.held filename) m := by
  refine ⟨fun o ho => ⟨.map (merge d o), rfl, notesStray_merge hd ho⟩, fun store filename strict m h => ?_⟩
  rw [eq_merge_of_loadOver h]
  exact notesStray_merge hd (store.proper_held filename)

theorem notesFree_displayed : NotesFree (.map displayed) := by
  have number (n : Int) : NotesFree (.int n) := .plain rfl
  have display : NotesFree (.map [(.str "width", .int 1024), (.str "height", .int 768)]) :=
    .map (by simp [notesKey, number])
  exact .map (by simp [displayed, notesKey, display])

/-- Of two notes that are laid over the defaults of a display, the one on the display is passed over, and the one
on something new comes through. -/
theorem notes_stray_displayed : NotesFree (.map displayed) ∧ ∃ m,
    mergeValue (.map displayed) (.map adjusted) = .ok m ∧ at? m [.str "display", notesKey] = none ∧
      at? m [.str "panel", notesKey] = some (.str "new") := by
  obtain ⟨m, hm, hnotes⟩ := (notes_stray notesFree_displayed).1 adjusted proper_adjusted
  have hpassed : ¬ Strays displayed [.str "display", notesKey] := by
    intro h
    cases h with
    | leaves _ hnone => exact hnone _ rfl
    | follows hd h =>
      cases hd
      cases h with
      | leaves hk => exact hk rfl
      | follows hd => cases hd
  have hnew : Strays displayed [.str "panel", notesKey] := .leaves (by decide) (fun _ => nofun) (by simp)
  refine ⟨notesFree_displayed, m, hm, ?_, (hnotes _ _ (by simp)).2 ⟨hnew, rfl⟩⟩
  rw [Option.eq_none_iff_forall_ne_some]
  exact fun w hw => hpassed ((hnotes _ w (by simp)).1 hw).1

/-- A file whose mapping has a note on its only part. -/
def notedStore : ConfigStore :=
  { files := ({} : Files).write "c.json" "\x7b\"panel\":\x7b\"_notes\":\"new\"\x7d\x7d".toUTF8 }

theorem not_notesFree_noted : NotesFree (.map []) ∧
    (¬ ∀ m, mergeValue (.map []) (.map adjusted) = .ok m → NotesFree m) ∧
    ¬ ∀ m, notedStore.loadOver "c.json" (some []) false = .ok m → NotesFree m := by
  have hgiven : ((notedStore.loadOver "c.json" (some []) false).toOption.bind
      (at? · [.str "panel", notesKey])).isSome = true := by decide +kernel
  refine ⟨.map (by simp), fun h => ?_, fun h => ?_⟩
  · exact h _ rfl [.str "panel", notesKey] (.str "new") rfl (by simp)
  · obtain ⟨w, hw⟩ := Option.isSome_iff_exists.1 hgiven
    cases hload : notedStore.loadOver "c.json" (some []) false with
    | ok m =>
      rw [hload] at hw
      exact h m hload [.str "panel", notesKey] w hw (by simp)
    | error f =>
      rw [hload] at hw
      cases hw

end ConfigStore

end FrameHost
