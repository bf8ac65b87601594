import FrameHost.Config.Load

/-!
# Which file a name stands for

The index of configuration files is filled file by file, each under its name and under its name without the
extension, and whoever comes first keeps a place. So a name stands for the first file, in the order of the
search, that has that name or would have it with an extension put after it. The first file that has the name
itself is the one exactly if no file whose name is longer by an extension comes before it.

* `FileIndex.Visit`: a file that the search comes by.
* `FileIndex.get?_ofVisits`: what the index holds under a key, for every order in which files are come by.
* `FileIndex.build_eq_ofVisits`: the index over directories is filled in this way.
* `ConfigStore.resolve_first`: **which file a file's name stands for**.
* `ConfigStore.not_resolve_first_shadowed`: a file's name that stands for another file.
-/

namespace FrameHost

/-! ## Names in paths -/

theorem Text.cutAt_of_not_mem {mark : Char} {cs : List Char} (h : mark ∉ cs) : cutAt mark cs = [cs] := by
  induction cs with
  | nil => rfl
  | cons c cs ih =>
    obtain ⟨hc, hcs⟩ := not_or.1 (mt List.mem_cons.2 h)
    simp [cutAt, Ne.symm hc, ih hcs]

theorem Text.cutAt_append_cons (mark : Char) (cs ds : List Char) :
    cutAt mark (cs ++ mark :: ds) = cutAt mark cs ++ cutAt mark ds := by
  induction cs with
  | nil => simp [cutAt]
  | cons c cs ih =>
    by_cases hc : c = mark
    · simp [cutAt, hc, ih]
    · cases hcut : cutAt mark cs with
      | nil => exact absurd hcut (cutAt_ne_nil mark cs)
      | cons part parts => simp [cutAt, hc, ih, hcut]

namespace Path

/-- A name without slashes is its own last part. -/
theorem baseName_of_not_mem {s : String} (h : '/' ∉ s.toList) : baseName s = s := by
  simp [baseName, parts, Text.cutAt_of_not_mem h]

theorem baseName_append_slash (s : String) {name : String} (h : '/' ∉ name.toList) :
    baseName (s ++ "/" ++ name) = name := by
  have hcut : (s ++ "/" ++ name).toList = s.toList ++ '/' :: name.toList := by simp
  simp [baseName, parts, hcut, Text.cutAt_append_cons, Text.cutAt_of_not_mem h]

/-- A path whose last part is empty ends in a slash, or is empty. -/
theorem eq_append_slash_of_baseName {s : String} (h : baseName s = "") : s = "" ∨ ∃ t, s = t ++ "/" := by
  by_cases hmem : '/' ∈ s.toList
  · obtain ⟨after, before, hs, hafter⟩ := List.eq_append_cons_of_mem (List.mem_reverse.2 hmem)
    have hs : s.toList = before.reverse ++ '/' :: after.reverse := by
      rw [← List.reverse_reverse s.toList, hs]
      simp
    have hcut : Text.cutAt '/' after.reverse = [after.reverse] :=
      Text.cutAt_of_not_mem (mt List.mem_reverse.1 hafter)
    have hlast : after = [] := by simpa [baseName, parts, hs, Text.cutAt_append_cons, hcut] using h
    refine .inr ⟨String.ofList before.reverse, ?_⟩
    rw [← String.toList_inj, hs]
    simp [hlast]
  · exact .inl ((baseName_of_not_mem hmem).symm.trans h)

/-- What is put after a directory is the last part. -/
theorem baseName_join (directory : String) {name : String} (h : '/' ∉ name.toList) :
    baseName (join directory name) = name := by
  by_cases hdir : baseName directory = ""
  · simp only [join, if_pos hdir]
    rcases eq_append_slash_of_baseName hdir with rfl | ⟨t, rfl⟩
    · simpa using baseName_of_not_mem h
    · exact baseName_append_slash t h
  · simp only [join, if_neg hdir]
    exact baseName_append_slash directory h

end Path

namespace FileIndex

/-! ## Visits -/

/-- A file that a search comes by: the directory that is searched, and the way from there to the file. -/
structure Visit where
  directory : String
  file : List String

namespace Visit

variable {key : String} {f : Visit}

/-- The name of the file. -/
def name (f : Visit) : String := f.file.getLastD ""

/-- The name without the extension. -/
def stem (f : Visit) : String := (Path.splitExtension f.name).1

def path (f : Visit) : String := f.file.foldl Path.join f.directory

/-- A configuration file is entered under a key. -/
def answers (f : Visit) (key : String) : Bool := indexed f.name && (f.name == key || f.stem == key)

/-- A configuration file of another name is entered under a name, which is its own without the extension. -/
def StandsIn (f : Visit) (key : String) : Prop := indexed f.name = true ∧ f.name ≠ key ∧ f.stem = key

theorem answers_iff (hkey : indexed key = true) : f.answers key = true ↔ f.name = key ∨ f.StandsIn key := by
  by_cases hname : f.name = key
  · simp [answers, hname, hkey]
  · simp [answers, StandsIn, hname]

theorem baseName_path (hfile : indexed f.name = true) (h : '/' ∉ f.name.toList) :
    Path.baseName f.path = f.name := by
  obtain ⟨directory, file⟩ := f
  rcases List.eq_nil_or_concat file with rfl | ⟨above, last, hlast⟩
  · cases hfile
  · rw [List.concat_eq_append] at hlast
    subst hlast
    have hname : name ⟨directory, above ++ [last]⟩ = last := by simp [name]
    rw [hname] at h ⊢
    have hpath : path ⟨directory, above ++ [last]⟩ = Path.join (above.foldl Path.join directory) last := by
      simp [path]
    rw [hpath]
    exact Path.baseName_join _ h

end Visit

/-- The index that is filled by visits, one after another. -/
def ofVisits (visits : List Visit) : FileIndex :=
  visits.foldl (fun index f => index.enter f.directory f.file) {}

/-- The visits of a search over directories. -/
def visits (files : Files) (directories : List String) : List Visit :=
  directories.flatMap fun directory => match files.find directory with
    | .directory dir => (files.under dir).map (Visit.mk directory)
    | _ => []

/-- The index over directories is the one that is filled by the visits of a search over them. -/
theorem build_eq_ofVisits (files : Files) (directories : List String) :
    build files directories = ofVisits (visits files directories) := by
  unfold build ofVisits visits
  generalize ({} : FileIndex) = index
  induction directories generalizing index with
  | nil => rfl
  | cons directory directories ih =>
    rw [List.foldl_cons, List.flatMap_cons, List.foldl_append, ih]
    congr 1
    unfold enterDirectory
    cases files.find directory with
    | directory dir =>
      change (files.under dir).foldl _ index = ((files.under dir).map (Visit.mk directory)).foldl _ index
      rw [List.foldl_map]
    | _ => rfl

theorem get?_insertNew_eq_or (index : FileIndex) (name path key : String) :
    (index.insertNew name path).get? key = (index.get? key).or (if name = key then some path else none) := by
  rw [Table.get?_insertNew]
  by_cases hname : key = name
  · subst hname
    cases index.get? key <;> simp
  · simp [hname, Ne.symm hname]

/-- A visit takes the places of its keys that are free. -/
theorem get?_enter (index : FileIndex) (f : Visit) (key : String) :
    (index.enter f.directory f.file).get? key =
      (index.get? key).or (if f.answers key then some f.path else none) := by
  change (if indexed f.name then (index.insertNew f.name f.path).insertNew f.stem f.path else index).get? key = _
  by_cases hfile : indexed f.name
  · rw [if_pos hfile, get?_insertNew_eq_or, get?_insertNew_eq_or, Option.or_assoc]
    by_cases hname : f.name = key
    · subst hname
      cases index.get? f.name <;> simp [Visit.answers, hfile]
    · simp [Visit.answers, hfile, hname]
  · simp [hfile, Visit.answers]

/-- **What the index holds under a key**: the first visit that is entered under it. -/
theorem get?_ofVisits (visits : List Visit) (key : String) :
    (ofVisits visits).get? key = (visits.find? (·.answers key)).map Visit.path := by
  have hfold (index : FileIndex) : (visits.foldl (fun index f => index.enter f.directory f.file) index).get? key =
      (index.get? key).or ((visits.find? (·.answers key)).map Visit.path) := by
    induction visits generalizing index with
    | nil => simp
    | cons f visits ih =>
      rw [List.foldl_cons, ih, get?_enter]
      cases index.get? key with
      | some path => simp
      | none => by_cases hf : f.answers key <;> simp [hf]
  exact (hfold {}).trans (Option.none_or)

/-! ## Names -/

/-- A name without slashes of either kind. -/
structure Bare (name : String) : Prop where
  slash : '/' ∉ name.toList
  backslash : '\\' ∉ name.toList

theorem Bare.searchKey {name : String} (h : Bare name) : searchKey name = name := by
  have hmap : (name.toList.map fun c => if c = '\\' then '/' else c) = name.toList := by
    refine (List.map_congr_left fun c hc => if_neg ?_).trans (List.map_id' _)
    rintro rfl
    exact h.backslash hc
  have hdrop : name.toList.dropWhile (· == '/') = name.toList := by
    cases hcs : name.toList with
    | nil => rfl
    | cons c cs =>
      have hc : c ≠ '/' := by
        rintro rfl
        exact h.slash (hcs ▸ List.mem_cons_self)
      simp [hc]
  rw [FileIndex.searchKey, hmap, hdrop, String.ofList_toList]

theorem path_ofVisits {name : String} (h : Bare name) (visits : List Visit) :
    (ofVisits visits).path name = ((visits.find? (·.answers name)).map Visit.path).getD name := by
  simp only [path, h.searchKey, Path.baseName_of_not_mem h.slash, get?_ofVisits, Option.or_self]

/-- The file that a name stands for among the files that a search comes by. -/
structure Resolved (visits : List Visit) (name path : String) : Prop where
  /-- It is the first one of that name, if none that stands in for it comes before. -/
  named : ∀ before f after, visits = before ++ f :: after → f.name = name →
    (∀ g ∈ before, g.name ≠ name ∧ ¬ g.StandsIn name) → path = f.path ∧ Path.baseName path = name
  /-- It is the first one that stands in for it, if none of that name comes before, even if one comes after. -/
  standIn : ∀ before f after, visits = before ++ f :: after → f.StandsIn name →
    (∀ g ∈ before, g.name ≠ name ∧ ¬ g.StandsIn name) → path = f.path ∧ Path.baseName path ≠ name
  /-- Without either, the name is taken as it is. -/
  unknown : (∀ f ∈ visits, f.name ≠ name ∧ ¬ f.StandsIn name) → path = name

theorem find?_of_first {visits before after : List Visit} {f : Visit} {name : String}
    (hname : indexed name = true) (hvisits : visits = before ++ f :: after) (hf : f.answers name = true)
    (hbefore : ∀ g ∈ before, g.name ≠ name ∧ ¬ g.StandsIn name) :
    visits.find? (·.answers name) = some f := by
  have hnone : before.find? (·.answers name) = none := List.find?_eq_none.2 fun g hg h =>
    ((Visit.answers_iff hname).1 h).elim (hbefore g hg).1 (hbefore g hg).2
  rw [hvisits, List.find?_append, hnone, Option.none_or]
  exact List.find?_cons_of_pos hf

theorem resolved_ofVisits {visits : List Visit} {name : String} (hbare : Bare name)
    (hname : indexed name = true) (hvisits : ∀ f ∈ visits, '/' ∉ f.name.toList) :
    Resolved visits name ((ofVisits visits).path name) := by
  rw [path_ofVisits hbare]
  constructor
  case named =>
    intro before f after heq hf hbefore
    have hanswers : f.answers name = true := (Visit.answers_iff hname).2 (.inl hf)
    rw [find?_of_first hname heq hanswers hbefore]
    have hslash := hvisits f (heq ▸ List.mem_append_right _ List.mem_cons_self)
    exact ⟨rfl, (Visit.baseName_path (hf.symm ▸ hname) hslash).trans hf⟩
  case standIn =>
    intro before f after heq hf hbefore
    have hanswers : f.answers name = true := (Visit.answers_iff hname).2 (.inr hf)
    rw [find?_of_first hname heq hanswers hbefore]
    have hslash := hvisits f (heq ▸ List.mem_append_right _ List.mem_cons_self)
    have hbase : Path.baseName f.path = f.name := Visit.baseName_path hf.1 hslash
    exact ⟨rfl, fun h => hf.2.1 (hbase.symm.trans h)⟩
  case unknown =>
    intro hnone
    have hfind : visits.find? (·.answers name) = none := List.find?_eq_none.2 fun f hf h =>
      ((Visit.answers_iff hname).1 h).elim (hnone f hf).1 (hnone f hf).2
    rw [hfind]
    rfl

end FileIndex

/-! ## Finding a configuration -/

namespace ConfigStore

open FileIndex

/-- A store has an index that was filled by visits, or is about to fill one by them. -/
inductive Indexes (store : ConfigStore) : List Visit → Prop
  | filled {visits : List Visit} (h : store.index = some (ofVisits visits)) : Indexes store visits
  | due (h : store.index = none) : Indexes store (visits store.files store.searched)

theorem isAbsolute_of_bare {name : String} (h : Bare name) : Path.isAbsolute name = false := by
  simp [Path.isAbsolute, Path.parts, Text.cutAt_of_not_mem h.slash]

theorem resolve_of_indexes {store : ConfigStore} {visits : List Visit} {name : String} (hbare : Bare name)
    (h : store.Indexes visits) : (store.resolve name).1 = (ofVisits visits).path name := by
  unfold resolve
  rw [if_neg (by simp [isAbsolute_of_bare hbare])]
  cases h with
  | filled h => rw [h]
  | due h =>
    rw [h, ← build_eq_ofVisits]
    rfl

/-- **Which file a file's name stands for**, in whatever order the files are come by. -/
theorem resolve_first {store : ConfigStore} {visits : List Visit} {name : String} (hbare : Bare name)
    (hname : indexed name = true) (hvisits : ∀ f ∈ visits, '/' ∉ f.name.toList) (h : store.Indexes visits) :
    Resolved visits name (store.resolve name).1 := by
  rw [resolve_of_indexes hbare h]
  exact resolved_ofVisits hbare hname hvisits

/-- Two files, of which the one that lies higher has the name of the other with an extension after it. -/
def shadowedStore : ConfigStore :=
  { files := (({} : Files).write "a.json.yaml" "v: 1".toUTF8).write "config/a.json" "\x7b\"v\": 2\x7d".toUTF8 }

theorem visits_shadowed : visits shadowedStore.files shadowedStore.searched =
    [⟨".", ["a.json.yaml"]⟩, ⟨".", ["config", "a.json"]⟩, ⟨"config", ["a.json"]⟩] := by
  have hroot : shadowedStore.files.under [] = [["a.json.yaml"], ["config", "a.json"]] :=
    List.mergeSort_of_pairwise (by decide +kernel)
  have hconfig : shadowedStore.files.under ["config"] = [["a.json"]] := List.mergeSort_singleton _
  have hfindRoot : shadowedStore.files.find "." = .directory [] := by rfl
  have hfindConfig : shadowedStore.files.find "config" = .directory ["config"] := by rfl
  have hfindTemplates : shadowedStore.files.find "config/templates" = .missing := by rfl
  have hsearched : shadowedStore.searched = [".", "config", "config/templates"] := rfl
  simp [visits, hsearched, hfindRoot, hfindConfig, hfindTemplates, hroot, hconfig]

theorem resolve_first_shadowed : Bare "a.json" ∧ indexed "a.json" = true ∧
    Resolved (visits shadowedStore.files shadowedStore.searched) "a.json" (shadowedStore.resolve "a.json").1 :=
  have hbare : Bare "a.json" := ⟨by decide, by decide⟩
  ⟨hbare, by decide, resolve_first hbare (by decide) (by rw [visits_shadowed]; decide) (.due rfl)⟩

/-- **A file's name that stands for another file.** -/
theorem not_resolve_first_shadowed :
    (∃ f ∈ visits shadowedStore.files shadowedStore.searched, f.name = "a.json") ∧
      ¬ Path.baseName (shadowedStore.resolve "a.json").1 = "a.json" := by
  have hbare : Bare "a.json" := ⟨by decide, by decide⟩
  rw [resolve_of_indexes hbare (.due rfl), visits_shadowed]
  constructor <;> decide +kernel

end ConfigStore

end FrameHost
