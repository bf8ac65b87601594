import FrameHost.Config.Load

/-!
# What loading a configuration comes to

A document is laid over the defaults if it can be read and holds a mapping. In every other case a lenient
caller gets the defaults, and a strict one a fault that names the file, unless the file can be read and
holds something else. There are two gaps: a file whose reader comes to bytes that are no text, and one that
nothing knows how to read as its extension is `.py` in other letters. Both make loading fail with a fault of
their own, and lenient callers are not spared.

A reader of JSON takes the whole text first. A reader of YAML need not, and may find a document malformed before
it comes to bytes that are no text; so what is garbled is told of each by its own means.

* `ConfigStore.value?`: the value that a document holds.
* `ConfigStore.load_comes`: **what loading comes to**, for every store of files with any reader of YAML, and
  every path that does not end in `.py`.
* `ConfigStore.not_spared_garbled`: a document that is no text, and defaults that a lenient caller does not get.
-/

namespace FrameHost.ConfigStore

variable {store : ConfigStore} {path : String}

/-! ## What stands at a path -/

/-- The value that a document holds: `none` where there is no file, or one that cannot be read. -/
def value? (store : ConfigStore) (path : String) : Option Value :=
  match store.files.find path with
  | .file content =>
    match ConfigFormat.ofPath path with
    | .yaml => (store.yaml.read content).toOption
    | .json => (Text.decode content).bind fun text => (Json.read text).toOption
    | .assignment => none
  | _ => none

/-- Something stands at a path whose extension is `.py` in other letters. -/
structure Misnamed (store : ConfigStore) (path : String) : Prop where
  format : ConfigFormat.ofPath path = .assignment
  stands : (∃ content, store.files.find path = .file content) ∨ ∃ dir, store.files.find path = .directory dir

/-- The reader of a document comes to bytes that are no text. -/
inductive Garbled (store : ConfigStore) (path : String) : Prop
  | json {content : ByteArray} (hformat : ConfigFormat.ofPath path = .json)
      (hfind : store.files.find path = .file content) (h : String.fromUTF8? content = none)
  | yaml {content : ByteArray} (hformat : ConfigFormat.ofPath path = .yaml)
      (hfind : store.files.find path = .file content) (h : store.yaml.read content = .error .notText)

/-- What is garbled is no text, whatever reads it. -/
theorem Garbled.noText (h : Garbled store path) :
    ∃ content, store.files.find path = .file content ∧ String.fromUTF8? content = none := by
  cases h with
  | json _ hfind h => exact ⟨_, hfind, h⟩
  | yaml _ hfind h => exact ⟨_, hfind, store.yaml.notText h⟩

/-! ## Reading -/

theorem readFile_of_misnamed (hpath : Path.isModule path = false) (h : Misnamed store path) :
    store.readFile path = .error (.fault .missingPart) := by
  have horphan : ConfigFormat.ofPath path = .assignment ∧ (!Path.isModule path) = true :=
    ⟨h.format, by rw [hpath]; rfl⟩
  rcases h.stands with ⟨content, hfind⟩ | ⟨dir, hfind⟩ <;>
    simp only [readFile, hfind, if_pos horphan]

/-- A file is read in its format, unless that is an assignment. -/
theorem readFile_of_file {content : ByteArray} (hformat : ConfigFormat.ofPath path ≠ .assignment)
    (hfind : store.files.find path = .file content) :
    store.readFile path = readContent store.yaml path content (ConfigFormat.ofPath path) := by
  simp only [readFile, hfind, if_neg fun h => hformat (And.left h)]

theorem readFile_of_garbled (h : Garbled store path) :
    store.readFile path = .error (.fault .notText) := by
  cases h with
  | json hformat hfind h =>
    have hdecode : Text.decode _ = none := Option.map_eq_none_iff.2 h
    rw [readFile_of_file (by simp [hformat]) hfind, hformat, readContent, hdecode]
  | yaml hformat hfind h =>
    rw [readFile_of_file (by simp [hformat]) hfind, hformat, readContent, h]

theorem readFile_of_value? {v : Value} (h : store.value? path = some v) :
    ∃ note, store.readFile path = .ok (v, note) := by
  unfold value? at h
  split at h
  · rename_i content hfind
    refine ⟨loaded path "", ?_⟩
    cases hformat : ConfigFormat.ofPath path with
    | yaml =>
      rw [hformat] at h
      rw [readFile_of_file (by simp [hformat]) hfind, hformat]
      cases hread : store.yaml.read content with
      | ok w => rw [hread] at h; cases h; simp only [readContent, hread]
      | error problem => rw [hread] at h; cases h
    | json =>
      rw [hformat] at h
      obtain ⟨text, hdecode, h⟩ := Option.bind_eq_some_iff.1 h
      rw [readFile_of_file (by simp [hformat]) hfind, hformat]
      cases hread : Json.read text with
      | ok w => rw [hread] at h; cases h; simp only [readContent, hdecode, hread]
      | error problem => rw [hread] at h; cases h
    | assignment => rw [hformat] at h; cases h
  · cases h

theorem readFile_of_no_value (hnamed : ¬ Misnamed store path) (htext : ¬ Garbled store path)
    (h : store.value? path = none) : ∃ reason, store.readFile path = .error (.unreadable reason) := by
  cases hfind : store.files.find path with
  | missing | blocked =>
    simp only [readFile, hfind]
    split <;> exact ⟨_, rfl⟩
  | directory dir =>
    have hformat : ConfigFormat.ofPath path ≠ .assignment := fun h => hnamed ⟨h, .inr ⟨dir, hfind⟩⟩
    simp only [readFile, hfind, if_neg fun h => hformat (And.left h)]
    exact ⟨_, rfl⟩
  | file content =>
    have hkind : ConfigFormat.ofPath path ≠ .assignment := fun h => hnamed ⟨h, .inl ⟨content, hfind⟩⟩
    rw [readFile_of_file hkind hfind]
    simp only [value?, hfind] at h
    cases hformat : ConfigFormat.ofPath path with
    | assignment => exact absurd hformat hkind
    | yaml =>
      rw [hformat] at h
      cases hread : store.yaml.read content with
      | ok v => rw [hread] at h; cases h
      | error problem =>
        cases problem with
        | malformed reason => exact ⟨reason, by simp only [readContent, hread]⟩
        | notText => exact absurd (.yaml hformat hfind hread) htext
    | json =>
      rw [hformat] at h
      cases hdecode : Text.decode content with
      | none => exact absurd (.json hformat hfind (Option.map_eq_none_iff.1 hdecode)) htext
      | some text =>
        rw [hdecode] at h
        cases hread : Json.read text with
        | ok v => rw [Option.bind_some, hread] at h; cases h
        | error problem =>
          exact ⟨problem.describe text, by simp only [readContent, hdecode, hread]⟩

/-! ## Loading -/

variable {filename : String} {defaults : Option Entries} {strict : Bool}

/-- Finding a path leaves the files and their reader as they are. -/
theorem readFile_resolve (store : ConfigStore) (filename path : String) :
    (store.resolve filename).2.1.readFile path = store.readFile path := by
  unfold resolve
  split
  · rfl
  · split <;> rfl

/-- Loading over defaults that hold a mapping, or that are left out. -/
def loadOver (store : ConfigStore) (filename : String) (defaults : Option Entries) (strict : Bool) :
    Except Fault Value :=
  (store.load filename ((defaults.map Value.map).getD .null) strict).1

/-- The mapping that a caller gets where a document holds a value: only the entries of a mapping are laid over
the defaults. -/
def laidOver (defaults : Option Entries) (v : Value) : Value :=
  .map (Config.merge (defaults.getD []) (v.entries?.getD []))

theorem given_defaults : (if ((defaults.map Value.map).getD .null).isTrue then
    (defaults.map Value.map).getD .null else .map []) = .map (defaults.getD []) := by
  match defaults with
  | none => rfl
  | some [] => rfl
  | some (_ :: _) => rfl

theorem mergeValue_overrides (v : Value) :
    Config.mergeValue (.map (defaults.getD [])) (overrides filename v).1 = .ok (laidOver defaults v) := by
  cases v <;> rfl

theorem loadOver_of_ok {v : Value} {note : LoadNote}
    (h : store.readFile (store.resolve filename).1 = .ok (v, note)) :
    store.loadOver filename defaults strict = .ok (laidOver defaults v) := by
  rw [← readFile_resolve store filename] at h
  simp only [loadOver, load, given_defaults, h]
  exact mergeValue_overrides v

theorem loadOver_of_fault {f : Fault}
    (h : store.readFile (store.resolve filename).1 = .error (.fault f)) :
    store.loadOver filename defaults strict = .error f := by
  rw [← readFile_resolve store filename] at h
  simp only [loadOver, load, h]

theorem loadOver_of_unreadable {reason : String}
    (h : store.readFile (store.resolve filename).1 = .error (.unreadable reason)) :
    store.loadOver filename defaults strict =
      if strict then .error (.unreadable filename) else .ok (.map (defaults.getD [])) := by
  rw [← readFile_resolve store filename] at h
  simp only [loadOver, load, given_defaults, h]
  split <;> rfl

/-- What loading comes to, by what stands at the path. -/
structure Comes (store : ConfigStore) (filename : String) (defaults : Option Entries) (path : String) :
    Prop where
  misnamed : Misnamed store path →
    ∀ strict, store.loadOver filename defaults strict = .error .missingPart
  garbled : Garbled store path →
    ∀ strict, store.loadOver filename defaults strict = .error .notText
  /-- What is text is not garbled. -/
  text : ∀ content, store.files.find path = .file content → (String.fromUTF8? content).isSome = true →
    ¬ Garbled store path
  holds : ∀ v, store.value? path = some v →
    ∀ strict, store.loadOver filename defaults strict = .ok (laidOver defaults v)
  lenient : ¬ Misnamed store path → ¬ Garbled store path → store.value? path = none →
    store.loadOver filename defaults false = .ok (.map (defaults.getD []))
  strict : ¬ Misnamed store path → ¬ Garbled store path → store.value? path = none →
    store.loadOver filename defaults true = .error (.unreadable filename)

/-- **What loading comes to**, where the path does not end in `.py`: a lenient caller gets the defaults, with
the entries of a mapping that can be read, and a strict one nothing worse than a fault that names the file,
but for the two gaps. -/
theorem load_comes (store : ConfigStore) (filename : String) (defaults : Option Entries)
    (hpath : Path.isModule (store.resolve filename).1 = false) :
    store.Comes filename defaults (store.resolve filename).1 where
  misnamed := fun h _ => loadOver_of_fault (readFile_of_misnamed hpath h)
  garbled := fun h _ => loadOver_of_fault (readFile_of_garbled h)
  text := fun content hfind htext h => by
    obtain ⟨content', hfind', hnone⟩ := h.noText
    cases hfind.symm.trans hfind'
    rw [hnone] at htext
    cases htext
  holds := fun v hv strict => by
    obtain ⟨note, hread⟩ := readFile_of_value? hv
    exact loadOver_of_ok hread
  lenient := fun hnamed htext hnone => by
    obtain ⟨reason, hread⟩ := readFile_of_no_value hnamed htext hnone
    exact loadOver_of_unreadable hread
  strict := fun hnamed htext hnone => by
    obtain ⟨reason, hread⟩ := readFile_of_no_value hnamed htext hnone
    exact loadOver_of_unreadable hread

/-- One document, with a byte inside a text that no text has: 7b 22 61 22 3a 22 ff 22 7d. -/
def garbledStore (name : String) : ConfigStore where
  files := ({} : Files).write name ⟨#[0x7b, 0x22, 0x61, 0x22, 0x3a, 0x22, 0xff, 0x22, 0x7d]⟩
  yaml := Yaml.plainReader

theorem load_comes_garbled :
    (Path.isModule ((garbledStore "c.json").resolve "c.json").1 = false ∧
      (garbledStore "c.json").Comes "c.json" none ((garbledStore "c.json").resolve "c.json").1) ∧
    Path.isModule ((garbledStore "c.yaml").resolve "c.yaml").1 = false ∧
      (garbledStore "c.yaml").Comes "c.yaml" none ((garbledStore "c.yaml").resolve "c.yaml").1 :=
  ⟨⟨by decide +kernel, load_comes (garbledStore "c.json") "c.json" none (by decide +kernel)⟩,
    by decide +kernel, load_comes (garbledStore "c.yaml") "c.yaml" none (by decide +kernel)⟩

/-- **A lenient caller gets no defaults**, and a strict one a fault that does not name the file. -/
theorem not_spared_garbled : Path.isModule ((garbledStore "c.json").resolve "c.json").1 = false ∧
    (¬ ∃ entries, (garbledStore "c.json").loadOver "c.json" none false = .ok (.map entries)) ∧
    ¬ ∀ f, (garbledStore "c.json").loadOver "c.json" none true = .error f → f = .unreadable "c.json" := by
  have hpath : ((garbledStore "c.json").resolve "c.json").1 = "./c.json" := by decide +kernel
  have hgarbled : Garbled (garbledStore "c.json") ((garbledStore "c.json").resolve "c.json").1 := by
    rw [hpath]
    exact .json (by decide +kernel) rfl (by decide +kernel)
  have hfails (strict : Bool) : (garbledStore "c.json").loadOver "c.json" none strict = .error .notText :=
    loadOver_of_fault (readFile_of_garbled hgarbled)
  refine ⟨by decide +kernel, fun ⟨entries, h⟩ => ?_, fun h => ?_⟩
  · cases (hfails false).symm.trans h
  · cases h _ (hfails true)

end FrameHost.ConfigStore
