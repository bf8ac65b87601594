import FrameHost.Config.Files
import FrameHost.Config.Merge
import FrameHost.Document.Assignment
import FrameHost.Document.Json
import FrameHost.Document.Yaml.Reader
import FrameHost.Log

/-!
# Loading configurations

A configuration file is found by path or by name, read in the format that its extension tells, and laid
over defaults. A file that is missing or cannot be read, and one that holds no mapping, leave the
defaults as they are; a strict caller gets a fault instead of the former.

* `ConfigStore.resolve`: the path of a configuration.
* `ConfigStore.load`: the merged configuration, with the messages that loading it leaves behind.
-/

namespace FrameHost

/-- Where configurations are found. -/
structure ConfigStore where
  files : Files := {}
  /-- The directories that the index goes over. -/
  searched : List String := [".", "config", "config/templates"]
  /-- The index, once it has been built. -/
  index : Option FileIndex := none
  yaml : Yaml.Reader := Yaml.plainReader
  deriving Inhabited

/-- A message left behind by loading. -/
structure LoadNote where
  tag : LogTag
  text : String
  deriving DecidableEq, Repr

inductive ConfigFormat
  | yaml
  | json
  | assignment
  deriving DecidableEq, Repr

/-- The format of a file: by its extension in any letter case, else JSON. -/
def ConfigFormat.ofPath (path : String) : ConfigFormat :=
  let extension := Text.lowerName (Path.splitExtension (Path.baseName path)).2
  if extension = ".py" then .assignment
  else if extension = ".yaml" ∨ extension = ".yml" then .yaml
  else .json

/-- Why a file gives no value. -/
inductive LoadFailure
  /-- It is missing or malformed, in these words. -/
  | unreadable (reason : String)
  | fault (f : Fault)
  deriving DecidableEq, Repr

namespace ConfigStore

def loaded (path suffix : String) : LoadNote :=
  ⟨.system, "Loaded " ++ Path.baseName path ++ suffix⟩

/-- The message that a file that assigns a configuration cannot be run. -/
def notRun (path reason : String) : LoadNote :=
  ⟨.warn, "Failed to run Python config " ++ path ++ ": " ++ reason⟩

def readContent (yaml : Yaml.Reader) (path : String) (content : ByteArray) :
    ConfigFormat → Except LoadFailure (Value × LoadNote)
  | .yaml =>
    match yaml.read content with
    | .ok v => .ok (v, loaded path "")
    | .error (.malformed reason) => .error (.unreadable reason)
    | .error .notText => .error (.fault .notText)
  | .json =>
    match Text.decode content with
    | none => .error (.fault .notText)
    | some text =>
      match Json.read text with
      | .ok v => .ok (v, loaded path "")
      | .error problem => .error (.unreadable (problem.describe text))
  | .assignment =>
    match Text.decode content with
    | none => .ok (.null, notRun path "(unicode error) 'utf-8' codec can't decode bytes")
    | some text =>
      match Assignment.read text with
      | .ok v => .ok (v, loaded path " (Python)")
      | .error reason => .ok (.null, notRun path reason)

/-- Reads the file at a path. An assignment can be read only where the path ends in `.py` to the letter;
elsewhere nothing knows how. -/
def readFile (store : ConfigStore) (path : String) : Except LoadFailure (Value × LoadNote) :=
  let format := ConfigFormat.ofPath path
  let orphan := format = .assignment ∧ !Path.isModule path
  match store.files.find path with
  | .file content =>
    if orphan then .error (.fault .missingPart) else readContent store.yaml path content format
  | .directory _ =>
    if orphan then .error (.fault .missingPart)
    else .error (.unreadable ("[Errno 21] Is a directory: " ++ Text.quote path))
  | .blocked =>
    if format = .assignment then .error (.unreadable path)
    else .error (.unreadable ("[Errno 20] Not a directory: " ++ Text.quote path))
  | .missing =>
    if format = .assignment then .error (.unreadable path)
    else .error (.unreadable ("[Errno 2] No such file or directory: " ++ Text.quote path))

def rebuild (store : ConfigStore) : ConfigStore × LoadNote :=
  let index := FileIndex.build store.files store.searched
  ({ store with index := some index },
    ⟨.init, "Config index: " ++ toString index.size ++ " entries"⟩)

/-- The path of a configuration; a name is looked up in the index, which is built when it is first
needed. -/
def resolve (store : ConfigStore) (filename : String) : String × ConfigStore × List LoadNote :=
  if Path.isAbsolute filename then (filename, store, [])
  else match store.index with
    | some index => (index.path filename, store, [])
    | none =>
      let (store, note) := store.rebuild
      ((store.index.getD {}).path filename, store, [note])

/-- The values of a file that are laid over the defaults: none for a file without a value, and none, with
a warning, for one that holds anything but a mapping. -/
def overrides (filename : String) : Value → Value × List LoadNote
  | .null => (.null, [])
  | .map entries => (.map entries, [])
  | _ => (.null, [⟨.warn, filename ++ " does not contain a mapping; using defaults"⟩])

/-- Loads a configuration over defaults. -/
def load (store : ConfigStore) (filename : String) (defaults : Value) (strict : Bool) :
    Except Fault Value × ConfigStore × List LoadNote :=
  let defaults := if defaults.isTrue then defaults else .map []
  let (path, store, notes) := store.resolve filename
  match store.readFile path with
  | .ok (v, note) =>
    let (v, warnings) := overrides filename v
    (Config.mergeValue defaults v, store, notes ++ note :: warnings)
  | .error (.fault f) => (.error f, store, notes)
  | .error (.unreadable reason) =>
    if strict then (.error (.unreadable filename), store, notes)
    else
      let warning :=
        ⟨.warn, "Could not load " ++ filename ++ " (" ++ reason ++ "); using defaults"⟩
      (Config.mergeValue defaults .null, store, notes ++ [warning])

end ConfigStore

end FrameHost
