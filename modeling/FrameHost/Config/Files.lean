import FrameHost.Table
import FrameHost.Text.Parts
import FrameHost.Value.Display

/-!
# Files and the index of configuration files

The files that a host can read lie in a tree under one root, which is written `$ROOT`. A path that does
not start there is taken from the root too; one that starts with a slash lies outside.

Configuration files are found by name through an index over some directories, which is built once: the
first file of a name counts, and every file is found by its name without the extension as well, unless
that is taken.

* `Files.find`: what lies at a path.
* `FileIndex.build`: the index over directories.
* `FileIndex.path`: the path that a name stands for.
-/

namespace FrameHost

/-! ## Paths -/

namespace Path

def root : String := "$ROOT"

/-- The parts of a path between its slashes. -/
def parts (path : String) : List String := (Text.cutAt '/' path.toList).map String.ofList

/-- The part after the last slash. -/
def baseName (path : String) : String := (parts path).getLastD ""

/-- Whether a path says by itself where it starts. -/
def isAbsolute (path : String) : Bool :=
  match parts path with
  | first :: _ :: _ => first == "" || first == root
  | _ => false

/-- Puts a name after a directory. -/
def join (directory name : String) : String :=
  if baseName directory = "" then directory ++ name else directory ++ "/" ++ name

/-- Splits the extension off a name: what starts at the last dot, unless only dots stand before it. -/
def splitExtension (name : String) : String × String :=
  let cs := name.toList.reverse
  let extension := cs.takeWhile (· ≠ '.')
  let stem := (cs.drop (extension.length + 1)).reverse
  if stem.all (· == '.') then (name, "")
  else (String.ofList stem, String.ofList ('.' :: extension.reverse))

/-- Whether a path ends in `.py`, to the letter. -/
def isModule (path : String) : Bool := ".py".toList.isSuffixOf path.toList

end Path

/-! ## Files -/

/-- The files under the root, each by the directories above it and its name. -/
structure Files where
  entries : Table (List String) ByteArray := {}
  deriving Inhabited

namespace Files

variable (files : Files)

/-- What lies at a path. -/
inductive Place
  | file (content : ByteArray)
  | directory (dir : List String)
  /-- There is nothing. -/
  | missing
  /-- A file stands where the path needs a directory. -/
  | blocked

def hasDirectory (dir : List String) : Bool :=
  files.entries.keys.any fun file => dir.isPrefixOf file && dir.length < file.length

/-- Follows the parts of a path from a directory. -/
def follow (dir : List String) : List String → Place
  | [] => .directory dir
  | part :: rest =>
    if part = "" ∨ part = "." then follow dir rest
    else if part = ".." then
      match dir with
      | [] => .missing
      | _ => follow dir.dropLast rest
    else
      let here := dir ++ [part]
      match files.entries.get? here with
      | some content => if rest.isEmpty then .file content else .blocked
      | none => if files.hasDirectory here then follow here rest else .missing

/-- What lies at a path. -/
def find (path : String) : Place :=
  match Path.parts path with
  | [] | "" :: _ => .missing
  | first :: rest =>
    if first = Path.root then files.follow [] rest else files.follow [] (first :: rest)

/-- The place of a path that is to be written: its parts. -/
def target (path : String) : List String :=
  (Path.parts path).filter fun part => part ≠ "" ∧ part ≠ "." ∧ part ≠ Path.root

def write (path : String) (content : ByteArray) : Files :=
  { files with entries := files.entries.insert (target path) content }

def remove (path : String) : Files := { files with entries := files.entries.erase (target path) }

/-- The order in which files are walked through: those of a directory by name, then those of the
directories in it, one directory after another. -/
def walksBefore : List String → List String → Bool
  | [a], [b] => decide (a ≤ b)
  | [_], _ => true
  | _, [_] => false
  | a :: as, b :: bs => if a = b then walksBefore as bs else decide (a ≤ b)
  | _, _ => true

/-- The files under a directory, in the order in which they are walked through. -/
def under (dir : List String) : List (List String) :=
  ((files.entries.keys.filter fun file => dir.isPrefixOf file && dir.length < file.length).map
    (·.drop dir.length)).mergeSort walksBefore

end Files

/-! ## The index -/

/-- The paths of configuration files by their names. -/
abbrev FileIndex := Table String String

namespace FileIndex

def extensions : List String := [".yaml", ".yml", ".json", ".py"]

/-- Whether a file is a configuration file by its name. -/
def indexed (name : String) : Bool := extensions.any fun e => e.toList.isSuffixOf name.toList

/-- Enters a file under its name, with and without the extension. -/
def enter (index : FileIndex) (directory : String) (file : List String) : FileIndex :=
  let name := file.getLastD ""
  if indexed name then
    let path := file.foldl Path.join directory
    (index.insertNew name path).insertNew (Path.splitExtension name).1 path
  else index

/-- Enters the files under a directory. -/
def enterDirectory (files : Files) (index : FileIndex) (directory : String) : FileIndex :=
  match files.find directory with
  | .directory dir => (files.under dir).foldl (fun index file => index.enter directory file) index
  | _ => index

/-- The index over directories; an earlier directory comes first. -/
def build (files : Files) (directories : List String) : FileIndex :=
  directories.foldl (enterDirectory files) {}

/-- A name with slashes for backslashes and without slashes at its start. -/
def searchKey (name : String) : String :=
  String.ofList ((name.toList.map fun c => if c = '\\' then '/' else c).dropWhile (· == '/'))

/-- The path that a name stands for: the one in the index under the name or its last part, else the name
itself. -/
def path (index : FileIndex) (name : String) : String :=
  let key := searchKey name
  ((index.get? key).or (index.get? (Path.baseName key))).getD key

end FileIndex

end FrameHost
