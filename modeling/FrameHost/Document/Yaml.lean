import FrameHost.Document.Yaml.Node
import FrameHost.Document.Yaml.Plain
import FrameHost.Table

/-!
# YAML documents

A reader for the plain data of YAML 1.1: the text is cut into tokens, these are read as a tree of nodes, and
the nodes mean values. Keys of mappings are scalars; the key `<<` lays the entries of other mappings under
those of its own. An alias means the value of the node that carries its anchor. Dates are texts here, and the
tags of sets, ordered mappings and bytes are unknown.

* `Yaml.read`: the value of a text, or why there is none.
-/

namespace FrameHost.Yaml

/-- The values of the anchors seen so far, by name. -/
abbrev Anchors := Table (List Char) Value

/-- What the entries of a mapping come to. -/
structure Entered where
  /-- What `<<` laid under the mapping. -/
  merged : Entries := []
  /-- The mapping's own entries. -/
  own : Entries := []

/-- The name of a tag when its handle is written out, for the tags of the standard. -/
def Tag.standard? (t : Tag) : Option String :=
  match t.handle with
  | some ['!', '!'] => some (String.ofList t.suffix)
  | none =>
    let start := "tag:yaml.org,2002:".toList
    if start.isPrefixOf t.suffix then some (String.ofList (t.suffix.drop start.length)) else none
  | _ => none

/-- What a scalar means. A tag may say of which kind it is; a plain one with neither tag nor meaning as
a value is an error. -/
def scalarValue? (tag : Option Tag) (text : String) (plain : Bool) : Option Value :=
  let untagged := if text = Plain.mergeWord ∨ text = Plain.valueWord then none
    else some (Plain.meaning text)
  match tag with
  | none => if plain then untagged else some (.str text)
  | some t =>
    if t = ⟨none, ['!']⟩ then untagged
    else match t.standard? with
      | some "str" => some (.str text)
      | some "null" => some .null
      | some "bool" =>
        match Plain.meaning (Text.lowerName text) with
        | .bool b => some (.bool b)
        | _ => none
      | some "int" => (Plain.whole? text.toList).map .int
      | some "float" => ((Plain.float? text.toList).or (Plain.read text.toList)).map .float
      | _ => none

/-- Whether a tag admits a collection of a kind. -/
def admitsTag (kind : String) (tag : Option Tag) : Bool :=
  tag.all fun t => t = ⟨none, ['!']⟩ || t.standard? == some kind

/-- What `<<` lays under a mapping: a mapping, or a list of mappings of which the first counts most. -/
def mergedEntries? : Value → Option Entries
  | .map entries => some entries
  | .list items => do
    let maps ← items.reverse.mapM Value.entries?
    return maps.flatten
  | _ => none

/-- Whether a node is a plain scalar of a word. -/
def isPlain (word : String) : Node → Bool
  | .mk _ none (.scalar text true) => text == word.toList
  | _ => false

/-- A mapping with what was laid under it. -/
def Entered.toValue (e : Entered) : Value :=
  .map ((e.merged ++ e.own).foldl (fun es (k, v) => Entries.put es k v) [])

mutual

/-- What a node means, with the anchors known after it. No anchor is given twice, also not to a node and
to one inside it. -/
def value? (anchors : Anchors) : Node → Option (Value × Anchors)
  | .alias name => do return (← anchors.get? name, anchors)
  | .mk anchor tag content => do
    guard (anchor.all fun name => !anchors.contains name)
    let (v, anchors) ← contentValue? anchors tag content
    guard (anchor.all fun name => !anchors.contains name)
    return (v, match anchor with
      | some name => anchors.insert name v
      | none => anchors)

def contentValue? (anchors : Anchors) (tag : Option Tag) : Content → Option (Value × Anchors)
  | .scalar text plain => do return (← scalarValue? tag (String.ofList text) plain, anchors)
  | .sequence items => do
    guard (admitsTag "seq" tag)
    let (vs, anchors) ← itemValues? anchors items
    return (.list vs, anchors)
  | .mapping entries => do
    guard (admitsTag "map" tag)
    let (entered, anchors) ← entryValues? anchors {} entries
    return (entered.toValue, anchors)

def itemValues? (anchors : Anchors) : List Node → Option (List Value × Anchors)
  | [] => some ([], anchors)
  | item :: items => do
    let (v, anchors) ← value? anchors item
    let (vs, anchors) ← itemValues? anchors items
    return (v :: vs, anchors)

def entryValues? (anchors : Anchors) (entered : Entered) :
    List (Node × Node) → Option (Entered × Anchors)
  | [] => some (entered, anchors)
  | (k, v) :: entries => do
    if isPlain Plain.mergeWord k then
      let (v, anchors) ← value? anchors v
      let more ← mergedEntries? v
      entryValues? anchors { entered with merged := entered.merged ++ more } entries
    else
      let (k, anchors) ←
        if isPlain Plain.valueWord k then some (.str Plain.valueWord, anchors)
        else value? anchors k
      let k ← k.key?
      let (v, anchors) ← value? anchors v
      entryValues? anchors { entered with own := entered.own ++ [(k, v)] } entries

end

/-- Whether a character may stand in a document. -/
def isAllowed (c : Char) : Bool :=
  let n := c.toNat
  n == 9 || n == 10 || n == 13 || (0x20 ≤ n && n ≤ 0x7e) || n == 0x85 ||
    (0xa0 ≤ n && n ≤ 0xfffd) || 0x10000 ≤ n

/-- Reads a text that holds a single document; a text without one means null. -/
def read (text : String) : Except String Value :=
  let cs := text.toList
  if cs.all isAllowed then
    match Node.ofText? cs with
    | some (some node) =>
      match value? {} node with
      | some (v, _) => .ok v
      | none => .error "a node of the document has no value"
    | some none => .ok .null
    | none => .error "the document is malformed"
  else .error "special characters are not allowed"

end FrameHost.Yaml
