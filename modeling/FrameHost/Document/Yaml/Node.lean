import FrameHost.Document.Yaml.Token

/-!
# Nodes of a YAML document

A document is a tree of scalars, sequences and mappings. A node may carry an anchor, by which aliases
refer to it, and a tag.

* `Node.parse`: reads a node off the front of a list of tokens.
* `Node.ofText?`: the node of a text that holds a single document.
-/

namespace FrameHost.Yaml

mutual

inductive Node
  | alias (name : List Char)
  | mk (anchor : Option (List Char)) (tag : Option Tag) (content : Content)

inductive Content
  | scalar (text : List Char) (plain : Bool)
  | sequence (items : List Node)
  | mapping (entries : List (Node × Node))

end

namespace Node

/-- The node where nothing is written. -/
def empty : Node := .mk none none (.scalar [] true)

/-- The anchor and the tag before a node, in either order. -/
def properties (ts : List Token) : (Option (List Char) × Option Tag) × List Token :=
  match ts with
  | .anchor a :: .tag t :: ts => ((some a, some t), ts)
  | .tag t :: .anchor a :: ts => ((some a, some t), ts)
  | .anchor a :: ts => ((some a, none), ts)
  | .tag t :: ts => ((none, some t), ts)
  | ts => ((none, none), ts)

/-- Tokens before which nothing is written: they end a part of a block collection. -/
def endsBlockPart : List Token → Bool
  | .key :: _ | .value :: _ | .blockEnd :: _ => true
  | _ => false

/-- Tokens before which nothing is written: they end a part of a flow sequence. -/
def endsSequencePart : List Token → Bool
  | .value :: _ | .flowEntry :: _ | .flowSequenceEnd :: _ => true
  | _ => false

/-- Tokens before which nothing is written: they end a part of a flow mapping. -/
def endsMappingPart : List Token → Bool
  | .value :: _ | .flowEntry :: _ | .flowMappingEnd :: _ => true
  | _ => false

mutual

/-- Reads a node. Block collections are admitted where `block` says so, and a sequence without
indentation of its own where `loose` does. -/
def parse : (fuel : Nat) → (block loose : Bool) → List Token → Option (Node × List Token)
  | 0, _, _, _ => none
  | _ + 1, _, _, .alias name :: ts => some (.alias name, ts)
  | fuel + 1, block, loose, ts =>
    let ((anchor, tag), ts) := properties ts
    match ts with
    | .scalar text plain :: ts => some (.mk anchor tag (.scalar text plain), ts)
    | .flowSequenceStart :: ts => do
      let (items, ts) ← flowItems fuel true ts
      return (.mk anchor tag (.sequence items), ts)
    | .flowMappingStart :: ts => do
      let (entries, ts) ← flowEntries fuel true ts
      return (.mk anchor tag (.mapping entries), ts)
    | ts =>
      match block, loose, ts with
      | _, true, .blockEntry :: _ => do
        let (items, ts) ← looseItems fuel ts
        return (.mk anchor tag (.sequence items), ts)
      | true, _, .blockSequenceStart :: ts => do
        let (items, ts) ← blockItems fuel ts
        return (.mk anchor tag (.sequence items), ts)
      | true, _, .blockMappingStart :: ts => do
        let (entries, ts) ← blockEntries fuel ts
        return (.mk anchor tag (.mapping entries), ts)
      | _, _, ts =>
        if anchor.isSome || tag.isSome then some (.mk anchor tag (.scalar [] true), ts) else none

/-- Reads the items of a block sequence up to its end. -/
def blockItems : (fuel : Nat) → List Token → Option (List Node × List Token)
  | 0, _ => none
  | fuel + 1, .blockEntry :: ts => do
    let (item, ts) ← match ts with
      | .blockEntry :: _ | .blockEnd :: _ => some (empty, ts)
      | ts => parse fuel true false ts
    let (items, ts) ← blockItems fuel ts
    return (item :: items, ts)
  | _ + 1, .blockEnd :: ts => some ([], ts)
  | _ + 1, _ => none

/-- Reads the items of a sequence that has no indentation of its own. -/
def looseItems : (fuel : Nat) → List Token → Option (List Node × List Token)
  | 0, _ => none
  | fuel + 1, .blockEntry :: ts => do
    let (item, ts) ← match ts with
      | .blockEntry :: _ => some (empty, ts)
      | ts => if endsBlockPart ts then some (empty, ts) else parse fuel true false ts
    let (items, ts) ← looseItems fuel ts
    return (item :: items, ts)
  | _ + 1, ts => some ([], ts)

/-- Reads the entries of a block mapping up to its end. -/
def blockEntries : (fuel : Nat) → List Token → Option (List (Node × Node) × List Token)
  | 0, _ => none
  | _ + 1, .blockEnd :: ts => some ([], ts)
  | fuel + 1, .key :: ts => do
    let (key, ts) ← if endsBlockPart ts then some (empty, ts) else parse fuel true true ts
    let (value, ts) ← blockValue fuel ts
    let (entries, ts) ← blockEntries fuel ts
    return ((key, value) :: entries, ts)
  | _ + 1, _ => none

/-- Reads the value of a block mapping that may stand after a key. -/
def blockValue : (fuel : Nat) → List Token → Option (Node × List Token)
  | 0, _ => none
  | fuel + 1, .value :: ts => if endsBlockPart ts then some (empty, ts) else parse fuel true true ts
  | _ + 1, ts => some (empty, ts)

/-- Reads the items of a flow sequence up to its end. A pair of key and value is a mapping of one
entry. -/
def flowItems : (fuel : Nat) → (first : Bool) → List Token →
    Option (List Node × List Token)
  | 0, _, _ => none
  | _ + 1, _, .flowSequenceEnd :: ts => some ([], ts)
  | fuel + 1, first, ts => do
    let ts ← match first, ts with
      | true, ts => some ts
      | false, .flowEntry :: ts => some ts
      | false, _ => none
    match ts with
    | .flowSequenceEnd :: ts => return ([], ts)
    | .key :: ts =>
      let (key, ts) ← if endsSequencePart ts then some (empty, ts) else parse fuel false false ts
      let (value, ts) ← match ts with
        | .value :: ts =>
          (match ts with
          | .flowEntry :: _ | .flowSequenceEnd :: _ => some (empty, ts)
          | ts => parse fuel false false ts)
        | ts => some (empty, ts)
      let (items, ts) ← flowItems fuel false ts
      return (.mk none none (.mapping [(key, value)]) :: items, ts)
    | ts =>
      let (item, ts) ← parse fuel false false ts
      let (items, ts) ← flowItems fuel false ts
      return (item :: items, ts)

/-- Reads the entries of a flow mapping up to its end. -/
def flowEntries : (fuel : Nat) → (first : Bool) → List Token →
    Option (List (Node × Node) × List Token)
  | 0, _, _ => none
  | _ + 1, _, .flowMappingEnd :: ts => some ([], ts)
  | fuel + 1, first, ts => do
    let ts ← match first, ts with
      | true, ts => some ts
      | false, .flowEntry :: ts => some ts
      | false, _ => none
    match ts with
    | .flowMappingEnd :: ts => return ([], ts)
    | .key :: ts =>
      let (key, ts) ← if endsMappingPart ts then some (empty, ts) else parse fuel false false ts
      let (value, ts) ← match ts with
        | .value :: ts =>
          (match ts with
          | .flowEntry :: _ | .flowMappingEnd :: _ => some (empty, ts)
          | ts => parse fuel false false ts)
        | ts => some (empty, ts)
      let (entries, ts) ← flowEntries fuel false ts
      return ((key, value) :: entries, ts)
    | ts =>
      let (key, ts) ← parse fuel false false ts
      let (entries, ts) ← flowEntries fuel false ts
      return ((key, empty) :: entries, ts)

end

/-! ## Documents -/

/-- Whether a directive says a version that can be read: the first, in digits before and after the point. -/
def acceptsVersion (cs : List Char) : Bool :=
  let major := cs.takeWhile Char.isDigit
  match cs.drop major.length with
  | '.' :: cs =>
    let minor := cs.takeWhile Char.isDigit
    let rest := cs.drop minor.length
    !minor.isEmpty && (major.dropWhile (· == '0')) == ['1'] &&
      (rest.isEmpty || (rest.head? == some ' ' &&
        (rest.dropWhile (· == ' ')).head?.all (· == '#')))
  | _ => false

/-- The tokens after the directives of a document. A version is said once at most; directives of other
names are passed over. -/
def afterDirectives? (versioned : Bool) : List Token → Option (List Token)
  | .directive text :: ts =>
    let name := text.takeWhile (· ≠ ' ')
    if name.isEmpty || !name.all Tokenizer.isNameChar then none
    else if name = "YAML".toList then
      if !versioned && acceptsVersion ((text.drop name.length).dropWhile (· == ' ')) then
        afterDirectives? true ts
      else none
    else afterDirectives? versioned ts
  | .documentStart :: ts => some ts
  | _ => none

/-- The tokens after the marks that end a document. -/
def afterEnds : List Token → List Token
  | .documentEnd :: ts => afterEnds ts
  | ts => ts

/-- The node of a single document; there may be none. -/
def ofTokens? (ts : List Token) : Option (Option Node) :=
  let fuel := ts.length + 2
  let finish (found : Option (Node × List Token)) : Option (Option Node) := do
    let (node, ts) ← found
    guard (afterEnds ts).isEmpty
    return some node
  match ts with
  | [] => some none
  | .directive _ :: _ | .documentStart :: _ =>
    match afterDirectives? false ts with
    | none => none
    | some [] => some (some empty)
    | some (.documentEnd :: ts) => finish (some (empty, ts))
    | some ts => finish (parse fuel true false ts)
  | ts => finish (parse fuel true false ts)

/-- The node of a text that holds a single document, or none. -/
def ofText? (text : List Char) : Option (Option Node) := do ofTokens? (← Token.ofText? text)

end Node

end FrameHost.Yaml
