import FrameHost.Document.Yaml.Scalar

/-!
# Tokens of a YAML text

Tokens make the structure of a text explicit: where its indentation grows or shrinks, a token says that a
collection starts or ends. A key is known as such only when the colon after it is found; until then its
place is kept, and the token that says "here is a key" is put in front of it later.

* `Tokenizer.read?`: reads the token that starts with a character.
* `Token.ofText?`: the tokens of a text.
-/

namespace FrameHost.Yaml

/-- The tag of a node: the part that stands for a longer text, and the rest. -/
structure Tag where
  handle : Option (List Char)
  suffix : List Char
  deriving DecidableEq, Repr

inductive Token
  /-- A line that says how the document after it is to be read. -/
  | directive (text : List Char)
  | documentStart
  | documentEnd
  | blockSequenceStart
  | blockMappingStart
  | blockEnd
  | flowSequenceStart
  | flowSequenceEnd
  | flowMappingStart
  | flowMappingEnd
  | blockEntry
  | flowEntry
  | key
  | value
  | alias (name : List Char)
  | anchor (name : List Char)
  | tag (t : Tag)
  | scalar (text : List Char) (plain : Bool)
  deriving DecidableEq, Repr

/-- A token that turns out to be the start of a key if a colon follows. -/
structure PossibleKey where
  /-- How many tokens stand before it. -/
  position : Nat
  /-- A colon has to follow. -/
  required : Bool
  index : Nat
  line : Nat
  column : Nat
  deriving Repr

/-- A text that is being cut into tokens. -/
structure Tokenizer where
  place : Cursor
  /-- The tokens found so far, in order. -/
  tokens : List Token := []
  /-- How many brackets are open. -/
  flow : Nat := 0
  /-- The indentation of the innermost block collection, plus one; zero outside of all. -/
  indent : Nat := 0
  /-- The same of the collections around it, the innermost first. -/
  outer : List Nat := []
  /-- Whether a key may start here. -/
  allowKey : Bool := true
  /-- The possible keys by the number of brackets around them. -/
  keys : List (Nat × PossibleKey) := []

namespace Tokenizer

variable (t : Tokenizer)

def push (token : Token) : Tokenizer := { t with tokens := t.tokens ++ [token] }

def moveTo (place : Cursor) : Tokenizer := { t with place }

/-- Says whether a key may start from here on. -/
def allow (b : Bool) : Tokenizer := { t with allowKey := b }

/-! ## Indentation -/

/-- Ends the block collections that stand further right than a column, given plus one. -/
def unwind (column : Nat) : (outer : List Nat) → Tokenizer → Tokenizer
  | [], t => t
  | next :: rest, t =>
    if column < t.indent then
      unwind column rest { t.push .blockEnd with indent := next, outer := rest }
    else t

/-- Ends the block collections that stand further right than a column, given plus one. Inside brackets
indentation means nothing. -/
def unwindTo (column : Nat) : Tokenizer := if t.flow = 0 then unwind column t.outer t else t

/-- Whether a block collection starts at a column. -/
def opensAt (column : Nat) : Bool := t.flow == 0 && t.indent < column + 1

/-- Starts a block collection at a column, with its token put in at a position. -/
def openAt (column position : Nat) (token : Token) : Tokenizer :=
  if t.opensAt column then
    { t with
      indent := column + 1
      outer := t.indent :: t.outer
      tokens := t.tokens.take position ++ token :: t.tokens.drop position }
  else t

/-! ## Possible keys -/

/-- Drops the possible keys that are too far away. It is an error if one of them had to be a key. -/
def dropStale? : Option Tokenizer :=
  let fresh (k : PossibleKey) : Bool :=
    k.line == t.place.line && t.place.index ≤ k.index + 1024
  if t.keys.any fun e => !fresh e.2 && e.2.required then none
  else some { t with keys := t.keys.filter fun e => fresh e.2 }

/-- Drops the possible key inside the present brackets. It is an error if it had to be a key. -/
def dropKey? : Option Tokenizer :=
  match t.keys.lookup t.flow with
  | some k =>
    if k.required then none else some { t with keys := t.keys.filter fun e => e.1 != t.flow }
  | none => some t

/-- Notes that a key may start here. It has to be one at the start of a line of a block mapping. -/
def saveKey? : Option Tokenizer :=
  if t.allowKey then do
    let t ← t.dropKey?
    let required := t.flow == 0 && t.indent == t.place.column + 1
    return { t with keys :=
      (t.flow, ⟨t.tokens.length, required, t.place.index, t.place.line, t.place.column⟩) :: t.keys }
  else some t

/-! ## Spaces between tokens -/

/-- Passes over spaces, comments and line ends. After a line end outside of brackets a key may start. -/
def skipSpace : (fuel : Nat) → Tokenizer → Tokenizer
  | 0, t => t
  | fuel + 1, t =>
    let place := t.place.skipSpaces.skipComment
    match place.takeBreak? with
    | some (_, place) => skipSpace fuel { t with place, allowKey := t.allowKey || t.flow == 0 }
    | none => t.moveTo place

/-! ## Tokens -/

/-- A token of one character that ends with it. -/
def sign (token : Token) : Tokenizer := (t.moveTo t.place.step).push token

/-- The end of all collections, before a separator of documents and at the end. -/
def finish? : Option Tokenizer := do
  let t ← (t.unwindTo 0).dropKey?
  return t.allow false

def separator? (token : Token) : Option Tokenizer := do
  let t ← t.finish?
  return (t.moveTo (Cursor.skip 3 t.place)).push token

/-- A directive, which the rest of its line says. -/
def directive? : Option Tokenizer := do
  let t ← t.finish?
  let (text, place) := t.place.step.span (!isBreak ·)
  return (t.moveTo place).push (.directive text)

def openBracket? (token : Token) : Option Tokenizer := do
  let t ← t.saveKey?
  return ({ t with flow := t.flow + 1, allowKey := true } : Tokenizer).sign token

def closeBracket? (token : Token) : Option Tokenizer := do
  let t ← t.dropKey?
  guard (t.flow ≠ 0)
  return ({ t with flow := t.flow - 1, allowKey := false } : Tokenizer).sign token

/-- A comma inside brackets. -/
def flowEntry? : Option Tokenizer := do
  let t ← (t.allow true).dropKey?
  return t.sign .flowEntry

/-- The dash of an item. -/
def blockEntry? : Option Tokenizer := do
  guard (t.flow ≠ 0 || t.allowKey)
  let t ← ((t.openAt t.place.column t.tokens.length .blockSequenceStart).allow true).dropKey?
  return t.sign .blockEntry

/-- The question mark before a key. -/
def key? : Option Tokenizer := do
  guard (t.flow ≠ 0 || t.allowKey)
  let t := t.openAt t.place.column t.tokens.length .blockMappingStart
  let t ← (t.allow (t.flow == 0)).dropKey?
  return t.sign .key

/-- The colon before a value. What was a possible key now is one. -/
def value? : Option Tokenizer := do
  match t.keys.lookup t.flow with
  | some k =>
    let t := { t with
      keys := t.keys.filter fun e => e.1 != t.flow
      tokens := t.tokens.take k.position ++ Token.key :: t.tokens.drop k.position }
    return ((t.openAt k.column k.position .blockMappingStart).allow false).sign .value
  | none =>
    guard (t.flow ≠ 0 || t.allowKey)
    let t := t.openAt t.place.column t.tokens.length .blockMappingStart
    let t ← (t.allow (t.flow == 0)).dropKey?
    return t.sign .value

/-- The characters of names of anchors and tags. -/
def isNameChar (c : Char) : Bool := c.isAlphanum || c == '-' || c == '_'

/-- Takes the place after a token of several characters, before which a key may start. -/
def pushName? (make : List Char → Token) : Option Tokenizer := do
  let t ← t.saveKey?
  let (name, place) := t.place.step.span isNameChar
  guard (!name.isEmpty)
  guard (place.endsWord 0 || place.sees 0 ("?:,]\x7d%@\x60".toList.contains ·))
  return ((t.allow false).moveTo place).push (make name)

def isTagChar (c : Char) : Bool := c.isAlphanum || "-;/?:@&=+$,_.!~*()[]".toList.contains c

def readTag? (c : Cursor) : Option (Tag × Cursor) := do
  if c.sees 1 (· == '<') then
    let (suffix, after) := (Cursor.skip 2 c).span isTagChar
    guard (!suffix.isEmpty && after.isAt '>')
    return (⟨none, suffix⟩, after.step)
  else if c.endsWord 1 then return (⟨none, ['!']⟩, c.step)
  else
    let (name, after) := c.step.span isNameChar
    let (handle, c) := if after.isAt '!' then ('!' :: name ++ ['!'], after.step) else (['!'], c.step)
    let (suffix, c) := c.span isTagChar
    guard (!suffix.isEmpty)
    return (⟨some handle, suffix⟩, c)

def tag? : Option Tokenizer := do
  let t ← t.saveKey?
  let (tag, place) ← readTag? t.place
  guard (place.endsLine 0 || place.isAt ' ')
  return ((t.allow false).moveTo place).push (.tag tag)

def block? (folded : Bool) : Option Tokenizer := do
  let t ← (t.allow true).dropKey?
  let (text, place) ← readBlock folded t.indent t.place.step
  return (t.moveTo place).push (.scalar text false)

def quoted? (quote : Char) : Option Tokenizer := do
  let t ← t.saveKey?
  let (text, place) ← readQuoted quote (t.place.rest.length + 1) [] t.place.step
  return ((t.allow false).moveTo place).push (.scalar text false)

def plain? : Option Tokenizer := do
  let t ← t.saveKey?
  let read := readPlain (t.flow ≠ 0) t.indent (t.place.rest.length + 1) [] [] false t.place
  return ((t.allow read.newLine).moveTo read.after).push (.scalar read.text true)

def startsPlain : Bool :=
  (!t.place.endsWord 0 && !t.place.sees 0 ("-?:,[]\x7b\x7d#&*!|>'\"%@\x60".toList.contains ·)) ||
    (!t.place.endsWord 1 &&
      (t.place.isAt '-' || (t.flow == 0 && (t.place.isAt '?' || t.place.isAt ':'))))

/-- Reads the token that starts with a character. -/
def read? (ch : Char) : Option Tokenizer :=
  let first := t.place.column == 0
  let inFlow := t.flow != 0
  let word := t.place.endsWord 1
  if ch = '%' ∧ first then t.directive?
  else if first ∧ t.place.atSeparator then
    t.separator? (if ch = '-' then .documentStart else .documentEnd)
  else if ch = '[' then t.openBracket? .flowSequenceStart
  else if ch = '\x7b' then t.openBracket? .flowMappingStart
  else if ch = ']' then t.closeBracket? .flowSequenceEnd
  else if ch = '\x7d' then t.closeBracket? .flowMappingEnd
  else if ch = ',' then t.flowEntry?
  else if ch = '-' ∧ word then t.blockEntry?
  else if ch = '?' ∧ (inFlow ∨ word) then t.key?
  else if ch = ':' ∧ (inFlow ∨ word) then t.value?
  else if ch = '*' then t.pushName? .alias
  else if ch = '&' then t.pushName? .anchor
  else if ch = '!' then t.tag?
  else if ch = '|' ∧ !inFlow then t.block? false
  else if ch = '>' ∧ !inFlow then t.block? true
  else if ch = '\'' ∨ ch = '"' then t.quoted? ch
  else if t.startsPlain then t.plain?
  else none

/-- Reads all tokens up to the end of the text. -/
def readAll? : (fuel : Nat) → Tokenizer → Option (List Token)
  | 0, _ => none
  | fuel + 1, t => do
    let t ← (skipSpace (t.place.rest.length + 1) t).dropStale?
    let t := t.unwindTo (t.place.column + 1)
    match t.place.peek? with
    | none => return (← t.finish?).tokens
    | some ch => readAll? fuel (← t.read? ch)

end Tokenizer

/-- The place at the start of a text. A byte order mark there is passed over. -/
def Cursor.ofText (text : List Char) : Cursor :=
  let c : Cursor := { rest := text }
  if c.isAt '\ufeff' then c.step else c

/-- The tokens of a text; `none` when it cannot be cut into tokens. -/
def Token.ofText? (text : List Char) : Option (List Token) :=
  Tokenizer.readAll? (text.length + 1) { place := Cursor.ofText text }

end FrameHost.Yaml
