import FrameHost.Value

/-!
# JSON documents

A reader for JSON. Beyond the standard it takes `NaN`, `Infinity` and `-Infinity`; a number without
fraction and exponent is a whole number of any size; the last of several equal keys counts. What follows
the value, a byte order mark before it, and control characters inside texts are errors.

* `Json.read`: a document's value, or what is wrong with it and where.
* `Json.Problem.describe`: the wording of an error.
-/

namespace FrameHost.Json

/-- What is wrong with a document, and how many characters from its end. -/
structure Problem where
  reason : String
  /-- The number of characters from the place of the error to the end. -/
  left : Nat
  deriving DecidableEq, Repr

/-- The place of an error: line and column, both from one on, and the character from zero on. -/
def place (cs : List Char) (position : Nat) : Nat × Nat :=
  let before := cs.take position
  (before.count '\n' + 1, (before.reverse.takeWhile (· ≠ '\n')).length + 1)

/-- The wording of an error in a document. -/
def Problem.describe (p : Problem) (text : String) : String :=
  let cs := text.toList
  let position := cs.length - p.left
  let (line, column) := place cs position
  p.reason ++ ": line " ++ toString line ++ " column " ++ toString column ++ " (char " ++
    toString position ++ ")"

/-- An error at the start of `cs`. -/
def fail {α : Type} (reason : String) (cs : List Char) : Except Problem α :=
  .error ⟨reason, cs.length⟩

def isSpace (c : Char) : Bool := c == ' ' || c == '\t' || c == '\n' || c == '\r'

/-- What follows white space. -/
def skipSpace (cs : List Char) : List Char := cs.dropWhile isSpace

/-! ## Texts -/

/-- Joins the two halves of a surrogate pair; a half without its partner is the replacement
character. -/
def joinUnits : List Nat → List Char
  | [] => []
  | [u] => [if 0xd800 ≤ u ∧ u ≤ 0xdfff then '\ufffd' else Char.ofNat u]
  | u :: v :: us =>
    if 0xd800 ≤ u ∧ u ≤ 0xdbff ∧ 0xdc00 ≤ v ∧ v ≤ 0xdfff then
      Char.ofNat (0x10000 + (u - 0xd800) * 0x400 + (v - 0xdc00)) :: joinUnits us
    else (if 0xd800 ≤ u ∧ u ≤ 0xdfff then '\ufffd' else Char.ofNat u) :: joinUnits (v :: us)

/-- The character of an escape letter. -/
def escape? : Char → Option Char
  | '"' => some '"'
  | '\\' => some '\\'
  | '/' => some '/'
  | 'b' => some '\x08'
  | 'f' => some '\x0c'
  | 'n' => some '\n'
  | 'r' => some '\r'
  | 't' => some '\t'
  | _ => none

/-- Reads a text after its opening quote, collecting the code units read so far in reverse. `start` is
the text from the opening quote on. -/
def textFrom (start : List Char) (units : List Nat) : List Char → Except Problem (String × List Char)
  | [] => fail "Unterminated string starting at" start
  | '"' :: cs => .ok (String.ofList (joinUnits units.reverse), cs)
  | ['\\'] => fail "Unterminated string starting at" start
  | '\\' :: 'u' :: cs =>
    match cs with
    | a :: b :: c :: d :: e :: rest =>
      match Text.hexNumber? [a, b, c, d] with
      | some n => textFrom start (n :: units) (e :: rest)
      | none => fail "Invalid \\uXXXX escape" ('u' :: a :: b :: c :: d :: e :: rest)
    | cs => fail "Invalid \\uXXXX escape" ('u' :: cs)
  | '\\' :: c :: cs =>
    match escape? c with
    | some d => textFrom start (d.toNat :: units) cs
    | none => fail "Invalid \\escape" ('\\' :: c :: cs)
  | c :: cs =>
    if c.toNat < 0x20 then fail "Invalid control character at" (c :: cs)
    else textFrom start (c.toNat :: units) cs

/-! ## Numbers -/

/-- Splits the digits off the front. -/
def digits (cs : List Char) : List Char × List Char := (cs.takeWhile Char.isDigit, cs.dropWhile Char.isDigit)

/-- The digits of the whole part of a number: a lone zero, or digits that do not start with one. -/
def wholePart? (cs : List Char) : Option (List Char × List Char) :=
  match cs with
  | '0' :: cs => some (['0'], cs)
  | cs => match digits cs with
    | ([], _) => none
    | found => some found

/-- The fraction of a number with its point, if there is one. -/
def fractionPart (cs : List Char) : List Char × List Char :=
  match cs with
  | '.' :: rest => match digits rest with
    | ([], _) => ([], cs)
    | (ds, rest) => ('.' :: ds, rest)
  | cs => ([], cs)

/-- The exponent of a number with its letter, if there is one. -/
def exponentPart (cs : List Char) : List Char × List Char :=
  match cs with
  | e :: rest =>
    if e = 'e' ∨ e = 'E' then
      let (sign, rest) := match rest with
        | '-' :: rest => (['-'], rest)
        | '+' :: rest => ([], rest)
        | rest => ([], rest)
      match digits rest with
      | ([], _) => ([], cs)
      | (ds, rest) => ('e' :: sign ++ ds, rest)
    else ([], cs)
  | cs => ([], cs)

def number? (cs : List Char) : Option (Value × List Char) := do
  let (sign, rest) := match cs with
    | '-' :: rest => (['-'], rest)
    | rest => ([], rest)
  let (whole, rest) ← wholePart? rest
  let (fraction, rest) := fractionPart rest
  let (exponent, rest) := exponentPart rest
  let text := String.ofList (sign ++ whole ++ fraction ++ exponent)
  if fraction.isEmpty && exponent.isEmpty then
    return (.int ((Decimal.readInt? text).getD 0), rest)
  else
    return (.float ((Decimal.readFloat? text).getD 0.0), rest)

def words : List (List Char × Value) :=
  [("null".toList, .null), ("true".toList, .bool true), ("false".toList, .bool false),
   ("NaN".toList, .float (0.0 / 0.0)), ("Infinity".toList, .float (1.0 / 0.0)),
   ("-Infinity".toList, .float (-1.0 / 0.0))]

def word? (cs : List Char) : Option (Value × List Char) :=
  (words.find? fun w => w.1.isPrefixOf cs).map fun w => (w.2, cs.drop w.1.length)

/-! ## Values -/

mutual

/-- Reads a value at most `fuel` characters deep. -/
def value : (fuel : Nat) → List Char → Except Problem (Value × List Char)
  | 0, cs => fail "Expecting value" cs
  | fuel + 1, cs =>
    match cs with
    | '"' :: rest => do
      let (s, rest) ← textFrom cs [] rest
      return (.str s, rest)
    | '[' :: rest =>
      match skipSpace rest with
      | ']' :: rest => .ok (.list [], rest)
      | rest => items fuel [] rest
    | '\x7b' :: rest =>
      match skipSpace rest with
      | '\x7d' :: rest => .ok (.map [], rest)
      | rest => members fuel [] rest
    | cs => match word? cs with
      | some found => .ok found
      | none => match number? cs with
        | some found => .ok found
        | none => fail "Expecting value" cs

/-- Reads the items of a list up to its end; those read so far are in reverse. -/
def items : (fuel : Nat) → List Value → List Char → Except Problem (Value × List Char)
  | 0, _, cs => fail "Expecting value" cs
  | fuel + 1, read, cs => do
    let (v, rest) ← value fuel cs
    match skipSpace rest with
    | ']' :: rest => return (.list (v :: read).reverse, rest)
    | ',' :: rest => items fuel (v :: read) (skipSpace rest)
    | rest => fail "Expecting ',' delimiter" rest

/-- Reads the members of a mapping up to its end. -/
def members : (fuel : Nat) → Entries → List Char → Except Problem (Value × List Char)
  | 0, _, cs => fail "Expecting value" cs
  | fuel + 1, read, cs =>
    match cs with
    | '"' :: rest => do
      let (key, rest) ← textFrom cs [] rest
      match skipSpace rest with
      | ':' :: rest => do
        let (v, rest) ← value fuel (skipSpace rest)
        let read := Entries.put read (.str key) v
        match skipSpace rest with
        | '\x7d' :: rest => return (.map read, rest)
        | ',' :: rest => members fuel read (skipSpace rest)
        | rest => fail "Expecting ',' delimiter" rest
      | rest => fail "Expecting ':' delimiter" rest
    | cs => fail "Expecting property name enclosed in double quotes" cs

end

def read (text : String) : Except Problem Value :=
  let cs := text.toList
  match cs with
  | '\ufeff' :: _ => fail "Unexpected UTF-8 BOM (decode using utf-8-sig)" cs
  | cs => do
    let (v, rest) ← value (2 * cs.length + 2) (skipSpace cs)
    match skipSpace rest with
    | [] => return v
    | rest => fail "Extra data" rest

end FrameHost.Json
