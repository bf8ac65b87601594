import FrameHost.Value

/-!
# Files that assign a literal

A reader for configuration files that are small programs: lines that assign literals to names, of which
the one named `DEFAULT_CONFIG` is the configuration. Literals are null, truth values, numbers, texts, lists
and mappings. Inside brackets lines do not matter.

This is not an interpreter. A file that imports a module comes out as one whose module is missing, also where
the module is there; a file that computes anything (calls, operators, names, definitions) comes out as one
with a syntax error. What loading comes to is stated for paths that do not end in `.py`.

* `Assignment.read`: the configuration of a text, null when it assigns none, or why it cannot be run.
-/

namespace FrameHost.Assignment

/-- The name that a configuration is assigned to. -/
def configName : List Char := "DEFAULT_CONFIG".toList

/-! ## Spaces and names -/

def isSpace (c : Char) : Bool := c == ' ' || c == '\t' || c == '\x0c'

/-- What follows a comment, if one starts here. -/
def skipComment : List Char → List Char
  | '#' :: cs => cs.dropWhile (· ≠ '\n')
  | cs => cs

/-- What follows spaces, comments and line ends, as inside brackets. -/
def skipInside : (fuel : Nat) → List Char → List Char
  | 0, cs => cs
  | fuel + 1, cs =>
    match skipComment (cs.dropWhile isSpace) with
    | '\n' :: cs => skipInside fuel cs
    | '\\' :: '\n' :: cs => skipInside fuel cs
    | cs => cs

def isNameChar (c : Char) : Bool := c.isAlphanum || c == '_' || 0x80 ≤ c.toNat

/-- A name, with what follows it. -/
def name? (cs : List Char) : Option (List Char × List Char) :=
  match cs.takeWhile isNameChar with
  | [] => none
  | c :: rest => if c.isDigit then none else some (c :: rest, cs.dropWhile isNameChar)

/-! ## Texts -/

/-- The character of an escape letter. -/
def escape? : Char → Option Char
  | '\\' => some '\\'
  | '\'' => some '\''
  | '"' => some '"'
  | 'a' => some '\x07'
  | 'b' => some '\x08'
  | 'f' => some '\x0c'
  | 'n' => some '\n'
  | 'r' => some '\r'
  | 't' => some '\t'
  | 'v' => some '\x0b'
  | _ => none

/-- The character whose code point is written in so many hexadecimal digits, with what follows. -/
def hexChar? (width : Nat) (cs : List Char) : Option (Char × List Char) := do
  guard (width ≤ cs.length)
  return (← Text.codePoint? (cs.take width), cs.drop width)

def isOctal (c : Char) : Bool := '0' ≤ c && c ≤ '7'

/-- What an escape reads as, with what follows it. A backslash before anything else stands for itself. -/
def readEscape? (cs : List Char) : Option (List Char × List Char) :=
  match cs with
  | [] => none
  | '\n' :: cs => some ([], cs)
  | 'x' :: cs => (hexChar? 2 cs).map fun (c, cs) => ([c], cs)
  | 'u' :: cs => (hexChar? 4 cs).map fun (c, cs) => ([c], cs)
  | 'U' :: cs => (hexChar? 8 cs).map fun (c, cs) => ([c], cs)
  | c :: rest =>
    if isOctal c then
      let ds := (cs.take 3).takeWhile isOctal
      let n := ds.foldl (fun n d => n * 8 + (d.toNat - '0'.toNat)) 0
      some ([Char.ofNat n], cs.drop ds.length)
    else match escape? c with
      | some d => some ([d], rest)
      | none => some (['\\', c], rest)

/-- Reads a text up to its closing quotes; what was read so far is in reverse. Only three quotes let it
go on over the end of a line, and only without `raw` does a backslash start an escape. -/
def readText? (raw : Bool) (quotes : List Char) : (fuel : Nat) → List Char → List Char →
    Option (List Char × List Char)
  | 0, _, _ => none
  | fuel + 1, text, cs =>
    if quotes.isPrefixOf cs then some (text.reverse, cs.drop quotes.length)
    else match cs with
      | [] => none
      | '\\' :: cs =>
        if raw then match cs with
          | [] => none
          | c :: cs => readText? raw quotes fuel (c :: '\\' :: text) cs
        else do
          let (found, cs) ← readEscape? cs
          readText? raw quotes fuel (found.reverse ++ text) cs
      | c :: cs =>
        if c = '\n' ∧ quotes.length = 1 then none else readText? raw quotes fuel (c :: text) cs

/-- The quotes that a text starts with, after letters that say how it is read. -/
def opening? (cs : List Char) : Option (Bool × List Char × List Char) :=
  let letters := cs.takeWhile ("rRuU".toList.contains ·)
  let rest := cs.drop letters.length
  let raw := letters.any ("rR".toList.contains ·)
  if letters.length ≤ 1 then
    match rest with
    | '"' :: '"' :: '"' :: rest => some (raw, ['"', '"', '"'], rest)
    | '\'' :: '\'' :: '\'' :: rest => some (raw, ['\'', '\'', '\''], rest)
    | '"' :: rest => some (raw, ['"'], rest)
    | '\'' :: rest => some (raw, ['\''], rest)
    | _ => none
  else none

/-- Reads texts that stand one after another as one text. -/
def readTexts? (inside : Bool) : (fuel : Nat) → List Char → List Char →
    Option (List Char × List Char)
  | 0, _, _ => none
  | fuel + 1, text, cs =>
    let next := if inside then skipInside cs.length cs else cs.dropWhile isSpace
    match opening? next with
    | none => some (text, cs)
    | some (raw, quotes, rest) => do
      let (more, cs) ← readText? raw quotes (rest.length + 1) [] rest
      readTexts? inside fuel (text ++ more) cs

/-! ## Numbers -/

def numberChars : List Char → List Char
  | [] => []
  | e :: sign :: cs =>
    if (e = 'e' ∨ e = 'E') ∧ (sign = '+' ∨ sign = '-') then e :: sign :: numberChars cs
    else if isNameChar e || e == '.' then e :: numberChars (sign :: cs)
    else []
  | [c] => if isNameChar c || c == '.' then [c] else []

/-- The whole number of digits in a base, with single underscores before digits. -/
def digits? (base : Nat) (n : Nat) : List Char → Option Nat
  | [] => some n
  | '_' :: c :: cs => do
    let d ← Text.hexDigit? c
    if d < base then digits? base (n * base + d) cs else none
  | c :: cs => do
    let d ← Text.hexDigit? c
    if d < base then digits? base (n * base + d) cs else none

/-- What a number means; no characters are no number. A decimal number does not start with a zero, unless
it is zero. -/
def numberValue? (cs : List Char) : Option Value :=
  match cs with
  | [] => none
  | '0' :: b :: c :: rest =>
    let base? :=
      if b = 'x' ∨ b = 'X' then some 16
      else if b = 'o' ∨ b = 'O' then some 8
      else if b = 'b' ∨ b = 'B' then some 2
      else none
    match base? with
    | some base => (digits? base 0 (c :: rest)).map fun n => .int n
    | none => decimal? cs
  | _ => decimal? cs
where
  /-- What a decimal number means. -/
  decimal? (cs : List Char) : Option Value :=
    if cs.all fun c => c.isDigit || c == '_' then do
      let n ← digits? 10 0 cs
      if cs.head? == some '0' && n ≠ 0 then none else some (.int n)
    else if (cs.head?).any fun c => c.isDigit || c == '.' then
      (Decimal.readFloat? (String.ofList cs)).map .float
    else none

/-- A number with the opposite sign. -/
def negate? : Value → Option Value
  | .int n => some (.int (-n))
  | .float x => some (.float (-x))
  | _ => none

/-! ## Literals -/

/-- The words that are values. -/
def word? (name : List Char) : Option Value :=
  if name = "None".toList then some .null
  else if name = "True".toList then some (.bool true)
  else if name = "False".toList then some (.bool false)
  else none

/-- Items of a list: those read so far, in reverse, and whether a comma follows them. -/
structure Items where
  read : List Value
  comma : Bool
  deriving Repr

mutual

/-- Reads a literal; `inside` brackets lines do not matter. Round brackets around one item without a comma
only group it. -/
def literal? : (fuel : Nat) → (inside : Bool) → List Char → Option (Value × List Char)
  | 0, _, _ => none
  | fuel + 1, inside, cs =>
    let cs := if inside then skipInside cs.length cs else cs.dropWhile isSpace
    match cs with
    | '\x7b' :: cs => entries? fuel [] cs
    | '[' :: cs => do
      let (items, cs) ← items? fuel ']' ⟨[], false⟩ cs
      return (.list items.read.reverse, cs)
    | '(' :: cs => do
      let (items, cs) ← items? fuel ')' ⟨[], false⟩ cs
      match items with
      | ⟨[v], false⟩ => return (v, cs)
      | items => return (.list items.read.reverse, cs)
    | '-' :: cs => do
      let (v, cs) ← literal? fuel inside cs
      return (← negate? v, cs)
    | cs =>
      if (opening? cs).isSome then
        (readTexts? inside (cs.length + 1) [] cs).map fun (s, cs) => (.str (String.ofList s), cs)
      else match name? cs with
        | some (name, cs) => (word? name).map fun v => (v, cs)
        | none =>
          let number := numberChars cs
          (numberValue? number).map fun v => (v, cs.drop number.length)

/-- Reads the items of a list up to its closing bracket, after those that were read so far. -/
def items? : (fuel : Nat) → (closing : Char) → Items → List Char → Option (Items × List Char)
  | 0, _, _, _ => none
  | fuel + 1, closing, items, cs =>
    match skipInside cs.length cs with
    | [] => none
    | c :: rest =>
      if c = closing then some (items, rest)
      else do
        let (v, cs) ← literal? fuel true (c :: rest)
        match skipInside cs.length cs with
        | ',' :: cs => items? fuel closing ⟨v :: items.read, true⟩ cs
        | c :: cs => if c = closing then return (⟨v :: items.read, false⟩, cs) else none
        | [] => none

/-- Reads the entries of a mapping up to its closing bracket. -/
def entries? : (fuel : Nat) → Entries → List Char → Option (Value × List Char)
  | 0, _, _ => none
  | fuel + 1, read, cs =>
    match skipInside cs.length cs with
    | '\x7d' :: cs => some (.map read, cs)
    | cs => do
      let (k, cs) ← literal? fuel true cs
      let k ← k.key?
      match skipInside cs.length cs with
      | ':' :: cs =>
        let (v, cs) ← literal? fuel true cs
        let read := Entries.put read k v
        match skipInside cs.length cs with
        | ',' :: cs => entries? fuel read cs
        | '\x7d' :: cs => return (.map read, cs)
        | _ => none
      | _ => none

end

/-! ## Programs -/

/-- A line of a program. -/
inductive Statement
  | assign (name : List Char) (v : Value)
  | load (module : List Char)
  /-- A text that stands by itself. -/
  | remark
  deriving Repr

/-- Reads one statement; `none` when it is malformed. -/
def statement? (cs : List Char) : Option (Statement × List Char) :=
  if (opening? cs).isSome then
    (literal? (cs.length + 1) false cs).map fun (_, cs) => (.remark, cs)
  else do
    let (name, rest) ← name? cs
    if name = "import".toList ∨ name = "from".toList then
      let module := (rest.dropWhile isSpace).takeWhile isNameChar
      guard !module.isEmpty
      return (.load module, rest.dropWhile (· ≠ '\n'))
    else match rest.dropWhile isSpace with
      | '=' :: rest =>
        let (v, rest) ← literal? (rest.length + 1) false rest
        return (.assign name v, rest)
      | _ => none

/-- Reads the statements of a program; those read so far are in reverse. -/
def statements? : (fuel : Nat) → List Statement → List Char → Option (List Statement)
  | 0, _, _ => none
  | fuel + 1, read, cs =>
    match skipInside cs.length cs with
    | [] => some read.reverse
    | cs => do
      let (s, cs) ← statement? cs
      match skipComment (cs.dropWhile isSpace) with
      | [] => statements? fuel (s :: read) []
      | '\n' :: cs => statements? fuel (s :: read) cs
      | ';' :: cs => statements? fuel (s :: read) cs
      | _ => none

/-- Runs statements: the value of the configuration's name at the end. -/
def run (config : Value) : List Statement → Except String Value
  | [] => .ok config
  | .assign name v :: ss => run (if name = configName then v else config) ss
  | .load module :: _ => .error ("No module named '" ++ String.ofList module ++ "'")
  | .remark :: ss => run config ss

/-- The configuration that a text assigns; null when it assigns none. Only literals are understood. -/
def read (text : String) : Except String Value :=
  match statements? (text.length + 2) [] text.toList with
  | some ss => run .null ss
  | none => .error "invalid syntax"

end FrameHost.Assignment
