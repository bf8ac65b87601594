import FrameHost.Document.Yaml.Cursor
import FrameHost.Text.Hex

/-!
# Scalars in a YAML text

A scalar is written plain, between quotes, or as a block of lines. Inside plain and quoted scalars a line
end reads as a blank, and an empty line as a line end; a block keeps its line ends, or folds them in the
same way.

Every reader takes the place after what starts the scalar, and answers the text of the scalar and the
place after it, or nothing when it is malformed.
-/

namespace FrameHost.Yaml

open Cursor

def isBlank (c : Char) : Bool := c == ' ' || c == '\t'

/-- What a line end and the empty lines after it read as, where lines are folded. -/
def fold (lineEnd : Char) (breaks : List Char) : List Char :=
  if lineEnd ≠ '\n' then lineEnd :: breaks
  else if breaks.isEmpty then [' ']
  else breaks

/-! ## Plain scalars -/

/-- Whether a plain scalar stops here. Inside brackets more characters stop it. -/
def stopsPlain (inFlow : Bool) (c : Cursor) : Bool :=
  c.endsWord 0 ||
    (c.isAt ':' && (c.endsWord 1 || (inFlow && c.sees 1 (",[]\x7b\x7d".toList.contains ·)))) ||
    (inFlow && c.sees 0 (",?[]\x7b\x7d".toList.contains ·))

/-- The characters of a plain scalar up to where it stops or a blank stands. -/
def plainWord (inFlow : Bool) : (fuel : Nat) → List Char → Cursor → List Char × Cursor
  | 0, word, c => (word.reverse, c)
  | fuel + 1, word, c =>
    if stopsPlain inFlow c then (word.reverse, c)
    else match c.peek? with
      | some ch => plainWord inFlow fuel (ch :: word) c.step
      | none => (word.reverse, c)

/-- The empty lines after a line end; `none` when a separator of documents follows one of them. -/
def plainBreaks : (fuel : Nat) → List Char → Cursor → Option (List Char) × Cursor
  | 0, breaks, c => (some breaks.reverse, c)
  | fuel + 1, breaks, c =>
    let c := c.skipSpaces
    match c.takeBreak? with
    | none => (some breaks.reverse, c)
    | some (b, c) => if c.atSeparator then (none, c) else plainBreaks fuel (b :: breaks) c

/-- What stands between two words of a plain scalar. -/
structure PlainGap where
  /-- How it reads; nothing when the scalar ends here. -/
  text : List Char
  /-- Whether a line ended. -/
  newLine : Bool
  after : Cursor

/-- Reads what stands between two words of a plain scalar. -/
def plainGap (c : Cursor) : PlainGap :=
  let (blanks, c) := c.span (· == ' ')
  match c.takeBreak? with
  | none => ⟨blanks, false, c⟩
  | some (b, c) =>
    if c.atSeparator then ⟨[], true, c⟩
    else match plainBreaks c.rest.length [] c with
      | (none, c) => ⟨[], true, c⟩
      | (some breaks, c) => ⟨fold b breaks, true, c⟩

/-- A scalar with the place after it. -/
structure ScalarRead where
  text : List Char
  /-- Whether a key may follow on the line that the scalar ends before. -/
  newLine : Bool
  after : Cursor

/-- Reads a plain scalar. Its lines must start at `indent` or further right, unless brackets are open. -/
def readPlain (inFlow : Bool) (indent : Nat) : (fuel : Nat) → List Char → List Char → Bool →
    Cursor → ScalarRead
  | 0, text, _, newLine, c => ⟨text, newLine, c⟩
  | fuel + 1, text, gap, newLine, c =>
    if c.isAt '#' then ⟨text, newLine, c⟩
    else match plainWord inFlow c.rest.length [] c with
      | ([], c) => ⟨text, newLine, c⟩
      | (word, c) =>
        let next := plainGap c
        let text := text ++ gap ++ word
        if next.text.isEmpty || next.after.isAt '#' || (!inFlow && next.after.column < indent) then
          ⟨text, next.newLine, next.after⟩
        else readPlain inFlow indent fuel text next.text next.newLine next.after

/-! ## Quoted scalars -/

/-- The character of an escape letter between double quotes. -/
def escape? : Char → Option Char
  | '0' => some '\x00'
  | 'a' => some '\x07'
  | 'b' => some '\x08'
  | 't' => some '\t'
  | '\t' => some '\t'
  | 'n' => some '\n'
  | 'v' => some '\x0b'
  | 'f' => some '\x0c'
  | 'r' => some '\r'
  | 'e' => some '\x1b'
  | ' ' => some ' '
  | '"' => some '"'
  | '\\' => some '\\'
  | '/' => some '/'
  | 'N' => some '\u0085'
  | '_' => some '\u00a0'
  | 'L' => some '\u2028'
  | 'P' => some '\u2029'
  | _ => none

/-- How many hexadecimal digits follow an escape letter. -/
def escapeWidth? : Char → Option Nat
  | 'x' => some 2
  | 'u' => some 4
  | 'U' => some 8
  | _ => none

/-- The empty lines after a line end inside quotes; a separator of documents there is an error. -/
def quotedBreaks : (fuel : Nat) → List Char → Cursor → Option (List Char × Cursor)
  | 0, _, _ => none
  | fuel + 1, breaks, c =>
    if c.atSeparator then none
    else
      let c := c.skipWhile isBlank
      match c.takeBreak? with
      | none => some (breaks.reverse, c)
      | some (b, c) => quotedBreaks fuel (b :: breaks) c

/-- Reads one escape between double quotes, after the backslash. -/
def readEscape (c : Cursor) : Option (List Char × Cursor) := do
  let ch ← c.peek?
  match escape? ch, escapeWidth? ch with
  | some d, _ => return ([d], c.step)
  | none, some width =>
    let c := c.step
    let ds := c.rest.take width
    guard (ds.length = width)
    return ([← Text.codePoint? ds], skip width c)
  | none, none =>
    let (_, c) ← c.takeBreak?
    quotedBreaks (c.rest.length + 1) [] c

/-- Reads a quoted scalar after its opening quote; the text read so far is in reverse. -/
def readQuoted (quote : Char) : (fuel : Nat) → List Char → Cursor → Option (List Char × Cursor)
  | 0, _, _ => none
  | fuel + 1, text, c => do
    let ch ← c.peek?
    if ch == quote then
      if quote == '\'' && c.sees 1 (· == '\'') then readQuoted quote fuel ('\'' :: text) (skip 2 c)
      else return (text.reverse, c.step)
    else if ch == '\\' && quote == '"' then
      let (found, c) ← readEscape c.step
      readQuoted quote fuel (found.reverse ++ text) c
    else if isBlank ch || isBreak ch then
      let (blanks, c) := c.span isBlank
      guard !c.atEnd
      match c.takeBreak? with
      | none => readQuoted quote fuel (blanks.reverse ++ text) c
      | some (b, c) =>
        let (breaks, c) ← quotedBreaks (c.rest.length + 1) [] c
        readQuoted quote fuel ((fold b breaks).reverse ++ text) c
    else readQuoted quote fuel (ch :: text) c.step

/-! ## Blocks -/

/-- What stands after the sign that starts a block. -/
structure BlockHeader where
  /-- Whether the line ends after the block are kept; unless it is said, one is. -/
  keep : Option Bool := none
  /-- The indentation of the block beyond that of its surroundings, if it is said. -/
  increment : Option Nat := none

/-- Reads the sign that says what becomes of the line ends after a block. -/
def readKeep (c : Cursor) : Option Bool × Cursor :=
  match c.peek? with
  | some '+' => (some true, c.step)
  | some '-' => (some false, c.step)
  | _ => (none, c)

/-- Reads the digit that says the indentation of a block; zero is an error. -/
def readIncrement (c : Cursor) : Option (Option Nat × Cursor) :=
  match c.peek? with
  | some '0' => none
  | some ch => if ch.isDigit then some (some (ch.toNat - '0'.toNat), c.step) else some (none, c)
  | none => some (none, c)

/-- Reads the header of a block up to the end of its line. -/
def readHeader (c : Cursor) : Option (BlockHeader × Cursor) := do
  let (before, c) := readKeep c
  let (increment, c) ← readIncrement c
  let (after, c) := if before.isNone && increment.isSome then readKeep c else (none, c)
  guard (c.atEnd || c.sees 0 fun ch => ch == ' ' || isBreak ch)
  let c := c.skipSpaces.skipComment
  guard (c.endsLine 0)
  return (⟨before.or after, increment⟩, match c.takeBreak? with
    | some (_, c) => c
    | none => c)

/-- The empty lines before a block whose indentation is not said, and the greatest indentation among
their blanks. -/
def leadingBreaks : (fuel : Nat) → List Char → Nat → Cursor → List Char × Nat × Cursor
  | 0, breaks, widest, c => (breaks.reverse, widest, c)
  | fuel + 1, breaks, widest, c =>
    if c.isAt ' ' then
      let c := c.step
      leadingBreaks fuel breaks (max widest c.column) c
    else match c.takeBreak? with
      | some (b, c) => leadingBreaks fuel (b :: breaks) widest c
      | none => (breaks.reverse, widest, c)

/-- The empty lines before the next line of a block. -/
def blockBreaks (indent : Nat) : (fuel : Nat) → List Char → Cursor → List Char × Cursor
  | 0, breaks, c => (breaks.reverse, c)
  | fuel + 1, breaks, c =>
    let c := c.skipIndent indent
    match c.takeBreak? with
    | some (b, c) => blockBreaks indent fuel (b :: breaks) c
    | none => (breaks.reverse, c)

/-- Reads the lines of a block. `breaks` are the empty lines before the next line. -/
def readLines (folded : Bool) (keep : Option Bool) (indent : Nat) : (fuel : Nat) → List Char →
    List Char → Cursor → List Char × Cursor
  | 0, text, _, c => (text, c)
  | fuel + 1, text, breaks, c =>
    let text := text ++ breaks
    let indented := c.sees 0 isBlank
    let (line, c) := c.span (!isBreak ·)
    let text := text ++ line
    let (lineEnd, c) := match c.takeBreak? with
      | some (b, c) => ([b], c)
      | none => ([], c)
    let (breaks, c) := blockBreaks indent (c.rest.length + 1) [] c
    if c.column = indent && !c.atEnd then
      let joint :=
        if folded && lineEnd == ['\n'] && !indented && !c.sees 0 isBlank then
          (if breaks.isEmpty then [' '] else [])
        else lineEnd
      readLines folded keep indent fuel (text ++ joint) breaks c
    else
      (text ++ (if keep = some false then [] else lineEnd) ++
        (if keep = some true then breaks else []), c)

/-- Reads a block after the sign that starts it. `outer` is the indentation of its surroundings, plus
one. -/
def readBlock (folded : Bool) (outer : Nat) (c : Cursor) : Option (List Char × Cursor) := do
  let (header, c) ← readHeader c
  let least := max outer 1
  let (breaks, indent, c) := match header.increment with
    | none =>
      let (breaks, widest, c) := leadingBreaks (c.rest.length + 1) [] 0 c
      (breaks, max least widest, c)
    | some increment =>
      let indent := least + increment - 1
      let (breaks, c) := blockBreaks indent (c.rest.length + 1) [] c
      (breaks, indent, c)
  if c.column = indent && !c.atEnd then
    return readLines folded header.keep indent (c.rest.length + 1) [] breaks c
  else
    return (if header.keep = some true then breaks else [], c)

end FrameHost.Yaml
