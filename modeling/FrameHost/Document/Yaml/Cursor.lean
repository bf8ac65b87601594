/-!
# Places in a YAML text

A cursor is the rest of a text with the place where it starts: how many characters stand before it, in
which line and in which column.
-/

namespace FrameHost.Yaml

/-- The end of a line: line feed, carriage return, and the line ends of Unicode. -/
def isBreak (c : Char) : Bool :=
  c == '\n' || c == '\r' || c == '\u0085' || c == '\u2028' || c == '\u2029'

/-- A place in a text. -/
structure Cursor where
  rest : List Char
  index : Nat := 0
  line : Nat := 0
  column : Nat := 0
  deriving Inhabited

namespace Cursor

variable (c : Cursor)

def peek? : Option Char := c.rest.head?

/-- A character further on. -/
def peekAt? (n : Nat) : Option Char := (c.rest.drop n).head?

/-- Whether the next character is the given one. -/
def isAt (ch : Char) : Bool := c.peek? == some ch

def atEnd : Bool := c.rest.isEmpty

/-- Whether there is a character further on, and it passes a test. -/
def sees (n : Nat) (p : Char → Bool) : Bool := (c.peekAt? n).any p

/-- Whether a line ends further on, or the text does. -/
def endsLine (n : Nat) : Bool := (c.peekAt? n).all isBreak

/-- Whether a word ends further on: at a blank, or where the line ends. -/
def endsWord (n : Nat) : Bool := (c.peekAt? n).all fun ch => ch == ' ' || ch == '\t' || isBreak ch

/-- The place after the next character. A byte order mark takes no column. -/
def step : Cursor :=
  match c.rest with
  | [] => c
  | ch :: rest =>
    if isBreak ch && !(ch == '\r' && rest.head? == some '\n') then
      ⟨rest, c.index + 1, c.line + 1, 0⟩
    else ⟨rest, c.index + 1, c.line, if ch == '\ufeff' then c.column else c.column + 1⟩

/-- The place some characters further on. -/
def skip : (n : Nat) → Cursor → Cursor
  | 0, c => c
  | n + 1, c => skip n c.step

/-- Takes the characters off the front that pass a test. -/
def span (p : Char → Bool) : List Char × Cursor :=
  let taken := c.rest.takeWhile p
  (taken, skip taken.length c)

/-- The place after the characters that pass a test. -/
def skipWhile (p : Char → Bool) : Cursor := (c.span p).2

def skipSpaces : Cursor := c.skipWhile (· == ' ')

/-- The place after spaces up to a column. -/
def skipIndent (column : Nat) : Cursor :=
  skip (min (column - c.column) (c.rest.takeWhile (· == ' ')).length) c

/-- Takes the end of a line off the front. All line ends read as a line feed but the two that separate
lines and paragraphs. -/
def takeBreak? : Option (Char × Cursor) :=
  match c.rest with
  | '\r' :: '\n' :: _ => some ('\n', skip 2 c)
  | ch :: _ =>
    if isBreak ch then
      some (if ch == '\u2028' || ch == '\u2029' then ch else '\n', c.step)
    else none
  | [] => none

/-- The place after a comment, if one starts here. -/
def skipComment : Cursor := if c.isAt '#' then c.skipWhile (!isBreak ·) else c

/-- Whether three characters that separate documents start here. -/
def atSeparator : Bool :=
  let word := c.rest.take 3
  (word == ['-', '-', '-'] || word == ['.', '.', '.']) && c.endsWord 3

end Cursor

end FrameHost.Yaml
