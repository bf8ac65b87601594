import FrameHost.Text.Hex
import FrameHost.Text.Printable

/-!
# Quoted texts

A text between quotes on one line. Single quotes are used unless the text holds a single quote and no
double quote. The quote in use and the backslash are escaped by a backslash, line feed, carriage
return and tab by their letters, and what is not printable by its code point in two, four or eight
hexadecimal digits.
-/

namespace FrameHost.Text

/-- The quote that a text is written in. -/
def quoteFor (cs : List Char) : Char := if '\'' ∈ cs ∧ '"' ∉ cs then '"' else '\''

/-- A character inside quotes. -/
def escapeChar (quote c : Char) : List Char :=
  if c = quote ∨ c = '\\' then ['\\', c]
  else if c = '\n' then ['\\', 'n']
  else if c = '\r' then ['\\', 'r']
  else if c = '\t' then ['\\', 't']
  else if isPrintable c then [c]
  else if c.toNat ≤ 0xff then '\\' :: 'x' :: hex 2 c.toNat
  else if c.toNat ≤ 0xffff then '\\' :: 'u' :: hex 4 c.toNat
  else '\\' :: 'U' :: hex 8 c.toNat

def quoteChars (cs : List Char) : List Char :=
  let q := quoteFor cs
  q :: cs.flatMap (escapeChar q) ++ [q]

/-- A text between quotes. -/
def quote (s : String) : String := String.ofList (quoteChars s.toList)

end FrameHost.Text
