/-!
# Blanks and line ends

White space in the sense of Unicode together with the four ASCII separators 0x1c to 0x1f, trimming by
it, and the cutting of a text into lines.
-/

namespace FrameHost.Text

/-- White space. -/
def isBlank (c : Char) : Bool :=
  let n := c.toNat
  (0x9 ≤ n && n ≤ 0xd) || (0x1c ≤ n && n ≤ 0x20) || n == 0x85 || n == 0xa0 || n == 0x1680 ||
    (0x2000 ≤ n && n ≤ 0x200a) || n == 0x2028 || n == 0x2029 || n == 0x202f || n == 0x205f ||
    n == 0x3000

/-- A text without the blanks at its two ends. -/
def trimChars (cs : List Char) : List Char :=
  ((cs.dropWhile isBlank).reverse.dropWhile isBlank).reverse

def trim (s : String) : String := String.ofList (trimChars s.toList)

/-- Characters that end a line when a text is cut into lines. -/
def isLineEnd (c : Char) : Bool :=
  let n := c.toNat
  (0xa ≤ n && n ≤ 0xd) || (0x1c ≤ n && n ≤ 0x1e) || n == 0x85 || n == 0x2028 || n == 0x2029

/-- The lines of a text, the current one collected in reverse. A carriage return and the line feed
after it end one line together; a text that ends with a line end has no empty line after it. -/
def linesFrom : (line : List Char) → List Char → List String
  | [], [] => []
  | line, [] => [String.ofList line.reverse]
  | line, '\r' :: '\n' :: cs => String.ofList line.reverse :: linesFrom [] cs
  | line, c :: cs =>
    if isLineEnd c then String.ofList line.reverse :: linesFrom [] cs
    else linesFrom (c :: line) cs

def lines (s : String) : List String := linesFrom [] s.toList

end FrameHost.Text
