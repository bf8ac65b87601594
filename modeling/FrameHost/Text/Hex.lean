/-!
# Hexadecimal digits

Writing the last digits of a number in base sixteen, and reading digits in either letter case.
-/

namespace FrameHost.Text

/-- A digit of base sixteen, in lower case. -/
def hexDigit (n : Nat) : Char := Nat.digitChar (n % 16)

/-- The last `width` hexadecimal digits of a number. -/
def hex : (width : Nat) → Nat → List Char
  | 0, _ => []
  | width + 1, n => hex width (n / 16) ++ [hexDigit n]

/-- The value of a hexadecimal digit. -/
def hexDigit? (c : Char) : Option Nat :=
  if '0' ≤ c ∧ c ≤ '9' then some (c.toNat - '0'.toNat)
  else if 'a' ≤ c ∧ c ≤ 'f' then some (c.toNat - 'a'.toNat + 10)
  else if 'A' ≤ c ∧ c ≤ 'F' then some (c.toNat - 'A'.toNat + 10)
  else none

/-- The value of hexadecimal digits after `value`. -/
def hexFrom? (value : Nat) : List Char → Option Nat
  | [] => some value
  | c :: cs => (hexDigit? c).bind fun d => hexFrom? (value * 16 + d) cs

def hexNumber? (cs : List Char) : Option Nat := hexFrom? 0 cs

/-- The character whose code point is written in hexadecimal digits. -/
def codePoint? (cs : List Char) : Option Char :=
  (hexNumber? cs).bind fun n => if Nat.isValidChar n then some (Char.ofNat n) else none

end FrameHost.Text
