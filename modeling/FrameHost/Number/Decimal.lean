import FrameHost.Number.Binary
import FrameHost.Text.Blank
import FrameHost.Text.Case

/-!
# Decimal numerals

Reading whole numbers and doubles from decimal text, and writing a double with the fewest digits that
read back as it (of two such numerals of that length the nearer one, of two equally near ones the even
one).

A numeral may stand between blanks and may have a sign and single underscores between digits; its
digits may be those of any script.
-/

namespace FrameHost.Decimal

/-! ## Reading -/

/-- The code points of the digits zero; the other nine digits of a script follow its zero. -/
def zeros : List Nat := [
  0x30, 0x660, 0x6f0, 0x7c0, 0x966, 0x9e6, 0xa66, 0xae6, 0xb66, 0xbe6, 0xc66, 0xce6,
  0xd66, 0xde6, 0xe50, 0xed0, 0xf20, 0x1040, 0x1090, 0x17e0, 0x1810, 0x1946, 0x19d0, 0x1a80,
  0x1a90, 0x1b50, 0x1bb0, 0x1c40, 0x1c50, 0xa620, 0xa8d0, 0xa900, 0xa9d0, 0xa9f0, 0xaa50, 0xabf0,
  0xff10, 0x104a0, 0x10d30, 0x11066, 0x110f0, 0x11136, 0x111d0, 0x112f0, 0x11450, 0x114d0, 0x11650, 0x116c0,
  0x11730, 0x118e0, 0x11950, 0x11c50, 0x11d50, 0x11da0, 0x16a60, 0x16ac0, 0x16b50, 0x1d7ce, 0x1d7d8, 0x1d7e2,
  0x1d7ec, 0x1d7f6, 0x1e140, 0x1e2f0, 0x1e950, 0x1fbf0]

/-- The value of a decimal digit of any script. -/
def digit? (c : Char) : Option Nat :=
  let n := c.toNat
  if n < 0x80 then (if c.isDigit then some (n - 0x30) else none)
  else (zeros.find? fun z => z ≤ n && n ≤ z + 9).map (n - ·)

/-- The value of a run of digits, with how many there were. -/
structure Digits where
  value : Nat := 0
  count : Nat := 0

/-- Reads digits, allowing one underscore between two of them. -/
def digitsFrom (acc : Digits) : List Char → Digits × List Char
  | [] => (acc, [])
  | '_' :: c :: cs =>
    match digit? c with
    | some d => if acc.count = 0 then (acc, '_' :: c :: cs)
        else digitsFrom ⟨acc.value * 10 + d, acc.count + 1⟩ cs
    | none => (acc, '_' :: c :: cs)
  | c :: cs =>
    match digit? c with
    | some d => digitsFrom ⟨acc.value * 10 + d, acc.count + 1⟩ cs
    | none => (acc, c :: cs)

/-- Splits a sign off: whether it was a minus, and the rest. -/
def splitSign : List Char → Bool × List Char
  | '-' :: cs => (true, cs)
  | '+' :: cs => (false, cs)
  | cs => (false, cs)

def readInt? (s : String) : Option Int :=
  let (negative, cs) := splitSign (Text.trimChars s.toList)
  match digitsFrom {} cs with
  | (n, []) => if n.count = 0 then none else some (Binary.withSign negative n.value)
  | _ => none

def tenTo (n : Nat) : Nat := Nat.pow 10 n

/-- The double nearest to `m · 10 ^ e`, a half going to the even significand. -/
def nearest (m : Nat) (e : Int) : Float :=
  if m = 0 then 0.0
  else
    let size := (Nat.log2 m : Int) * 3 / 10 + e
    if size < -400 then 0.0
    else if 400 < size then 1.0 / 0.0
    else match e with
      | .ofNat e => Float.ofScientific (m * tenTo e) false 0
      | .negSucc e => Float.ofScientific m true (e + 1)

/-- Reads the part of a numeral after its mantissa: nothing, or an exponent. -/
def exponent? : List Char → Option Int
  | [] => some 0
  | c :: cs =>
    if c = 'e' ∨ c = 'E' then
      let (negative, cs) := splitSign cs
      match digitsFrom {} cs with
      | (n, []) => if n.count = 0 then none else some (Binary.withSign negative n.value)
      | _ => none
    else none

/-- Reads a numeral without sign: digits with or without a point, and perhaps an exponent. -/
def unsigned? (cs : List Char) : Option Float :=
  let (whole, rest) := digitsFrom {} cs
  let (fraction, rest) :=
    match rest with
    | '.' :: cs => digitsFrom {} cs
    | cs => ({}, cs)
  if whole.count = 0 ∧ fraction.count = 0 then none
  else (exponent? rest).map fun e =>
    nearest (whole.value * tenTo fraction.count + fraction.value) (e - fraction.count)

/-- Reads a double: a numeral, `inf`, `infinity` or `nan` in any letter case. -/
def readFloat? (s : String) : Option Float :=
  let (negative, cs) := splitSign (Text.trimChars s.toList)
  let word := (cs.map Char.toLower)
  let size :=
    if word = "inf".toList ∨ word = "infinity".toList then some (1.0 / 0.0)
    else if word = "nan".toList then some (0.0 / 0.0)
    else unsigned? cs
  size.map fun x => if negative then -x else x

/-- The double nearest to a whole number; `none` when that is beyond the doubles. -/
def ofInt? (n : Int) : Option Float :=
  if (1 <<< 1024) - (1 <<< 970) ≤ n.natAbs then none
  else
    let x := Float.ofScientific n.natAbs false 0
    some (if n < 0 then -x else x)

/-! ## Writing -/

/-- The place after the first digit of `n / d`: the least `p` with `n / d < 10 ^ p`. -/
def pointPlace (n d : Nat) : Int :=
  ((Nat.toDigits 10 (n * tenTo 400 / d)).length : Int) - 400

/-- A positive number `significand · 2 ^ exponent` as a fraction of whole numbers, with the fractions
for the two ends of the interval of numbers that read back as it, over one common denominator. -/
structure Interval where
  low : Nat
  value : Nat
  high : Nat
  denominator : Nat
  /-- Whether the ends themselves read back. -/
  closed : Bool

/-- The interval of numbers that are read as the double `m · 2 ^ e`. Below a power of two the doubles
lie twice as close. -/
def interval (m : Nat) (e : Int) : Interval :=
  let below := if m = 1 <<< 52 ∧ -1074 < e then 1 else 2
  let scale := 1 <<< e.toNat
  { low := (4 * m - below) * scale, value := 4 * m * scale, high := (4 * m + 2) * scale,
    denominator := 4 <<< (-e).toNat, closed := m % 2 == 0 }

/-- Whether `c · 10 ^ k` lies in an interval. -/
def Interval.contains (i : Interval) (c : Nat) (k : Int) : Bool :=
  let x := c * tenTo k.toNat * i.denominator
  let unit := tenTo (-k).toNat
  if i.closed then i.low * unit ≤ x && x ≤ i.high * unit
  else i.low * unit < x && x < i.high * unit

/-- The numeral of `count` digits in an interval that is nearest to its value, if there is one. -/
def Interval.ofDigits? (i : Interval) (place : Int) (count : Nat) : Option (Nat × Int) :=
  let k := place - count
  let n := i.value * tenTo (-k).toNat
  let d := i.denominator * tenTo k.toNat
  let c := n / d
  let nearer := Binary.roundQuotient n d
  if i.contains nearer k then some (nearer, k)
  else if i.contains c k then some (c, k)
  else if i.contains (c + 1) k then some (c + 1, k)
  else none

/-- The shortest numeral `c · 10 ^ k` that is read as the double `m · 2 ^ e`. -/
def shortest (m : Nat) (e : Int) : Nat × Int :=
  let i := interval m e
  let place := pointPlace i.value i.denominator
  ((List.range 17).findSome? fun n => i.ofDigits? place (n + 1)).getD (0, 0)

/-- A numeral without the zeros at its end. -/
def dropZeros (ds : List Char) : List Char :=
  (ds.reverse.dropWhile (· == '0')).reverse

/-- Writes digits with the point after the first `place` of them. An exponent is used outside
`10 ^ -4 ≤ x < 10 ^ 16`; it has a sign and at least two digits. A whole number ends in `.0`. -/
def layOut (ds : List Char) (place : Int) : List Char :=
  if -3 ≤ place ∧ place ≤ 0 then
    '0' :: '.' :: List.replicate (-place).toNat '0' ++ ds
  else if 0 < place ∧ place ≤ 16 then
    let p := place.toNat
    let whole := ds.take p ++ List.replicate (p - ds.length) '0'
    let fraction := ds.drop p
    whole ++ '.' :: (if fraction.isEmpty then ['0'] else fraction)
  else
    let power := place - 1
    let size := Nat.toDigits 10 power.natAbs
    let size := if size.length < 2 then '0' :: size else size
    let mantissa := match ds with
      | [] => ['0']
      | [d] => [d]
      | d :: ds => d :: '.' :: ds
    mantissa ++ 'e' :: (if power < 0 then '-' else '+') :: size

/-- Writes a double with the fewest digits that read back. -/
def write (x : Float) : String :=
  match Binary.ofFloat x with
  | .nan => "nan"
  | .infinite negative => if negative then "-inf" else "inf"
  | .finite negative m e =>
    let text :=
      if m = 0 then ['0', '.', '0']
      else
        let (c, k) := shortest m e
        let ds := Nat.toDigits 10 c
        layOut (dropZeros ds) (k + ds.length)
    String.ofList (if negative then '-' :: text else text)

end FrameHost.Decimal
