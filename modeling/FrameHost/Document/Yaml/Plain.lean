import FrameHost.Text.Parts
import FrameHost.Value

/-!
# What plain scalars mean

A plain scalar is null, a truth value, a whole number or a double when it is written like one, and a text
otherwise. Whole numbers are decimal, or binary after `0b`, octal after `0`, hexadecimal after `0x`;
underscores may stand between digits; parts between colons count by sixties. A double needs a point.

* `Plain.meaning`: what a plain scalar means.
-/

namespace FrameHost.Yaml.Plain

def nulls : List String := ["", "~", "null", "Null", "NULL"]

def trues : List String := ["yes", "Yes", "YES", "true", "True", "TRUE", "on", "On", "ON"]

def falses : List String := ["no", "No", "NO", "false", "False", "FALSE", "off", "Off", "OFF"]

/-- The key that lays other mappings under its own. -/
def mergeWord : String := "<<"

/-- The word that stands for the value of a mapping, and is no value by itself. -/
def valueWord : String := "="

/-- Splits a sign off: whether it was a minus, and the rest. -/
def splitSign : List Char → Bool × List Char
  | '-' :: cs => (true, cs)
  | '+' :: cs => (false, cs)
  | cs => (false, cs)

/-- The value of a digit in a base up to sixteen. -/
def digit? (base : Nat) (c : Char) : Option Nat :=
  let d :=
    if '0' ≤ c ∧ c ≤ '9' then c.toNat - '0'.toNat
    else if 'a' ≤ c ∧ c ≤ 'f' then c.toNat - 'a'.toNat + 10
    else if 'A' ≤ c ∧ c ≤ 'F' then c.toNat - 'A'.toNat + 10
    else 16
  if d < base then some d else none

/-- The number of digits in a base, with underscores among them. There has to be a digit. -/
def digits? (base : Nat) (cs : List Char) : Option Nat := do
  let ds ← (cs.filter (· ≠ '_')).mapM (digit? base)
  guard !ds.isEmpty
  return ds.foldl (fun n d => n * base + d) 0

def startsWithDigit : List Char → Bool
  | c :: _ => c.isDigit
  | [] => false

/-- A part of a number that counts by sixties: one or two digits below sixty. -/
def sixtieth? : List Char → Option Nat
  | [c] => digit? 10 c
  | [c, d] => do return (← digit? 6 c) * 10 + (← digit? 10 d)
  | _ => none

/-- A whole number that counts by sixties: at least two parts, the first without a leading zero. -/
def sexagesimal? (cs : List Char) : Option Nat :=
  match Text.cutAt ':' cs with
  | first :: second :: rest => do
    guard (startsWithDigit first && first.head? != some '0')
    let n ← digits? 10 first
    let parts ← (second :: rest).mapM sixtieth?
    return parts.foldl (fun n d => n * 60 + d) n
  | _ => none

/-- A whole number without sign. -/
def natural? (cs : List Char) : Option Nat :=
  match cs with
  | ['0'] => some 0
  | '0' :: 'b' :: cs => digits? 2 cs
  | '0' :: 'x' :: cs => digits? 16 cs
  | '0' :: rest => digits? 8 ('0' :: rest)
  | c :: _ => if c.isDigit then (digits? 10 cs).or (sexagesimal? cs) else none
  | [] => none

def whole? (cs : List Char) : Option Int := do
  let (negative, cs) := splitSign cs
  return Binary.withSign negative (← natural? cs)

/-- Digits and underscores, a digit first. -/
def isDigits (cs : List Char) : Bool := startsWithDigit cs && cs.all fun c => c.isDigit || c == '_'

/-- An exponent: its letter, a sign and digits; or nothing. -/
def isExponent : List Char → Bool
  | [] => true
  | e :: sign :: ds =>
    (e == 'e' || e == 'E') && (sign == '+' || sign == '-') && !ds.isEmpty && ds.all Char.isDigit
  | _ => false

/-- Whether a text is a numeral with a point: digits before it, or none and no sign. -/
def isPointed (signed : Bool) (cs : List Char) : Bool :=
  let before := cs.takeWhile (· ≠ '.')
  match cs.dropWhile (· ≠ '.') with
  | '.' :: after =>
    let fraction := after.takeWhile fun c => c.isDigit || c == '_'
    isExponent (after.drop fraction.length) &&
      (isDigits before || (before.isEmpty && !signed && startsWithDigit fraction))
  | _ => false

/-- A numeral with a point, underscores left out, as a double. -/
def read (cs : List Char) : Option Float :=
  Decimal.readFloat? (String.ofList (cs.filter (· ≠ '_')))

/-- The sum of parts that count by sixties, the smallest first, of which the next counts `unit`. -/
def sumBySixties (sum : Float) (unit : Nat) : List Nat → Option Float
  | [] => some sum
  | n :: parts => do
    let size ← Decimal.ofInt? n
    let weight ← Decimal.ofInt? unit
    sumBySixties (sum + size * weight) (unit * 60) parts

/-- A double that counts by sixties: the last part has a point. -/
def sexagesimalFloat? (cs : List Char) : Option Float :=
  let before := cs.takeWhile (· ≠ '.')
  match cs.dropWhile (· ≠ '.') with
  | '.' :: after => do
    guard (after.all fun c => c.isDigit || c == '_')
    match Text.cutAt ':' before with
    | first :: second :: rest =>
      guard (isDigits first)
      let n ← digits? 10 first
      let parts ← (second :: rest).mapM sixtieth?
      let last ← read ((second :: rest).getLastD [] ++ '.' :: after)
      sumBySixties last 60 (n :: parts.dropLast).reverse
    | _ => none
  | _ => none

def float? (cs : List Char) : Option Float := do
  let (negative, size) := splitSign cs
  let signed := size.length < cs.length
  let word := String.ofList size
  let x ←
    if word ∈ [".inf", ".Inf", ".INF"] then some (1.0 / 0.0)
    else if word ∈ [".nan", ".NaN", ".NAN"] then (if signed then none else some (0.0 / 0.0))
    else if isPointed signed size then read size
    else sexagesimalFloat? size
  return if negative then -x else x

/-- What a plain scalar means. -/
def meaning (s : String) : Value :=
  if s ∈ nulls then .null
  else if s ∈ trues then .bool true
  else if s ∈ falses then .bool false
  else match float? s.toList with
    | some x => .float x
    | none => match whole? s.toList with
      | some n => .int n
      | none => .str s

end FrameHost.Yaml.Plain
