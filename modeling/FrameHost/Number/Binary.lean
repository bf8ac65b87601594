/-!
# Doubles as exact numbers

`Binary.ofFloat` reads a double as a sign, a whole significand and a power of two. From there whole
numbers are reached exactly: towards zero (`Binary.truncateNat`) or to the nearest, a half going to the
even neighbour (`Binary.roundNat`).
-/

namespace FrameHost

/-- What a double stands for. -/
inductive Binary
  /-- No number. -/
  | nan
  /-- An infinity. -/
  | infinite (negative : Bool)
  /-- The number `± significand · 2 ^ exponent`. -/
  | finite (negative : Bool) (significand : Nat) (exponent : Int)
  deriving DecidableEq, Repr

namespace Binary

def ofFloat (x : Float) : Binary :=
  let bits : Nat := x.toBits.toNat
  let negative := bits >>> 63 == 1
  let field : Nat := (bits >>> 52) % 2048
  let fraction : Nat := bits % (1 <<< 52)
  if field = 2047 then (if fraction = 0 then .infinite negative else .nan)
  else if field = 0 then .finite negative fraction (-1074)
  else .finite negative ((1 <<< 52) + fraction) ((field : Int) - 1075)

/-- A magnitude with a sign. -/
def withSign (negative : Bool) (n : Nat) : Int := if negative then -(n : Int) else n

/-- The whole part of `m · 2 ^ e`. -/
def truncateNat (m : Nat) : Int → Nat
  | .ofNat e => m <<< e
  | .negSucc e => m >>> (e + 1)

/-- A quotient rounded to the nearest whole number, a half to the even one. -/
def roundQuotient (n d : Nat) : Nat :=
  let q := n / d
  let twice := 2 * (n % d)
  if twice < d then q
  else if d < twice then q + 1
  else q + q % 2

/-- The whole number nearest to `m · 2 ^ e`, a half going to the even one. -/
def roundNat (m : Nat) : Int → Nat
  | .ofNat e => m <<< e
  | .negSucc e => roundQuotient m (1 <<< (e + 1))

end Binary

end FrameHost
