import FrameHost.Anchor

/-!
# Rectangles

Rectangles on the screen, with the origin at the top left and four fields of 32 bits. A number that
needs more bits keeps its low 32; one that needs more than 64 is refused.
-/

namespace FrameHost

/-- A rectangle by its top left corner and its size. -/
structure Rect where
  x : Int32
  y : Int32
  width : Int32
  height : Int32
  deriving DecidableEq, Inhabited

namespace Rect

/-- The rectangle at the origin without a size. -/
def empty : Rect := ⟨0, 0, 0, 0⟩

def toField (n : Int) : Except Fault Int32 :=
  if Int64.minValue.toInt ≤ n ∧ n ≤ Int64.maxValue.toInt then .ok n.toInt32
  else .error .wrongKind

def ofInts (x y width height : Int) : Except Fault Rect := do
  .ok ⟨← toField x, ← toField y, ← toField width, ← toField height⟩

def toInts (r : Rect) : List Int := [r.x.toInt, r.y.toInt, r.width.toInt, r.height.toInt]

/-- Whether a point lies in a rectangle: on the left and top edges it does, on the others not. -/
def contains (r : Rect) (px py : Int) : Bool :=
  r.x.toInt ≤ px && px < r.x.toInt + r.width.toInt &&
    r.y.toInt ≤ py && py < r.y.toInt + r.height.toInt

/-- The place of a named point on a rectangle with a corner and a size. -/
def pointAt (p : AnchorPoint) (x y width height : Float) : Float × Float :=
  (x + width * p.across, y + height * p.down)

def point (r : Rect) (p : AnchorPoint) : Float × Float :=
  pointAt p (Float.ofInt r.x.toInt) (Float.ofInt r.y.toInt) (Float.ofInt r.width.toInt)
    (Float.ofInt r.height.toInt)

/-- A coordinate of a point to be looked for: the whole part of a number, in 32 bits. A number without a
whole part, or with one that does not fit, is the least number that does. -/
def toCoordinate (v : Value) : Except Fault Int :=
  match v with
  | .int n => (toField n).map Int32.toInt
  | .bool b => .ok (if b then 1 else 0)
  | .float x =>
    match Value.truncate x with
    | .ok n => .ok (if n.toInt32.toInt = n then n else Int32.minValue.toInt)
    | .error _ => .ok Int32.minValue.toInt
  | _ => .error .wrongKind

end Rect

end FrameHost
