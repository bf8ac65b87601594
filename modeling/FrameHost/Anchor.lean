import FrameHost.Value

/-!
# Anchors

An anchor ties a named point of a frame to a named point of another frame, plus an offset. Without a
frame of its own it is tied to the frame's parent.
-/

namespace FrameHost

/-- A named point of a rectangle. -/
inductive AnchorPoint
  | center
  | top
  | bottom
  | left
  | right
  | topLeft
  | topRight
  | bottomLeft
  | bottomRight
  deriving DecidableEq, Inhabited, Repr

namespace AnchorPoint

def all : List AnchorPoint :=
  [.center, .top, .bottom, .left, .right, .topLeft, .topRight, .bottomLeft, .bottomRight]

def name : AnchorPoint → String
  | .center => "CENTER"
  | .top => "TOP"
  | .bottom => "BOTTOM"
  | .left => "LEFT"
  | .right => "RIGHT"
  | .topLeft => "TOPLEFT"
  | .topRight => "TOPRIGHT"
  | .bottomLeft => "BOTTOMLEFT"
  | .bottomRight => "BOTTOMRIGHT"

/-- The point of a name, in any letter case. -/
def ofName? (s : String) : Option AnchorPoint :=
  let s := Text.upper s
  all.find? fun p => p.name == s

/-- The point that a value names; only texts name one. -/
def ofValue? : Value → Option AnchorPoint
  | .str s => ofName? s
  | _ => none

/-- How far right of a rectangle's left edge the point lies, in widths. -/
def across : AnchorPoint → Float
  | .topLeft | .left | .bottomLeft => 0.0
  | .top | .center | .bottom => 0.5
  | .topRight | .right | .bottomRight => 1.0

/-- How far below a rectangle's top edge the point lies, in heights. -/
def down : AnchorPoint → Float
  | .topLeft | .top | .topRight => 0.0
  | .left | .center | .right => 0.5
  | .bottomLeft | .bottom | .bottomRight => 1.0

def onLeft : AnchorPoint → Bool
  | .topLeft | .bottomLeft | .left => true
  | _ => false

def onRight : AnchorPoint → Bool
  | .topRight | .bottomRight | .right => true
  | _ => false

def onTop : AnchorPoint → Bool
  | .topLeft | .topRight | .top => true
  | _ => false

def onBottom : AnchorPoint → Bool
  | .bottomLeft | .bottomRight | .bottom => true
  | _ => false

end AnchorPoint

/-- Ties a point of a frame to a point of another frame. Offsets point right and up. -/
structure Anchor where
  point : AnchorPoint := .center
  /-- The frame it is tied to; `none` is the parent. -/
  relativeTo : Option FrameId := none
  relativePoint : AnchorPoint := .center
  x : Float := 0.0
  y : Float := 0.0
  deriving DecidableEq, Inhabited, Repr

namespace Anchor

/-- Whether two anchors say the same. Offsets are compared as numbers: the two zeros agree, and NaN
agrees with nothing. -/
def agrees (a b : Anchor) : Bool :=
  a.point == b.point && a.relativeTo == b.relativeTo && a.relativePoint == b.relativePoint &&
    Float.beq a.x b.x && Float.beq a.y b.y

/-- The frame that an anchor of a child of `parent` is tied to. -/
def target (a : Anchor) (parent : Option FrameId) : Option FrameId := a.relativeTo.or parent

def shift (a : Anchor) (dx dy : Float) : Anchor := { a with x := a.x + dx, y := a.y + dy }

end Anchor

end FrameHost
