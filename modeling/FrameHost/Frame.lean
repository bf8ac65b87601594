import FrameHost.Anchor
import FrameHost.Table
import FrameHost.Widget

/-!
# Frames

A frame is a node of the tree of widgets. It names other frames by their ids only.

* `AttributeValue.wrap`, `AttributeValue.unwrap`: the tag that an attribute is stored with.
* `Strata.order`: the layers in which frames are drawn, lowest first.
* `Frame`: the state of one frame.
-/

namespace FrameHost

/-! ## Attributes -/

/-- A value with the tag of its kind. -/
structure AttributeValue where
  kind : AttributeKind
  payload : Value
  deriving Inhabited, Repr

namespace AttributeValue

/-- Tags a value. What is tagged already keeps its tag. -/
def wrap : Value → AttributeValue
  | .attribute kind payload => ⟨kind, payload⟩
  | .null => ⟨.nil, .null⟩
  | .bool b => ⟨.boolean, .bool b⟩
  | .int n => ⟨.number, .int n⟩
  | .float x => ⟨.number, .float x⟩
  | .str s => ⟨.string, .str s⟩
  | v => ⟨.object, v⟩

/-- The value without its tag. -/
def unwrap (a : AttributeValue) : Value := if a.kind = .nil then .null else a.payload

/-- The tagged value as a value. -/
def toValue (a : AttributeValue) : Value := .attribute a.kind a.payload

/-- Tagging what is tagged changes nothing. -/
@[simp] theorem wrap_toValue (a : AttributeValue) : wrap a.toValue = a := rfl

end AttributeValue

/-! ## Layers -/

namespace Strata

/-- The layers, lowest first. -/
def order : List String :=
  ["WORLD", "BACKGROUND", "LOW", "MEDIUM", "HIGH", "DIALOG", "FULLSCREEN", "FULLSCREEN_DIALOG",
   "TOOLTIP"]

/-- The layer of a frame that was given none. -/
def default : String := "MEDIUM"

/-- The place of a layer; an unknown one counts as the default layer. -/
def rank (s : String) : Nat := if s ∈ order then order.idxOf s else order.idxOf default

/-- The layer that a value names, in any letter case. -/
def ofValue? (v : Value) : Option String :=
  let s := if v.isTrue then Text.upper (v.text showInt) else ""
  if s ∈ order then some s else none

end Strata

/-! ## Frames -/

/-- A frame, without its id. -/
structure Frame where
  type : WidgetType := .frame
  name : Option String := none
  parent : Option FrameId := none
  children : List FrameId := []
  /-- Names under which children can be reached. -/
  keys : Table String FrameId := {}
  anchors : List Anchor := []
  width : Float := 0.0
  height : Float := 0.0
  strata : String := Strata.default
  level : Int := 0
  strataFixed : Bool := false
  levelFixed : Bool := false
  /-- Shown by itself, whatever its ancestors are. -/
  visible : Bool := true
  mouseEnabled : Bool := false
  movable : Bool := false
  resizable : Bool := false
  clamped : Bool := false
  attributes : Table String AttributeValue := {}
  /-- The events it listens for, each once. -/
  events : List String := []
  /-- It listens for every event. -/
  allEvents : Bool := false
  deriving Inhabited, Repr

namespace Frame

def anchorAt? (f : Frame) (p : AnchorPoint) : Option Anchor := f.anchors.find? (·.point == p)

/-- The first anchor whose point passes a test. -/
def firstAnchor? (f : Frame) (p : AnchorPoint → Bool) : Option Anchor :=
  f.anchors.find? fun a => p a.point

/-- Whether an event reaches the frame. -/
def listensFor (f : Frame) (event : String) : Bool := f.allEvents || f.events.contains event

/-- The frames that a frame is placed by, each once. -/
def anchorTargets (f : Frame) : List FrameId :=
  (f.anchors.filterMap fun a => a.target f.parent).eraseDups

/-- The frame's name, if that is not empty. -/
def properName? (f : Frame) : Option String := f.name.filter fun s => !s.isEmpty

end Frame

end FrameHost
