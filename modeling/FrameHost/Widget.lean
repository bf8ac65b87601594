import FrameHost.Value.Display

/-!
# Widget types

The closed set of widget types, and their names. A name is read without regard to letter case, and
some types have further names.
-/

namespace FrameHost

/-- What a frame is for. -/
inductive WidgetType
  | frame
  | button
  | fontString
  | texture
  | editBox
  | scrollFrame
  | slider
  | checkButton
  | statusBar
  | cooldown
  | model
  | modelScene
  | playerModel
  | colorSelect
  | messageFrame
  | simpleHtml
  | gameTooltip
  | minimap
  deriving DecidableEq, Inhabited, Repr

namespace WidgetType

def all : List WidgetType :=
  [.frame, .button, .fontString, .texture, .editBox, .scrollFrame,
   .slider, .checkButton, .statusBar, .cooldown, .model, .modelScene,
   .playerModel, .colorSelect, .messageFrame, .simpleHtml, .gameTooltip, .minimap]

def name : WidgetType → String
  | .frame => "Frame"
  | .button => "Button"
  | .fontString => "FontString"
  | .texture => "Texture"
  | .editBox => "EditBox"
  | .scrollFrame => "ScrollFrame"
  | .slider => "Slider"
  | .checkButton => "CheckButton"
  | .statusBar => "StatusBar"
  | .cooldown => "Cooldown"
  | .model => "Model"
  | .modelScene => "ModelScene"
  | .playerModel => "PlayerModel"
  | .colorSelect => "ColorSelect"
  | .messageFrame => "MessageFrame"
  | .simpleHtml => "SimpleHTML"
  | .gameTooltip => "GameTooltip"
  | .minimap => "Minimap"

/-- Further names, in lower case. -/
def aliases : List (String × WidgetType) :=
  [("dropdownbutton", .button), ("itembutton", .button), ("containedalertframe", .button),
   ("dressupmodel", .model), ("cinematicmodel", .playerModel), ("tabardmodel", .playerModel),
   ("scrollingmessageframe", .messageFrame)]

/-- Regions are drawn, but are no frames of their own. -/
def isRegion : WidgetType → Bool
  | .texture | .fontString => true
  | _ => false

def ofLowerName? (s : String) : Option WidgetType :=
  match all.find? (fun t => Text.lowerName t.name == s) with
  | some t => some t
  | none => aliases.lookup s

def ofName? (s : String) : Option WidgetType := ofLowerName? (Text.lowerName s)

/-- The widget type that a value names; a value that counts as false names none. -/
def ofValue? (v : Value) : Option WidgetType :=
  if v.isTrue then ofName? (v.text showInt) else none

end WidgetType

end FrameHost
