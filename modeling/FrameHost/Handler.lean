import FrameHost.Value

/-!
# Script handlers

The named slots in which a frame can carry scripts. A name is read without regard to letter case.
-/

namespace FrameHost

/-- What a script is run for. -/
inductive Handler
  | onEvent
  | onUpdate
  | onShow
  | onHide
  | onClick
  | preClick
  | postClick
  | onEnter
  | onLeave
  | onMouseDown
  | onMouseUp
  | onMouseWheel
  | onDragStart
  | onDragStop
  | onReceiveDrag
  | onSizeChanged
  | onLoad
  | onAttributeChanged
  | onEnable
  | onDisable
  | onTooltipCleared
  | onTooltipSetItem
  | onTooltipSetUnit
  | onTooltipSetSpell
  | onPostUpdate
  | onPostShow
  | onPostHide
  | onPostClick
  | onKeyDown
  | onKeyUp
  | onChar
  | onEnterPressed
  | onEscapePressed
  | onTabPressed
  | onSpacePressed
  | onEditFocusGained
  | onEditFocusLost
  | onTextChanged
  | onValueChanged
  | onMinMaxChanged
  deriving DecidableEq, Inhabited, Repr

namespace Handler

/-- Every handler, in the order in which slots are listed. -/
def all : List Handler :=
  [.onEvent, .onUpdate, .onShow, .onHide, .onClick,
   .preClick, .postClick, .onEnter, .onLeave, .onMouseDown,
   .onMouseUp, .onMouseWheel, .onDragStart, .onDragStop, .onReceiveDrag,
   .onSizeChanged, .onLoad, .onAttributeChanged, .onEnable, .onDisable,
   .onTooltipCleared, .onTooltipSetItem, .onTooltipSetUnit, .onTooltipSetSpell, .onPostUpdate,
   .onPostShow, .onPostHide, .onPostClick, .onKeyDown, .onKeyUp,
   .onChar, .onEnterPressed, .onEscapePressed, .onTabPressed, .onSpacePressed,
   .onEditFocusGained, .onEditFocusLost, .onTextChanged, .onValueChanged, .onMinMaxChanged]

def name : Handler → String
  | .onEvent => "OnEvent"
  | .onUpdate => "OnUpdate"
  | .onShow => "OnShow"
  | .onHide => "OnHide"
  | .onClick => "OnClick"
  | .preClick => "PreClick"
  | .postClick => "PostClick"
  | .onEnter => "OnEnter"
  | .onLeave => "OnLeave"
  | .onMouseDown => "OnMouseDown"
  | .onMouseUp => "OnMouseUp"
  | .onMouseWheel => "OnMouseWheel"
  | .onDragStart => "OnDragStart"
  | .onDragStop => "OnDragStop"
  | .onReceiveDrag => "OnReceiveDrag"
  | .onSizeChanged => "OnSizeChanged"
  | .onLoad => "OnLoad"
  | .onAttributeChanged => "OnAttributeChanged"
  | .onEnable => "OnEnable"
  | .onDisable => "OnDisable"
  | .onTooltipCleared => "OnTooltipCleared"
  | .onTooltipSetItem => "OnTooltipSetItem"
  | .onTooltipSetUnit => "OnTooltipSetUnit"
  | .onTooltipSetSpell => "OnTooltipSetSpell"
  | .onPostUpdate => "OnPostUpdate"
  | .onPostShow => "OnPostShow"
  | .onPostHide => "OnPostHide"
  | .onPostClick => "OnPostClick"
  | .onKeyDown => "OnKeyDown"
  | .onKeyUp => "OnKeyUp"
  | .onChar => "OnChar"
  | .onEnterPressed => "OnEnterPressed"
  | .onEscapePressed => "OnEscapePressed"
  | .onTabPressed => "OnTabPressed"
  | .onSpacePressed => "OnSpacePressed"
  | .onEditFocusGained => "OnEditFocusGained"
  | .onEditFocusLost => "OnEditFocusLost"
  | .onTextChanged => "OnTextChanged"
  | .onValueChanged => "OnValueChanged"
  | .onMinMaxChanged => "OnMinMaxChanged"

def ofName? (s : String) : Option Handler :=
  let s := Text.lowerName s
  all.find? fun h => Text.lowerName h.name == s

/-- The handler that a value names; only texts name one. -/
def ofValue? : Value → Option Handler
  | .str s => ofName? s
  | _ => none

end Handler

end FrameHost
