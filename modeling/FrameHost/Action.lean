import FrameHost.Creation
import FrameHost.Registry.AnchorGraph
import FrameHost.Registry.Inheritance

/-!
# What can be done to a frame

Questions can be asked about a frame, and changes can be made to it. A change is refused, and then leaves
every frame as it was, when its target is unknown or when it would make the tree of parents or the graph
of anchors loop.

* `withVisibility`: a change, after which every frame of the subtree whose visibility differs is told.
* `absentAction`: what an action answers for an id that belongs to no frame.
* `presentAction`: an action on a frame.
-/

namespace FrameHost.Session

variable (call : Caller)

/-! ## Hierarchy -/

/-- The handler that tells a frame that it is now visible, or no longer. -/
def visibilityHandler (shown : Bool) : Handler := if shown then .onShow else .onHide

/-- Tells a frame of its visibility, if that is not what it was. -/
def notify (frame : FrameId) (was : Bool) : Act Unit := do
  let now := (← registry).isVisible frame
  if now ≠ was then
    record (.notified frame now)
    let _ ← runSlot call ⟨frame, visibilityHandler now⟩ []

/-- Makes a change, and tells every frame at or below `id` whose visibility it changed. -/
def withVisibility (id : FrameId) (change : Attempt Unit) : Attempt Unit := do
  let r ← registry
  let before := (id :: r.descendants id).map fun frame => (frame, r.isVisible frame)
  change
  before.forM fun e => notify call e.1 e.2

/-- Why a frame cannot be put under another, in the words of the log. -/
def parentProblem? (r : Registry) (id : FrameId) (f : Frame) (parent : FrameId) :
    Option (String × String) :=
  if !r.contains parent then some ("registry", "unknown parent id=" ++ showInt parent)
  else if parent = id || r.isAncestor id parent then
    some ("registry", "id=" ++ showInt parent ++ " is inside id=" ++ showInt id ++ "'s subtree")
  else if (f.anchors.any fun a => a.relativeTo.isNone) && r.wouldLoop id parent then
    some ("layout", "anchor cycle via id=" ++ showInt parent)
  else none

/-- Puts a frame under another, or takes it out of the tree. -/
def setParent (id : FrameId) (f : Frame) (parent : Option FrameId) : Attempt Bool := do
  let r ← registry
  match parent.bind (parentProblem? r id f) with
  | some (category, problem) =>
    say "FrameManager" .trace category ("set_parent: " ++ problem)
    return false
  | none =>
    if f.parent = parent then return true
    withVisibility call id (tryRegistry fun r => r.moveTo id parent)
    return true

/-- Makes a frame known to its parent under a key. -/
def setParentKey (id : FrameId) (f : Frame) (key : String) : Act Bool := do
  let r ← registry
  match f.parent.filter r.contains with
  | none => return false
  | some parent =>
    onRegistry fun r => r.edit parent fun p => { p with keys := p.keys.insert key id }
    return true

/-- The first key under which a frame is known to its parent. -/
def parentKey? (r : Registry) (id : FrameId) (f : Frame) : Option String :=
  (r.at? f.parent).bind fun p => (p.keys.entries.find? fun e => e.2 == id).map (·.1)

/-! ## Anchors -/

/-- Whether a frame may be tied to another, or to its parent; if not, the log says so. -/
def mayAnchor (id : FrameId) (f : Frame) (relativeTo : Option FrameId) : Act Bool := do
  let r ← registry
  match relativeTo.or f.parent with
  | none => return true
  | some target =>
    if r.wouldLoop id target then
      say "FrameManager" .trace "layout"
        ("Rejected anchor " ++ r.describe (some id) ++ " -> id=" ++ showInt target ++ ": cycle")
      return false
    else return true

/-- Writes an anchor in the place of the one for the same point, or at the end. -/
def putAnchor (a : Anchor) : List Anchor → List Anchor
  | [] => [a]
  | b :: bs => if b.point = a.point then a :: bs else b :: putAnchor a bs

/-- The two points of an anchor, or why there are none, in the words of the log. The second point is the
first one unless it is given. -/
def anchorPoints (label : FrameId → String) (id : FrameId) (point relativePoint : Value) :
    Except String (AnchorPoint × AnchorPoint) :=
  match AnchorPoint.ofValue? point with
  | none => .error ("id=" ++ showInt id ++ " point=" ++ point.display label)
  | some p =>
    match relativePoint with
    | .null => .ok (p, p)
    | v => match AnchorPoint.ofValue? v with
      | none => .error ("relative point " ++ v.display label)
      | some q => .ok (p, q)

def setPoint (id : FrameId) (f : Frame) (point : Value) (relativeTo : Option FrameId)
    (relativePoint x y : Value) : Attempt Bool := do
  let h ← currentHost
  let refuse (reason : String) : Attempt Bool := do
    say "FrameManager" .trace "layout" ("set_point ignored: " ++ reason)
    return false
  match anchorPoints h.label id point relativePoint with
  | .error reason => refuse reason
  | .ok (p, q) =>
    if let some target := relativeTo then
      if !h.registry.contains target then
        return ← refuse ("unknown relative id=" ++ showInt target)
    if !(← mayAnchor id f relativeTo) then return false
    let anchor : Anchor := ⟨p, relativeTo, q, ← attempt x.toFloat, ← attempt y.toFloat⟩
    if (f.anchorAt? p).any anchor.agrees then return true
    onRegistry fun r => r.edit id fun f => { f with anchors := putAnchor anchor f.anchors }
    return true

/-- Ties two opposite corners of a frame to the same corners of another frame. -/
def setAllPoints (id : FrameId) (f : Frame) (relativeTo : Option FrameId) : Act Bool := do
  let r ← registry
  if relativeTo.any fun target => !r.contains target then return false
  if !(← mayAnchor id f relativeTo) then return false
  let corner (p : AnchorPoint) : Anchor := { point := p, relativeTo, relativePoint := p }
  onRegistry fun r => r.edit id fun f =>
    { f with anchors := [corner .topLeft, corner .bottomRight] }
  return true

def clearPoint (id : FrameId) (f : Frame) (point : Value) : Act Bool := do
  match AnchorPoint.ofValue? point with
  | none => return false
  | some p =>
    if (f.anchorAt? p).isSome then
      onRegistry fun r => r.edit id fun f =>
        { f with anchors := f.anchors.eraseP fun a => a.point == p }
      return true
    else return false

def shiftPoints (id : FrameId) (f : Frame) (dx dy : Value) : Attempt Bool := do
  onRegistry fun r => r.touch id
  if f.anchors.isEmpty then return true
  let dx ← attempt dx.number
  let dy ← attempt dy.number
  onRegistry fun r => r.update id fun f => { f with anchors := f.anchors.map fun a => a.shift dx dy }
  return true

/-- An anchor by its place in the list. -/
def point? (f : Frame) (index : Int) : Option Value :=
  if index < 0 then none
  else (f.anchors[index.toNat]?).map fun a =>
    .list [.str a.point.name, .ofId? a.relativeTo, .str a.relativePoint.name, .float a.x, .float a.y]

/-! ## Sizes -/

/-- Gives a frame a size, and tells it if that is a new one. -/
def resize (id : FrameId) (f : Frame) (width height : Float) : Act Bool := do
  if f.width == width && f.height == height then return true
  onRegistry fun r => r.edit id fun f => { f with width, height }
  let _ ← runSlot call ⟨id, .onSizeChanged⟩ [.float width, .float height]
  return true

def setSize (id : FrameId) (f : Frame) (width height : Value) : Attempt Bool := do
  let width ← attempt width.toFloat
  let height ← attempt height.toFloat
  resize call id f width height

/-! ## Visibility, layer and level -/

def setShown (id : FrameId) (f : Frame) (shown : Bool) : Attempt Bool := do
  if f.visible = shown then return true
  withVisibility call id (onRegistry fun r => r.edit id fun f => { f with visible := shown })
  return true

/-- The message that a layer was refused. -/
def strataRefused (label : FrameId → String) (id : Option FrameId) (strata : Value) : String :=
  "set_frame_strata ignored: id=" ++ showId id ++ " strata=" ++ strata.display label

def setStrata (id : FrameId) (strata : Value) : Attempt Bool := do
  onRegistry fun r => r.touch id
  match Strata.ofValue? strata with
  | none =>
    say "FrameManager" .trace "layout" (strataRefused (← currentHost).label (some id) strata)
    return false
  | some s =>
    tryRegistry fun r => r.fixStrata id s
    return true

def setLevel (id : FrameId) (level : Value) : Attempt Bool := do
  onRegistry fun r => r.touch id
  let level ← attempt level.toInt
  tryRegistry fun r => r.fixLevel id level
  return true

/-! ## Attributes -/

/-- Writes an attribute and tells the frame. -/
def setAttribute (id : FrameId) (name : String) (value : Value) : Act Bool := do
  let wrapped := AttributeValue.wrap value
  onRegistry fun r => r.edit id fun f => { f with attributes := f.attributes.insert name wrapped }
  let _ ← runSlot call ⟨id, .onAttributeChanged⟩ [.str name, wrapped.unwrap]
  return true

/-! ## Scripts and events -/

def script? (t : ScriptTable) (frame : Option FrameId) (handler : Value) : Option String := do
  let handler ← Handler.ofValue? handler
  t.primary? ⟨frame, handler⟩

/-- Adds a hook to a slot. Answers whether there is such a handler and the value can be called. -/
def hookScript (frame : Option FrameId) (handler callback : Value) : Act Bool := do
  match Handler.ofValue? handler, callback.callback? with
  | some handler, some name =>
    onScripts fun t => t.addHook ⟨frame, handler⟩ name
    return true
  | _, _ =>
    say "ScriptRegistry" .warn "script"
      ("Ignored hook for " ++ handler.display (← currentHost).label ++ " on id=" ++ showId frame)
    return false

def listen (frame : FrameId) (event : String) : Act Bool := do
  if (← registry).contains frame then
    retune fun r => r.registerEvent frame event
    say "EventDispatcher" .trace "event"
      ("id=" ++ showInt frame ++ " registered for " ++ event)
    return true
  else return false

/-! ## Actions -/

/-- A truth value as an answer. -/
def said (b : Bool) : Reply := .value (.bool b)

/-- What an action answers for an id that belongs to no frame. -/
def absentAction (id : Option FrameId) : FrameAction → Act Reply
  | .getName | .getType | .getParent | .getParentKey | .childByKey _ | .getPoint _ | .getStrata
  | .getAttribute _ => return .value .null
  | .getChildren | .getRegions => return .value (.list [])
  | .countPoints | .getLevel => return .value (.int 0)
  | .getWidth | .getHeight => return .value (.float 0.0)
  | .getSize => return .value (.list [.float 0.0, .float 0.0])
  | .getRect => return .rect Rect.empty
  | .setPoint point _ _ _ _ => do
    say "FrameManager" .trace "layout"
      ("set_point ignored: id=" ++ showId id ++ " point=" ++ point.display (← currentHost).label)
    return said false
  | .setStrata strata => do
    say "FrameManager" .trace "layout" (strataRefused (← currentHost).label id strata)
    return said false
  | _ => return said false

def presentAction (id : FrameId) (f : Frame) : FrameAction → Attempt Reply
  | .getName => return .value (.ofText? f.name)
  | .getType => return .value (.str f.type.name)
  | .getParent => return .value (.ofId? f.parent)
  | .setParent parent => do
    return said (← setParent call id f (parent.resolve (← registry)))
  | .getChildren => return .value (.wholes ((← registry).childrenWhere false id))
  | .getRegions => return .value (.wholes ((← registry).childrenWhere true id))
  | .setParentKey key => return said (← setParentKey id f key)
  | .getParentKey => return .value (.ofText? (parentKey? (← registry) id f))
  | .childByKey key => return .value (.ofId? (f.keys.get? key))
  | .setPoint point relativeTo relativePoint x y => do
    return said (← setPoint id f point (relativeTo.resolve (← registry)) relativePoint x y)
  | .setAllPoints relativeTo => do
    return said (← setAllPoints id f (relativeTo.resolve (← registry)))
  | .clearAllPoints => do
    onRegistry fun r => r.edit id fun f => { f with anchors := [] }
    return said true
  | .clearPoint point => return said (← clearPoint id f point)
  | .shiftPoints dx dy => return said (← shiftPoints id f dx dy)
  | .countPoints => return .value (.int f.anchors.length)
  | .getPoint index => return .value ((point? f index).getD .null)
  | .setSize width height => return said (← setSize call id f width height)
  | .setWidth width => return said (← setSize call id f width (.float f.height))
  | .setHeight height => return said (← setSize call id f (.float f.width) height)
  | .getWidth => return .value (.float ((← registry).widthOf id))
  | .getHeight => return .value (.float ((← registry).heightOf id))
  | .getSize => do
    let r ← registry
    return .value (.list [.float (r.widthOf id), .float (r.heightOf id)])
  | .getRect => do
    let h ← currentHost
    return .rect (← attempt (h.layout.frameRect h.registry (some id)))
  | .setShown shown => return said (← setShown call id f shown.isTrue)
  | .isShown => return said f.visible
  | .isVisible => return said ((← registry).isVisible id)
  | .setStrata strata => return said (← setStrata id strata)
  | .getStrata => return .value (.str f.strata)
  | .setLevel level => return said (← setLevel id level)
  | .getLevel => return .value (.int f.level)
  | .setAttribute name value => return said (← setAttribute call id name value)
  | .getAttribute name =>
    return .value (((f.attributes.get? name).map AttributeValue.unwrap).getD .null)
  | .setFlag flag value => do
    onRegistry fun r => r.edit id fun f => f.setFlag value.isTrue flag
    return said true
  | .registerEvent event => return said (← listen id event)
  | .unregisterEvent event => do
    retune fun r => r.unregisterEvent id event
    return said true
  | .registerAllEvents => do
    retune fun r => r.registerAllEvents id
    return said true
  | .unregisterAllEvents => do
    retune fun r => r.unregisterAllEvents id
    return said true
  | .isEventRegistered event => return said (f.listensFor event)

def frameAction (id : Option FrameId) (a : FrameAction) : Attempt Reply := do
  match id, (← registry).at? id with
  | some id, some f => presentAction call id f a
  | _, _ => absentAction id a

/-- An action on the script slots of an id. -/
def slotAction (id : Option FrameId) : SlotAction → Act Reply
  | .setScript handler callback => return said (← setScript id handler callback)
  | .getScript handler =>
    return .value (((script? (← currentHost).scripts id handler).map Value.callback).getD .null)
  | .hasScript handler => return said (script? (← currentHost).scripts id handler).isSome
  | .hookScript handler callback => return said (← hookScript id handler callback)

/-- A reply with handles in the place of ids. -/
def withHandles (h : Host) : Reply → Reply
  | .value (.int id) => .value (h.handle id)
  | .value (.list ids) => .value (.list (ids.map fun
    | .int id => h.handle id
    | v => v))
  | reply => reply

/-- An action through the handle of a frame. Other frames are answered as handles. -/
def handleAction (id : FrameId) (a : FrameAction) : Attempt Reply := do
  let reply ← frameAction call (some id) a
  if a.answersFrames then return withHandles (← currentHost) reply else return reply

end FrameHost.Session
