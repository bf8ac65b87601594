import FrameHost.Dispatch
import FrameHost.Naming
import FrameHost.Registry.Hierarchy

/-!
# Creating frames

A new frame gets its name, its place under a parent and the layer and level that follow from it, and the
sizes that its templates give; then its scripts are installed and its `OnLoad` slot runs.

* `register`: takes a frame in under an id of its own.
* `create`: makes a frame.
-/

namespace FrameHost.Session

variable (call : Caller)

/-- Writes a line about the registry. -/
def sayRegistered (id : FrameId) (f : Frame) : Act Unit :=
  say "WidgetRegistry" .trace "registry"
    ("Registered " ++ f.type.name ++ " id=" ++ showInt id ++ " name=" ++
      (f.name.map Text.quote).getD "None")

/-- Writes a line about a name that another frame is about to lose to a frame. -/
def sayMoved (id : FrameId) (f : Frame) : Act Unit := do
  if let some name := f.properName? then
    if let some holder := (← registry).nameHolder? name id then
      say "WidgetRegistry" .warn "registry"
        ("Name '" ++ name ++ "' moved from id=" ++ showInt holder ++ " to id=" ++ showInt id)

/-- Takes a frame in under an id; a name that is taken moves to it. -/
def enroll (id : FrameId) (f : Frame) : Act Unit := do
  sayMoved id f
  onRegistry fun r => r.enroll id f
  sayRegistered id f

/-- Takes a new frame in. An id that is taken is replaced by a fresh one. -/
def register (wanted : FrameId) (f : Frame) : Act FrameId := do
  let id ←
    if (← registry).contains wanted then do
      let fresh ← drawId
      say "WidgetRegistry" .warn "registry"
        ("Widget id " ++ showInt wanted ++ " already taken, reassigned to " ++ showInt fresh)
      pure fresh
    else pure wanted
  enroll id f
  return id

/-- Takes a registered frame in again: it claims its name anew. -/
def registerAgain (id : FrameId) : Act (Option FrameId) := do
  match (← registry).get? id with
  | none => return none
  | some f =>
    enroll id f
    return some id

def templateInfo (name : String) : Attempt (Option TemplateInfo) := do
  let (result, catalog, notes) := (← currentHost).catalog.info name
  onHost fun h => { h with catalog }
  sayNotes "TemplateCatalog" notes
  attempt result

/-- Gives a frame the sizes of a template. -/
def applyTemplate (f : Frame) (name : String) : Attempt Frame := do
  match ← templateInfo name with
  | none =>
    say "FrameManager" .trace "loading" ("No template info for '" ++ name ++ "'")
    return f
  | some info =>
    return { f with
      width := if 0.0 < info.width then info.width else f.width
      height := if 0.0 < info.height then info.height else f.height }

/-- Gives a frame the sizes of a list of templates, the later ones over the earlier. -/
def applyTemplates (f : Frame) (template : Value) : Attempt Frame := do
  if !template.isTrue || !(← currentHost).usesCatalog then
    return f
  match template with
  | .str s => (Catalog.commaParts s).foldlM applyTemplate f
  | _ => throw .missingPart

/-- The name of a new frame: the name asked for with the parent's put in, or none. -/
def nameFor (name : Value) (parent : Option Frame) : Attempt (Option String) := do
  match name with
  | .str s =>
    if s.isEmpty then return none
    let expanded ← attempt (Naming.expand s ((parent.bind (·.name)).getD ""))
    return if expanded.isEmpty then none else some expanded
  | v =>
    if v.isTrue then
      let _ ← attempt (Naming.parse ((parent.bind (·.name)).getD ""))
      throw .wrongKind
    else return none

/-- Writes the primary callback of a slot, or clears it. Answers whether there is such a handler. -/
def setScript (frame : Option FrameId) (handler callback : Value) : Act Bool := do
  match Handler.ofValue? handler with
  | none =>
    say "ScriptRegistry" .warn "script"
      ("Unknown script handler " ++ handler.display (← currentHost).label)
    return false
  | some handler =>
    onScripts fun t => t.setPrimary ⟨frame, handler⟩ callback.callback?
    record (.scripted ⟨frame, handler⟩ callback.callback?)
    return true

def installScripts (frame : FrameId) (scripts : Value) : Attempt Unit := do
  match scripts with
  | .map entries => entries.forM fun e => do let _ ← setScript (some frame) e.1.toValue e.2
  | v => if v.isTrue then throw .missingPart

/-- The frame that is made for a type, a name and a parent, before templates. -/
def blankFrame (type : WidgetType) (name : Option String) (parent : Option (FrameId × Frame)) :
    Frame :=
  match parent with
  | none => { type, name }
  | some (id, p) => { type, name, parent := some id, strata := p.strata, level := p.level + 1 }

/-- Makes a frame. Answers its id; an unknown type makes none. -/
def create (type name : Value) (parent : Option FrameId) (template scripts : Value) :
    Attempt (Option FrameId) := do
  match WidgetType.ofValue? type with
  | none =>
    say "FrameManager" .warn "registry"
      ("Unknown widget type " ++ type.display (← currentHost).label)
    return none
  | some kind =>
    let parentFrame := (← registry).at? parent
    if parent.isSome && parentFrame.isNone then
      say "FrameManager" .warn "registry"
        ("Unknown parent id=" ++ showId parent ++ ", creating unparented")
    let name ← nameFor name parentFrame
    let wanted ← drawId
    let above := parent.bind fun id => parentFrame.map fun f => (id, f)
    let f ← applyTemplates (blankFrame kind name above) template
    let id ← register wanted f
    if let some (p, _) := above then
      onRegistry fun r => r.addChild p id
    record (.created id (← registry))
    installScripts id scripts
    let _ ← runSlot call ⟨id, .onLoad⟩ []
    say "FrameManager" .state "registry"
      ("Created " ++ kind.name ++ " " ++ (← currentHost).label id)
    return some id

end FrameHost.Session
