import FrameHost.Action

/-!
# Building a host

A host is built from a configuration laid over defaults, a clock, and a catalog of templates. The
configuration says how big the screen is, whether there is a root frame that fills it, where the templates
are, and what is logged.

* `build`: makes the host of a session.
* `isShared`, `useShared`, `forgetShared`: the host that callers share; the first two build it when there is
  none.
-/

namespace FrameHost

def defaultConfig : Value :=
  .map [
    (.str "display", .map [(.str "width", .int 1024), (.str "height", .int 768)]),
    (.str "create_ui_parent", .bool true),
    (.str "templates", .str "templates.yaml"),
    (.str "logging", .map [])]

/-- The file that holds the configuration of a host. -/
def hostConfigFile : String := "host.yaml"

def rootName : String := "UIParent"

/-- Where a host has its templates from. -/
inductive TemplateSource
  /-- A catalog of the given templates. -/
  | given (templates : Entries)
  /-- There are none, and new frames do not ask for any. -/
  | absent
  /-- The file that the configuration names. -/
  | configured
  deriving Inhabited, Repr

/-- What a host is built from. -/
structure Plan where
  /-- The configuration; without one it is read from a file. -/
  config : Option Value := some (.map [])
  /-- What a clock that is moved by hand starts at; without it the clock keeps its own time. -/
  clock : Option Value := some (.float 0.0)
  templates : TemplateSource := .given []
  deriving Inhabited

namespace Plan

/-- The host that callers share. -/
def shared : Plan := { config := none, clock := none, templates := .configured }

end Plan

namespace Session

/-- There is nothing to call yet. -/
def noCallbacks : Caller := fun _ _ => return none

/-- Loads the templates of a file into the catalog. -/
def loadTemplates (filename : String) : Attempt Nat := do
  let config ← loadConfig filename (.map [(.str "templates", .map [])]) false
  let h ← currentHost
  let (catalog, count, notes) := h.catalog.takeIn h.label filename (config.entries?.getD [])
  onHost fun h => { h with catalog }
  sayNotes "TemplateCatalog" notes
  return count

/-- Adds or replaces a template. Answers whether it was taken. -/
def registerTemplate (name data : Value) : Act Bool := do
  let h ← currentHost
  let (catalog, notes) := h.catalog.register h.label name data
  sayNotes "TemplateCatalog" notes
  match catalog with
  | some catalog =>
    onHost fun h => { h with catalog }
    return true
  | none => return false

/-- Loads the templates that a configuration names, if it names any. -/
def loadConfigured (filename : Value) : Attempt Unit := do
  match filename with
  | .str s => if !s.isEmpty then let _ ← loadTemplates s
  | v => if v.isTrue then throw .wrongKind

def screenSize (display : Entries) (name : String) : Except Fault Int :=
  (((Entries.field? display name).getD (.int 0))).toInt

def screenOf (config : Entries) : Except Fault Layout :=
  match (Entries.field? config "display").getD .null with
  | .map display => do
    return ⟨← screenSize display "width", ← screenSize display "height"⟩
  | v => if v.isTrue then .error .missingPart else .ok {}

/-- Makes the root frame, which fills the screen. -/
def createRoot : Attempt Unit := do
  let root ← create noCallbacks (.str WidgetType.frame.name) (.str rootName) none .null .null
  onHost fun h => { h with root }
  let h ← currentHost
  if let some id := root then
    let _ ← frameAction noCallbacks (some id)
      (.setSize (.int h.layout.screenWidth) (.int h.layout.screenHeight))
  onLog fun log => log.detail (rootName ++ " id=" ++ showId root) 1

def configureLog (config : Value) : Attempt Unit := do
  let (log, fault) := (← get).log.apply config
  onLog fun _ => log
  raise? fault

def takeTemplates : TemplateSource → Attempt Unit
  | .given templates => templates.forM fun e => do let _ ← registerTemplate e.1.toValue e.2
  | _ => return

/-- Reads the configuration of a host: the one that is given, or the one of the file. -/
def readConfig : Option Value → Attempt Value
  | some v => attempt (Config.mergeValue defaultConfig v)
  | none => loadConfig hostConfigFile defaultConfig false

/-- Loads the templates that a configuration names, if they are to be had from there. -/
def loadNamed (config : Entries) : TemplateSource → Attempt Unit
  | .configured => loadConfigured ((Entries.field? config "templates").getD .null)
  | _ => return

/-- Makes the root frame, if a configuration wants one. -/
def createWanted (config : Entries) : Attempt Unit := do
  if ((Entries.field? config "create_ui_parent").getD .null).isTrue then createRoot

/-- Arranges a host as its configuration says. -/
def arrange (source : TemplateSource) (config : Entries) : Attempt Unit := do
  onHost fun h => { h with config, usesCatalog := source matches .given _ | .configured }
  configureLog ((Entries.field? config "logging").getD .null)
  onLog fun log => log.heading "Addon Host"
  onLog fun log => log.entry "EventDispatcher" "OK"
  onLog fun log => log.entry "TimerScheduler" "OK"
  let layout ← attempt (screenOf config)
  onHost fun h => { h with layout }
  loadNamed config source
  onLog fun log => log.entry "FrameManager" "OK"
  createWanted config

/-- Fills a host that has nothing but its clock. -/
def furnish (plan : Plan) : Attempt Unit := do
  takeTemplates plan.templates
  let config ← readConfig plan.config
  arrange plan.templates (config.entries?.getD [])

/-- Builds a host in the place of the present one. -/
def construct (plan : Plan) : Attempt Unit := do
  let now ← match plan.clock with
    | some v => attempt v.toFloat
    | none => pure 0.0
  onHost fun _ => { clock := { now, manual := plan.clock.isSome } }
  furnish plan

/-- Builds a host; the present one stays in place when that fails. -/
def build (plan : Plan) : Attempt Unit := do
  let before ← currentHost
  try construct plan
  catch fault =>
    onHost fun _ => before
    throw fault

/-! ## The shared host -/

/-- Whether the host of the session is the one that callers share. If there is none yet, one is built. -/
def isShared : Attempt Bool := do
  match (← get).shared with
  | .current => return true
  | .other _ => return false
  | .none =>
    let before ← currentHost
    build .shared
    modify fun s => { s with host := before, shared := .other s.host }
    return false

/-- There is no longer a host that callers share. -/
def forgetShared : Act Unit := modify fun s => { s with shared := .none }

/-- Works on the shared host from here on. If there is none yet, one is built. -/
def useShared : Attempt Unit := do
  match (← get).shared with
  | .current => return
  | .other host => modify fun s => { s with host, shared := .current }
  | .none =>
    build .shared
    modify fun s => { s with shared := .current }

end Session

end FrameHost
