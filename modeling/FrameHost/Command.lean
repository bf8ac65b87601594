import FrameHost.Host
import FrameHost.Log

/-!
# Commands

A command is an operation of a session as data: what the caller of a session asks for, and what a script
does when its callback runs. The families follow the parts of the host.

* `FrameAction`, `SlotAction`: what can be asked of a frame and its scripts, or done to them.
* `Command.isManaged`: the commands that keep the frames in order by themselves, without reaching into
  the registry.
* `Body`: what a callback does.
-/

namespace FrameHost

/-! ## Actions on frames -/

/-- How another frame is referred to: by its id, or by a handle that was given out for it. -/
inductive FrameRef
  | none
  | id (n : FrameId)
  /-- A handle; for an id that belongs to no frame there is none. -/
  | handle (n : FrameId)
  deriving DecidableEq, Inhabited, Repr

/-- The id that a reference stands for. -/
def FrameRef.resolve (r : Registry) : FrameRef → Option FrameId
  | .none => Option.none
  | .id n => some n
  | .handle n => if r.contains n then some n else Option.none

/-- The flags of a frame that can be set. -/
inductive FrameFlag
  | mouseEnabled
  | movable
  | resizable
  | clamped
  deriving DecidableEq, Inhabited, Repr

def Frame.setFlag (f : Frame) (value : Bool) : FrameFlag → Frame
  | .mouseEnabled => { f with mouseEnabled := value }
  | .movable => { f with movable := value }
  | .resizable => { f with resizable := value }
  | .clamped => { f with clamped := value }

/-- What can be asked of a frame or done to it. -/
inductive FrameAction
  | getName
  | getType
  | getParent
  | setParent (parent : FrameRef)
  | getChildren
  | getRegions
  | setParentKey (key : String)
  | getParentKey
  | childByKey (key : String)
  | setPoint (point : Value) (relativeTo : FrameRef) (relativePoint x y : Value)
  | setAllPoints (relativeTo : FrameRef)
  | clearAllPoints
  | clearPoint (point : Value)
  | shiftPoints (dx dy : Value)
  | countPoints
  | getPoint (index : Int)
  | setSize (width height : Value)
  | setWidth (width : Value)
  | setHeight (height : Value)
  | getWidth
  | getHeight
  | getSize
  | getRect
  | setShown (shown : Value)
  | isShown
  | isVisible
  | setStrata (strata : Value)
  | getStrata
  | setLevel (level : Value)
  | getLevel
  | setAttribute (name : String) (value : Value)
  | getAttribute (name : String)
  | setFlag (flag : FrameFlag) (value : Value)
  | registerEvent (event : String)
  | unregisterEvent (event : String)
  | registerAllEvents
  | unregisterAllEvents
  | isEventRegistered (event : String)
  deriving Inhabited, Repr

/-- Whether an action answers with other frames. -/
def FrameAction.answersFrames : FrameAction → Bool
  | .getParent | .getChildren | .getRegions | .childByKey _ => true
  | _ => false

/-- What can be asked of the script slots of a frame or done to them. Scripts are kept by id alone: there
need not be such a frame. -/
inductive SlotAction
  | setScript (handler callback : Value)
  | getScript (handler : Value)
  | hasScript (handler : Value)
  | hookScript (handler callback : Value)
  deriving Inhabited, Repr

/-! ## Commands -/

/-- What a name stands for. -/
inductive NameCommand
  | widget (name : Value)
  | anchor (name : Value)
  | handler (name : Value)
  /-- A value as an attribute, and back. -/
  | attribute (value : Value)
  deriving Inhabited, Repr

/-- Frames, by id or through their handles. -/
inductive FrameCommand
  /-- Makes a frame and answers its id. -/
  | create (type name : Value) (parent : FrameRef) (template scripts : Value)
  /-- Makes a frame and answers its handle. -/
  | createHandle (type name : Value) (parent : FrameRef) (template scripts : Value)
  | act (id : Option FrameId) (a : FrameAction)
  | slot (id : Option FrameId) (a : SlotAction)
  | throughHandle (id : Option FrameId) (a : FrameAction)
  | slotThroughHandle (id : Option FrameId) (a : SlotAction)
  | handleOf (id : Option FrameId)
  | handleNamed (name : String)
  /-- Whether two handles are the same. -/
  | sameHandle (a b : Option FrameId)
  | showHandle (id : Option FrameId)
  | describe (id : Option FrameId)
  | rectOf (id : Option FrameId)
  | screen
  | frameAt (x y : Value)
  | pointOn (point : Value) (x y width height : Value)
  deriving Inhabited, Repr

/-- The registry of frames, without regard for the order that frame commands keep. -/
inductive RegistryCommand
  /-- Takes a frame in, under an id of its own or a new one. -/
  | register (id : Option FrameId) (f : Frame)
  /-- Takes a registered frame in again. -/
  | registerAgain (id : Option FrameId)
  | addChild (parent child : Option FrameId)
  | removeChild (parent child : Option FrameId)
  | get (id : Option FrameId)
  /-- Gets a frame to be changed. -/
  | getMutable (id : Option FrameId)
  | getNamed (name : String)
  | idNamed (name : String)
  | ids
  | size
  | contains (id : Option FrameId)
  | isAncestor (ancestor id : Option FrameId)
  | depth (id : Option FrameId)
  | isVisible (id : Option FrameId)
  | descendants (id : Option FrameId)
  | registerEvent (id : Option FrameId) (event : String)
  | listeners (event : String)
  | anchorTargets (id : Option FrameId)
  | wouldLoop (id candidate : Option FrameId)
  | markDirty
  | takeDirty
  deriving Inhabited, Repr

/-- Script slots and dispatch. -/
inductive ScriptCommand
  | clear (id : Option FrameId)
  | framesWith (handler : Value)
  | hooksOf (id : Option FrameId) (handler : Value)
  | run (id : Option FrameId) (handler : Value) (args : List Value)
  | runHooks (id : Option FrameId) (handler : Value) (args : List Value)
  | invoke (callback : Value) (args : List Value) (source category : String)
  | reportError (message category : String)
  | errorCount
  | setErrorHandler (handler : Value)
  deriving Inhabited, Repr

inductive EventCommand
  | fire (event : String) (args : List Value)
  | enqueue (event : String) (args : List Value)
  | flush
  | pending
  | clearQueue
  deriving Inhabited, Repr

inductive TimerCommand
  | after (delay callback : Value)
  | start (delay callback : Value)
  | startTicker (interval callback iterations : Value)
  /-- Runs what is due at a time; null is the time of the clock. -/
  | tick (now : Value)
  | hasPending
  | countPending
  | nextFire
  | clear
  | cancel (id : Int)
  | cancelHandle (id : Int)
  | isCancelled (id : Int)
  | showHandle (id : Int)
  | now
  | advance (seconds : Value)
  | setClock (now : Value)
  deriving Inhabited, Repr

inductive HostCommand
  | update (elapsed : Value)
  | step (elapsed : Value)
  | click (x y button : Value)
  | root
  | config
  | isShared
  | forgetShared
  | useShared
  deriving Inhabited, Repr

inductive TemplateCommand
  | register (name data : Value)
  | load (filename : Value)
  | info (name : String)
  | contains (name : String)
  | names
  deriving Inhabited, Repr

inductive ConfigCommand
  | load (filename defaults strict : Value)
  | merge (defaults override : Value)
  | buildIndex
  | search (directories : List String)
  | write (path : String) (content : ByteArray)
  | remove (path : String)
  deriving Inhabited

inductive LogCommand
  | apply (config : Value)
  | settings
  | say (tag : LogTag) (message category : String)
  | admits (category tag : String)
  | heading (title : String)
  | entry (name status : String)
  | detail (text : String) (depth : Int)
  deriving Inhabited, Repr

inductive Command
  | name (c : NameCommand)
  | frame (c : FrameCommand)
  | registry (c : RegistryCommand)
  | script (c : ScriptCommand)
  | event (c : EventCommand)
  | timer (c : TimerCommand)
  | host (c : HostCommand)
  | template (c : TemplateCommand)
  | config (c : ConfigCommand)
  | log (c : LogCommand)
  deriving Inhabited

/-- Whether a command leaves the links between frames to the host: it writes no frame and no link of its
own into the registry. -/
def Command.isManaged : Command → Bool
  | .registry (.register ..) | .registry (.registerAgain _) | .registry (.addChild ..)
  | .registry (.removeChild ..) => false
  | _ => true

/-- What a callback does: its commands, and the text of the error that it raises at the end. -/
structure Body where
  steps : List Command := []
  raises : Option String := none
  deriving Inhabited

/-- What callbacks do. It may depend on how often the callback has run, this time included, and on what it
is called with. -/
abbrev Script := (callback : String) → (count : Nat) → (args : List Value) → Body

/-! ## Handles in values -/

mutual

/-- A value with null in the place of every handle of a frame that is not `live`. -/
def Value.liveOnly (live : FrameId → Bool) : Value → Value
  | .handle id => if live id then .handle id else .null
  | .list items => .list (liveItems live items)
  | .map entries => .map (liveEntries live entries)
  | .attribute kind payload => .attribute kind (payload.liveOnly live)
  | v => v

def Value.liveItems (live : FrameId → Bool) : List Value → List Value
  | [] => []
  | v :: vs => v.liveOnly live :: liveItems live vs

def Value.liveEntries (live : FrameId → Bool) : List (Key × Value) → List (Key × Value)
  | [] => []
  | (k, v) :: es => (k, v.liveOnly live) :: liveEntries live es

end

/-- An action with every value in it changed. -/
def FrameAction.mapValues (f : Value → Value) : FrameAction → FrameAction
  | .setPoint point relativeTo relativePoint x y =>
    .setPoint (f point) relativeTo (f relativePoint) (f x) (f y)
  | .clearPoint point => .clearPoint (f point)
  | .shiftPoints dx dy => .shiftPoints (f dx) (f dy)
  | .setSize width height => .setSize (f width) (f height)
  | .setWidth width => .setWidth (f width)
  | .setHeight height => .setHeight (f height)
  | .setShown shown => .setShown (f shown)
  | .setStrata strata => .setStrata (f strata)
  | .setLevel level => .setLevel (f level)
  | .setAttribute name value => .setAttribute name (f value)
  | .setFlag flag value => .setFlag flag (f value)
  | a => a

def SlotAction.mapValues (f : Value → Value) : SlotAction → SlotAction
  | .setScript handler callback => .setScript (f handler) (f callback)
  | .getScript handler => .getScript (f handler)
  | .hasScript handler => .hasScript (f handler)
  | .hookScript handler callback => .hookScript (f handler) (f callback)

def NameCommand.mapValues (f : Value → Value) : NameCommand → NameCommand
  | .widget name => .widget (f name)
  | .anchor name => .anchor (f name)
  | .handler name => .handler (f name)
  | .attribute value => .attribute (f value)

def FrameCommand.mapValues (f : Value → Value) : FrameCommand → FrameCommand
  | .create type name parent template scripts =>
    .create (f type) (f name) parent (f template) (f scripts)
  | .createHandle type name parent template scripts =>
    .createHandle (f type) (f name) parent (f template) (f scripts)
  | .act id a => .act id (a.mapValues f)
  | .slot id a => .slot id (a.mapValues f)
  | .throughHandle id a => .throughHandle id (a.mapValues f)
  | .slotThroughHandle id a => .slotThroughHandle id (a.mapValues f)
  | .frameAt x y => .frameAt (f x) (f y)
  | .pointOn point x y width height => .pointOn (f point) (f x) (f y) (f width) (f height)
  | c => c

def ScriptCommand.mapValues (f : Value → Value) : ScriptCommand → ScriptCommand
  | .framesWith handler => .framesWith (f handler)
  | .hooksOf id handler => .hooksOf id (f handler)
  | .run id handler args => .run id (f handler) (args.map f)
  | .runHooks id handler args => .runHooks id (f handler) (args.map f)
  | .invoke callback args source category => .invoke (f callback) (args.map f) source category
  | .setErrorHandler handler => .setErrorHandler (f handler)
  | c => c

def EventCommand.mapValues (f : Value → Value) : EventCommand → EventCommand
  | .fire event args => .fire event (args.map f)
  | .enqueue event args => .enqueue event (args.map f)
  | c => c

def TimerCommand.mapValues (f : Value → Value) : TimerCommand → TimerCommand
  | .after delay callback => .after (f delay) (f callback)
  | .start delay callback => .start (f delay) (f callback)
  | .startTicker interval callback iterations =>
    .startTicker (f interval) (f callback) (f iterations)
  | .tick time => .tick (f time)
  | .advance seconds => .advance (f seconds)
  | .setClock time => .setClock (f time)
  | c => c

def HostCommand.mapValues (f : Value → Value) : HostCommand → HostCommand
  | .update elapsed => .update (f elapsed)
  | .step elapsed => .step (f elapsed)
  | .click x y button => .click (f x) (f y) (f button)
  | c => c

def TemplateCommand.mapValues (f : Value → Value) : TemplateCommand → TemplateCommand
  | .register name data => .register (f name) (f data)
  | .load filename => .load (f filename)
  | c => c

def ConfigCommand.mapValues (f : Value → Value) : ConfigCommand → ConfigCommand
  | .load filename defaults strict => .load (f filename) (f defaults) (f strict)
  | .merge defaults override => .merge (f defaults) (f override)
  | c => c

def Command.mapValues (f : Value → Value) : Command → Command
  | .name c => .name (c.mapValues f)
  | .frame c => .frame (c.mapValues f)
  | .script c => .script (c.mapValues f)
  | .event c => .event (c.mapValues f)
  | .timer c => .timer (c.mapValues f)
  | .host c => .host (c.mapValues f)
  | .template c => .template (c.mapValues f)
  | .config c => .config (c.mapValues f)
  | .log (.apply settings) => .log (.apply (f settings))
  | c => c

/-- A command as it is meant when it is given: a handle of a frame that is not there is null. -/
def Command.meant (r : Registry) (c : Command) : Command := c.mapValues (Value.liveOnly r.contains)

end FrameHost
