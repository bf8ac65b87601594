import FrameHost.Command

/-!
# Sessions

A session is everything that operations may read and change: the host they work on, the host that is
shared between callers, the log, the configuration files, and the record of what callbacks did.

`Act` is an operation that always answers; `Attempt` is one that may end in a fault, and then keeps what
it changed before. Operations that run callbacks take a `Caller`, which says what a callback does.
-/

namespace FrameHost

/-! ## Answers and calls -/

/-- What an operation answers. -/
inductive Reply
  | value (v : Value)
  /-- The state of a frame. -/
  | frame (id : FrameId) (state : Frame)
  | rect (r : Rect)
  | template (info : TemplateInfo)
  /-- The handle of a timer. -/
  | timer (id : Nat) (cancelled : Bool)
  deriving Inhabited

mutual

/-- The answer of one operation of a session: its outcome, and the callbacks that ran meanwhile. -/
inductive Answer
  | mk (outcome : Except Fault Reply) (calls : List Call)

/-- One run of a callback: the answers of the operations it made, and the error it raised. -/
inductive Call
  | mk (callback : String) (args : List Value) (answers : List Answer) (raised : Option String)

end

/-- Something that happened, for telling what led to a state. -/
inductive Moment
  /-- A callback began; `seen` is the host as it found it. -/
  | called (callback : String) (args : List Value) (seen : Host)
  /-- A callback ended. -/
  | returned (callback : String) (raised : Option String)
  /-- A command of a caller or of a callback was answered; `seen` is the host as it left it. -/
  | answered (command : Command) (outcome : Except Fault Reply) (seen : Host)
  /-- A frame was made; `seen` are the frames once it is listed under its parent. -/
  | created (frame : FrameId) (seen : Registry)
  /-- A frame was told that it is now visible, or no longer. -/
  | notified (frame : FrameId) (shown : Bool)
  /-- The primary callback of a slot was written, or cleared. -/
  | scripted (slot : Slot) (callback : Option String)
  /-- Every primary callback of a frame was cleared. -/
  | scriptsCleared (frame : Option FrameId)
  /-- An update began. It is to come to `frames`, and after them to `later`; `seen` are all frames then. -/
  | updateBegan (frames later : List FrameId) (seen : Registry)
  /-- An update came to a frame and found its primary callback; `runs` says whether it goes on to run it, and
  `label` names the frame as messages do then. -/
  | reached (frame : FrameId) (primary : Option String) (runs : Bool) (label : String)
  /-- An update ran the primary callback of a frame. -/
  | updated (frame : FrameId) (callback : String) (failed : Bool)
  /-- An update came to a frame in what follows the updates. -/
  | followed (frame : FrameId)
  /-- An update ended. -/
  | updateEnded
  /-- An event joined the queue. -/
  | queued (event : QueuedEvent)
  /-- All events that waited left the queue, to be fired one after another. -/
  | flushBegan (batch : List QueuedEvent)
  /-- An event that left the queue is fired. -/
  | flushed (event : QueuedEvent)
  /-- The events of a batch have been fired. -/
  | flushEnded
  /-- An event left the queue without being fired. -/
  | dropped (event : QueuedEvent)
  /-- A timer was started; `first` is how it waits for its first call. -/
  | started (timer : Nat) (first : Timer)
  /-- A tick for a time began. -/
  | tickBegan (now : Float)
  /-- A tick ended. -/
  | tickEnded
  /-- The callback of a timer was run, in a tick for the time `now`. -/
  | fired (timer : Nat) (now : Float)
  /-- A pending timer was cancelled. -/
  | stopped (timer : Nat)
  /-- The handle of a timer was cancelled. -/
  | handleCancelled (timer : Nat)
  /-- All timers were cleared; these had been pending. -/
  | cleared (timers : List Nat)
  /-- A callback that the host ran for `source` has ended; `handler` is what is told of errors then. -/
  | invoked (callback source : String) (raised : Option String) (handler : Value)
  /-- A value that cannot be called was to be run for `source`; `handler` is what is told of errors then. -/
  | misfired (value : Value) (source : String) (handler : Value)
  /-- A command reported an error; `handler` is what is told of errors then. -/
  | reported (message : String) (handler : Value)
  /-- What is told of errors is called with a message. -/
  | alerted (handler : Value) (message : String)
  /-- Who listens for what may have changed; `seen` are the frames then. -/
  | tuned (seen : Registry)
  /-- A frame that a caller brought was taken in. It asked for the id `wanted` when `last` was the last id that
  had been drawn; `seen` are the frames then. -/
  | enrolled (wanted last : FrameId) (seen : Registry)
  /-- A painter took the flag that says that something to be drawn has changed; `seen` are the frames, with
  the flag as it was. -/
  | painted (seen : Registry)
  deriving Inhabited

/-- The host as a callback found it or a command left it. -/
def Moment.host? : Moment → Option Host
  | .called _ _ seen | .answered _ _ seen => some seen
  | _ => none

/-! ## The state -/

/-- The host that callers share. -/
inductive Shared
  /-- There is none yet. -/
  | none
  /-- It is the host of the session. -/
  | current
  /-- It is another host. -/
  | other (host : Host)
  deriving Inhabited

/-- The state of a session. -/
structure Session where
  host : Host := {}
  shared : Shared := .none
  /-- The last frame id that was drawn. -/
  lastId : FrameId := 0
  log : Log := {}
  store : ConfigStore := {}
  /-- The calls made since they were last taken, the oldest first. -/
  calls : List Call := []
  /-- How often each callback has run. -/
  counts : Table String Nat := {}
  /-- What happened, the latest first. -/
  journal : List Moment := []
  deriving Inhabited

/-- An operation on a session. -/
abbrev Act := StateM Session

/-- An operation on a session that may end in a fault. -/
abbrev Attempt := ExceptT Fault Act

/-- Runs a callback; answers the text of the error it raised, if it raised one. -/
abbrev Caller := (callback : String) → List Value → Act (Option String)

/-! ## Elementary operations -/

namespace Session

def currentHost : Act Host := do return (← get).host

def registry : Act Registry := do return (← get).host.registry

def onHost (f : Host → Host) : Act Unit := modify fun s => { s with host := f s.host }

def onRegistry (f : Registry → Registry) : Act Unit :=
  onHost fun h => { h with registry := f h.registry }

def onScripts (f : ScriptTable → ScriptTable) : Act Unit :=
  onHost fun h => { h with scripts := f h.scripts }

def onTimers (f : Timers → Timers) : Act Unit := onHost fun h => { h with timers := f h.timers }

def onLog (f : Log → Log) : Act Unit := modify fun s => { s with log := f s.log }

def say (source : String) (tag : LogTag) (category message : String) : Act Unit :=
  onLog fun log => log.emit source tag category message

/-- Writes the messages that loading left behind. -/
def sayNotes (source : String) (notes : List LoadNote) : Act Unit :=
  notes.forM fun note => say source note.tag "loading" note.text

def record (m : Moment) : Act Unit := modify fun s => { s with journal := m :: s.journal }

/-- Changes the frames in what they listen for, and notes them then. -/
def retune (f : Registry → Registry) : Act Unit := do
  onRegistry f
  record (.tuned (← registry))

def drawId : Act FrameId :=
  modifyGet fun s => (s.lastId + 1, { s with lastId := s.lastId + 1 })

def takeCalls : Act (List Call) := modifyGet fun s => (s.calls, { s with calls := [] })

def takeLines : Act (Array String) :=
  modifyGet fun s => (s.log.lines, { s with log := { s.log with lines := #[] } })

/-- A result that may be a fault. -/
def attempt {α : Type} (result : Except Fault α) : Attempt α := ExceptT.mk (pure result)

def loadConfig (filename : String) (defaults : Value) (strict : Bool) : Attempt Value := do
  let s ← get
  let (result, store, notes) := s.store.load filename defaults strict
  set { s with store }
  sayNotes "ConfigManager" notes
  attempt result

/-- Ends in a fault, if there is one. -/
def raise? : Option Fault → Attempt Unit
  | some fault => throw fault
  | none => return

/-- Changes the frames in a way that may end in a fault. -/
def tryRegistry (f : Registry → Registry × Option Fault) : Attempt Unit := do
  let (r, fault) := f (← registry)
  onRegistry fun _ => r
  raise? fault

end Session

end FrameHost
