import FrameHost.Layout
import FrameHost.ScriptTable
import FrameHost.Template
import FrameHost.Timer

/-!
# The host

A host owns its frames, the scripts attached to them, the queue of events, the timers, the screen and the
catalog of templates. `Host` is its state between two steps of an operation.
-/

namespace FrameHost

structure Clock where
  now : Float := 0.0
  /-- Moves only when it is told to; the other kind keeps its own time. -/
  manual : Bool := true
  deriving Inhabited, Repr

namespace Clock

/-- Moves the clock forward; it never moves backward. -/
def advance (c : Clock) (seconds : Float) : Clock :=
  if 0.0 < seconds then { c with now := c.now + seconds } else c

/-- Sets the clock to a time that is not before its own. -/
def jump (c : Clock) (now : Float) : Clock := if c.now < now then { c with now } else c

end Clock

/-- An event that waits to be fired. -/
structure QueuedEvent where
  name : String
  args : List Value
  deriving Inhabited, Repr

structure Host where
  config : Entries := []
  clock : Clock := {}
  registry : Registry := {}
  scripts : ScriptTable := {}
  /-- The events that wait, the oldest first. -/
  queue : List QueuedEvent := []
  timers : Timers := {}
  layout : Layout := {}
  catalog : Catalog := {}
  /-- New frames look their templates up in the catalog. -/
  usesCatalog : Bool := true
  /-- The primary callbacks of frames that are no longer run on updates, because they failed. -/
  muted : Table FrameId String := {}
  /-- The frame that everything else is put into. -/
  root : Option FrameId := none
  /-- What is told of errors in callbacks; null for nothing. -/
  onError : Value := .null
  /-- How many errors in callbacks there were. -/
  errors : Nat := 0
  deriving Inhabited, Repr

namespace Host

variable (h : Host)

/-- A frame as messages name it. -/
def label (id : FrameId) : String := h.registry.describe (some id)

/-- The handle of a frame; null when there is no such frame. -/
def handle (id : FrameId) : Value := if h.registry.contains id then .handle id else .null

/-- The handle of a frame that may be missing. -/
def handle? (id : Option FrameId) : Value := (id.map h.handle).getD .null

/-- The frames that are visible and have a primary callback for a handler, by rising id. -/
def visibleWith (handler : Handler) : Except Fault (List FrameId) := do
  return ((← h.scripts.holders handler).filterMap id).filter h.registry.isVisible

end Host

end FrameHost
