import FrameHost.Registry.Listeners
import FrameHost.Session

/-!
# Running callbacks

Every callback is run through `invoke`, which contains the error it may raise: the error is counted,
logged and told to the host's error handler, and the dispatch goes on.

* `runSlot`: the primary callback of a slot, then its hooks, all of them as they were at the start.
* `fire`: an event goes to its listeners, in the order in which they began to listen.
* `flush`: the events that waited at the start are fired.
* `tick`: the timers that are due at the start are run.
* `update`: the visible frames are updated; a frame whose own callback failed is passed over until that
  callback changes.
-/

namespace FrameHost.Session

variable (call : Caller)

/-! ## Errors -/

/-- Tells the host's error handler of an error. An error that the handler raises is only logged. -/
def tellHandler (message category : String) : Act Unit := do
  let failed (text : String) : Act Unit :=
    say "DispatchContext" .fail category ("Error in error handler: " ++ text)
  match (← currentHost).onError with
  | .null => return
  | .callback name =>
    record (.alerted (.callback name) message)
    match ← call name [.str message] with
    | some text => failed text
    | none => return
  | v =>
    record (.alerted v message)
    failed ("'" ++ v.kindName ++ "' object is not callable")

/-- Counts and logs an error, and tells the host's error handler of it. -/
def reportError (message category : String) : Act Unit := do
  onHost fun h => { h with errors := h.errors + 1 }
  say "DispatchContext" .fail category message
  tellHandler call message category

/-- Runs a callback and contains its error. Answers whether there was none. -/
def invoke (callback : String) (args : List Value) (source category : String) : Act Bool := do
  let raised ← call callback args
  record (.invoked callback source raised (← currentHost).onError)
  match raised with
  | some text =>
    reportError call (source ++ ": " ++ text) category
    return false
  | none => return true

/-- Runs a value as a callback; a value that cannot be called is an error of the same kind. -/
def invokeValue (v : Value) (args : List Value) (source category : String) : Act Bool := do
  match v with
  | .callback name => invoke call name args source category
  | v =>
    record (.misfired v source (← currentHost).onError)
    reportError call (source ++ ": '" ++ v.kindName ++ "' object is not callable") category
    return false

/-! ## Slots -/

def runHookList (hooks : List String) (args : List Value) (source : String) : Act Unit :=
  hooks.forM fun hook => do let _ ← invoke call hook args source "script"

/-- Runs the given hooks of a slot and answers how many there are. -/
def runHooks (slot : Slot) (hooks : List String) (args : List Value) : Act Nat := do
  if hooks.isEmpty then return 0
  let h ← currentHost
  let source := slot.handler.name ++ " on " ++ h.registry.describe slot.frame ++ " (hook)"
  runHookList call hooks (h.handle? slot.frame :: args) source
  return hooks.length

/-- Runs the given primary callback of a slot. Answers whether it raised no error. -/
def runPrimary (slot : Slot) (callback : String) (args : List Value) : Act Bool := do
  let h ← currentHost
  invoke call callback (h.handle? slot.frame :: args)
    (slot.handler.name ++ " on " ++ h.registry.describe slot.frame) "script"

/-- Runs a slot as it is at the start: the primary callback, then the hooks. Answers how many callbacks
there are. -/
def runSlot (slot : Slot) (args : List Value) : Act Nat := do
  let scripts := (← currentHost).scripts
  let hooks := scripts.hooksOf slot
  let first ← match scripts.primary? slot with
    | some callback => do
      let _ ← runPrimary call slot callback args
      pure 1
    | none => pure 0
  return first + (← runHooks call slot hooks args)

/-- Runs the hooks of a slot as they are at the start. -/
def runSlotHooks (slot : Slot) (args : List Value) : Act Nat := do
  runHooks call slot ((← currentHost).scripts.hooksOf slot) args

/-! ## Events -/

/-- Gives an event to a frame, if it still listens for it. Answers whether a callback was run. -/
def deliver (event : String) (args : List Value) (frame : FrameId) : Act Bool := do
  if (← registry).isRegistered frame event then
    return (← runSlot call ⟨frame, .onEvent⟩ (.str event :: args)) ≠ 0
  else return false

/-- Gives an event to frames one after another and counts those where a callback was run. -/
def deliverAll (event : String) (args : List Value) : List FrameId → Act Nat
  | [] => return 0
  | frame :: frames => do
    let here ← deliver call event args frame
    let others ← deliverAll event args frames
    return (if here then 1 else 0) + others

/-- Fires an event: the frames that listen for it at the start get it, unless they have stopped to listen
by their turn. -/
def fire (event : String) (args : List Value) : Act Nat := do
  let delivered ← deliverAll call event args ((← registry).listenersOf event)
  say "EventDispatcher" .trace "event"
    ("Fired " ++ event ++ " to " ++ toString delivered ++ " listener(s)")
  return delivered

def enqueue (event : String) (args : List Value) : Act Unit := do
  onHost fun h => { h with queue := h.queue ++ [⟨event, args⟩] }
  record (.queued ⟨event, args⟩)

/-- Fires the events that are in the queue at the start. -/
def flush : Act Nat := do
  let batch := (← currentHost).queue
  onHost fun h => { h with queue := [] }
  record (.flushBegan batch)
  batch.forM fun e => do
    record (.flushed e)
    let _ ← fire call e.name e.args
  record .flushEnded
  return batch.length

def clearQueue : Act Unit := do
  (← currentHost).queue.forM fun e => record (.dropped e)
  onHost fun h => { h with queue := [] }

/-! ## Timers -/

/-- Runs a timer of a batch, unless it was cancelled before its turn. -/
def runTimer (now : Float) (id : Nat) : Act Bool := do
  match (← currentHost).timers.pending.get? id with
  | none => return false
  | some timer =>
    record (.fired id now)
    let _ ← invoke call timer.callback [] ("Timer " ++ toString id ++ " callback") "timer"
    onTimers fun t => t.rearm id
    return true

/-- Runs the timers of a batch one after another and counts those that were run. -/
def runTimers (now : Float) : List Nat → Act Nat
  | [] => return 0
  | id :: ids => do
    let here ← runTimer call now id
    let others ← runTimers now ids
    return (if here then 1 else 0) + others

/-- Runs the timers that are due. -/
def tick (now : Float) : Act Nat := do
  let (batch, timers) := (← currentHost).timers.takeDue now
  onTimers fun _ => timers
  record (.tickBegan now)
  let run ← runTimers call now batch
  record .tickEnded
  return run

/-! ## Updates -/

/-- Mutes a frame for a callback that failed. -/
def mute (frame : FrameId) (callback : String) : Act Unit := do
  onHost fun h => { h with muted := h.muted.insert frame callback }
  say "SimState" .warn "script" ("OnUpdate muted for " ++ (← currentHost).label frame)

/-- What follows the primary callback of a frame that is updated. -/
def settle (elapsed : Value) (frame : FrameId) (callback : String) (fine : Bool) : Act Bool := do
  record (.updated frame callback !fine)
  if !fine then mute frame callback
  let _ ← runSlotHooks call ⟨frame, .onUpdate⟩ [elapsed]
  return true

/-- Updates a frame: its primary callback is run unless it is muted, then its hooks. A callback that
fails is muted. Answers whether the frame was updated. -/
def updateFrame (elapsed : Value) (frame : FrameId) : Act Bool := do
  let slot : Slot := ⟨frame, .onUpdate⟩
  let h ← currentHost
  match h.scripts.primary? slot with
  | none =>
    record (.reached frame none false (h.label frame))
    return false
  | some callback =>
    if h.muted.get? frame = some callback then
      record (.reached frame (some callback) false (h.label frame))
      return false
    else
      record (.reached frame (some callback) true (h.label frame))
      onHost fun h => { h with muted := h.muted.erase frame }
      let fine ← runPrimary call slot callback [elapsed]
      settle call elapsed frame callback fine

/-- Updates frames one after another and counts those that were updated. -/
def updateAll (elapsed : Value) : List FrameId → Act Nat
  | [] => return 0
  | frame :: frames => do
    let here ← updateFrame call elapsed frame
    let others ← updateAll elapsed frames
    return (if here then 1 else 0) + others

/-- Runs the slots for what follows the updates, of frames one after another. -/
def updateLater (elapsed : Value) (frames : List FrameId) : Act Unit :=
  frames.forM fun frame => do
    record (.followed frame)
    let _ ← runSlot call ⟨frame, .onPostUpdate⟩ [elapsed]

/-- Updates the frames that are visible at the start; what is to be run after updates follows. -/
def update (elapsed : Value) : Attempt Nat := do
  let h ← currentHost
  let frames ← attempt (h.visibleWith .onUpdate)
  let later ← attempt (h.visibleWith .onPostUpdate)
  record (.updateBegan frames later h.registry)
  let updated ← updateAll call elapsed frames
  updateLater call elapsed later
  record .updateEnded
  return updated

/-- One step of the host: the clock moves, then events, timers and updates have their turn. Answers
which of them did anything. -/
def step (elapsed : Value) : Attempt (List String) := do
  if (← currentHost).clock.manual then
    let seconds ← attempt elapsed.number
    onHost fun h => { h with clock := h.clock.advance seconds }
  let events ← flush call
  let timers ← tick call (← currentHost).clock.now
  let updates ← update call elapsed
  return (if events ≠ 0 then ["events"] else []) ++ (if timers ≠ 0 then ["timers"] else []) ++
    (if updates ≠ 0 then ["update"] else [])

/-! ## The mouse -/

/-- Clicks at a point: the frontmost frame there that takes the mouse is told before, at and after the
click. -/
def click (x y button : Value) : Attempt (Option FrameId) := do
  let h ← currentHost
  match ← attempt (h.layout.frameAt? h.registry x y) with
  | none =>
    say "SimState" .trace "script"
      ("Click at (" ++ x.text h.label ++ ", " ++ y.text h.label ++ ") hit nothing")
    return none
  | some frame =>
    [Handler.preClick, .onClick, .postClick].forM fun handler => do
      let _ ← runSlot call ⟨frame, handler⟩ [button, .bool false]
    return some frame

end FrameHost.Session
