import FrameHost.Boot

/-!
# What commands do

`Session.perform` carries a command out, family by family; `Session.answer` also collects the callbacks
that ran meanwhile.
-/

namespace FrameHost.Session

variable (call : Caller)

def valued (v : Value) : Reply := .value v

def counted (n : Nat) : Reply := .value (.int n)

def nothing : Reply := .value .null

/-! ## Names -/

/-- What a name stands for. -/
def named : NameCommand → Act Reply
  | .widget name =>
    return match WidgetType.ofValue? name with
      | some type => valued (.list [.str type.name, .bool type.isRegion])
      | none => nothing
  | .anchor name => return valued (.ofText? ((AnchorPoint.ofValue? name).map AnchorPoint.name))
  | .handler name => return valued (.ofText? ((Handler.ofValue? name).map Handler.name))
  | .attribute value =>
    let a := AttributeValue.wrap value
    return valued (.list [a.toValue, a.unwrap, .bool true])

/-! ## Frames -/

/-- Whether two handles are the same: as objects, as values, the first as itself, and as a set. Frames
have one handle each. -/
def compareHandles (h : Host) (a b : Option FrameId) : Value :=
  let live (id : Option FrameId) : Option FrameId := id.filter h.registry.contains
  let same := live a = live b
  .list [.bool same, .bool same, .bool true, .int (if same then 1 else 2)]

/-- An act through the handle of a frame; where there is no handle the answer says so. -/
def throughHandle (id : Option FrameId) (act : FrameId → Attempt Reply) : Attempt Reply := do
  match id.filter (← registry).contains with
  | some id => act id
  | none => return valued (.str "no handle")

def performFrame : FrameCommand → Attempt Reply
  | .create type name parent template scripts => do
    let parent := parent.resolve (← registry)
    return valued (.ofId? (← create call type name parent template scripts))
  | .createHandle type name parent template scripts => do
    let parent := parent.resolve (← registry)
    let id ← create call type name parent template scripts
    return valued ((← currentHost).handle? id)
  | .act id a => frameAction call id a
  | .slot id a => slotAction id a
  | .throughHandle id a => throughHandle id fun id => handleAction call id a
  | .slotThroughHandle id a => throughHandle id fun id => slotAction (some id) a
  | .handleOf id => return valued ((← currentHost).handle? id)
  | .handleNamed name => do
    let h ← currentHost
    return valued (h.handle? (h.registry.idOfName? name))
  | .sameHandle a b => return valued (compareHandles (← currentHost) a b)
  | .showHandle id => do
    let h ← currentHost
    return valued (.str ((h.handle? id).display h.label))
  | .describe id => return valued (.str ((← registry).describe id))
  | .rectOf id => do
    let h ← currentHost
    return .rect (← attempt (h.layout.frameRect h.registry id))
  | .screen => return .rect (← attempt (← currentHost).layout.screen)
  | .frameAt x y => do
    let h ← currentHost
    return valued (.ofId? (← attempt (h.layout.frameAt? h.registry x y)))
  | .pointOn point x y width height => do
    match AnchorPoint.ofValue? point with
    | none => throw .missingPart
    | some p =>
      let (px, py) := Rect.pointAt p (← attempt x.number) (← attempt y.number)
        (← attempt width.number) (← attempt height.number)
      return valued (.list [.float px, .float py])

/-! ## The registry -/

def framed (r : Registry) (id : Option FrameId) : Reply :=
  match id, r.at? id with
  | some id, some f => .frame id f
  | _, _ => nothing

/-- What a question about two ids answers; an id that is missing is like no other. -/
def between (a b : Option FrameId) (test : FrameId → FrameId → Bool) : Bool :=
  match a, b with
  | some a, some b => test a b
  | _, _ => false

/-- What a question about an id answers, and what it answers when the id is missing. -/
def about {α : Type} (id : Option FrameId) (missing : α) (f : FrameId → α) : α :=
  (id.map f).getD missing

def performRegistry : RegistryCommand → Attempt Reply
  | .register id f => do
    let wanted ← match id with
      | some id => pure id
      | none => drawId
    let last := (← get).lastId
    let id ← register wanted f
    record (.enrolled wanted last (← registry))
    return valued (.int id)
  | .registerAgain id => do
    match id with
    | none => throw .missingPart
    | some id =>
      match ← registerAgain id with
      | some id =>
        record (.tuned (← registry))
        return valued (.int id)
      | none => throw .missingPart
  | .addChild parent child => do
    match parent, child with
    | some parent, some child => onRegistry fun r => r.addChild parent child
    | some parent, none => onRegistry fun r => r.touch parent
    | none, _ => pure ()
    return nothing
  | .removeChild parent child => do
    match parent, child with
    | some parent, some child => onRegistry fun r => r.removeChild parent child
    | some parent, none => onRegistry fun r => r.touch parent
    | none, _ => pure ()
    return nothing
  | .get id => return framed (← registry) id
  | .getMutable id => do
    if let some id := id then onRegistry fun r => r.touch id
    return framed (← registry) id
  | .getNamed name => do
    let r ← registry
    return framed r (r.idOfName? name)
  | .idNamed name => return valued (.ofId? ((← registry).idOfName? name))
  | .ids => return valued (.wholes (← registry).ids)
  | .size => return counted (← registry).size
  | .contains id => return said (about id false (← registry).contains)
  | .isAncestor ancestor id => return said (between ancestor id (← registry).isAncestor)
  | .depth id => return counted (about id 0 (← registry).depth)
  | .isVisible id => return said (about id false (← registry).isVisible)
  | .descendants id => return valued (.wholes (about id [] (← registry).descendants))
  | .registerEvent id event => do
    let r ← registry
    retune fun r => about id r fun id => r.registerEvent id event
    return said (about id false r.contains)
  | .listeners event => return valued (.wholes ((← registry).listenersOf event))
  | .anchorTargets id => return valued (.wholes (about id [] (← registry).anchorTargets))
  | .wouldLoop id candidate =>
    return said (id == candidate || between id candidate (← registry).wouldLoop)
  | .markDirty => do
    onRegistry Registry.markDirty
    return nothing
  | .takeDirty => do
    let r ← registry
    record (.painted r)
    onRegistry Registry.clearDirty
    return said r.dirty

/-! ## Scripts -/

/-- The slot of an id for a handler, if there is such a handler. -/
def slotOf (id : Option FrameId) (handler : Value) : Option Slot :=
  (Handler.ofValue? handler).map fun handler => ⟨id, handler⟩

def performScript : ScriptCommand → Attempt Reply
  | .clear id => do
    onScripts fun t => t.clear id
    record (.scriptsCleared id)
    return nothing
  | .framesWith handler => do
    let t := (← currentHost).scripts
    match Handler.ofValue? handler with
    | some handler => return valued (.list ((← attempt (t.holders handler)).map Value.ofId?))
    | none => return valued (.list [])
  | .hooksOf id handler => do
    let t := (← currentHost).scripts
    return valued (.list ((((slotOf id handler).map t.hooksOf).getD []).map .callback))
  | .run id handler args => do
    match slotOf id handler with
    | some slot => return counted (← runSlot call slot args)
    | none => return counted 0
  | .runHooks id handler args => do
    match slotOf id handler with
    | some slot => return counted (← runSlotHooks call slot args)
    | none => return counted 0
  | .invoke callback args source category =>
    return said (← invokeValue call callback args source category)
  | .reportError message category => do
    record (.reported message (← currentHost).onError)
    reportError call message category
    return nothing
  | .errorCount => return counted (← currentHost).errors
  | .setErrorHandler handler => do
    onHost fun h => { h with onError := handler }
    return nothing

/-! ## Events -/

def performEvent : EventCommand → Act Reply
  | .fire event args => return counted (← fire call event args)
  | .enqueue event args => do
    enqueue event args
    return nothing
  | .flush => return counted (← flush call)
  | .pending => return counted (← currentHost).queue.length
  | .clearQueue => do
    clearQueue
    return nothing

/-! ## Timers -/

/-- The callback of a timer; a value that cannot be called is refused, and the log says so. -/
def timerCallback? (callback : Value) : Act (Option String) := do
  match callback.callback? with
  | some name => return some name
  | none =>
    say "TimerScheduler" .warn "timer"
      ("Ignored timer with non-callable callback " ++ callback.display (← currentHost).label)
    return none

/-- When a timer is due that is started now. -/
def dueIn (delay : Value) : Attempt Float := do
  return (← currentHost).clock.now + Timers.delay (← attempt delay.toFloat)

/-- Adds a timer under the number that was drawn last. -/
def addTimer (timer : Timer) : Act Unit := do
  onTimers fun t => t.add timer
  record (.started (← currentHost).timers.lastId timer)

def newestHandle : Act Reply := do return .timer (← currentHost).timers.lastId false

/-- How often a ticker is to fire; `none` is without end. A double goes down by one with each call, until it is
not positive. It never is if it is above 2^53 after the first call: doubles lie too far apart there. -/
def iterationsOf (v : Value) : Except Fault (Option Nat) :=
  match v with
  | .null => .ok none
  | .int n => .ok (if 0 < n then some n.toNat else none)
  | .bool b => .ok (if b then some 1 else none)
  | .float x =>
    let left := x - 1.0
    if !(0.0 < x) || 9007199254740992.0 < left then .ok none
    else match Value.truncate left with
      | .ok n => .ok (some (1 + if Float.ofInt n < left then n.toNat + 1 else n.toNat))
      | .error _ => .ok none
  | _ => .error .wrongKind

/-- Starts a timer that fires once. -/
def startTimer (delay callback : Value) (withHandle : Bool) : Attempt Reply := do
  match ← timerCallback? callback with
  | none => return nothing
  | some callback =>
    onTimers Timers.draw
    let fireAt ← dueIn delay
    if withHandle then onTimers Timers.giveHandle
    addTimer { fireAt, callback }
    if withHandle then newestHandle else return nothing

/-- Starts a timer that fires again and again. -/
def startTicker (interval callback iterations : Value) : Attempt Reply := do
  match ← timerCallback? callback with
  | none => return nothing
  | some callback =>
    let interval := Timers.delay (← attempt interval.toFloat)
    let remaining ← attempt (iterationsOf iterations)
    onTimers fun t => t.draw.giveHandle
    addTimer { fireAt := ← dueIn (.float interval), callback, interval := some interval, remaining }
    newestHandle

/-- Cancels a pending timer. Answers whether there was one. -/
def cancelTimer (id : Int) : Act Bool := do
  let t := (← currentHost).timers
  if 0 ≤ id && t.isPending id.toNat then
    onTimers fun t => t.retire id.toNat
    record (.stopped id.toNat)
    say "TimerScheduler" .trace "timer" ("Cancelled timer " ++ showInt id)
    return true
  else return false

/-- Cancels every pending timer. -/
def clearTimers : Act Unit := do
  let ids := (← currentHost).timers.pending.keys
  ids.forM fun id => record (.stopped id)
  record (.cleared ids)
  onTimers Timers.clear

def timerHandle (id : Int) : Attempt TimerHandle := do
  let t := (← currentHost).timers
  match if 0 ≤ id then t.handles.get? id.toNat else none with
  | some handle => return handle
  | none => throw .missingPart

/-- Runs what is due; the time is that of the clock unless it is given. -/
def tickAt (now : Value) : Attempt Nat := do
  let h ← currentHost
  match now with
  | .null => tick call h.clock.now
  | v =>
    if h.timers.agenda.isEmpty then return 0
    tick call (← attempt v.number)

def performTimer : TimerCommand → Attempt Reply
  | .after delay callback => startTimer delay callback false
  | .start delay callback => startTimer delay callback true
  | .startTicker interval callback iterations => startTicker interval callback iterations
  | .tick now => return counted (← tickAt call now)
  | .hasPending => return said !(← currentHost).timers.pending.isEmpty
  | .countPending => return counted (← currentHost).timers.pending.size
  | .nextFire =>
    return valued (((← currentHost).timers.nextFire?.map Value.float).getD .null)
  | .clear => do
    clearTimers
    return nothing
  | .cancel id => return said (← cancelTimer id)
  | .cancelHandle id => do
    let _ ← timerHandle id
    onTimers fun t => t.cancelHandle id.toNat
    record (.handleCancelled id.toNat)
    let _ ← cancelTimer id
    return nothing
  | .isCancelled id => return said (← timerHandle id).cancelled
  | .showHandle id => do
    let handle ← timerHandle id
    return valued (.str ("TimerHandle(id=" ++ showInt id ++ ", cancelled=" ++
      showBool handle.cancelled ++ ")"))
  | .now => return valued (.float (← currentHost).clock.now)
  | .advance seconds => do
    let seconds ← attempt seconds.number
    onHost fun h => { h with clock := h.clock.advance seconds }
    return valued (.float (← currentHost).clock.now)
  | .setClock now => do
    let now ← attempt now.toFloat
    onHost fun h => { h with clock := h.clock.jump now }
    return nothing

/-! ## The host -/

def performHost : HostCommand → Attempt Reply
  | .update elapsed => return counted (← update call elapsed)
  | .step elapsed => return valued (.texts (← step call elapsed))
  | .click x y button => return valued (.ofId? (← click call x y button))
  | .root => return valued (.ofId? (← currentHost).root)
  | .config => return valued (.map (← currentHost).config)
  | .isShared => return said (← isShared)
  | .forgetShared => do
    forgetShared
    return nothing
  | .useShared => do
    useShared
    return valued (.ofId? (← currentHost).root)

/-! ## Templates, configuration and log -/

def performTemplate : TemplateCommand → Attempt Reply
  | .register name data => return said (← registerTemplate name data)
  | .load filename => do
    match filename with
    | .str s => return counted (← loadTemplates s)
    | _ => throw .wrongKind
  | .info name => do
    match ← templateInfo name with
    | some info => return .template info
    | none => return nothing
  | .contains name => return said ((← currentHost).catalog.contains name)
  | .names => return valued (.texts (← currentHost).catalog.names)

def rebuildIndex : Act Unit := do
  let s ← get
  let (store, note) := s.store.rebuild
  set { s with store }
  sayNotes "ConfigManager" [note]

def onFiles (f : Files → Files) : Act Unit :=
  modify fun s => { s with store := { s.store with files := f s.store.files } }

def performConfig : ConfigCommand → Attempt Reply
  | .load filename defaults strict => do
    match filename with
    | .str s => return valued (← loadConfig s defaults strict.isTrue)
    | _ => throw .wrongKind
  | .merge defaults override => do
    return valued (.list [← attempt (Config.mergeValue defaults override), .bool true])
  | .buildIndex => do
    rebuildIndex
    return nothing
  | .search directories => do
    modify fun s => { s with store := { s.store with searched := directories } }
    return nothing
  | .write path content => do
    onFiles fun files => files.write path content
    return nothing
  | .remove path => do
    onFiles fun files => files.remove path
    return nothing

/-- The name under which a session writes to the log. -/
def sourceName : String := "Session"

def performLog : LogCommand → Attempt Reply
  | .apply config => do
    configureLog config
    return nothing
  | .settings => return valued (← get).log.settings
  | .say tag message category => do
    say sourceName tag category message
    return nothing
  | .admits category tag => return said ((← get).log.admitsNamed category tag)
  | .heading title => do
    onLog fun log => log.heading title
    return nothing
  | .entry name status => do
    onLog fun log => log.entry name status
    return nothing
  | .detail text depth => do
    onLog fun log => log.detail text depth
    return nothing

/-! ## Commands -/

/-- Carries out a command whose values are as they are meant. -/
def performMeant : Command → Attempt Reply
  | .name c => named c
  | .frame c => performFrame call c
  | .registry c => performRegistry c
  | .script c => performScript call c
  | .event c => performEvent call c
  | .timer c => performTimer call c
  | .host c => performHost call c
  | .template c => performTemplate c
  | .config c => performConfig c
  | .log c => performLog c

def perform (c : Command) : Attempt Reply := do
  performMeant call (c.meant (← registry))

/-- Carries out a command and collects the callbacks that ran meanwhile. -/
def answer (c : Command) : Act Answer := do
  let before ← takeCalls
  let outcome ← (perform call c).run
  let calls ← takeCalls
  modify fun s => { s with calls := before }
  record (.answered c outcome (← currentHost))
  return .mk outcome calls

end FrameHost.Session
