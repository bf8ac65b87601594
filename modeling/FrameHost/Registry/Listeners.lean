import FrameHost.Registry.Basic

/-!
# Listening for events

A frame listens for named events, or for every event. Each registration is kept at the frame and, with
the moment it was made, in the registry; listeners are ordered by their earliest live registration.
-/

namespace FrameHost.Registry

variable (r : Registry)

/-- A frame begins to listen for an event. One that listens for it already keeps its place. -/
def registerEvent (id : FrameId) (event : String) : Registry :=
  match r.get? id with
  | none => r
  | some f =>
    if f.events.contains event then r
    else
      let r := (r.update id fun f => { f with events := f.events ++ [event] }).tick
      let table := (r.listeners.get? event).getD {}
      { r with listeners := r.listeners.insert event (table.insert id r.moment) }

def unregisterEvent (id : FrameId) (event : String) : Registry :=
  if r.contains id then
    let r := r.update id fun f => { f with events := f.events.filter (· ≠ event) }
    match r.listeners.get? event with
    | none => r
    | some table =>
      let table := table.erase id
      { r with listeners :=
          if table.isEmpty then r.listeners.erase event else r.listeners.insert event table }
  else r

def registerAllEvents (id : FrameId) : Registry :=
  match r.get? id with
  | none => r
  | some f =>
    if f.allEvents then r
    else
      let r := (r.update id fun f => { f with allEvents := true }).tick
      { r with allListeners := r.allListeners.insert id r.moment }

def unregisterAllEvents (id : FrameId) : Registry :=
  match r.get? id with
  | none => r
  | some f =>
    let r := f.events.foldl (fun r event => r.unregisterEvent id event) r
    let r := r.update id fun f => { f with allEvents := false }
    { r with allListeners := r.allListeners.erase id }

/-- When each listener of an event began to listen: the earlier of its two registrations. -/
def listenerMoments (event : String) : Table FrameId Nat :=
  ((r.listeners.get? event).getD {}).entries.foldl
    (fun t e => t.insert e.1 (min e.2 ((t.get? e.1).getD e.2))) r.allListeners

/-- The frames that listen for an event, in the order in which they began to. -/
def listenersOf (event : String) : List FrameId :=
  ((r.listenerMoments event).entries.mergeSort fun a b => decide (a.2 ≤ b.2)).map (·.1)

/-- Whether an event reaches a frame. -/
def isRegistered (id : FrameId) (event : String) : Bool :=
  (r.get? id).any (·.listensFor event)

end FrameHost.Registry
