import FrameHost.Table
import FrameHost.Value.Display

/-!
# Timers

Timers wait in an agenda ordered by the time they are due, then by number. A tick takes what is due off
the agenda before it calls anything; a ticker that is to fire again goes back onto the agenda after its
call, and so waits for another tick.

A timer that was cancelled is no longer pending; what is left of it on an agenda is passed over.

* `Timers.takeDue`: the batch of a tick.
* `Timers.rearm`: what happens to a timer after its call.
-/

namespace FrameHost

/-- A timer that is pending. -/
structure Timer where
  fireAt : Float
  callback : String
  /-- The time between two calls; `none` for a timer that fires once. -/
  interval : Option Float := none
  /-- How many calls are left; `none` for a ticker without end. -/
  remaining : Option Nat := none
  deriving DecidableEq, Inhabited, Repr

/-- What a timer is after a call: one that fires again is due an interval later. -/
def Timer.next? (timer : Timer) : Option Timer :=
  match timer.interval with
  | none => none
  | some interval =>
    let again := { timer with fireAt := timer.fireAt + interval }
    match timer.remaining with
    | none => some again
    | some n => if 1 < n then some { again with remaining := some (n - 1) } else none

/-- What is known of a handle that was given out for a timer. -/
structure TimerHandle where
  cancelled : Bool := false
  /-- The timer is still pending, so that clearing all timers reaches the handle. -/
  live : Bool := true
  deriving DecidableEq, Inhabited, Repr

/-- A place on the agenda. -/
structure Due where
  time : Float
  id : Nat
  deriving DecidableEq, Inhabited, Repr

/-- Earlier time first, then lower number. -/
def Due.before (a b : Due) : Bool := a.time < b.time || (a.time == b.time && a.id < b.id)

structure Timers where
  pending : Table Nat Timer := {}
  handles : Table Nat TimerHandle := {}
  agenda : List Due := []
  /-- The last number that was given out. -/
  lastId : Nat := 0
  deriving DecidableEq, Inhabited, Repr

namespace Timers

variable (t : Timers)

/-- Puts a place onto an agenda. -/
def schedule (d : Due) : List Due → List Due
  | [] => [d]
  | e :: es => if d.before e then d :: e :: es else e :: schedule d es

/-- A delay is never negative; what is not a number counts as zero. -/
def delay (x : Float) : Float := if 0.0 < x then x else 0.0

/-- A new number. -/
def draw : Timers := { t with lastId := t.lastId + 1 }

/-- Gives out a handle for the newest number. -/
def giveHandle : Timers := { t with handles := t.handles.insert t.lastId {} }

/-- Adds a timer under the newest number. -/
def add (timer : Timer) : Timers :=
  { t with
    pending := t.pending.insert t.lastId timer
    agenda := schedule ⟨timer.fireAt, t.lastId⟩ t.agenda }

/-- A timer is no longer pending. -/
def retire (id : Nat) : Timers :=
  { t with
    pending := t.pending.erase id
    handles := t.handles.modify id fun h => { h with live := false } }

def isPending (id : Nat) : Bool := t.pending.contains id

/-- Marks a handle as cancelled. -/
def cancelHandle (id : Nat) : Timers :=
  { t with handles := t.handles.modify id fun h => { h with cancelled := true } }

/-- Cancels every timer, and every handle of a pending one. -/
def clear : Timers :=
  { t with
    pending := {}
    handles := t.handles.map fun h =>
      if h.live then { h with cancelled := true, live := false } else h
    agenda := [] }

/-- The earliest time at which a pending timer is due. -/
def nextFire? : Option Float :=
  match t.pending.values with
  | [] => none
  | x :: xs => some (xs.foldl (fun m y => if y.fireAt < m then y.fireAt else m) x.fireAt)

/-- Takes the places that are due off the agenda. -/
def takeDue (now : Float) : List Nat × Timers :=
  let due := t.agenda.takeWhile fun d => d.time ≤ now
  ((due.map (·.id)).filter t.isPending,
    { t with agenda := t.agenda.dropWhile fun d => d.time ≤ now })

/-- After its call a timer goes back onto the agenda or retires; one that is no longer pending stays
off it. -/
def rearm (id : Nat) : Timers :=
  match t.pending.get? id with
  | none => t
  | some timer =>
    match Timer.next? timer with
    | none => t.retire id
    | some again =>
      { t with
        pending := t.pending.insert id again
        agenda := schedule ⟨again.fireAt, id⟩ t.agenda }

end Timers

end FrameHost
