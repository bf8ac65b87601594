import FrameHost.Perform

/-!
# Running sessions

The callbacks of a session do what its script says: the commands of a callback are carried out like those
of a caller, and may run callbacks in turn. `Session.runCallback` ties this knot for runs that are nested
no deeper than a bound; a callback beyond it raises an error.

* `Session.start`: sets a session up.
* `Session.run`: carries out a command.
-/

namespace FrameHost.Session

/-- How deep runs of callbacks may be nested. -/
def depthLimit : Nat := 400

/-- What a callback raises that is nested too deep. -/
def tooDeep : String := "maximum recursion depth exceeded"

def countRun (callback : String) : Act Nat :=
  modifyGet fun s =>
    let n := (s.counts.get? callback).getD 0 + 1
    (n, { s with counts := s.counts.insert callback n })

def answerAll (call : Caller) : List Command → Act (List Answer)
  | [] => return []
  | c :: cs => do
    let first ← answer call c
    let others ← answerAll call cs
    return first :: others

/-- Runs a callback as the script says. -/
def runCallback (script : Script) : (depth : Nat) → Caller
  | 0 => fun _ _ => return some tooDeep
  | depth + 1 => fun callback args => do
    record (.called callback args (← currentHost))
    let body := script callback (← countRun callback) args
    let answers ← answerAll (runCallback script depth) body.steps
    modify fun s => { s with calls := s.calls ++ [.mk callback args answers body.raises] }
    record (.returned callback body.raises)
    return body.raises

def caller (script : Script) : Caller := runCallback script depthLimit

/-- Carries out a command that the caller of a session gives. -/
def run (script : Script) (c : Command) : Act Answer := answer (caller script) c

/-- The host that a session starts with. -/
inductive Origin
  /-- There is no host; frames, scripts and timers are not asked for. -/
  | bare
  /-- A host of the session's own. -/
  | planned (plan : Plan)
  /-- The host that callers share. -/
  | shared
  deriving Inhabited

/-- Builds the host that a session starts with. -/
def settleIn : Origin → Attempt Unit
  | .bare => return
  | .planned plan => build plan
  | .shared => useShared

/-- Sets a session up: its log is configured first if it is on, then its host is built. -/
def start (logging : Option Value) (origin : Origin) : Attempt Unit := do
  if let some config := logging then
    onLog fun log => { log with enabled := true }
    configureLog config
    onLog fun log => { log with source := Log.flag (config.entries?.getD []) "source" true }
  settleIn origin

end FrameHost.Session
