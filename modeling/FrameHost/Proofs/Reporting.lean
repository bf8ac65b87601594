import FrameHost.Proofs.Step.Run

/-!
# Errors are counted and told of once

Every callback that the host runs is run by `Session.invoke`, or by `Session.invokeValue` if it is any value.
An error is counted, logged and told to the error handler that is installed then; what the handler raises is
only logged. A handler may run whatever it likes meanwhile, so errors may be told of while others are.

* `Errors.Kept`: what the count of errors has to do with what happened.
* `Step.reported`: every step keeps it.
* `Session.Reports`: what running a value as a callback comes to.
* `Session.Amid.reports`: **every error is counted once and told of once, and none gets out**.
-/

namespace FrameHost

variable {scope : Scope} {σ τ : Stage} {journal ms : List Moment} {m : Moment} {message : String}
  {handler : Value} {errors : Nat}

/-! ## Errors in a journal -/

namespace Moment

/-- Whether a moment is a callback that failed: it raised an error, or could not be called. -/
def fails : Moment → Bool
  | .invoked _ _ (some _) _ | .misfired .. => true
  | _ => false

/-- Whether a moment is an error that a command reported. -/
def isReport : Moment → Bool
  | .reported .. => true
  | _ => false

/-- Whether a moment is an error, or tells the error handler of one. -/
def touchesErrors : Moment → Bool
  | .invoked _ _ raised _ => raised.isSome
  | .misfired .. | .reported .. | .alerted .. => true
  | _ => false

theorem error?_eq_none (h : m.touchesErrors = false) : m.error? = none := by
  cases m with
  | invoked callback source raised handler =>
    cases raised with
    | none => rfl
    | some text => cases h
  | misfired | reported => cases h
  | _ => rfl

theorem fails_eq_false (h : m.touchesErrors = false) : m.fails = false := by
  cases m with
  | invoked callback source raised handler =>
    cases raised with
    | none => rfl
    | some text => cases h
  | misfired => cases h
  | _ => rfl

theorem isReport_eq_false (h : m.touchesErrors = false) : m.isReport = false := by
  cases m with
  | reported => cases h
  | _ => rfl

/-- An error is that of a callback or one that a command reported, and not both. -/
theorem counted_cons {error : String × Value} (h : m.error? = some error) :
    (m :: journal).countP fails + (m :: journal).countP isReport =
      journal.countP fails + journal.countP isReport + 1 := by
  have kinds : (m.fails = true ∧ m.isReport = false) ∨ (m.fails = false ∧ m.isReport = true) := by
    cases m with
    | invoked callback source raised handler =>
      cases raised with
      | none => cases h
      | some text => exact .inl ⟨rfl, rfl⟩
    | misfired => exact .inl ⟨rfl, rfl⟩
    | reported => exact .inr ⟨rfl, rfl⟩
    | _ => cases h
  rw [List.countP_cons, List.countP_cons]
  rcases kinds with ⟨hfails, hreport⟩ | ⟨hfails, hreport⟩ <;>
    simp only [hfails, hreport, if_true, Bool.false_eq_true, if_false] <;> omega

theorem complaint_of_ne (hne : handler ≠ .null) :
    m.complaint message handler = [.alerted handler message, m] := by
  cases handler with
  | null => exact absurd rfl hne
  | _ => rfl

end Moment

/-- What the count of errors has to do with what happened. -/
structure Errors.Kept (journal : List Moment) (errors : Nat) : Prop where
  /-- Errors are counted once each: the callbacks that failed, and what commands reported. -/
  counted : errors = journal.countP Moment.fails + journal.countP Moment.isReport
  /-- If there is an error handler, what happens next after an error is that it is told of it. -/
  told : ∀ m earlier message handler, m :: earlier <:+ journal → m.error? = some (message, handler) →
    handler ≠ .null → .alerted handler message :: m :: earlier <:+ journal
  /-- It is told of nothing else. -/
  only : ∀ handler message earlier, .alerted handler message :: earlier <:+ journal →
    handler ≠ .null ∧ ∃ m before, earlier = m :: before ∧ m.error? = some (message, handler)

namespace Errors.Kept

theorem fresh : Errors.Kept [] 0 where
  counted := rfl
  told := by
    intro m earlier message handler hm
    cases List.suffix_nil.1 hm
  only := by
    intro handler message earlier hm
    cases List.suffix_nil.1 hm

/-- Whatever has nothing to do with errors may happen. -/
theorem quiet (h : Kept journal errors) (hms : ∀ m ∈ ms, m.touchesErrors = false) :
    Kept (ms ++ journal) errors where
  counted := by
    have hfails : ms.countP Moment.fails = 0 :=
      List.countP_eq_zero.2 fun m hm => by simp [Moment.fails_eq_false (hms m hm)]
    have hreports : ms.countP Moment.isReport = 0 :=
      List.countP_eq_zero.2 fun m hm => by simp [Moment.isReport_eq_false (hms m hm)]
    rw [List.countP_append, List.countP_append, hfails, hreports, Nat.zero_add, Nat.zero_add]
    exact h.counted
  told := by
    intro m earlier message handler hm herror hne
    rcases mem_or_suffix_of_suffix_append hm with hnew | hold
    · cases (Moment.error?_eq_none (hms m hnew)).symm.trans herror
    · exact (h.told m earlier message handler hold herror hne).trans (List.suffix_append ..)
  only := by
    intro handler message earlier hm
    rcases mem_or_suffix_of_suffix_append hm with hnew | hold
    · cases hms _ hnew
    · exact h.only handler message earlier hold

/-- An error is noted of which nobody is to be told. -/
theorem note (h : Kept journal errors) (herror : m.error? = some (message, .null)) :
    Kept (m :: journal) (errors + 1) where
  counted := by
    rw [Moment.counted_cons herror, ← h.counted]
  told := by
    intro m' earlier message' handler' hm herror' hne
    rcases List.suffix_cons_iff.1 hm with heq | hold
    · cases heq
      cases herror.symm.trans herror'
      exact absurd rfl hne
    · exact (h.told m' earlier message' handler' hold herror' hne).trans (List.suffix_cons ..)
  only := by
    intro handler' message' earlier hm
    rcases List.suffix_cons_iff.1 hm with heq | hold
    · cases heq
      cases herror
    · exact h.only handler' message' earlier hold

/-- An error is noted, and next that the error handler is called. -/
theorem alert (h : Kept journal errors) (herror : m.error? = some (message, handler))
    (hne : handler ≠ .null) : Kept (.alerted handler message :: m :: journal) (errors + 1) where
  counted := by
    rw [h.counted, ← Moment.counted_cons herror]
    rfl
  told := by
    intro m' earlier message' handler' hm herror' hne'
    rcases List.suffix_cons_iff.1 hm with heq | hm
    · cases heq
      cases herror'
    · rcases List.suffix_cons_iff.1 hm with heq | hold
      · cases heq
        cases herror.symm.trans herror'
        exact List.suffix_refl _
      · exact (h.told m' earlier message' handler' hold herror' hne').trans (List.suffix_append [_, _] _)
  only := by
    intro handler' message' earlier hm
    rcases List.suffix_cons_iff.1 hm with heq | hm
    · cases heq
      exact ⟨hne, m, journal, rfl, herror⟩
    · rcases List.suffix_cons_iff.1 hm with heq | hold
      · cases heq
        cases herror
      · exact h.only handler' message' earlier hold

/-- **An error is counted, and the error handler is told of it at once.** -/
theorem complain (h : Kept journal errors) (herror : m.error? = some (message, handler)) :
    Kept (m.complaint message handler ++ journal) (errors + 1) := by
  by_cases hne : handler = .null
  · subst hne
    exact h.note herror
  · rw [Moment.complaint_of_ne hne]
    exact h.alert herror hne

end Errors.Kept

/-- **Every step counts the errors and tells of them once.** -/
theorem Step.reported (h : Step scope σ τ) (hσ : Errors.Kept σ.journal σ.errors) :
    Errors.Kept τ.journal τ.errors := by
  have noted (m : Moment) (hm : m.touchesErrors = false) : Errors.Kept (m :: σ.journal) σ.errors := by
    have alone : ∀ m' ∈ [m], m'.touchesErrors = false := fun m' hm' => List.mem_singleton.1 hm' ▸ hm
    exact hσ.quiet alone
  cases h with
  | erred h => exact hσ.complain h
  | painted | created | listened | enrolled | enrolledAgain | told | primarySet | scriptsCleared | called
  | answered | returned | invoked | queued | flushBegan | flushed | flushEnded | started | cancelled
  | handleCancelled | tickBegan | fired | tickEnded | updateBegan | passedBy | reached | updated | failed
  | followed | updateEnded => exact noted _ rfl
  | queueCleared => exact hσ.quiet fun m hm => of_mem_moments hm fun _ => rfl
  | timersCleared => exact hσ.quiet fun m hm => of_mem_clearing hm rfl fun _ => rfl
  | _ => exact hσ

/-! ## Running a value as a callback -/

namespace Session

open Act

variable {s : Session} {script : Script} {depth : Nat} {call : Caller} {v : Value} {args : List Value}
  {raised : Option String}

/-- Calls a value; one that is no callback raises an error. -/
def callValue (call : Caller) (v : Value) (args : List Value) : Act (Option String) :=
  match v with
  | .callback name => call name args
  | v => return some ("'" ++ v.kindName ++ "' object is not callable")

/-- What is called when a value is: the callback that it is, or nothing. -/
inductive Attempts (args : List Value) (raised : Option String) : Value → List Call → Prop
  | called (callback : String) (answers : List Answer) :
      Attempts args raised (.callback callback) [.mk callback args answers raised]
  | uncalled {v : Value} (h : ∀ callback, v ≠ .callback callback) : Attempts args raised v []

/-- What is called when something has been run for `source`: if it raised an error, the error handler is
called once, with the message; otherwise nothing is. -/
inductive Alerts (source : String) : Option String → Value → List Call → Prop
  | fine {handler : Value} : Alerts source none handler []
  | told {text : String} {handler : Value} {calls : List Call} (raised : Option String)
      (h : Attempts [.str (source ++ ": " ++ text)] raised handler calls) :
      Alerts source (some text) handler calls

/-- What is noted once a value has been run for `source`. -/
def outcome (v : Value) (source : String) (raised : Option String) (handler : Value) : Moment :=
  match v with
  | .callback name => .invoked name source raised handler
  | v => .misfired v source handler

/-- What running a value as a callback comes to. It is called, and if it raises an error, the error handler
that is installed then is called before anything else is. The answer says whether it raised none, whatever
the error handler raised. -/
structure Reports (call : Caller) (v : Value) (args : List Value) (source category : String)
    (s : Session) : Prop where
  answer : result (invokeValue call v args source category) s = (result (callValue call v args) s).isNone
  calls : ∃ ran told, (after (invokeValue call v args source category) s).calls = s.calls ++ (ran ++ told) ∧
    Attempts args (result (callValue call v args) s) v ran ∧
    Alerts source (result (callValue call v args) s) (after (callValue call v args) s).host.onError told
  noted : outcome v source (result (callValue call v args) s) (after (callValue call v args) s).host.onError ::
    (after (callValue call v args) s).journal <:+ (after (invokeValue call v args source category) s).journal

/-- What commands call is part of their answers. -/
theorem calls_answerAll (call : Caller) (cs : List Command) (s : Session) :
    (after (answerAll call cs) s).calls = s.calls := by
  induction cs generalizing s with
  | nil => rfl
  | cons c cs ih => exact (ih (after (answer call c) s)).trans (by rw [after_answer])

/-- A callback that is run is called once, whatever its commands call. -/
theorem calls_runCallback (script : Script) (depth : Nat) (callback : String) (args : List Value)
    (s : Session) : ∃ answers,
    (after (runCallback script (depth + 1) callback args) s).calls = s.calls ++ [.mk callback args answers
      (result (runCallback script (depth + 1) callback args) s)] := by
  let began := after (countRun callback) (after (record (.called callback args s.host)) s)
  let body := script callback
    (result (countRun callback) (after (record (.called callback args s.host)) s)) args
  refine ⟨result (answerAll (runCallback script depth) body.steps) began, ?_⟩
  have kept : (after (answerAll (runCallback script depth) body.steps) began).calls = s.calls :=
    calls_answerAll ..
  exact congrArg (· ++ [Call.mk callback args _ body.raises]) kept

/-- A value that is called is called once, if it is a callback. -/
theorem calls_callValue (script : Script) (depth : Nat) (v : Value) (args : List Value) (s : Session) :
    ∃ ran, (after (callValue (runCallback script (depth + 1)) v args) s).calls = s.calls ++ ran ∧
      Attempts args (result (callValue (runCallback script (depth + 1)) v args) s) v ran := by
  cases v with
  | callback name =>
    obtain ⟨answers, hcalls⟩ := calls_runCallback script depth name args s
    exact ⟨_, hcalls, .called name answers⟩
  | _ => exact ⟨[], (List.append_nil _).symm, .uncalled (by simp)⟩

/-- The error handler is called once with the message, if it can be called. -/
theorem calls_tellHandler (script : Script) (depth : Nat) (message category : String) (s : Session) :
    ∃ raised told,
      (after (tellHandler (runCallback script (depth + 1)) message category) s).calls = s.calls ++ told ∧
      Attempts [.str message] raised s.host.onError told := by
  unfold tellHandler
  rw [after_currentHost_bind]
  cases hv : s.host.onError with
  | callback name =>
    let noted := after (record (.alerted (.callback name) message)) s
    obtain ⟨answers, hcalls⟩ := calls_runCallback script depth name [.str message] noted
    refine ⟨_, _, Eq.trans ?_ hcalls, .called name answers⟩
    dsimp only
    rw [after_bind, after_bind]
    cases result (runCallback script (depth + 1) name [.str message]) noted <;> rfl
  | _ => exact ⟨none, [], (List.append_nil _).symm, .uncalled (by simp)⟩

/-- A value that raises no error is run by calling it and noting that. -/
theorem invokeValue_fine (source category : String) (h : result (callValue call v args) s = none) :
    let ended := after (callValue call v args) s
    result (invokeValue call v args source category) s = true ∧
      after (invokeValue call v args source category) s =
        after (record (outcome v source none ended.host.onError)) ended := by
  cases v with
  | callback name =>
    have hraised : result (call name args) s = none := h
    constructor
    · rw [invokeValue, invoke, result_bind, hraised]
      rfl
    · rw [invokeValue, invoke, after_bind, hraised]
      rfl
  | _ => cases h

/-- A value that raises an error is run by calling it, noting that, and reporting the error. -/
theorem invokeValue_failed {text : String} (source category : String)
    (h : result (callValue call v args) s = some text) :
    let ended := after (callValue call v args) s
    result (invokeValue call v args source category) s = false ∧
      after (invokeValue call v args source category) s = after (do
        record (outcome v source (some text) ended.host.onError)
        reportError call (source ++ ": " ++ text) category) ended := by
  cases v with
  | callback name =>
    have hraised : result (call name args) s = some text := h
    constructor
    · rw [invokeValue, invoke, result_bind, hraised]
      rfl
    · rw [invokeValue, invoke, after_bind, hraised]
      rfl
  | _ =>
    cases h
    have quoted (kind : String) : source ++ ": '" ++ kind = source ++ ": " ++ ("'" ++ kind) := by
      rw [String.append_assoc, String.append_assoc]
      rfl
    refine ⟨rfl, ?_⟩
    rw [← String.append_assoc, ← quoted]
    rfl

theorem error?_outcome {text : String} (h : result (callValue call v args) s = some text) (source : String)
    (handler : Value) :
    (outcome v source (some text) handler).error? = some (source ++ ": " ++ text, handler) := by
  cases v with
  | callback name => rfl
  | _ =>
    cases h
    simp only [outcome, Moment.error?, String.append_assoc]
    rfl

/-- A value that is run is called, and then the error handler is, if there was an error. -/
theorem calls_invokeValue (script : Script) (depth : Nat) (v : Value) (args : List Value)
    (source category : String) (s : Session) :
    let call := runCallback script (depth + 1)
    ∃ ran told, (after (invokeValue call v args source category) s).calls = s.calls ++ (ran ++ told) ∧
      Attempts args (result (callValue call v args) s) v ran ∧
      Alerts source (result (callValue call v args) s) (after (callValue call v args) s).host.onError told := by
  intro call
  let ended := after (callValue call v args) s
  obtain ⟨ran, hran, hattempts⟩ := calls_callValue script depth v args s
  cases hraised : result (callValue call v args) s with
  | none =>
    have hafter := (invokeValue_fine source category hraised).2
    refine ⟨ran, [], ?_, hraised ▸ hattempts, .fine⟩
    rw [hafter, List.append_nil]
    exact hran
  | some text =>
    have hafter := (invokeValue_failed source category hraised).2
    let noted := after (record (outcome v source (some text) ended.host.onError)) ended
    obtain ⟨raised, told, htold, hheard⟩ : ∃ raised told,
        (after (reportError call (source ++ ": " ++ text) category) noted).calls = noted.calls ++ told ∧
          Attempts [.str (source ++ ": " ++ text)] raised noted.host.onError told :=
      calls_tellHandler script depth _ category _
    refine ⟨ran, told, ?_, hraised ▸ hattempts, .told raised hheard⟩
    rw [hafter, ← List.append_assoc, ← hran]
    exact htold

theorem invokeValue_reports
    (hscript : ∀ callback count args, ∀ c ∈ (script callback count args).steps, c.fits true = true)
    (depth : Nat) (v : Value) (args : List Value) (source category : String) (s : Session) :
    Reports (runCallback script (depth + 1)) v args source category s := by
  let call := runCallback script (depth + 1)
  have hcalls := calls_invokeValue script depth v args source category s
  cases hraised : result (callValue call v args) s with
  | none =>
    obtain ⟨hanswer, hafter⟩ := invokeValue_fine source category hraised
    refine ⟨?_, hcalls, ?_⟩
    · rw [hanswer, hraised]
      rfl
    · rw [hafter, hraised]
      exact List.suffix_refl _
  | some text =>
    obtain ⟨hanswer, hafter⟩ := invokeValue_failed source category hraised
    refine ⟨?_, hcalls, ?_⟩
    · rw [hanswer, hraised]
      rfl
    · have hcall : ∀ callback args s, Goes true (call callback args) s :=
        runCallback_goes_of_fits hscript (depth + 1)
      obtain ⟨σ, -, hσ, rest⟩ := complain_steps hcall (error?_outcome hraised source _) category []
      rw [hafter, hraised]
      exact (hσ ▸ Moment.suffix_complaint).trans rest.journal_suffix

/-- **Every error is counted once and told of once, and none gets out**, wherever a run has come and whatever
its callbacks and its error handlers do. -/
theorem Amid.reports (h : Amid true s)
    (hscript : ∀ callback count args, ∀ c ∈ (script callback count args).steps, c.fits true = true)
    (depth : Nat) (v : Value) (args : List Value) (source category : String) :
    let call := runCallback script (depth + 1)
    Errors.Kept s.journal s.host.errors ∧ Reports call v args source category s ∧
      Amid true (after (invokeValue call v args source category) s) := by
  intro call
  obtain ⟨tasks, kept⟩ := h.keep (I := fun σ => Errors.Kept σ.journal σ.errors) (fun _ => .fresh)
    fun _ _ hστ hσ => hστ.reported hσ
  have hcall : ∀ callback args s, Goes true (call callback args) s :=
    runCallback_goes_of_fits hscript (depth + 1)
  exact ⟨kept, invokeValue_reports hscript depth v args source category s,
    h.goes (invokeValue_goes hcall v args source category s)⟩

/-- The callback `fail` raises an error, and so does `tell`, which runs `fail` when it is called first. -/
def grumbling : Script := fun callback count _ =>
  if callback = "fail" then { raises := some "boom" }
  else if callback = "tell" then
    { steps := if count = 1 then [.script (.invoke (.callback "fail") [] "again" "script")] else []
      raises := some "no" }
  else {}

/-- The callback `fail` has been run, with `tell` as the error handler. -/
def grumbled : Session := runRootless grumbling
  [.script (.setErrorHandler (.callback "tell")), .script (.invoke (.callback "fail") [] "first" "script")]

theorem grumbling_fits (callback : String) (count : Nat) (args : List Value) :
    ∀ c ∈ (grumbling callback count args).steps, c.fits true = true := by
  unfold grumbling
  split
  · decide
  · split
    · dsimp only
      split <;> decide
    · decide

/-- The error handler fails twice, and one of its own commands does once; two errors are counted. -/
theorem reports_grumbled : Amid true grumbled ∧ grumbled.host.errors = 2 ∧
    let call := caller grumbling
    Errors.Kept grumbled.journal grumbled.host.errors ∧
      Reports call (.callback "fail") [] "last" "script" grumbled ∧
      Amid true (after (invokeValue call (.callback "fail") [] "last" "script") grumbled) :=
  have amid : Amid true grumbled := (ran_runRootless grumbling_fits (by decide)).within.amid
  ⟨amid, by decide +kernel, amid.reports grumbling_fits 399 (.callback "fail") [] "last" "script"⟩

end Session

end FrameHost
