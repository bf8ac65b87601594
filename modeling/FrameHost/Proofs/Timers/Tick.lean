import FrameHost.Proofs.Timers.Batch

/-!
# What one tick calls

A tick takes the timers that are due off the agenda and then comes to one after another. Callbacks may raise
errors, start, cancel and clear timers, and tick again; but a timer that has been taken is nowhere that they
could call it from, so when its turn comes it is as it was, or it was stopped.

* `Stage.Aside`: a timer that a tick has yet to come to.
* `Step.aside`: **nothing can be done to such a timer but to stop it**.
* `Session.Turns`: the turns of a batch.
* `Session.turns_of_aside`: a tick that runs a batch takes them.
* `Session.Ran.tick_calls`: **what one tick calls, whenever a host is met between ticks**.
-/

namespace FrameHost

variable {raw : Bool} {σ τ : Stage} {x id : Nat} {timer : Timer} {before : List Moment} {now : Float}

/-- A timer that goes back onto the agenda keeps its number. -/
theorem Timers.lastId_rearm (t : Timers) (id : Nat) : (t.rearm id).lastId = t.lastId := by
  unfold rearm
  split
  · rfl
  · split <;> rfl

namespace Stage

/-! ## Timers that a tick has yet to come to -/

/-- A timer that a tick has yet to come to, which began after what happened `before`: it is still pending
but has no place from which it could be called, or it was stopped meanwhile. -/
inductive Aside (before : List Moment) (x : Nat) (timer : Timer) (σ : Stage) : Prop
  | kept (during : List Moment) (hj : σ.journal = during ++ before) (hs : .stopped x ∉ during)
      (hn : x ≤ σ.timers.lastId) (hp : σ.timers.pending.get? x = some timer)
      (he : σ.timers.entries x = []) (ht : turnsOf x σ.tasks = []) (hc : callingsOf x σ.tasks = 0)
  | stopped (during : List Moment) (hj : σ.journal = during ++ before) (hs : .stopped x ∈ during)
      (hn : x ≤ σ.timers.lastId) (hp : σ.timers.pending.get? x = none)

theorem Concerns.lastId_le (h : σ.Concerns x τ) : σ.timers.lastId ≤ τ.timers.lastId := by
  cases h with
  | same h => exact h.numbered
  | started timer hp ha hn => exact Nat.le_of_lt (by simp [Timers.add, hn])
  | stopped hp ht hn hms hid => exact Nat.le_of_eq hn.symm
  | @rearmed y => exact Nat.le_of_eq (σ.timers.lastId_rearm y).symm
  | _ => exact Nat.le_refl _

/-- A number that has no timer any more never has one again. -/
theorem Concerns.pending_eq_none (h : σ.Concerns x τ) (hn : x ≤ σ.timers.lastId)
    (hp : σ.timers.pending.get? x = none) : τ.timers.pending.get? x = none := by
  cases h with
  | same h => exact h.pending.trans hp
  | started timer hp' ha hlast =>
    exact (Table.get?_insert_of_ne _ _ (by omega)).trans ((congrArg (Table.get? · x) hp').trans hp)
  | stopped hp' ht hlast hms hid => exact ht
  | cleared => rfl
  | tickBegan | passedOver | fired => exact hp
  | @rearmed y tasks ht =>
    by_cases hy : y = x
    · subst hy
      have off : σ.timers.rearm y = σ.timers := by simp only [Timers.rearm, hp]
      exact (congrArg (·.pending.get? y) off).trans hp
    · exact (σ.timers.rearm_of_ne hy).1.trans hp

end Stage

/-- **Nothing can be done to a timer that a tick has yet to come to but to stop it.** -/
theorem Step.aside (h : Step raw σ τ) (hσ : σ.Aside before x timer) : τ.Aside before x timer := by
  have hlast : σ.timers.lastId ≤ τ.timers.lastId := (h.concerns x).lastId_le
  cases hσ with
  | stopped during hj hs hn hp =>
    obtain ⟨ms, hms⟩ := h.journal_suffix
    refine .stopped (ms ++ during) ?_ (List.mem_append_right ms hs) (Nat.le_trans hn hlast) ?_
    · rw [← hms, hj, List.append_assoc]
    · exact (h.concerns x).pending_eq_none hn hp
  | kept during hj hs hn hp he ht hc =>
    have hn' : x ≤ τ.timers.lastId := Nat.le_trans hn hlast
    -- a turn or a call that is under way is not one of the timer
    have turn_ne {now : Float} {y : Nat} {rest : List Nat} {tasks : List Task}
        (hy : σ.tasks = .ticking now (y :: rest) :: tasks) : y ≠ x := by
      rintro rfl
      rw [hy, turnsOf_cons] at ht
      simp [Task.turns] at ht
    have call_ne {y : Nat} {tasks : List Task} (hy : σ.tasks = .calling y :: tasks) : y ≠ x := by
      rintro rfl
      rw [hy, callingsOf_cons] at hc
      simp [Task.isCallOf] at hc
    cases h.concerns x with
    | same h =>
      obtain ⟨ms, hms, silent⟩ := h.journal
      refine .kept (ms ++ during) ?_ ?_ hn' (h.pending.trans hp) (h.entries.trans he)
        (h.turns.trans ht) (h.callings.trans hc)
      · rw [hms, hj, List.append_assoc]
      · intro hmem
        rcases List.mem_append.1 hmem with hmem | hmem
        · exact silent _ hmem rfl
        · exact hs hmem
    | started other hp' ha hlast' =>
      have hne : x ≠ σ.timers.lastId + 1 := by omega
      rw [← hlast'] at hne
      refine .kept (_ :: during) (congrArg _ hj) (by simpa using hs) hn' ?_ ?_ ht hc
      · exact (Table.get?_insert_of_ne _ _ hne).trans ((congrArg (Table.get? · x) hp').trans hp)
      · refine (Timers.filter_schedule_of_neg (by simpa using hne.symm)).trans ?_
        rw [ha]
        exact he
    | @stopped _ _ ms hp' ht' hlast' hms hid =>
      refine .stopped (ms ++ during) ?_ (List.mem_append_left _ hid) hn' ht'
      rw [hj, List.append_assoc]
    | cleared hp' => cases hp.symm.trans hp'
    | tickBegan now =>
      have pending : σ.timers.isPending x = true := congrArg Option.isSome hp
      obtain ⟨hdue, hrest⟩ :=
        List.append_eq_nil_iff.1 ((Stage.entries_takeDue σ.timers now x).symm.trans he)
      refine .kept (_ :: during) (congrArg _ hj) (by simpa using hs) hn' hp hrest ?_ hc
      refine turnsOf_cons_eq_nil.2 ⟨?_, ht⟩
      rw [Stage.turns_takeDue now pending, hdue]
      rfl
    | passedOver hy hp' =>
      rw [hy] at ht hc
      refine .kept during hj hs hn' hp he ?_ hc
      rwa [turnsOf_cons, Stage.turns_of_ne (turn_ne hy), ← turnsOf_cons] at ht
    | @fired now y rest tasks other hy hp' =>
      have hne := turn_ne hy
      rw [hy] at ht hc
      refine .kept (_ :: during) (congrArg _ hj) (by simpa using hs) hn' hp he ?_ ?_
      · rw [turnsOf_cons, Stage.turns_of_ne hne, ← turnsOf_cons] at ht
        exact ht
      · have other : Task.isCallOf x (.calling y) = false := by simpa [Task.isCallOf] using hne
        rw [callingsOf_cons, other]
        exact hc
    | @rearmed y tasks hy =>
      have hne := call_ne hy
      obtain ⟨hpending, hentries, -⟩ := σ.timers.rearm_of_ne hne
      rw [hy] at ht hc
      refine .kept during hj hs hn' (hpending.trans hp) (hentries.trans he) ht ?_
      rw [callingsOf_cons] at hc
      exact Nat.eq_zero_of_add_eq_zero_right hc

namespace Stage.Aside

/-- What happens to other timers is noted. -/
theorem note (h : σ.Aside before x timer) {m : Moment} (hm : m ≠ .stopped x) :
    (σ.note m).Aside before x timer := by
  cases h with
  | kept during hj hs hn hp he ht hc =>
    refine .kept (m :: during) (congrArg _ hj) (fun hmem => ?_) hn hp he ht hc
    rcases List.mem_cons.1 hmem with rfl | hmem
    · exact hm rfl
    · exact hs hmem
  | stopped during hj hs hn hp =>
    exact .stopped (m :: during) (congrArg _ hj) (List.mem_cons_of_mem m hs) hn hp

/-- Other timers go back onto the agenda. -/
theorem rearm (h : σ.Aside before x timer) (hne : id ≠ x) :
    Aside before x timer { σ with timers := σ.timers.rearm id } := by
  obtain ⟨hpending, hentries, hlast⟩ := σ.timers.rearm_of_ne hne
  cases h with
  | kept during hj hs hn hp he ht hc =>
    exact .kept during hj hs (Nat.le_trans hn hlast) (hpending.trans hp) (hentries.trans he) ht hc
  | stopped during hj hs hn hp =>
    exact .stopped during hj hs (Nat.le_trans hn hlast) (hpending.trans hp)

end Stage.Aside

namespace Session

open Act

variable {s t : Session} {call : Caller}

/-! ## Turns -/

/-- The turns of a batch, in a tick that began after what happened `before`: a timer is called when its turn
comes, unless it was stopped meanwhile; then it is pending no longer. -/
inductive Turns (call : Caller) (now : Float) (before : List Moment) :
    Session → List (Nat × Timer) → List (Nat × Timer) → Session → Prop
  | done {s : Session} : Turns call now before s [] [] s
  | called {s s' : Session} {id : Nat} {timer : Timer} {batch called : List (Nat × Timer)}
      {during : List Moment} (hj : s.journal = during ++ before) (hs : .stopped id ∉ during)
      (hp : s.host.timers.pending.get? id = some timer)
      (rest : Turns call now before (after (callTimer call now id timer.callback) s) batch called s') :
      Turns call now before s ((id, timer) :: batch) ((id, timer) :: called) s'
  | passedOver {s s' : Session} {id : Nat} {timer : Timer} {batch called : List (Nat × Timer)}
      {during : List Moment} (hj : s.journal = during ++ before) (hs : .stopped id ∈ during)
      (hp : s.host.timers.pending.get? id = none)
      (rest : Turns call now before s batch called s') :
      Turns call now before s ((id, timer) :: batch) called s'

/-- A timer that is called leaves alone what the tick has yet to come to. -/
theorem callTimer_aside (hcall : ∀ callback args s, Goes true (call callback args) s) (now : Float)
    (callback : String) (hne : id ≠ x) (h : (s.stage []).Aside before x timer) :
    ((after (callTimer call now id callback) s).stage []).Aside before x timer := by
  let source := "Timer " ++ toString id ++ " callback"
  have fired : ((after (record (.fired id now)) s).stage []).Aside before x timer :=
    h.note (by simp)
  have invoked := ((invoke_goes hcall callback [] source "timer" _).steps []).keep
    (P := fun σ => σ.Aside before x timer) (fun _ _ h => h.aside) fired
  exact invoked.rearm hne

/-- **A tick that runs a batch takes its turns**, and counts those that were called. -/
theorem turns_of_aside (hcall : ∀ callback args s, Goes true (call callback args) s) (now : Float)
    {batch : List (Nat × Timer)} (hnd : (batch.map (·.1)).Nodup)
    (h : ∀ id timer, (id, timer) ∈ batch → (s.stage []).Aside before id timer) : ∃ called,
    Turns call now before s batch called (after (runTimers call now (batch.map (·.1))) s) ∧
      result (runTimers call now (batch.map (·.1))) s = called.length := by
  induction batch generalizing s with
  | nil => exact ⟨[], .done, rfl⟩
  | cons first batch ih =>
    obtain ⟨id, timer⟩ := first
    obtain ⟨hfresh, hnd⟩ := List.nodup_cons.1 hnd
    let rest := runTimers call now (batch.map (·.1))
    have left : after (runTimers call now (((id, timer) :: batch).map (·.1))) s =
        after rest (after (runTimer call now id) s) := rfl
    have count : result (runTimers call now (((id, timer) :: batch).map (·.1))) s =
        (if result (runTimer call now id) s then 1 else 0) +
          result rest (after (runTimer call now id) s) := rfl
    rw [left, count]
    cases h id timer List.mem_cons_self with
    | kept during hj hs hn hp =>
      obtain ⟨hafter, hresult⟩ := runTimer_of_pending call now hp
      have others : ∀ y other, (y, other) ∈ batch →
          ((after (callTimer call now id timer.callback) s).stage []).Aside before y other := by
        intro y other hy
        have hne : id ≠ y := by
          rintro rfl
          exact hfresh (List.mem_map_of_mem (f := (·.1)) hy)
        exact callTimer_aside hcall now timer.callback hne (h y other (List.mem_cons_of_mem _ hy))
      obtain ⟨called, turns, hcount⟩ := ih hnd others
      rw [hafter, hresult]
      refine ⟨(id, timer) :: called, .called hj hs hp turns, ?_⟩
      rw [if_pos rfl, hcount, List.length_cons, Nat.add_comm]
    | stopped during hj hs hn hp =>
      obtain ⟨hafter, hresult⟩ := runTimer_of_absent call now hp
      obtain ⟨called, turns, hcount⟩ := ih hnd fun y other hy => h y other (List.mem_cons_of_mem _ hy)
      rw [hafter, hresult]
      refine ⟨called, .passedOver hj hs hp turns, ?_⟩
      rw [if_neg (by simp), hcount, Nat.zero_add]

/-- The first timer of a batch is called. -/
theorem Turns.eq_nil_iff {batch called : List (Nat × Timer)} {s' : Session}
    (h : Turns call now s.journal s batch called s') : called = [] ↔ batch = [] := by
  cases h with
  | done => exact .rfl
  | called => simp
  | passedOver hj hs =>
    cases List.self_eq_append_left.1 hj
    cases hs

/-! ## Runs -/

/-- **What one tick calls, whenever the host of a run is met between ticks**: exactly the timers that are
due and are not stopped before their turn, in order; and the count is that of the calls. -/
theorem Ran.tick_calls (h : s.Ran true) {journal : List Moment} {host : Host}
    (hp : s.Past journal host) (hidle : Idle journal)
    (hnumbers : ∀ d ∈ host.timers.agenda, d.time.isNaN = false) {script : Script}
    (hscript : ∀ callback count args, ∀ c ∈ (script callback count args).steps, c.fits true = true)
    (depth : Nat) (ht : t.host.timers = host.timers) (hnow : now.isNaN = false) :
    let call := runCallback script depth
    let began := after (beginTick now) t
    ∃ batch called ended, host.timers.Batch now batch ∧
      Turns call now began.journal began batch called ended ∧
      after (tick call now) t = after (record .tickEnded) ended ∧
      result (tick call now) t = called.length ∧
      (called.length = 0 ↔ ∀ x, host.timers.nextFire? = some x → now < x) := by
  intro call began
  have waiting : host.timers.Waiting := h.waiting hp hidle
  have batch : host.timers.Batch now (host.timers.batchAt now) := waiting.batch hnumbers hnow
  have hcall : ∀ callback args s, Goes true (call callback args) s :=
    runCallback_goes (fun callback count args c hc =>
      Command.within_of_fits (hscript callback count args c hc)) depth
  have aside (id : Nat) (timer : Timer) (hmem : (id, timer) ∈ host.timers.batchAt now) :
      (began.stage []).Aside began.journal id timer := by
    have hpending := ((batch.due id timer).1 hmem).1
    refine .kept [] rfl (by simp) ?_ ?_ ?_ rfl rfl
    · show id ≤ t.host.timers.lastId
      exact ht ▸ waiting.numbered id timer hpending
    · show t.host.timers.pending.get? id = some timer
      exact ht ▸ hpending
    · show (t.host.timers.takeDue now).2.entries id = []
      exact ht ▸ waiting.entries_takeDue_eq_nil hmem
  obtain ⟨called, turns, hcount⟩ := turns_of_aside hcall now batch.once aside
  have taken : (t.host.timers.takeDue now).1 = (host.timers.batchAt now).map (·.1) := by
    rw [Timers.map_batchAt, ht]
  refine ⟨host.timers.batchAt now, called, _, batch, turns, ?_, ?_, ?_⟩
  · rw [← taken]
    rfl
  · rw [← hcount, ← taken]
    rfl
  · rw [List.length_eq_zero_iff, turns.eq_nil_iff, batch.eq_nil_iff]
    exact (waiting.nextFire hnumbers hnow).symm

/-- The callback `stop` cancels the second timer and ticks again; all others do nothing. -/
def stopping : Script := fun callback _ _ =>
  if callback = "stop" then { steps := [.timer (.cancel 2), .timer (.tick (.float 1.0))] } else {}

theorem stopping_fits (callback : String) (count : Nat) (args : List Value) :
    ∀ c ∈ (stopping callback count args).steps, c.fits true = true := by
  unfold stopping
  split <;> decide

/-- Four timers: the third is due first, and again at once; the first then stops the second; the fourth is
not due yet. -/
def armed : Session := runRootless stopping
  [.timer (.after (.float 1.0) (.callback "stop")),
    .timer (.startTicker (.float 1.0) (.callback "stopped") .null),
    .timer (.startTicker (.float 0.0) (.callback "again") .null),
    .timer (.after (.float 2.0) (.callback "later"))]

/-- The host is met between ticks, and no time on its agenda is NaN. -/
theorem armed_ready : armed.Ran true ∧ Idle armed.journal ∧
    ∀ d ∈ armed.host.timers.agenda, d.time.isNaN = false := by
  refine ⟨ran_runRootless stopping_fits (by decide), ?_, by decide +kernel⟩
  unfold Idle
  decide +kernel

theorem tick_calls_armed :
    let began := after (beginTick 1.0) armed
    ∃ batch called ended, armed.host.timers.Batch 1.0 batch ∧
      Turns (caller stopping) 1.0 began.journal began batch called ended ∧
      after (tick (caller stopping) 1.0) armed = after (record .tickEnded) ended ∧
      result (tick (caller stopping) 1.0) armed = called.length ∧
      (called.length = 0 ↔ ∀ x, armed.host.timers.nextFire? = some x → 1.0 < x) := by
  obtain ⟨h, hidle, hnumbers⟩ := armed_ready
  have hnow : (1.0 : Float).isNaN = false := by decide +kernel
  exact h.tick_calls (t := armed) .last hidle hnumbers stopping_fits depthLimit rfl hnow

example : result (tick (caller stopping) 1.0) armed = 2 := by decide +kernel

end Session

end FrameHost
