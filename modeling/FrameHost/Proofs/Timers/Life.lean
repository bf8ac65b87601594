import FrameHost.Proofs.Step
import FrameHost.Proofs.Timers.Plan

/-!
# The life of a timer

A number has no timer at first; then its timer is pending, and at last it is no longer. A timer that is
pending is in exactly one place: it waits on the agenda, or a tick has taken it off and has yet to come to
it, or its callback is being run. What a timer that was stopped leaves behind on the agenda or in the batch
of a tick belongs to no pending timer, and numbers are never given out again.

* `Stage.Place`: the one place of a pending timer.
* `Stage.Life`: a number has no timer yet, or one that is pending, or one that is done.
* `Stage.Life.frame`: a step that does not concern a timer.
* `Step.life`: every step keeps all lives going.
-/

namespace FrameHost

variable {raw : Bool} {σ τ : Stage} {id : Nat} {first timer : Timer}

/-! ## What concerns a timer -/

/-- The timer that a moment is about. -/
def Moment.timer? : Moment → Option Nat
  | .started timer _ | .fired timer _ | .stopped timer => some timer
  | _ => none

/-- Whether a moment is a call of a timer. -/
def Moment.isCallOf (id : Nat) : Moment → Bool
  | .fired timer _ => timer == id
  | _ => false

/-- How often a timer was called. -/
def callsOf (id : Nat) (journal : List Moment) : Nat := journal.countP (Moment.isCallOf id)

theorem Moment.timer?_of_isCallOf {m : Moment} (h : m.isCallOf id = true) : m.timer? = some id := by
  cases m with
  | fired timer => exact congrArg some (eq_of_beq h)
  | _ => cases h

theorem callsOf_eq_zero {journal : List Moment} (h : ∀ m ∈ journal, m.timer? ≠ some id) :
    callsOf id journal = 0 :=
  List.countP_eq_zero.2 fun m hm hcall => h m hm (Moment.timer?_of_isCallOf hcall)

theorem callsOf_append {ms journal : List Moment} (h : ∀ m ∈ ms, m.timer? ≠ some id) :
    callsOf id (ms ++ journal) = callsOf id journal := by
  have hms : callsOf id ms = 0 := callsOf_eq_zero h
  rw [callsOf] at hms
  rw [callsOf, List.countP_append, hms, Nat.zero_add, callsOf]

theorem mem_append_of_timer {ms journal : List Moment} {m : Moment}
    (h : ∀ m ∈ ms, m.timer? ≠ some id) (hm : m.timer? = some id) :
    m ∈ ms ++ journal ↔ m ∈ journal := by
  rw [List.mem_append]
  exact or_iff_right fun hmem => h m hmem hm

/-- The places of a timer on the agenda. -/
def Timers.entries (t : Timers) (id : Nat) : List Due := t.agenda.filter (·.id == id)

/-- Where a task has yet to come to a timer: the time of its tick, for each turn of the timer. -/
def Task.turns (id : Nat) : Task → List Float
  | .ticking now batch => (batch.filter (· == id)).map fun _ => now
  | _ => []

/-- Whether a task is a call of a timer. -/
def Task.isCallOf (id : Nat) : Task → Bool
  | .calling timer => timer == id
  | _ => false

/-- The turns of a timer in the ticks that are under way. -/
def turnsOf (id : Nat) (tasks : List Task) : List Float := tasks.flatMap (Task.turns id)

/-- How many calls of a timer are under way. -/
def callingsOf (id : Nat) (tasks : List Task) : Nat := tasks.countP (Task.isCallOf id)

theorem turnsOf_cons (task : Task) (tasks : List Task) :
    turnsOf id (task :: tasks) = task.turns id ++ turnsOf id tasks := List.flatMap_cons

theorem turnsOf_cons_eq_nil {task : Task} {tasks : List Task} :
    turnsOf id (task :: tasks) = [] ↔ task.turns id = [] ∧ turnsOf id tasks = [] := by
  rw [turnsOf_cons, List.append_eq_nil_iff]

theorem callingsOf_cons (task : Task) (tasks : List Task) :
    callingsOf id (task :: tasks) = callingsOf id tasks + if task.isCallOf id then 1 else 0 :=
  List.countP_cons

/-- Rearming one timer leaves the others as they are. -/
theorem Timers.rearm_of_ne (t : Timers) {x : Nat} (h : x ≠ id) :
    (t.rearm x).pending.get? id = t.pending.get? id ∧ (t.rearm x).entries id = t.entries id ∧
      t.lastId ≤ (t.rearm x).lastId := by
  unfold rearm
  split
  · exact ⟨rfl, rfl, Nat.le_refl _⟩
  · split
    · refine ⟨?_, rfl, Nat.le_refl _⟩
      exact (Table.get?_erase ..).trans (if_neg (by simpa using Ne.symm h))
    · refine ⟨Table.get?_insert_of_ne _ _ (Ne.symm h), ?_, Nat.le_refl _⟩
      exact filter_schedule_of_neg (by simpa using h)

namespace Stage

/-! ## Lives -/

/-- **The one place of a pending timer**, with how many calls of it are under way. -/
inductive Place (σ : Stage) (id : Nat) (timer : Timer) : Nat → Prop
  | waiting (he : σ.timers.entries id = [⟨timer.fireAt, id⟩]) (ht : turnsOf id σ.tasks = [])
      (hc : callingsOf id σ.tasks = 0) : Place σ id timer 0
  | taken {now : Float} (he : σ.timers.entries id = []) (ht : turnsOf id σ.tasks = [now])
      (hc : callingsOf id σ.tasks = 0) (hnow : timer.fireAt ≤ now) : Place σ id timer 0
  | called (he : σ.timers.entries id = []) (ht : turnsOf id σ.tasks = [])
      (hc : callingsOf id σ.tasks = 1) : Place σ id timer 1

/-- A number that has no timer yet. -/
structure Unborn (σ : Stage) (id : Nat) : Prop where
  pending : σ.timers.pending.get? id = none
  entries : σ.timers.entries id = []
  turns : turnsOf id σ.tasks = []
  callings : callingsOf id σ.tasks = 0
  silent : ∀ m ∈ σ.journal, m.timer? ≠ some id

/-- A number that was given to a timer. -/
structure Born (σ : Stage) (id : Nat) (first : Timer) : Prop where
  numbered : id ≤ σ.timers.lastId
  started : ∀ timer, .started id timer ∈ σ.journal ↔ timer = first

/-- A timer that is pending. -/
structure Alive (σ : Stage) (id : Nat) (first timer : Timer) : Prop where
  born : σ.Born id first
  pending : σ.timers.pending.get? id = some timer
  running : .stopped id ∉ σ.journal
  place : ∃ n c, first.after n = some timer ∧ callsOf id σ.journal = n + c ∧ σ.Place id timer c

/-- A timer that is no longer pending: it was stopped, or has no calls left. -/
structure Done (σ : Stage) (id : Nat) (first : Timer) : Prop where
  born : σ.Born id first
  pending : σ.timers.pending.get? id = none
  calls : ∀ n, n < callsOf id σ.journal → (first.after n).isSome = true
  ended : .stopped id ∈ σ.journal ∨ first.after (callsOf id σ.journal) = none

/-- What has become of a number. -/
inductive Life (σ : Stage) (id : Nat) : Prop
  | unborn (h : σ.Unborn id)
  | alive {first timer : Timer} (h : σ.Alive id first timer)
  | done {first : Timer} (h : σ.Done id first)

/-! ## What does not concern a timer -/

/-- Nothing that concerns a timer differs between two stages. -/
structure Same (id : Nat) (σ τ : Stage) : Prop where
  pending : τ.timers.pending.get? id = σ.timers.pending.get? id
  entries : τ.timers.entries id = σ.timers.entries id
  turns : turnsOf id τ.tasks = turnsOf id σ.tasks
  callings : callingsOf id τ.tasks = callingsOf id σ.tasks
  numbered : σ.timers.lastId ≤ τ.timers.lastId
  journal : ∃ ms, τ.journal = ms ++ σ.journal ∧ ∀ m ∈ ms, m.timer? ≠ some id

theorem Place.frame {c : Nat} (h : σ.Place id timer c)
    (he : τ.timers.entries id = σ.timers.entries id)
    (ht : turnsOf id τ.tasks = turnsOf id σ.tasks)
    (hc : callingsOf id τ.tasks = callingsOf id σ.tasks) : τ.Place id timer c := by
  cases h with
  | waiting he' ht' hc' => exact .waiting (he.trans he') (ht.trans ht') (hc.trans hc')
  | taken he' ht' hc' hnow => exact .taken (he.trans he') (ht.trans ht') (hc.trans hc') hnow
  | called he' ht' hc' => exact .called (he.trans he') (ht.trans ht') (hc.trans hc')

theorem Born.mono (h : σ.Born id first) (hn : σ.timers.lastId ≤ τ.timers.lastId)
    (hj : ∀ timer, .started id timer ∈ τ.journal ↔ .started id timer ∈ σ.journal) :
    τ.Born id first :=
  ⟨Nat.le_trans h.numbered hn, fun timer => (hj timer).trans (h.started timer)⟩

/-- What a timer that is not pending leaves behind may go away. -/
theorem Life.absent (h : σ.Life id) (hp : σ.timers.pending.get? id = none)
    (hp' : τ.timers.pending.get? id = none)
    (he : σ.timers.entries id = [] → τ.timers.entries id = [])
    (ht : turnsOf id σ.tasks = [] → turnsOf id τ.tasks = [])
    (hc : callingsOf id σ.tasks = 0 → callingsOf id τ.tasks = 0)
    (hn : σ.timers.lastId ≤ τ.timers.lastId)
    (hj : ∃ ms, τ.journal = ms ++ σ.journal ∧ ∀ m ∈ ms, m.timer? ≠ some id) : τ.Life id := by
  obtain ⟨ms, hj, hms⟩ := hj
  have hmem (m : Moment) (hm : m.timer? = some id) : m ∈ τ.journal ↔ m ∈ σ.journal :=
    hj ▸ mem_append_of_timer hms hm
  have hcalls : callsOf id τ.journal = callsOf id σ.journal := hj ▸ callsOf_append hms
  cases h with
  | unborn h =>
    refine .unborn ⟨hp', he h.entries, ht h.turns, hc h.callings, fun m hm hid => ?_⟩
    exact h.silent m ((hmem m hid).1 hm) hid
  | alive h => cases hp.symm.trans h.pending
  | done h =>
    exact .done
      { born := h.born.mono hn fun timer => hmem _ rfl
        pending := hp'
        calls := fun n hn => h.calls n (hcalls ▸ hn)
        ended := h.ended.imp (hmem _ rfl).2 fun hnone => hcalls ▸ hnone }

/-- **What does not concern a timer leaves its life as it is.** -/
theorem Life.frame (h : σ.Life id) (hs : Same id σ τ) : τ.Life id := by
  cases hp : σ.timers.pending.get? id with
  | none =>
    exact h.absent hp (hs.pending.trans hp) hs.entries.trans hs.turns.trans hs.callings.trans
      hs.numbered hs.journal
  | some timer =>
    cases h with
    | unborn h => cases hp.symm.trans h.pending
    | done h => cases hp.symm.trans h.pending
    | alive h =>
      obtain ⟨ms, hj, hms⟩ := hs.journal
      have hmem (m : Moment) (hm : m.timer? = some id) : m ∈ τ.journal ↔ m ∈ σ.journal :=
        hj ▸ mem_append_of_timer hms hm
      have hcalls : callsOf id τ.journal = callsOf id σ.journal := hj ▸ callsOf_append hms
      obtain ⟨n, c, hafter, hn, hplace⟩ := h.place
      exact .alive
        { born := h.born.mono hs.numbered fun timer => hmem _ rfl
          pending := hs.pending.trans h.pending
          running := fun hstop => h.running ((hmem _ rfl).1 hstop)
          place := ⟨n, c, hafter, hcalls.trans hn, hplace.frame hs.entries hs.turns hs.callings⟩ }

/-! ## What a step does to a timer -/

theorem Life.alive_of_pending (h : σ.Life id) (hp : σ.timers.pending.get? id = some timer) :
    ∃ first, σ.Alive id first timer := by
  cases h with
  | unborn h => cases hp.symm.trans h.pending
  | done h => cases hp.symm.trans h.pending
  | @alive first timer' h =>
    cases hp.symm.trans h.pending
    exact ⟨first, h⟩

/-- A number that was not given out yet has no timer yet. -/
theorem Life.unborn_of_lt (h : σ.Life id) (hid : σ.timers.lastId < id) : σ.Unborn id := by
  cases h with
  | unborn h => exact h
  | alive h => exact absurd h.born.numbered (Nat.not_le.2 hid)
  | done h => exact absurd h.born.numbered (Nat.not_le.2 hid)

/-- Every call of a timer was one that was left. -/
theorem Alive.calls (h : σ.Alive id first timer) :
    ∀ n, n < callsOf id σ.journal → (first.after n).isSome = true := by
  intro n hn
  obtain ⟨m, c, hafter, hm, hplace⟩ := h.place
  refine Timer.isSome_after_of_le (n := m) (hafter ▸ rfl) ?_
  cases hplace <;> omega

/-- **A timer that is started waits.** -/
theorem Life.start (h : ∀ id, σ.Life id) {t : Timers} (hp : t.pending = σ.timers.pending)
    (ha : t.agenda = σ.timers.agenda) (hn : t.lastId = σ.timers.lastId + 1) (timer : Timer)
    (id : Nat) : Life { σ with
      timers := t.add timer, journal := .started t.lastId timer :: σ.journal } id := by
  by_cases hid : id = t.lastId
  · have hnew : σ.Unborn t.lastId := (h t.lastId).unborn_of_lt (by omega)
    subst hid
    refine @Life.alive _ _ timer timer ?_
    constructor
    case born =>
      refine ⟨Nat.le_refl _, fun other => ?_⟩
      constructor
      · intro hmem
        rcases List.mem_cons.1 hmem with heq | hmem
        · cases heq
          rfl
        · exact absurd rfl (hnew.silent _ hmem)
      · rintro rfl
        exact List.mem_cons_self
    case pending => exact Table.get?_insert_self ..
    case running =>
      intro hmem
      rcases List.mem_cons.1 hmem with heq | hmem
      · cases heq
      · exact hnew.silent _ hmem rfl
    case place =>
      refine ⟨0, 0, rfl, (callsOf_eq_zero hnew.silent :), .waiting ?_ hnew.turns hnew.callings⟩
      exact Timers.filter_schedule_of_pos (beq_self_eq_true _) (ha ▸ hnew.entries)
  · refine (h id).frame ⟨?_, ?_, rfl, rfl, by simp [Timers.add, hn], [_], rfl, ?_⟩
    · exact (Table.get?_insert_of_ne _ _ hid).trans (hp ▸ rfl)
    · refine (Timers.filter_schedule_of_neg (by simpa using Ne.symm hid)).trans ?_
      rw [ha]
      rfl
    · simpa [Moment.timer?] using Ne.symm hid

/-- **A pending timer that is stopped is done.** -/
theorem Life.stop (h : σ.Life id) (hp : σ.timers.pending.get? id = some timer) {t : Timers}
    (ht : t.pending.get? id = none) (hn : t.lastId = σ.timers.lastId) {ms : List Moment}
    (hms : ∀ m ∈ ms, m.timer? = some id → m = .stopped id) (hid : .stopped id ∈ ms) :
    Life { σ with timers := t, journal := ms ++ σ.journal } id := by
  obtain ⟨first, h⟩ := h.alive_of_pending hp
  have hcalls : callsOf id (ms ++ σ.journal) = callsOf id σ.journal := by
    have uncalled : ms.countP (Moment.isCallOf id) = 0 := by
      refine List.countP_eq_zero.2 fun m hm hcall => ?_
      cases hms m hm (Moment.timer?_of_isCallOf hcall)
      cases hcall
    rw [callsOf, List.countP_append, uncalled, Nat.zero_add, callsOf]
  have unstarted (timer : Timer) : .started id timer ∉ ms := fun hm => by cases hms _ hm rfl
  refine @Life.done _ _ first ?_
  constructor
  case born => exact h.born.mono (Nat.le_of_eq hn.symm) fun timer => by simp [unstarted timer]
  case pending => exact ht
  case calls => exact fun n hn => h.calls n (hcalls ▸ hn)
  case ended => exact .inl (List.mem_append_left _ hid)

/-! ## Ticks -/

theorem mem_takeDue {t : Timers} {now : Float} {d : Due}
    (h : d ∈ t.agenda.takeWhile fun d => d.time ≤ now) : d.time ≤ now :=
  of_decide_eq_true (List.all_eq_true.1 List.all_takeWhile d h)

/-- What a tick takes off the agenda, of a pending timer, is what it has yet to come to. -/
theorem turns_takeDue {t : Timers} (now : Float) (hp : t.isPending id = true) :
    Task.turns id (.ticking now (t.takeDue now).1) =
      ((t.agenda.takeWhile fun d => d.time ≤ now).filter (·.id == id)).map fun _ => now := by
  have hfilter (l : List Nat) : (l.filter t.isPending).filter (· == id) = l.filter (· == id) := by
    rw [List.filter_filter]
    refine List.filter_congr fun i _ => ?_
    by_cases hi : i = id
    · simp [hi, hp]
    · simp [hi]
  unfold Task.turns Timers.takeDue
  dsimp only
  rw [hfilter, List.filter_map, List.map_map]
  rfl

theorem turns_takeDue_of_absent {t : Timers} (now : Float) (hp : t.isPending id = false) :
    Task.turns id (.ticking now (t.takeDue now).1) = [] := by
  unfold Task.turns Timers.takeDue
  dsimp only
  rw [List.map_eq_nil_iff, List.filter_filter, List.filter_eq_nil_iff]
  intro i _
  by_cases hi : i = id
  · simp [hi, hp]
  · simp [hi]

theorem entries_takeDue (t : Timers) (now : Float) (id : Nat) : t.entries id =
    (t.agenda.takeWhile fun d => d.time ≤ now).filter (·.id == id) ++
      (t.takeDue now).2.entries id := by
  unfold Timers.entries Timers.takeDue
  rw [← List.filter_append, List.takeWhile_append_dropWhile]

/-- **A tick takes the timers that are due.** -/
theorem Life.beginTick (h : σ.Life id) (now : Float) : Life { σ with
    timers := (σ.timers.takeDue now).2
    journal := .tickBegan now :: σ.journal
    tasks := .ticking now (σ.timers.takeDue now).1 :: σ.tasks } id := by
  have hentries := entries_takeDue σ.timers now id
  have hj : ∃ ms, .tickBegan now :: σ.journal = ms ++ σ.journal ∧ ∀ m ∈ ms, m.timer? ≠ some id :=
    ⟨[_], rfl, by simp [Moment.timer?]⟩
  cases hp : σ.timers.pending.get? id with
  | none =>
    refine h.absent hp hp (fun he => ?_) (fun ht => ?_) (fun hc => hc) (Nat.le_refl _) hj
    · exact (List.append_eq_nil_iff.1 (hentries.symm.trans he)).2
    · have habsent : σ.timers.isPending id = false := congrArg Option.isSome hp
      exact turnsOf_cons_eq_nil.2 ⟨turns_takeDue_of_absent now habsent, ht⟩
  | some timer =>
    have hpending : σ.timers.isPending id = true := congrArg Option.isSome hp
    have hturns := turns_takeDue now hpending
    obtain ⟨first, h⟩ := h.alive_of_pending hp
    obtain ⟨n, c, hafter, hn, hplace⟩ := h.place
    refine @Life.alive _ _ first timer ?_
    constructor
    case born => exact h.born.mono (Nat.le_refl _) fun timer => by simp
    case pending => exact hp
    case running => simpa using h.running
    case place =>
      refine ⟨n, c, hafter, (hn :), ?_⟩
      have none_taken (he : σ.timers.entries id = []) :
          (σ.timers.takeDue now).2.entries id = [] ∧
            Task.turns id (.ticking now (σ.timers.takeDue now).1) = [] := by
        obtain ⟨hdue, hrest⟩ := List.append_eq_nil_iff.1 (hentries.symm.trans he)
        exact ⟨hrest, hturns.trans (List.map_eq_nil_iff.2 hdue)⟩
      cases hplace with
      | waiting he ht hc =>
        -- the one entry stays on the agenda, or it is due and becomes a turn
        rcases List.append_eq_singleton_iff.1 (hentries.symm.trans he) with
          ⟨hdue, hrest⟩ | ⟨hdue, hrest⟩
        · rw [hdue] at hturns
          exact .waiting hrest (turnsOf_cons_eq_nil.2 ⟨hturns, ht⟩) hc
        · rw [hdue] at hturns
          have hmem : ⟨timer.fireAt, id⟩ ∈ σ.timers.agenda.takeWhile fun d => d.time ≤ now := by
            refine (List.mem_filter (p := (·.id == id)).1 ?_).1
            rw [hdue]
            exact List.mem_singleton.2 rfl
          have hnow := mem_takeDue hmem
          refine .taken hrest ?_ hc hnow
          rw [turnsOf_cons, hturns, ht]
          rfl
      | taken he ht hc hnow =>
        obtain ⟨hrest, hnone⟩ := none_taken he
        refine .taken hrest ?_ hc hnow
        rw [turnsOf_cons, hnone, ht]
        rfl
      | called he ht hc =>
        obtain ⟨hrest, hnone⟩ := none_taken he
        exact .called hrest (turnsOf_cons_eq_nil.2 ⟨hnone, ht⟩) hc

/-- A tick that is under way has come to a timer. -/
theorem Alive.taken (h : σ.Alive id first timer) {now : Float} {rest : List Nat} {tasks : List Task}
    (ht : σ.tasks = .ticking now (id :: rest) :: tasks) :
    first.after (callsOf id σ.journal) = some timer ∧ timer.fireAt ≤ now ∧
      σ.timers.entries id = [] ∧ turnsOf id (.ticking now rest :: tasks) = [] ∧
      callingsOf id tasks = 0 := by
  have hturns : turnsOf id σ.tasks = now :: turnsOf id (.ticking now rest :: tasks) := by
    simp [turnsOf, ht, Task.turns]
  obtain ⟨n, c, hafter, hn, hplace⟩ := h.place
  cases hplace with
  | waiting _ hnone => cases hnone.symm.trans hturns
  | called _ hnone => cases hnone.symm.trans hturns
  | taken he hone hc hnow =>
    obtain ⟨rfl, hrest⟩ := List.cons.inj (hone.symm.trans hturns)
    rw [ht, callingsOf_cons] at hc
    exact ⟨hn ▸ hafter, hnow, he, hrest.symm, hc⟩

theorem turns_of_ne {now : Float} {x : Nat} {rest : List Nat} (h : x ≠ id) :
    Task.turns id (.ticking now (x :: rest)) = Task.turns id (.ticking now rest) := by
  unfold Task.turns
  dsimp only
  rw [List.filter_cons_of_neg (by simpa using h)]

variable {now : Float} {x : Nat} {rest : List Nat} {tasks : List Task}

/-- A tick passes over a timer that is not pending. -/
theorem Life.passOver (h : σ.Life id) (ht : σ.tasks = .ticking now (x :: rest) :: tasks)
    (hp : σ.timers.pending.get? x = none) :
    Life { σ with tasks := .ticking now rest :: tasks } id := by
  by_cases hid : x = id
  · subst hid
    refine h.absent hp hp (fun he => he) (fun hturns => ?_) (fun hc => ?_) (Nat.le_refl _)
      ⟨[], rfl, by simp⟩
    · rw [ht, turnsOf_cons_eq_nil] at hturns
      simp [Task.turns] at hturns
    · rwa [ht, callingsOf_cons] at hc
  · refine h.frame ⟨rfl, rfl, ?_, ?_, Nat.le_refl _, [], rfl, by simp⟩
    · rw [ht, turnsOf_cons, turnsOf_cons, turns_of_ne hid]
    · rw [ht, callingsOf_cons, callingsOf_cons]
      rfl

/-- **A timer that a tick has come to is called.** -/
theorem Life.fire (h : σ.Life id) (ht : σ.tasks = .ticking now (x :: rest) :: tasks)
    (hp : σ.timers.pending.get? x = some timer) : Life { σ with
      journal := .fired x now :: σ.journal
      tasks := .calling x :: .ticking now rest :: tasks } id := by
  by_cases hid : x = id
  · subst hid
    obtain ⟨first, h⟩ := h.alive_of_pending hp
    obtain ⟨hafter, -, he, hturns, hc⟩ := h.taken ht
    refine @Life.alive _ _ first timer ?_
    constructor
    case born => exact h.born.mono (Nat.le_refl _) fun timer => by simp
    case pending => exact hp
    case running => simpa using h.running
    case place =>
      refine ⟨callsOf x σ.journal, 1, hafter, ?_, .called he ?_ ?_⟩
      · exact List.countP_cons_of_pos (beq_self_eq_true x)
      · exact turnsOf_cons_eq_nil.2 ⟨rfl, hturns⟩
      · rw [callingsOf_cons, callingsOf_cons, hc]
        simp [Task.isCallOf]
  · refine h.frame ⟨rfl, rfl, ?_, ?_, Nat.le_refl _, [_], rfl, by simpa [Moment.timer?] using hid⟩
    · rw [ht, turnsOf_cons, turnsOf_cons, turnsOf_cons, turns_of_ne hid]
      rfl
    · rw [ht, callingsOf_cons, callingsOf_cons, callingsOf_cons]
      simp [Task.isCallOf, hid]

/-- **A timer that was called waits again or is done.** -/
theorem Life.rearm (h : σ.Life id) (ht : σ.tasks = .calling x :: tasks) :
    Life { σ with timers := σ.timers.rearm x, tasks } id := by
  have hturns : turnsOf id tasks = turnsOf id σ.tasks := by
    rw [ht, turnsOf_cons]
    rfl
  by_cases hid : x = id
  · subst hid
    have hcallings : callingsOf x σ.tasks = callingsOf x tasks + 1 := by
      rw [ht, callingsOf_cons]
      simp [Task.isCallOf]
    cases hp : σ.timers.pending.get? x with
    | none =>
      -- it was stopped while it was called
      have ht : σ.timers.rearm x = σ.timers := by simp only [Timers.rearm, hp]
      rw [ht]
      exact h.absent hp hp (fun he => he) hturns.trans (fun hc => by omega) (Nat.le_refl _)
        ⟨[], rfl, by simp⟩
    | some timer =>
      obtain ⟨first, h⟩ := h.alive_of_pending hp
      obtain ⟨n, c, hafter, hn, hplace⟩ := h.place
      cases hplace with
      | waiting _ _ hc => omega
      | taken _ _ hc => omega
      | called he hnone hc =>
        have hagain : first.after (callsOf x σ.journal) = timer.next? := by
          rw [hn, Timer.after, hafter]
          rfl
        cases hnext : timer.next? with
        | none =>
          have ht : σ.timers.rearm x = σ.timers.retire x := by simp only [Timers.rearm, hp, hnext]
          rw [ht]
          refine @Life.done _ _ first ?_
          constructor
          case born => exact h.born.mono (Nat.le_refl _) fun _ => .rfl
          case pending => exact (Table.get?_erase ..).trans (if_pos (beq_self_eq_true x))
          case calls => exact h.calls
          case ended => exact .inr (hagain.trans hnext)
        | some again =>
          have ht : σ.timers.rearm x = { σ.timers with
              pending := σ.timers.pending.insert x again
              agenda := Timers.schedule ⟨again.fireAt, x⟩ σ.timers.agenda } := by
            simp only [Timers.rearm, hp, hnext]
          rw [ht]
          refine @Life.alive _ _ first again ?_
          constructor
          case born => exact h.born.mono (Nat.le_refl _) fun _ => .rfl
          case pending => exact Table.get?_insert_self ..
          case running => exact h.running
          case place =>
            refine ⟨callsOf x σ.journal, 0, hagain.trans hnext, rfl, .waiting ?_ ?_ ?_⟩
            · exact Timers.filter_schedule_of_pos (beq_self_eq_true x) he
            · exact hturns.trans hnone
            · show callingsOf x tasks = 0
              omega
  · have hcallings : callingsOf id tasks = callingsOf id σ.tasks := by
      rw [ht, callingsOf_cons]
      simp [Task.isCallOf, hid]
    obtain ⟨hpending, hentries, hlast⟩ := σ.timers.rearm_of_ne hid
    exact h.frame ⟨hpending, hentries, hturns, hcallings, hlast, [], rfl, by simp⟩

end Stage

end FrameHost
