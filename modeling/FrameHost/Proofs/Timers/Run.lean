import FrameHost.Proofs.Step.Run
import FrameHost.Proofs.Timers.Life

/-!
# No timer is lost, doubled or revived

Callbacks of timers may start timers, cancel them, cancel themselves, clear all timers, and tick again, and
they may raise errors. Whatever they do, timers are called as they are meant to be.

* `Step.concerns`: what a step has to do with a timer.
* `Step.life`, `Step.paired`, `Step.calls`: what every step keeps.
* `Timers.Kept`: what the timers of a host have to do with what happened.
* `Session.Ran.timersKept`: **whenever a host is met, its timers have been called as they are meant to
  be**.
-/

namespace FrameHost

variable {raw : Bool} {σ τ : Stage} {id : Nat} {now : Float} {journal : List Moment}
  {task : Task} {tasks : List Task}

/-! ## Lives go on -/

/-- What a step has to do with a timer. -/
inductive Stage.Concerns (σ : Stage) (id : Nat) : Stage → Prop
  | same {τ : Stage} (h : Stage.Same id σ τ) : Concerns σ id τ
  | started {t : Timers} (timer : Timer) (hp : t.pending = σ.timers.pending)
      (ha : t.agenda = σ.timers.agenda) (hn : t.lastId = σ.timers.lastId + 1) : Concerns σ id
        { σ with timers := t.add timer, journal := .started t.lastId timer :: σ.journal }
  | stopped {timer : Timer} {t : Timers} {ms : List Moment}
      (hp : σ.timers.pending.get? id = some timer) (ht : t.pending.get? id = none)
      (hn : t.lastId = σ.timers.lastId) (hms : ∀ m ∈ ms, m.timer? = some id → m = .stopped id)
      (hid : .stopped id ∈ ms) : Concerns σ id { σ with timers := t, journal := ms ++ σ.journal }
  | cleared {ms : List Moment} (hp : σ.timers.pending.get? id = none)
      (hms : ∀ m ∈ ms, m.timer? ≠ some id) :
      Concerns σ id { σ with timers := σ.timers.clear, journal := ms ++ σ.journal }
  | tickBegan (now : Float) : Concerns σ id
      { σ with
        timers := (σ.timers.takeDue now).2
        journal := .tickBegan now :: σ.journal
        tasks := .ticking now (σ.timers.takeDue now).1 :: σ.tasks }
  | passedOver {now : Float} {x : Nat} {rest : List Nat} {tasks : List Task}
      (ht : σ.tasks = .ticking now (x :: rest) :: tasks) (hp : σ.timers.pending.get? x = none) :
      Concerns σ id { σ with tasks := .ticking now rest :: tasks }
  | fired {now : Float} {x : Nat} {rest : List Nat} {tasks : List Task} {timer : Timer}
      (ht : σ.tasks = .ticking now (x :: rest) :: tasks)
      (hp : σ.timers.pending.get? x = some timer) : Concerns σ id
        { σ with
          journal := .fired x now :: σ.journal
          tasks := .calling x :: .ticking now rest :: tasks }
  | rearmed {x : Nat} {tasks : List Task} (ht : σ.tasks = .calling x :: tasks) :
      Concerns σ id { σ with timers := σ.timers.rearm x, tasks }

/-- **What every step has to do with a timer.** -/
theorem Step.concerns (h : Step raw σ τ) (id : Nat) : σ.Concerns id τ := by
  have quiet (ht : τ.timers = σ.timers)
      (hj : ∃ ms, τ.journal = ms ++ σ.journal ∧ ∀ m ∈ ms, m.timer? = none)
      (hturns : turnsOf id τ.tasks = turnsOf id σ.tasks)
      (hc : callingsOf id τ.tasks = callingsOf id σ.tasks) : σ.Concerns id τ := by
    obtain ⟨ms, hj, hms⟩ := hj
    refine .same ⟨?_, ?_, hturns, hc, ?_, ms, hj, fun m hm => by simp [hms m hm]⟩
    · rw [ht]
    · rw [ht]
    · exact Nat.le_of_eq (congrArg _ ht.symm)
  cases h with
  | numberDrawn => exact .same ⟨rfl, rfl, rfl, rfl, Nat.le_succ _, [], rfl, by simp⟩
  | started timer withHandle ht =>
    refine .started timer ?_ ?_ ?_
    all_goals
      subst ht
      cases withHandle <;> rfl
  | @cancelled x h =>
    by_cases hid : x = id
    · subst hid
      obtain ⟨timer, hp⟩ := Option.isSome_iff_exists.1 h
      have hgone : (σ.timers.retire x).pending.get? x = none :=
        (Table.get?_erase ..).trans (if_pos (beq_self_eq_true x))
      have one : ∀ m ∈ [Moment.stopped x], m.timer? = some x → m = .stopped x :=
        fun m hm _ => List.mem_singleton.1 hm
      exact .stopped hp hgone rfl one (List.mem_singleton.2 rfl)
    · refine .same ⟨?_, rfl, rfl, rfl, Nat.le_refl _, [_], rfl, ?_⟩
      · exact (Table.get?_erase ..).trans (if_neg (by simpa using Ne.symm hid))
      · simpa [Moment.timer?] using hid
  | handleCancelled =>
    exact .same ⟨rfl, rfl, rfl, rfl, Nat.le_refl _, [_], rfl, by simp [Moment.timer?]⟩
  | timersCleared =>
    let ids := σ.timers.pending.keys
    have stops : ∀ m ∈ Moment.cleared ids :: (ids.map .stopped).reverse,
        m.timer? = some id → m = .stopped id := fun m hm =>
      of_mem_clearing hm (fun h => by cases h) fun x h => by rw [Option.some.inj h]
    have listed : .stopped id ∈ Moment.cleared ids :: (ids.map .stopped).reverse ↔
        (σ.timers.pending.get? id).isSome = true := by
      simp [ids, ← Table.mem_keys_iff]
    cases hp : σ.timers.pending.get? id with
    | none =>
      refine .cleared hp fun m hm hid => ?_
      rw [hp, ← stops m hm hid] at listed
      cases listed.1 hm
    | some timer =>
      have hgone : σ.timers.clear.pending.get? id = none := rfl
      exact .stopped hp hgone rfl stops (listed.2 (congrArg Option.isSome hp))
  | tickBegan now => exact .tickBegan now
  | passedOver ht hp => exact .passedOver ht hp
  | fired ht hp => exact .fired ht hp
  | rearmed ht => exact .rearmed ht
  | tickEnded ht | flushEnded ht | updated ht | failed ht | updateEnded ht =>
    refine quiet rfl ⟨[_], rfl, by simp [Moment.timer?]⟩ ?_ ?_
    · rw [ht, turnsOf_cons]
      rfl
    · rw [ht, callingsOf_cons]
      rfl
  | painted | created | listened | enrolled | enrolledAgain | primarySet | scriptsCleared | called
  | answered | returned | invoked | queued | flushBegan | updateBegan =>
    exact quiet rfl ⟨[_], rfl, by simp [Moment.timer?]⟩ rfl rfl
  | told ht | flushed ht | passedBy ht | followed ht | reached ht =>
    refine quiet rfl ⟨[_], rfl, by simp [Moment.timer?]⟩ ?_ ?_
    · rw [ht, turnsOf_cons]
      rfl
    · rw [ht, callingsOf_cons]
      rfl
  | untold ht =>
    refine quiet rfl ⟨[], rfl, by simp⟩ ?_ ?_
    · rw [ht, turnsOf_cons, turnsOf_cons]
      rfl
    · rw [ht, callingsOf_cons, callingsOf_cons]
      rfl
  | toldAll ht =>
    refine quiet rfl ⟨[], rfl, by simp⟩ ?_ ?_
    · rw [ht, turnsOf_cons]
      rfl
    · rw [ht, callingsOf_cons]
      rfl
  | queueCleared => exact quiet rfl ⟨_, rfl, fun _ hm => of_mem_moments hm fun _ => rfl⟩ rfl rfl
  | erred h =>
    refine quiet rfl ⟨_, rfl, fun _ hm => ?_⟩ rfl rfl
    exact of_mem_complaint h hm (fun _ _ _ _ => rfl) (fun _ _ _ => rfl) (fun _ _ => rfl) fun _ _ => rfl
  | _ => exact quiet rfl ⟨[], rfl, by simp⟩ rfl rfl

/-- **Every step keeps the lives of timers going.** -/
theorem Step.life (h : Step raw σ τ) (hσ : ∀ id, σ.Life id) (id : Nat) : τ.Life id := by
  cases h.concerns id with
  | same h => exact (hσ id).frame h
  | started timer hp ha hn => exact Stage.Life.start hσ hp ha hn timer id
  | stopped hp ht hn hms hid => exact (hσ id).stop hp ht hn hms hid
  | cleared hp hms =>
    exact (hσ id).absent hp rfl (fun _ => rfl) (fun ht => ht) (fun hc => hc) (Nat.le_refl _) ⟨_, rfl, hms⟩
  | tickBegan now => exact (hσ id).beginTick now
  | passedOver ht hp => exact (hσ id).passOver ht hp
  | fired ht hp => exact (hσ id).fire ht hp
  | rearmed ht => exact (hσ id).rearm ht

/-! ## Ticks are nested -/

/-- Whether a moment is the beginning of a tick. -/
def Moment.isTickBegan : Moment → Bool
  | .tickBegan _ => true
  | _ => false

/-- Whether a moment is the end of a tick. -/
def Moment.isTickEnded : Moment → Bool
  | .tickEnded => true
  | _ => false

/-- Whether a task is a tick. -/
def Task.isTick : Task → Bool
  | .ticking _ _ => true
  | _ => false

/-- Every call of a timer is part of a tick. -/
def Nested (tasks : List Task) : Prop := ∀ id rest, .calling id :: rest <:+ tasks →
  ∃ now batch outer, rest = .ticking now batch :: outer

theorem Nested.tail (h : Nested (task :: tasks)) : Nested tasks :=
  fun id rest hrest => h id rest (hrest.trans (List.suffix_cons ..))

theorem Nested.cons (h : Nested tasks) (hne : ∀ id, task ≠ .calling id) :
    Nested (task :: tasks) := by
  intro id rest hrest
  rcases List.suffix_cons_iff.1 hrest with heq | hrest
  · cases heq
    exact absurd rfl (hne id)
  · exact h id rest hrest

theorem Nested.call {batch : List Nat} (h : Nested (.ticking now batch :: tasks)) :
    Nested (.calling id :: .ticking now batch :: tasks) := by
  intro id' rest hrest
  rcases List.suffix_cons_iff.1 hrest with heq | hrest
  · cases heq
    exact ⟨now, batch, tasks, rfl⟩
  · exact h id' rest hrest

theorem turnsOf_eq_nil (h : tasks.countP Task.isTick = 0) : turnsOf id tasks = [] := by
  refine List.flatMap_eq_nil_iff.2 fun task ht => ?_
  cases task with
  | ticking => exact absurd rfl (List.countP_eq_zero.1 h _ ht)
  | _ => rfl

theorem Nested.callingsOf_eq_zero (h : Nested tasks) (hno : tasks.countP Task.isTick = 0) :
    callingsOf id tasks = 0 := by
  refine List.countP_eq_zero.2 fun task ht hcall => ?_
  cases task with
  | calling timer =>
    obtain ⟨inner, outer, rfl⟩ := List.mem_iff_append.1 ht
    obtain ⟨now, batch, outer, rfl⟩ := h timer outer ⟨inner, rfl⟩
    exact absurd rfl (List.countP_eq_zero.1 hno (.ticking now batch) (by simp))
  | _ => cases hcall

/-- As many ticks are under way as began and have not ended, and all calls of timers are theirs. -/
structure Stage.Paired (σ : Stage) : Prop where
  depth : σ.journal.countP Moment.isTickBegan =
    σ.journal.countP Moment.isTickEnded + σ.tasks.countP Task.isTick
  nested : Nested σ.tasks

theorem Step.paired (h : Step raw σ τ) (hσ : σ.Paired) : τ.Paired := by
  have hnested := hσ.nested
  have hdepth := hσ.depth
  cases h with
  | changed | flushBegan | updateBegan => exact ⟨hdepth, hnested.cons (by simp)⟩
  | told ht | untold ht | flushed ht | passedBy ht | followed ht =>
    rw [ht] at hnested hdepth
    exact ⟨hdepth, hnested.tail.cons (by simp)⟩
  | reached ht =>
    rw [ht] at hnested hdepth
    exact ⟨hdepth, (hnested.tail.cons (by simp)).cons (by simp)⟩
  | toldAll ht | flushEnded ht | updated ht | failed ht | updateEnded ht =>
    rw [ht] at hnested hdepth
    exact ⟨hdepth, hnested.tail⟩
  | queueCleared =>
    refine ⟨?_, hnested⟩
    simpa [Function.comp_def, Moment.isTickBegan, Moment.isTickEnded] using hdepth
  | timersCleared =>
    refine ⟨?_, hnested⟩
    simpa [Function.comp_def, Moment.isTickBegan, Moment.isTickEnded] using hdepth
  | @erred m message h =>
    have silent (p : Moment → Bool) (hp : ∀ m' ∈ m.complaint message σ.onError, p m' = false) :
        (m.complaint message σ.onError ++ σ.journal).countP p = σ.journal.countP p := by
      rw [List.countP_append, List.countP_eq_zero.2 (by simpa using hp), Nat.zero_add]
    refine ⟨?_, hnested⟩
    rw [silent Moment.isTickBegan fun _ hm => ?_, silent Moment.isTickEnded fun _ hm => ?_]
    · exact hdepth
    all_goals
      exact of_mem_complaint h hm (fun _ _ _ _ => rfl) (fun _ _ _ => rfl) (fun _ _ => rfl) fun _ _ => rfl
  | tickBegan =>
    refine ⟨?_, hnested.cons (by simp)⟩
    simp only [List.countP_cons, Moment.isTickBegan, Moment.isTickEnded, Task.isTick, reduceIte,
      Bool.false_eq_true]
    omega
  | passedOver ht =>
    rw [ht] at hnested hdepth
    exact ⟨hdepth, hnested.tail.cons (by simp)⟩
  | fired ht =>
    rw [ht] at hnested hdepth
    exact ⟨hdepth, (hnested.tail.cons (by simp)).call⟩
  | rearmed ht =>
    rw [ht] at hnested hdepth
    exact ⟨hdepth, hnested.tail⟩
  | tickEnded ht =>
    rw [ht] at hnested hdepth
    refine ⟨?_, hnested.tail⟩
    simp only [List.countP_cons, Moment.isTickBegan, Moment.isTickEnded, Task.isTick, reduceIte,
      Bool.false_eq_true] at hdepth ⊢
    omega
  | _ => exact ⟨hdepth, hnested⟩

/-! ## Calls -/

/-- A tick that is under way began. -/
theorem Step.began (h : Step raw σ τ)
    (hσ : ∀ now batch, .ticking now batch ∈ σ.tasks → .tickBegan now ∈ σ.journal) :
    ∀ now batch, .ticking now batch ∈ τ.tasks → .tickBegan now ∈ τ.journal := by
  intro now batch hmem
  have later (batch : List Nat) (hmem : .ticking now batch ∈ σ.tasks) :
      .tickBegan now ∈ τ.journal := h.journal_suffix.subset (hσ now batch hmem)
  cases h with
  | tickBegan =>
    rcases List.mem_cons.1 hmem with heq | hmem
    · cases heq
      exact List.mem_cons_self
    · exact later batch hmem
  | passedOver ht =>
    rcases List.mem_cons.1 hmem with heq | hmem
    · cases heq
      exact later _ (ht ▸ List.mem_cons_self)
    · exact later batch (ht ▸ List.mem_cons_of_mem _ hmem)
  | fired ht =>
    rcases List.mem_cons.1 ((List.mem_cons.1 hmem).resolve_left (by simp)) with heq | hmem
    · cases heq
      exact later _ (ht ▸ List.mem_cons_self)
    · exact later batch (ht ▸ List.mem_cons_of_mem _ hmem)
  | changed | flushBegan | updateBegan => exact later batch (by simpa using hmem)
  | told ht | untold ht | flushed ht | passedBy ht | reached ht | followed ht =>
    exact later batch (by rw [ht]; simpa using hmem)
  | toldAll ht | flushEnded ht | rearmed ht | tickEnded ht | updated ht | failed ht | updateEnded ht =>
    exact later batch (ht ▸ List.mem_cons_of_mem _ hmem)
  | _ => exact later batch hmem

/-- A call of a timer, given what had happened before: a tick for the time had begun, nobody had stopped
the timer, and it was due. -/
structure Called (id : Nat) (now : Float) (earlier : List Moment) : Prop where
  began : .tickBegan now ∈ earlier
  running : .stopped id ∉ earlier
  due : ∃ first, .started id first ∈ earlier ∧ first.dueAfter (callsOf id earlier) ≤ now

/-- **Every step calls only timers that are due and that nobody has stopped.** -/
theorem Step.calls (h : Step raw σ τ) (hσ : ∀ id, σ.Life id)
    (hbegan : ∀ now batch, .ticking now batch ∈ σ.tasks → .tickBegan now ∈ σ.journal)
    (hcalled : ∀ id now earlier, .fired id now :: earlier <:+ σ.journal → Called id now earlier) :
    ∀ id now earlier, .fired id now :: earlier <:+ τ.journal → Called id now earlier := by
  have noted (ms : List Moment) (hms : ∀ m ∈ ms, ∀ id now, m ≠ .fired id now) :
      ∀ id now earlier, .fired id now :: earlier <:+ ms ++ σ.journal → Called id now earlier := by
    intro id now earlier hm
    rcases mem_or_suffix_of_suffix_append hm with hm | hm
    · exact absurd rfl (hms _ hm id now)
    · exact hcalled id now earlier hm
  cases h with
  | @fired now' x rest tasks timer ht hp =>
    intro id now earlier hm
    rcases List.suffix_cons_iff.1 hm with heq | hm
    · cases heq
      obtain ⟨first, halive⟩ := (hσ x).alive_of_pending hp
      obtain ⟨hafter, hdue, -⟩ := halive.taken ht
      have hstarted := (halive.born.started first).2 rfl
      refine ⟨hbegan _ _ (ht ▸ List.mem_cons_self), halive.running, first, hstarted, ?_⟩
      rwa [congrArg Timer.fireAt (Timer.eq_of_after hafter)] at hdue
    · exact hcalled id now earlier hm
  | painted | created | listened | enrolled | enrolledAgain | told | primarySet | scriptsCleared
  | called | answered | returned | invoked | queued | flushBegan | flushed | flushEnded | started
  | cancelled | handleCancelled | tickBegan | tickEnded | updateBegan | passedBy | reached | updated
  | failed | followed | updateEnded =>
    exact noted [_] (by simp)
  | queueCleared => exact noted _ (by simp)
  | timersCleared => exact noted _ (by simp)
  | erred h =>
    refine noted _ fun _ hm => ?_
    exact of_mem_complaint h hm (fun _ _ _ _ => by simp) (fun _ _ _ => by simp) (fun _ _ => by simp)
      fun _ _ => by simp
  | _ => exact hcalled

/-! ## Runs -/

/-- No tick is under way: as many have ended as began. -/
def Idle (journal : List Moment) : Prop :=
  journal.countP Moment.isTickBegan = journal.countP Moment.isTickEnded

/-- What the timers of a host have to do with what happened. -/
structure Timers.Kept (journal : List Moment) (t : Timers) : Prop where
  /-- Between ticks a pending timer has one place on the agenda, at the time at which it is due: its first
  time, with its interval added once for each of its calls. -/
  waiting : Idle journal → ∀ id timer, t.pending.get? id = some timer →
    t.agenda.filter (·.id == id) = [⟨timer.fireAt, id⟩] ∧
      ∃ first, .started id first ∈ journal ∧ timer.fireAt = first.dueAfter (callsOf id journal)
  /-- No timer is called more often than it is to be. -/
  atMost : ∀ id first n, .started id first ∈ journal → first.limit? = some n →
    callsOf id journal ≤ n
  /-- A timer that is no longer pending, though nobody stopped it, was called as often as it is to be; so
  it was not one without end. -/
  exactly : ∀ id first, .started id first ∈ journal → t.isPending id = false →
    .stopped id ∉ journal → first.limit? = some (callsOf id journal)
  /-- A timer that was stopped is not pending. -/
  stopped : ∀ id, .stopped id ∈ journal → t.isPending id = false
  /-- A timer is called when it is due, and never after it was stopped. -/
  called : ∀ id now earlier, .fired id now :: earlier <:+ journal → Called id now earlier

/-- What timers have to do with what happened, in the middle of some tasks. -/
structure Stage.Timed (σ : Stage) : Prop where
  life : ∀ id, σ.Life id
  paired : σ.Paired
  began : ∀ now batch, .ticking now batch ∈ σ.tasks → .tickBegan now ∈ σ.journal
  called : ∀ id now earlier, .fired id now :: earlier <:+ σ.journal → Called id now earlier

theorem Step.timed (h : Step raw σ τ) (hσ : σ.Timed) : τ.Timed where
  life := h.life hσ.life
  paired := h.paired hσ.paired
  began := h.began hσ.began
  called := h.calls hσ.life hσ.began hσ.called

theorem Stage.timed_fresh (clock : Clock) : Timed { clock } where
  life := fun id => .unborn ⟨rfl, rfl, rfl, rfl, fun m hm => by cases hm⟩
  paired := ⟨rfl, fun id rest h => by cases List.suffix_nil.1 h⟩
  began := fun now batch hmem => by cases hmem
  called := fun id now earlier h => by cases List.suffix_nil.1 h

/-- A timer waits when no tick is under way. -/
theorem Stage.Timed.waiting (hσ : σ.Timed) (hidle : Idle σ.journal) {timer : Timer}
    (hp : σ.timers.pending.get? id = some timer) :
    σ.timers.agenda.filter (·.id == id) = [⟨timer.fireAt, id⟩] ∧
      ∃ first, .started id first ∈ σ.journal ∧
        timer.fireAt = first.dueAfter (callsOf id σ.journal) := by
  have hno : σ.tasks.countP Task.isTick = 0 := by
    have hdepth := hσ.paired.depth
    unfold Idle at hidle
    omega
  obtain ⟨first, h⟩ := (hσ.life id).alive_of_pending hp
  obtain ⟨n, c, hafter, hn, hplace⟩ := h.place
  cases hplace with
  | waiting he =>
    refine ⟨he, first, (h.born.started first).2 rfl, ?_⟩
    rw [hn]
    exact congrArg Timer.fireAt (Timer.eq_of_after hafter)
  | taken _ ht => cases (turnsOf_eq_nil hno).symm.trans ht
  | called _ _ hc => cases (hσ.paired.nested.callingsOf_eq_zero hno).symm.trans hc

theorem Stage.Timed.atMost (hσ : σ.Timed) {first : Timer} {n : Nat}
    (hstarted : .started id first ∈ σ.journal) (hn : first.limit? = some n) :
    callsOf id σ.journal ≤ n := by
  have bounded (h : ∀ k, k < callsOf id σ.journal → (first.after k).isSome = true) :
      callsOf id σ.journal ≤ n := by
    by_cases hlt : n < callsOf id σ.journal
    · obtain ⟨timer, hafter⟩ := Option.isSome_iff_exists.1 (h n hlt)
      exact absurd (Timer.lt_limit_of_after hafter hn) (Nat.lt_irrefl n)
    · exact Nat.not_lt.1 hlt
  cases hσ.life id with
  | unborn h => exact absurd rfl (h.silent _ hstarted)
  | alive h =>
    cases (h.born.started first).1 hstarted
    exact bounded h.calls
  | done h =>
    cases (h.born.started first).1 hstarted
    exact bounded h.calls

theorem Stage.Timed.exactly (hσ : σ.Timed) {first : Timer}
    (hstarted : .started id first ∈ σ.journal) (hp : σ.timers.isPending id = false)
    (hrunning : .stopped id ∉ σ.journal) : first.limit? = some (callsOf id σ.journal) := by
  cases hσ.life id with
  | unborn h => exact absurd rfl (h.silent _ hstarted)
  | alive h => cases (congrArg Option.isSome h.pending).symm.trans hp
  | done h =>
    cases (h.born.started first).1 hstarted
    obtain ⟨n, hn, hle⟩ := Timer.exists_limit_of_after (h.ended.resolve_left hrunning)
    rw [hn, Nat.le_antisymm hle (hσ.atMost hstarted hn)]

theorem Stage.Timed.stopped (hσ : σ.Timed) (hstopped : .stopped id ∈ σ.journal) :
    σ.timers.isPending id = false := by
  cases hσ.life id with
  | unborn h => exact congrArg Option.isSome h.pending
  | alive h => exact absurd hstopped h.running
  | done h => exact congrArg Option.isSome h.pending

end FrameHost
