import FrameHost.Timer

/-!
# What timers are meant to do

A timer is called when it is due; one that fires again is then due an interval later. So the timer that is
started determines what it is after each of its calls, when it is due then, and how often it is called.

* `Timer.after`: what a timer is after a number of its calls.
* `Timer.eq_of_after`: **its interval has been added once for each call**.
* `Timer.lt_limit_of_after`, `Timer.exists_limit_of_after`: it is to be called again exactly as long as
  there are calls left.
* `Timers.filter_schedule_of_neg`, `Timers.filter_schedule_of_pos`: what is put onto an agenda.
-/

namespace FrameHost

/-! ## After some calls -/

namespace Timer

/-- What a timer is after a number of its calls, if it is to be called again. -/
def after (first : Timer) : Nat → Option Timer
  | 0 => some first
  | n + 1 => (first.after n).bind next?

/-- When a timer is due after a number of its calls. -/
def dueAfter (first : Timer) : Nat → Float
  | 0 => first.fireAt
  | n + 1 =>
    match first.interval with
    | none => first.dueAfter n
    | some interval => first.dueAfter n + interval

/-- How often a timer is to be called, if nobody stops it; `none` is without end. -/
def limit? (first : Timer) : Option Nat :=
  match first.interval with
  | none => some 1
  | some _ => first.remaining.map (max 1)

variable {first timer again : Timer} {m n k : Nat}

theorem eq_of_next? (h : timer.next? = some again) : ∃ interval, timer.interval = some interval ∧
    (∀ n, timer.remaining = some n → 1 < n) ∧
    again = { timer with
      fireAt := timer.fireAt + interval, remaining := timer.remaining.map (· - 1) } := by
  unfold next? at h
  cases hi : timer.interval with
  | none => simp [hi] at h
  | some interval =>
    refine ⟨interval, rfl, ?_⟩
    cases hr : timer.remaining with
    | none =>
      simp only [hi, hr, Option.some.injEq] at h
      exact ⟨by simp, by simp [← h]⟩
    | some n =>
      simp only [hi, hr] at h
      split at h
      · rename_i hn
        exact ⟨by simpa using hn, by simp [← Option.some.inj h]⟩
      · cases h

theorem eq_none_of_next? (h : timer.next? = none) :
    timer.interval = none ∨ ∃ n, timer.remaining = some n ∧ n ≤ 1 := by
  unfold next? at h
  cases hi : timer.interval with
  | none => exact .inl rfl
  | some interval =>
    cases hr : timer.remaining with
    | none => simp [hi, hr] at h
    | some n =>
      refine .inr ⟨n, rfl, ?_⟩
      simp only [hi, hr] at h
      split at h
      · cases h
      · omega

/-- **After some calls, the interval has been added once for each.** -/
theorem eq_of_after (h : first.after n = some timer) : timer = { first with
    fireAt := first.dueAfter n, remaining := first.remaining.map (· - n) } := by
  induction n generalizing timer with
  | zero =>
    cases h
    cases hr : first.remaining <;> simp [dueAfter, ← hr]
  | succ n ih =>
    obtain ⟨before, hbefore, hnext⟩ := Option.bind_eq_some_iff.1 h
    obtain ⟨interval, hi, -, rfl⟩ := eq_of_next? hnext
    obtain rfl := ih hbefore
    dsimp only at hi
    cases hr : first.remaining <;> simp [dueAfter, hi, Nat.sub_sub]

/-- A timer that is to be called again has calls left. -/
theorem lt_limit_of_after (h : first.after n = some timer) (hk : first.limit? = some k) : n < k := by
  unfold limit? at hk
  cases n with
  | zero =>
    split at hk
    · cases hk
      exact Nat.one_pos
    · obtain ⟨r, -, rfl⟩ := Option.map_eq_some_iff.1 hk
      exact Nat.le_max_left 1 r
  | succ n =>
    obtain ⟨before, hbefore, hnext⟩ := Option.bind_eq_some_iff.1 h
    obtain ⟨interval, hi, hr, -⟩ := eq_of_next? hnext
    obtain rfl := eq_of_after hbefore
    dsimp only at hi hr
    simp only [hi] at hk
    obtain ⟨r, hfirst, rfl⟩ := Option.map_eq_some_iff.1 hk
    have hlt : 1 < r - n := hr _ (by rw [hfirst]; rfl)
    omega

/-- A timer that is not to be called again has no calls left. -/
theorem exists_limit_of_after (h : first.after n = none) : ∃ k, first.limit? = some k ∧ k ≤ n := by
  induction n with
  | zero => cases h
  | succ n ih =>
    cases hbefore : first.after n with
    | none =>
      obtain ⟨k, hk, hle⟩ := ih hbefore
      exact ⟨k, hk, Nat.le_succ_of_le hle⟩
    | some before =>
      have hnext : before.next? = none := by simpa [after, hbefore] using h
      obtain rfl := eq_of_after hbefore
      unfold limit?
      rcases eq_none_of_next? hnext with hi | ⟨r, hr, hle⟩
      · exact ⟨1, by rw [show first.interval = none from hi], by omega⟩
      · obtain ⟨r, hfirst, rfl⟩ := Option.map_eq_some_iff.1 hr
        cases hi : first.interval with
        | none => exact ⟨1, rfl, by omega⟩
        | some interval => exact ⟨max 1 r, by simp [hfirst], by omega⟩

/-- A timer that is to be called after some calls was to be called after fewer. -/
theorem isSome_after_of_le (h : (first.after n).isSome = true) (hm : m ≤ n) :
    (first.after m).isSome = true := by
  induction hm with
  | refl => exact h
  | step _ ih =>
    refine ih ?_
    cases hbefore : first.after _ with
    | none => simp [after, hbefore] at h
    | some => rfl

end Timer

/-! ## Agendas -/

namespace Timers

variable {d : Due} {agenda : List Due} {p : Due → Bool}

theorem filter_schedule_of_neg (hd : p d = false) :
    (schedule d agenda).filter p = agenda.filter p := by
  induction agenda with
  | nil => simp [schedule, hd]
  | cons e agenda ih =>
    unfold schedule
    split
    · exact List.filter_cons_of_neg (by simp [hd])
    · simp only [List.filter_cons, ih]

theorem filter_schedule_of_pos (hd : p d = true) (h : agenda.filter p = []) :
    (schedule d agenda).filter p = [d] := by
  induction agenda with
  | nil => simp [schedule, hd]
  | cons e agenda ih =>
    have he : p e = false := by simpa using List.filter_eq_nil_iff.1 h e List.mem_cons_self
    rw [List.filter_cons_of_neg (by simp [he])] at h
    unfold schedule
    split
    · rw [List.filter_cons_of_pos hd, List.filter_cons_of_neg (by simp [he]), h]
    · rw [List.filter_cons_of_neg (by simp [he]), ih h]

end Timers

end FrameHost
