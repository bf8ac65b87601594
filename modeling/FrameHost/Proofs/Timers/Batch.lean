import FrameHost.Proofs.Timers.Order
import FrameHost.Proofs.Timers.Run

/-!
# The batch of a tick

Between ticks each pending timer has one place on the agenda, and the agenda is in order as long as every
time on it is a number. So what a tick takes off the agenda are the timers that are due, in their order.

* `Step.agendaInOrder`, `Step.pendingDistinct`: what every step keeps.
* `Timers.Waiting`: the timers of a host between ticks.
* `Session.Ran.waiting`: whenever a host is met between ticks, its timers wait.
* `Timers.batchAt`, `Timers.Waiting.batch`: **the batch of a tick is what is due, in order**.
* `Timers.Waiting.nextFire`: when nothing is due.
-/

namespace FrameHost

variable {raw : Bool} {σ τ : Stage} {now : Float}

namespace Timers

variable {t : Timers}

/-! ## What operations on timers keep -/

/-- As long as every time on the agenda is a number, the agenda is in order. -/
def InOrder (t : Timers) : Prop := (∀ d ∈ t.agenda, d.time.isNaN = false) → Ordered t.agenda

theorem inOrder_schedule {agenda : List Due} {d : Due}
    (h : (∀ e ∈ agenda, e.time.isNaN = false) → Ordered agenda)
    (hd : ∀ e ∈ schedule d agenda, e.time.isNaN = false) : Ordered (schedule d agenda) := by
  have before : Ordered agenda := h fun e he => hd e (mem_schedule.2 (.inr he))
  exact ordered_schedule before (hd d (mem_schedule.2 (.inl rfl)))

theorem InOrder.takeDue (h : t.InOrder) (now : Float) : (t.takeDue now).2.InOrder := by
  intro hrest
  have numbers : ∀ d ∈ t.agenda, d.time.isNaN = false := by
    intro d hd
    rw [← List.takeWhile_append_dropWhile (p := fun d : Due => d.time ≤ now) (l := t.agenda)] at hd
    rcases List.mem_append.1 hd with hd | hd
    · exact isNaN_of_le (Stage.mem_takeDue hd)
    · exact hrest d hd
  exact (h numbers).sublist (List.dropWhile_sublist _)

theorem InOrder.rearm (h : t.InOrder) (id : Nat) : (t.rearm id).InOrder := by
  unfold Timers.rearm
  split
  · exact h
  · split
    · exact h
    · exact inOrder_schedule h

theorem nodup_rearm (h : t.pending.keys.Nodup) (id : Nat) : (t.rearm id).pending.keys.Nodup := by
  unfold Timers.rearm
  split
  · exact h
  · split
    · exact Table.nodup_erase h id
    · exact Table.nodup_insert h id _

end Timers

/-- **Every step leaves the agenda in order.** -/
theorem Step.agendaInOrder (h : Step raw σ τ) (hσ : σ.timers.InOrder) : τ.timers.InOrder := by
  cases h with
  | started timer withHandle ht =>
    subst ht
    cases withHandle <;> exact Timers.inOrder_schedule hσ
  | timersCleared => exact fun _ => .nil
  | tickBegan now => exact hσ.takeDue now
  | rearmed => exact hσ.rearm _
  | _ => exact hσ

/-- Every step leaves one pending timer under each number. -/
theorem Step.pendingDistinct (h : Step raw σ τ) (hσ : σ.timers.pending.keys.Nodup) :
    τ.timers.pending.keys.Nodup := by
  cases h with
  | started timer withHandle ht =>
    subst ht
    cases withHandle <;> exact Table.nodup_insert hσ _ _
  | cancelled => exact Table.nodup_erase hσ _
  | timersCleared => exact List.nodup_nil
  | rearmed => exact Timers.nodup_rearm hσ _
  | _ => exact hσ

/-! ## Between ticks -/

/-- Timers between ticks: each that is pending has its one place on the agenda, and the agenda is in
order. -/
structure Timers.Waiting (t : Timers) : Prop where
  placed : ∀ id timer, t.pending.get? id = some timer → t.entries id = [⟨timer.fireAt, id⟩]
  numbered : ∀ id timer, t.pending.get? id = some timer → id ≤ t.lastId
  distinct : t.pending.keys.Nodup
  inOrder : t.InOrder

/-- Whenever a host of a run is met between ticks, its timers wait. -/
theorem Session.Ran.waiting {s : Session} (h : s.Ran true) {journal : List Moment} {host : Host}
    (hp : s.Past journal host) (hidle : Idle journal) : host.timers.Waiting := by
  refine h.past (I := fun σ => σ.Timed ∧ σ.timers.pending.keys.Nodup ∧ σ.timers.InOrder)
    (P := fun journal host => Idle journal → host.timers.Waiting)
    (fun clock => ⟨Stage.timed_fresh clock, List.nodup_nil, fun _ => .nil⟩)
    (fun σ τ h hσ => ⟨h.timed hσ.1, h.pendingDistinct hσ.2.1, h.agendaInOrder hσ.2.2⟩)
    (fun σ host hs hσ hidle => ?_) hp hidle
  obtain ⟨timed, distinct, inOrder⟩ := hσ
  rw [hs.timers]
  constructor
  case placed => exact fun id timer hp => (timed.waiting hidle hp).1
  case numbered =>
    intro id timer hp
    obtain ⟨first, alive⟩ := (timed.life id).alive_of_pending hp
    exact alive.born.numbered
  case distinct => exact distinct
  case inOrder => exact inOrder

/-! ## What is due -/

namespace Timers

variable {t : Timers} {id : Nat} {timer : Timer}

/-- The timers that a tick is to come to, with their numbers. -/
def batchAt (t : Timers) (now : Float) : List (Nat × Timer) :=
  (t.agenda.takeWhile fun d => d.time ≤ now).filterMap fun d =>
    (t.pending.get? d.id).map fun timer => (d.id, timer)

theorem map_batchAt (t : Timers) (now : Float) : (t.batchAt now).map (·.1) = (t.takeDue now).1 := by
  unfold batchAt takeDue
  dsimp only
  induction t.agenda.takeWhile fun d => d.time ≤ now with
  | nil => rfl
  | cons d due ih =>
    rw [List.map_cons]
    cases hp : t.pending.get? d.id with
    | none =>
      have absent : t.isPending d.id = false := congrArg Option.isSome hp
      rw [List.filterMap_cons_none (by rw [hp]; rfl), List.filter_cons_of_neg (by simp [absent]), ih]
    | some timer =>
      have pending : t.isPending d.id = true := congrArg Option.isSome hp
      rw [List.filterMap_cons_some (b := (d.id, timer)) (by rw [hp]; rfl),
        List.filter_cons_of_pos pending, List.map_cons, ih]

/-- The timers that are due at a time, in their order. -/
structure Batch (t : Timers) (now : Float) (batch : List (Nat × Timer)) : Prop where
  due : ∀ id timer, (id, timer) ∈ batch ↔ t.pending.get? id = some timer ∧ timer.fireAt ≤ now
  once : (batch.map (·.1)).Nodup
  inOrder : batch.Pairwise fun a b => Due.before ⟨a.2.fireAt, a.1⟩ ⟨b.2.fireAt, b.1⟩ = true

namespace Waiting

theorem mem_agenda (h : t.Waiting) (hp : t.pending.get? id = some timer) :
    ⟨timer.fireAt, id⟩ ∈ t.agenda := by
  have listed : ⟨timer.fireAt, id⟩ ∈ t.entries id := by
    rw [h.placed id timer hp]
    exact List.mem_singleton.2 rfl
  exact (List.mem_filter.1 listed).1

theorem eq_of_mem_agenda (h : t.Waiting) {d : Due} (hd : d ∈ t.agenda)
    (hp : t.pending.get? d.id = some timer) : d = ⟨timer.fireAt, d.id⟩ := by
  have listed : d ∈ t.entries d.id := List.mem_filter.2 ⟨hd, beq_self_eq_true _⟩
  rw [h.placed d.id timer hp] at listed
  exact List.mem_singleton.1 listed

/-- Two places on the agenda are not those of one pending timer. -/
theorem id_ne_of_sublist (h : t.Waiting) {d e : Due} (hs : [d, e].Sublist t.agenda)
    (hp : t.pending.get? d.id = some timer) : d.id ≠ e.id := by
  intro heq
  have both : [d, e].Sublist (t.entries d.id) := by
    have filtered := hs.filter fun f => f.id == d.id
    rwa [List.filter_eq_self.2 (by simp [heq])] at filtered
  have short := both.length_le
  rw [h.placed d.id timer hp] at short
  simp at short

/-- **The batch of a tick is what is due, in order.** -/
theorem batch (h : t.Waiting) (hnumbers : ∀ d ∈ t.agenda, d.time.isNaN = false)
    (hnow : now.isNaN = false) : t.Batch now (t.batchAt now) := by
  have ordered : Ordered t.agenda := h.inOrder hnumbers
  let due := t.agenda.takeWhile fun d => d.time ≤ now
  have within : due.Sublist t.agenda := List.takeWhile_sublist _
  -- two entries of the batch come from two places on the agenda, one after the other
  have apart {d e : Due} (hs : [d, e].Sublist due) {a b : Nat × Timer}
      (ha : (t.pending.get? d.id).map (fun timer => (d.id, timer)) = some a)
      (hb : (t.pending.get? e.id).map (fun timer => (e.id, timer)) = some b) :
      a.1 ≠ b.1 ∧ Due.before ⟨a.2.fireAt, a.1⟩ ⟨b.2.fireAt, b.1⟩ = true := by
    obtain ⟨x, hx, rfl⟩ := Option.map_eq_some_iff.1 ha
    obtain ⟨y, hy, rfl⟩ := Option.map_eq_some_iff.1 hb
    have hs := hs.trans within
    have hd : d ∈ t.agenda := hs.subset List.mem_cons_self
    have he : e ∈ t.agenda := hs.subset (List.mem_cons_of_mem d List.mem_cons_self)
    have hne : d.id ≠ e.id := h.id_ne_of_sublist hs hx
    refine ⟨hne, ?_⟩
    have hle : d.place ≤ e.place := List.pairwise_iff_forall_sublist.1 ordered.sorted hs
    have hlt : d.place < e.place := lt_of_le_of_ne hle fun heq => hne (congrArg (·.2) heq)
    have before : d.before e = true := (Due.before_iff (hnumbers d hd) (hnumbers e he)).2 hlt
    rw [h.eq_of_mem_agenda hd hx, h.eq_of_mem_agenda he hy] at before
    exact before
  constructor
  case due =>
    intro id timer
    constructor
    · intro hmem
      obtain ⟨d, hd, heq⟩ := List.mem_filterMap.1 hmem
      obtain ⟨x, hx, hpair⟩ := Option.map_eq_some_iff.1 heq
      cases hpair
      refine ⟨hx, ?_⟩
      have hle : d.time ≤ now := Stage.mem_takeDue hd
      rwa [h.eq_of_mem_agenda (within.subset hd) hx] at hle
    · rintro ⟨hp, hle⟩
      have hd : ⟨timer.fireAt, id⟩ ∈ due := (mem_due_iff ordered hnow).2 ⟨h.mem_agenda hp, hle⟩
      refine List.mem_filterMap.2 ⟨_, hd, ?_⟩
      dsimp only
      rw [hp]
      rfl
  case once =>
    refine List.pairwise_map.2 (List.pairwise_filterMap.2 (List.pairwise_iff_forall_sublist.2 ?_))
    exact fun hs a ha b hb => (apart hs ha hb).1
  case inOrder =>
    refine List.pairwise_filterMap.2 (List.pairwise_iff_forall_sublist.2 ?_)
    exact fun hs a ha b hb => (apart hs ha hb).2

/-- What a tick is to come to is off the agenda. -/
theorem entries_takeDue_eq_nil (h : t.Waiting) (hmem : (id, timer) ∈ t.batchAt now) :
    (t.takeDue now).2.entries id = [] := by
  obtain ⟨d, hd, heq⟩ := List.mem_filterMap.1 hmem
  obtain ⟨x, hx, hpair⟩ := Option.map_eq_some_iff.1 heq
  cases hpair
  have split := Stage.entries_takeDue t now d.id
  rw [h.placed d.id timer hx] at split
  rcases List.append_eq_singleton_iff.1 split.symm with ⟨none, -⟩ | ⟨-, rest⟩
  · have taken := (List.mem_filter (p := (·.id == d.id))).2 ⟨hd, beq_self_eq_true d.id⟩
    rw [none] at taken
    cases taken
  · exact rest

end Waiting

theorem Batch.eq_nil_iff {batch : List (Nat × Timer)} (h : t.Batch now batch) :
    batch = [] ↔ ∀ id timer, t.pending.get? id = some timer → ¬ timer.fireAt ≤ now := by
  rw [List.eq_nil_iff_forall_not_mem]
  constructor
  · exact fun hnone id timer hp hle => hnone (id, timer) ((h.due id timer).2 ⟨hp, hle⟩)
  · intro hnone ⟨id, timer⟩ hmem
    obtain ⟨hp, hle⟩ := (h.due id timer).1 hmem
    exact hnone id timer hp hle

/-! ## The next time -/

/-- The least of some times is later than a time if and only if all of them are. -/
theorem lt_foldl_min_iff (hnow : now.isNaN = false) (timers : List Timer) (least : Float)
    (hleast : least.isNaN = false) (hnumbers : ∀ timer ∈ timers, timer.fireAt.isNaN = false) :
    now < timers.foldl (fun m y => if y.fireAt < m then y.fireAt else m) least ↔
      now < least ∧ ∀ timer ∈ timers, now < timer.fireAt := by
  induction timers generalizing least with
  | nil => simp
  | cons timer timers ih =>
    have hfirst : timer.fireAt.isNaN = false := hnumbers timer List.mem_cons_self
    have hrest := fun x hx => hnumbers x (List.mem_cons_of_mem timer hx)
    rw [List.foldl_cons, List.forall_mem_cons]
    by_cases hlt : timer.fireAt < least
    · rw [if_pos hlt, ih timer.fireAt hfirst hrest]
      refine ⟨fun ⟨h, hall⟩ => ⟨?_, h, hall⟩, fun ⟨_, h, hall⟩ => ⟨h, hall⟩⟩
      rw [lt_iff_place hnow hleast]
      rw [lt_iff_place hnow hfirst] at h
      rw [lt_iff_place hfirst hleast] at hlt
      exact lt_trans h hlt
    · rw [if_neg hlt, ih least hleast hrest]
      refine ⟨fun ⟨h, hall⟩ => ⟨h, ?_, hall⟩, fun ⟨h, _, hall⟩ => ⟨h, hall⟩⟩
      rw [lt_iff_place hnow hleast] at h
      rw [lt_iff_place hfirst hleast, not_lt] at hlt
      rw [lt_iff_place hnow hfirst]
      exact lt_of_lt_of_le h hlt

/-- **Nothing is due if and only if the next time at which a timer fires is not there or later.** -/
theorem Waiting.nextFire (h : t.Waiting) (hnumbers : ∀ d ∈ t.agenda, d.time.isNaN = false)
    (hnow : now.isNaN = false) : (∀ x, t.nextFire? = some x → now < x) ↔
      ∀ id timer, t.pending.get? id = some timer → ¬ timer.fireAt ≤ now := by
  have fireAt_numbers {id : Nat} {timer : Timer} (hp : t.pending.get? id = some timer) :
      timer.fireAt.isNaN = false := hnumbers ⟨timer.fireAt, id⟩ (h.mem_agenda hp)
  have pending_iff (timer : Timer) :
      timer ∈ t.pending.values ↔ ∃ id, t.pending.get? id = some timer :=
    Table.mem_values.trans (exists_congr fun id => Table.mem_entries_iff h.distinct)
  have later_iff {id : Nat} {timer : Timer} (hp : t.pending.get? id = some timer) :
      ¬ timer.fireAt ≤ now ↔ now < timer.fireAt := not_le_iff (fireAt_numbers hp) hnow
  have each : (∀ timer ∈ t.pending.values, now < timer.fireAt) ↔
      ∀ id timer, t.pending.get? id = some timer → ¬ timer.fireAt ≤ now := by
    constructor
    · exact fun hall id timer hp => (later_iff hp).2 (hall timer ((pending_iff timer).2 ⟨id, hp⟩))
    · intro hall timer hmem
      obtain ⟨id, hp⟩ := (pending_iff timer).1 hmem
      exact (later_iff hp).1 (hall id timer hp)
  rw [← each]
  unfold nextFire?
  cases hv : t.pending.values with
  | nil => simp
  | cons timer timers =>
    have numbers (x : Timer) (hx : x ∈ timer :: timers) : x.fireAt.isNaN = false := by
      obtain ⟨id, hp⟩ := (pending_iff x).1 (hv ▸ hx)
      exact fireAt_numbers hp
    have hrest := fun x hx => numbers x (List.mem_cons_of_mem timer hx)
    have least := lt_foldl_min_iff hnow timers timer.fireAt (numbers timer List.mem_cons_self) hrest
    rw [List.forall_mem_cons, ← least]
    refine ⟨fun h => h _ rfl, fun h x hx => ?_⟩
    cases hx
    exact h

end Timers

end FrameHost
