import FrameHost.Proofs.Timers.Run

/-!
# What the handles of timers tell

A handle is flagged as cancelled when it is cancelled itself, and when all timers are cleared while its timer is
pending. Nothing else flags a handle: one whose timer has run out is not flagged, whatever is cleared later, and
one whose timer is stopped by its number is not flagged either.

* `Moment.flags`: what flags a handle.
* `Stage.Marked`: a handle is flagged if something has flagged it, and live as long as its timer is pending.
* `Step.marked`: every step keeps that.
* `Session.HandlesWork`: what flags a handle, in whatever session.
* `Session.Ran.handlesKept`: **what the handles of a host tell, whenever it is met**.
-/

namespace FrameHost

variable {raw : Bool} {σ τ : Stage} {id : Nat} {journal ms : List Moment}

/-- Whether a moment flags the handle of a timer as cancelled. -/
def Moment.flags (id : Nat) : Moment → Bool
  | .handleCancelled timer => timer == id
  | .cleared timers => timers.contains id
  | _ => false

namespace Stage

/-- What the handle of a timer is, if there is one: it is live as long as the timer is pending, and flagged if
something has flagged it. Numbers that were not given out yet have no handle. -/
structure Marked (σ : Stage) (id : Nat) : Prop where
  numbered : σ.timers.lastId < id →
    σ.timers.handles.get? id = none ∧ σ.journal.any (Moment.flags id) = false
  live : ∀ handle, σ.timers.handles.get? id = some handle → handle.live = σ.timers.isPending id
  flagged : ∀ handle, σ.timers.handles.get? id = some handle →
    handle.cancelled = σ.journal.any (Moment.flags id)

/-- What does not concern a handle leaves it as it is. -/
theorem Marked.frame (h : σ.Marked id) (hn : σ.timers.lastId ≤ τ.timers.lastId)
    (hh : τ.timers.handles.get? id = σ.timers.handles.get? id)
    (hp : τ.timers.isPending id = σ.timers.isPending id)
    (hj : τ.journal.any (Moment.flags id) = σ.journal.any (Moment.flags id)) : τ.Marked id where
  numbered := by
    rw [hh, hj]
    exact fun hlt => h.numbered (Nat.lt_of_le_of_lt hn hlt)
  live := by
    rw [hh, hp]
    exact h.live
  flagged := by
    rw [hh, hj]
    exact h.flagged

/-- A timer that is retired is no longer pending, and its handle no longer live. -/
theorem Marked.retire (h : σ.Marked id) (x : Nat) (ht : τ.timers = σ.timers.retire x)
    (hj : τ.journal.any (Moment.flags id) = σ.journal.any (Moment.flags id)) : τ.Marked id := by
  have hpending : τ.timers.isPending id = if id == x then false else σ.timers.isPending id := by
    rw [ht]
    change ((σ.timers.pending.erase x).get? id).isSome = _
    rw [Table.get?_erase]
    split <;> rfl
  have hhandle : τ.timers.handles.get? id = if id == x
      then (σ.timers.handles.get? id).map fun h => { h with live := false }
      else σ.timers.handles.get? id := by
    rw [ht]
    exact Table.get?_modify ..
  by_cases hx : id = x
  · subst hx
    rw [beq_self_eq_true, if_pos rfl] at hpending hhandle
    refine ⟨fun hlt => ?_, fun handle hh => ?_, fun handle hh => ?_⟩
    · rw [hhandle, hj]
      rw [ht] at hlt
      obtain ⟨hnone, hsilent⟩ := h.numbered hlt
      exact ⟨by rw [hnone]; rfl, hsilent⟩
    · rw [hhandle] at hh
      obtain ⟨before, hbefore, rfl⟩ := Option.map_eq_some_iff.1 hh
      exact hpending.symm
    · rw [hhandle] at hh
      obtain ⟨before, hbefore, rfl⟩ := Option.map_eq_some_iff.1 hh
      rw [hj]
      exact h.flagged before hbefore
  · have hne : (id == x) = false := by simpa using hx
    rw [hne, if_neg Bool.false_ne_true] at hpending hhandle
    exact h.frame (by rw [ht]; exact Nat.le_refl _) hhandle hpending hj

/-- A timer is called and goes back onto the agenda, or retires. -/
theorem Marked.rearm (h : σ.Marked id) (x : Nat) (ht : τ.timers = σ.timers.rearm x)
    (hj : τ.journal = σ.journal) : τ.Marked id := by
  have hany : τ.journal.any (Moment.flags id) = σ.journal.any (Moment.flags id) := by rw [hj]
  unfold Timers.rearm at ht
  split at ht
  · exact h.frame (Nat.le_of_eq (by rw [ht])) (by rw [ht]) (by rw [ht]) hany
  · rename_i timer hp
    split at ht
    · exact h.retire x ht hany
    · refine h.frame (Nat.le_of_eq (by rw [ht])) (by rw [ht]) ?_ hany
      rw [ht]
      change ((σ.timers.pending.insert x _).get? id).isSome = (σ.timers.pending.get? id).isSome
      rw [Table.get?_insert]
      by_cases hx : id = x
      · subst hx
        rw [beq_self_eq_true, if_pos rfl, hp]
        rfl
      · rw [if_neg (by simpa using hx)]

/-- A timer is started, perhaps with a handle; the handle is live, and nothing has flagged it. -/
theorem Marked.start (h : σ.Marked id) (timer : Timer) (withHandle : Bool) {t : Timers}
    (ht : t = if withHandle then σ.timers.draw.giveHandle else σ.timers.draw)
    (hτ : τ.timers = t.add timer) (hj : τ.journal.any (Moment.flags id) = σ.journal.any (Moment.flags id)) :
    τ.Marked id := by
  have hlast : τ.timers.lastId = σ.timers.lastId + 1 := by
    rw [hτ, ht]
    cases withHandle <;> rfl
  have hhandles : τ.timers.handles =
      if withHandle then σ.timers.handles.insert (σ.timers.lastId + 1) {} else σ.timers.handles := by
    rw [hτ, ht]
    cases withHandle <;> rfl
  have hpending : τ.timers.isPending id =
      if id == σ.timers.lastId + 1 then true else σ.timers.isPending id := by
    have inserted : τ.timers.pending = σ.timers.pending.insert (σ.timers.lastId + 1) timer := by
      rw [hτ, ht]
      cases withHandle <;> rfl
    change (τ.timers.pending.get? id).isSome = _
    rw [inserted, Table.get?_insert]
    split <;> rfl
  by_cases hnew : id = σ.timers.lastId + 1
  · subst hnew
    obtain ⟨hnone, hsilent⟩ := h.numbered (Nat.lt_succ_self _)
    have fresh : ∀ handle, τ.timers.handles.get? (σ.timers.lastId + 1) = some handle → handle = {} := by
      intro handle hh
      rw [hhandles] at hh
      cases withHandle with
      | false => cases hnone.symm.trans hh
      | true => exact (Option.some.inj ((Table.get?_insert_self ..).symm.trans hh)).symm
    refine ⟨fun hlt => ?_, fun handle hh => ?_, fun handle hh => ?_⟩
    · omega
    · rw [fresh handle hh, hpending, beq_self_eq_true, if_pos rfl]
    · rw [fresh handle hh, hj, hsilent]
  · have hne : (id == σ.timers.lastId + 1) = false := by simpa using hnew
    rw [hne, if_neg Bool.false_ne_true] at hpending
    refine h.frame (by omega) ?_ hpending hj
    rw [hhandles]
    cases withHandle with
    | false => rfl
    | true => exact Table.get?_insert_of_ne _ _ hnew

/-- A handle is cancelled. -/
theorem Marked.cancelHandle (h : σ.Marked id) {x : Nat} (hx : (σ.timers.handles.get? x).isSome = true)
    (ht : τ.timers = σ.timers.cancelHandle x) (hj : τ.journal = .handleCancelled x :: σ.journal) :
    τ.Marked id := by
  have hhandle : τ.timers.handles.get? id = if id == x
      then (σ.timers.handles.get? id).map fun h => { h with cancelled := true }
      else σ.timers.handles.get? id := by
    rw [ht]
    exact Table.get?_modify ..
  have hlast : σ.timers.lastId = τ.timers.lastId := by
    rw [ht]
    rfl
  have hpending : τ.timers.isPending id = σ.timers.isPending id := by
    rw [ht]
    rfl
  by_cases hid : id = x
  · subst hid
    rw [beq_self_eq_true, if_pos rfl] at hhandle
    have hany : τ.journal.any (Moment.flags id) = true := by simp [hj, Moment.flags]
    refine ⟨fun hlt => ?_, fun handle hh => ?_, fun handle hh => ?_⟩
    · rw [(h.numbered (hlast ▸ hlt)).1] at hx
      cases hx
    · rw [hhandle] at hh
      obtain ⟨before, hbefore, rfl⟩ := Option.map_eq_some_iff.1 hh
      exact (h.live before hbefore).trans hpending.symm
    · rw [hhandle] at hh
      obtain ⟨before, hbefore, rfl⟩ := Option.map_eq_some_iff.1 hh
      exact hany.symm
  · have hne : (id == x) = false := by simpa using hid
    rw [hne, if_neg Bool.false_ne_true] at hhandle
    refine h.frame (Nat.le_of_eq hlast) hhandle hpending ?_
    simp [hj, Moment.flags, Ne.symm hid]

/-- All timers are cleared: the handles of those that were pending are flagged, and none is live. -/
theorem Marked.clear (h : σ.Marked id) (hlife : σ.Life id) (ht : τ.timers = σ.timers.clear)
    (hj : τ.journal = .cleared σ.timers.pending.keys ::
      (σ.timers.pending.keys.map .stopped).reverse ++ σ.journal) : τ.Marked id := by
  have hhandle : τ.timers.handles.get? id = (σ.timers.handles.get? id).map fun h =>
      if h.live then { h with cancelled := true, live := false } else h := by
    rw [ht]
    exact Table.get?_map ..
  have hany : τ.journal.any (Moment.flags id) =
      (σ.timers.isPending id || σ.journal.any (Moment.flags id)) := by
    have stops : (σ.timers.pending.keys.map Moment.stopped).reverse.any (Moment.flags id) = false := by
      simp [Moment.flags]
    have listed : σ.timers.pending.keys.contains id = σ.timers.isPending id := by
      rw [Bool.eq_iff_iff, List.contains_iff_mem, Table.mem_keys_iff]
      rfl
    rw [hj, List.any_append, List.any_cons, stops, Bool.or_false]
    exact congrArg (· || _) listed
  have hpending : τ.timers.isPending id = false := by
    rw [ht]
    rfl
  refine ⟨fun hlt => ?_, fun handle hh => ?_, fun handle hh => ?_⟩
  · have hlt' : σ.timers.lastId < id := by
      rw [ht] at hlt
      exact hlt
    obtain ⟨hnone, hsilent⟩ := h.numbered hlt'
    have unborn : σ.timers.isPending id = false := congrArg Option.isSome (hlife.unborn_of_lt hlt').pending
    rw [hhandle, hnone, hany, unborn, hsilent]
    exact ⟨rfl, rfl⟩
  · rw [hhandle] at hh
    obtain ⟨before, hbefore, rfl⟩ := Option.map_eq_some_iff.1 hh
    rw [hpending]
    split
    · rfl
    · exact Bool.eq_false_iff.2 ‹_›
  · rw [hhandle] at hh
    obtain ⟨before, hbefore, rfl⟩ := Option.map_eq_some_iff.1 hh
    rw [hany, ← h.live before hbefore, ← h.flagged before hbefore]
    cases before.live <;> rfl

end Stage

/-- **Every step flags the handles that it should, and no others.** -/
theorem Step.marked (h : Step raw σ τ) (hlife : ∀ id, σ.Life id) (hσ : σ.Marked id) : τ.Marked id := by
  have quiet (ht : τ.timers = σ.timers)
      (hj : ∃ ms, τ.journal = ms ++ σ.journal ∧ ∀ m ∈ ms, m.flags id = false) : τ.Marked id := by
    obtain ⟨ms, hj, hms⟩ := hj
    have hsilent : ms.any (Moment.flags id) = false := List.any_eq_false.2 fun m hm => by simp [hms m hm]
    refine hσ.frame (Nat.le_of_eq (by rw [ht])) (by rw [ht]) (by rw [ht]) ?_
    rw [hj, List.any_append, hsilent, Bool.false_or]
  have one {m : Moment} (hm : m.flags id = false) : ∀ m' ∈ [m], m'.flags id = false := by
    intro m' hm'
    rw [List.mem_singleton.1 hm', hm]
  cases h with
  | numberDrawn => exact hσ.frame (Nat.le_succ _) rfl rfl rfl
  | started timer withHandle ht => exact hσ.start timer withHandle ht rfl rfl
  | @cancelled x h => exact hσ.retire x rfl rfl
  | handleCancelled h => exact hσ.cancelHandle h rfl rfl
  | timersCleared => exact hσ.clear (hlife id) rfl rfl
  | tickBegan now => exact hσ.frame (Nat.le_refl _) rfl rfl rfl
  | @rearmed x tasks ht => exact hσ.rearm x rfl rfl
  | painted | created | listened | enrolled | enrolledAgain | told | primarySet | scriptsCleared | called
  | answered | returned | invoked | queued | flushBegan | flushed | flushEnded | fired | tickEnded
  | updateBegan | passedBy | reached | updated | failed | followed | updateEnded =>
    exact quiet rfl ⟨[_], rfl, one rfl⟩
  | queueCleared => exact quiet rfl ⟨_, rfl, fun _ hm => of_mem_moments hm fun _ => rfl⟩
  | erred h =>
    refine quiet rfl ⟨_, rfl, fun _ hm => ?_⟩
    exact of_mem_complaint h hm (fun _ _ _ _ => rfl) (fun _ _ _ => rfl) (fun _ _ => rfl) fun _ _ => rfl
  | _ => exact quiet rfl ⟨[], rfl, by simp⟩

/-- The timers that were pending when all timers were cleared have been stopped. -/
theorem Step.clearingStops (h : Step raw σ τ)
    (hσ : ∀ ids, .cleared ids ∈ σ.journal → ∀ id ∈ ids, .stopped id ∈ σ.journal) :
    ∀ ids, .cleared ids ∈ τ.journal → ∀ id ∈ ids, .stopped id ∈ τ.journal := by
  have later (ms : List Moment) (hj : τ.journal = ms ++ σ.journal)
      (hms : ∀ ids, .cleared ids ∈ ms → ∀ id ∈ ids, .stopped id ∈ ms) :
      ∀ ids, .cleared ids ∈ τ.journal → ∀ id ∈ ids, .stopped id ∈ τ.journal := by
    rw [hj]
    intro ids hids id hid
    rcases List.mem_append.1 hids with hnew | hold
    · exact List.mem_append_left _ (hms ids hnew id hid)
    · exact List.mem_append_right _ (hσ ids hold id hid)
  cases h with
  | timersCleared =>
    refine later _ rfl fun ids hids id hid => ?_
    have same : ids = σ.timers.pending.keys := by simpa using hids
    simp [← same, hid]
  | painted | created | listened | enrolled | enrolledAgain | told | primarySet | scriptsCleared | called
  | answered | returned | invoked | queued | flushBegan | flushed | flushEnded | started | cancelled
  | handleCancelled | tickBegan | fired | tickEnded | updateBegan | passedBy | reached | updated | failed
  | followed | updateEnded =>
    exact later [_] rfl fun ids hids => by simp at hids
  | queueCleared => exact later _ rfl fun ids hids => by simp at hids
  | erred h =>
    refine later _ rfl fun ids hids => ?_
    rcases Moment.mem_complaint hids with rfl | heq
    · cases h
    · cases heq
  | _ => exact later [] rfl fun ids hids => by cases hids

/-- No step takes a handle back. -/
theorem Step.handleKept (h : Step raw σ τ) (hid : (σ.timers.handles.get? id).isSome = true) :
    (τ.timers.handles.get? id).isSome = true := by
  have modified (x : Nat) (f : TimerHandle → TimerHandle) :
      ((σ.timers.handles.modify x f).get? id).isSome = true := by
    rw [Table.get?_modify]
    split
    · rw [Option.isSome_map]
      exact hid
    · exact hid
  cases h with
  | started timer withHandle ht =>
    subst ht
    cases withHandle with
    | false => exact hid
    | true =>
      change ((σ.timers.handles.insert (σ.timers.lastId + 1) {}).get? id).isSome = true
      rw [Table.get?_insert]
      split
      · rfl
      · exact hid
  | cancelled | handleCancelled => exact modified ..
  | timersCleared =>
    change ((σ.timers.handles.map _).get? id).isSome = true
    rw [Table.get?_map, Option.isSome_map]
    exact hid
  | rearmed =>
    unfold Timers.rearm
    split
    · exact hid
    · split
      · exact modified ..
      · exact hid
  | _ => exact hid

/-! ## Runs -/

/-- What the handles of timers tell, given what happened. -/
structure Timers.HandlesKept (journal : List Moment) (t : Timers) : Prop where
  /-- A handle is flagged as cancelled exactly if it was cancelled itself, or its timer was pending when all
  timers were cleared. -/
  flagged : ∀ id handle, t.handles.get? id = some handle →
    (handle.cancelled = true ↔
      .handleCancelled id ∈ journal ∨ ∃ ids, .cleared ids ∈ journal ∧ id ∈ ids)
  /-- A timer that was pending when all timers were cleared was stopped by that; so a handle is not flagged if
  its timer ran out and it was not cancelled itself. -/
  stopped : ∀ ids, .cleared ids ∈ journal → ∀ id ∈ ids, .stopped id ∈ journal
  /-- Handles stay. -/
  kept : ∀ m ∈ journal, ∀ seen, m.host? = some seen → ∀ id,
    (seen.timers.handles.get? id).isSome = true → (t.handles.get? id).isSome = true

theorem Moment.any_flags : journal.any (Moment.flags id) = true ↔
    .handleCancelled id ∈ journal ∨ ∃ ids, .cleared ids ∈ journal ∧ id ∈ ids := by
  rw [List.any_eq_true]
  constructor
  · rintro ⟨m, hm, hflags⟩
    cases m with
    | handleCancelled timer =>
      rw [← eq_of_beq hflags]
      exact .inl hm
    | cleared ids => exact .inr ⟨ids, hm, List.contains_iff_mem.1 hflags⟩
    | _ => cases hflags
  · rintro (hm | ⟨ids, hm, hid⟩)
    · exact ⟨_, hm, beq_self_eq_true id⟩
    · exact ⟨_, hm, List.contains_iff_mem.2 hid⟩

/-- Every handle that was met is still there. -/
theorem Step.handlesStay (h : Step raw σ τ)
    (hσ : ∀ m ∈ σ.journal, ∀ seen, m.host? = some seen → ∀ id,
      (seen.timers.handles.get? id).isSome = true → (σ.timers.handles.get? id).isSome = true) :
    ∀ m ∈ τ.journal, ∀ seen, m.host? = some seen → ∀ id,
      (seen.timers.handles.get? id).isSome = true → (τ.timers.handles.get? id).isSome = true :=
  h.since (R := fun seen σ => ∀ id, (seen.timers.handles.get? id).isSome = true →
      (σ.timers.handles.get? id).isSome = true)
    (fun _ hs _ hid => h.handleKept (hs.timers ▸ hid)) (fun _ hseen id hid => h.handleKept (hseen id hid)) hσ

/-- What the handles of timers tell, in the middle of some tasks. -/
structure Stage.Handled (σ : Stage) : Prop where
  life : ∀ id, σ.Life id
  marked : ∀ id, σ.Marked id
  stopped : ∀ ids, .cleared ids ∈ σ.journal → ∀ id ∈ ids, .stopped id ∈ σ.journal
  kept : ∀ m ∈ σ.journal, ∀ seen, m.host? = some seen → ∀ id,
    (seen.timers.handles.get? id).isSome = true → (σ.timers.handles.get? id).isSome = true

theorem Step.handled (h : Step raw σ τ) (hσ : σ.Handled) : τ.Handled where
  life := h.life hσ.life
  marked := fun id => h.marked hσ.life (hσ.marked id)
  stopped := h.clearingStops hσ.stopped
  kept := h.handlesStay hσ.kept

theorem Stage.handled_fresh (clock : Clock) : Handled { clock } where
  life := (Stage.timed_fresh clock).life
  marked := fun id => ⟨fun _ => ⟨rfl, rfl⟩, (fun _ hh => by cases hh), (fun _ hh => by cases hh)⟩
  stopped := fun ids hids => by cases hids
  kept := fun m hm => by cases hm

/-! ## Flags -/

namespace Timers

/-- What the handle of a timer is flagged as, if there is one. -/
def flag? (t : Timers) (id : Nat) : Option Bool := (t.handles.get? id).map TimerHandle.cancelled

theorem flag?_giveHandle (t : Timers) (id : Nat) :
    t.giveHandle.flag? id = if id == t.lastId then some false else t.flag? id := by
  change ((t.handles.insert t.lastId {}).get? id).map _ = _
  rw [Table.get?_insert]
  split <;> rfl

theorem flag?_retire (t : Timers) (x id : Nat) : (t.retire x).flag? id = t.flag? id := by
  change ((t.handles.modify x _).get? id).map _ = _
  rw [Table.get?_modify]
  split
  · exact Option.map_map ..
  · rfl

theorem flag?_cancelHandle (t : Timers) (x id : Nat) : (t.cancelHandle x).flag? id =
    if id == x then (t.flag? id).map fun _ => true else t.flag? id := by
  change ((t.handles.modify x _).get? id).map _ = _
  rw [Table.get?_modify]
  split
  · exact (Option.map_map ..).trans (Option.map_map (fun _ => true) TimerHandle.cancelled _).symm
  · rfl

/-- Clearing all timers flags the handles that are live. -/
theorem flag?_clear (t : Timers) (id : Nat) :
    t.clear.flag? id = (t.handles.get? id).map fun handle => handle.cancelled || handle.live := by
  change ((t.handles.map _).get? id).map _ = _
  rw [Table.get?_map, Option.map_map]
  refine congrArg (Option.map · _) (funext fun handle => ?_)
  cases h : handle.live <;> simp [h]

end Timers

namespace Session

open Act

variable {s : Session}

/-- A handle that is asked whether it is cancelled answers what it is flagged as. -/
theorem result_isCancelled (call : Caller) (t : Session) {handle : TimerHandle}
    (hh : t.host.timers.handles.get? id = some handle) :
    result (performTimer call (.isCancelled id)).run t = .ok (said handle.cancelled) := by
  have asked := result_bind_pure (m := timerHandle id) (g := fun handle => said handle.cancelled) (s := t)
  rw [result_timerHandle hh] at asked
  exact asked

/-- What is done with the flags of handles, in whatever session. -/
structure HandlesWork (call : Caller) (s : Session) : Prop where
  /-- A handle that is given out is not flagged. -/
  given : ∀ timer id, (s.timerStarted true timer).host.timers.flag? id =
    if id == s.host.timers.lastId + 1 then some false else s.host.timers.flag? id
  /-- A handle that is cancelled is flagged, and no other is. -/
  cancelHandle : ∀ (x : Nat) handle, s.host.timers.handles.get? x = some handle →
    let t := after (performTimer call (.cancelHandle x)).run s
    .handleCancelled x ∈ t.journal ∧
      ∀ id, t.host.timers.flag? id = if id == x then some true else s.host.timers.flag? id
  /-- Clearing all timers flags the handles that are live. -/
  clear :
    let t := after (performTimer call .clear).run s
    .cleared s.host.timers.pending.keys ∈ t.journal ∧ ∀ id, t.host.timers.flag? id =
      (s.host.timers.handles.get? id).map fun handle => handle.cancelled || handle.live
  /-- Stopping a timer by its number flags no handle. -/
  cancel : ∀ (x : Int) id, (after (performTimer call (.cancel x)).run s).host.timers.flag? id =
    s.host.timers.flag? id

theorem flag?_cancel (call : Caller) (s : Session) (x : Int) (id : Nat) :
    (after (performTimer call (.cancel x)).run s).host.timers.flag? id = s.host.timers.flag? id := by
  rw [after, run_cancel]
  split
  · exact s.host.timers.flag?_retire x.toNat id
  · rfl

theorem handlesWork (call : Caller) (s : Session) : s.HandlesWork call where
  given := fun timer id => s.host.timers.draw.flag?_giveHandle id
  cancelHandle := fun x handle hh => by
    dsimp only
    rw [after_cancelHandle hh]
    refine ⟨?_, fun id => ?_⟩
    · rw [after, run_cancel]
      split
      · exact List.mem_cons_of_mem _ List.mem_cons_self
      · exact List.mem_cons_self
    · rw [flag?_cancel]
      refine (s.host.timers.flag?_cancelHandle x id).trans ?_
      by_cases hid : id = x
      · subst hid
        rw [beq_self_eq_true, if_pos rfl, if_pos rfl, Timers.flag?, hh]
        rfl
      · rw [if_neg (by simpa using hid), if_neg (by simpa using hid)]
  clear := by
    dsimp only
    have cleared : after (performTimer call .clear).run s = s.timersCleared := after_clearTimers s
    rw [cleared]
    exact ⟨List.mem_cons_self, s.host.timers.flag?_clear⟩
  cancel := fun x id => flag?_cancel call s x id

/-- **What the handles of a host tell, whenever it is met**: whether they were cancelled themselves, or were
those of pending timers when all timers were cleared; and what is noted of that is what is done with them, in
whatever session. -/
theorem Ran.handlesKept (h : s.Ran true) {host : Host} (hp : s.Past journal host) :
    host.timers.HandlesKept journal ∧
      (∀ call t id handle, t.host = host → host.timers.handles.get? id = some handle →
        result (performTimer call (.isCancelled id)).run t = .ok (said handle.cancelled)) ∧
      ∀ (call : Caller) (t : Session), t.HandlesWork call := by
  have handled : host.timers.HandlesKept journal := by
    refine h.past (P := fun journal host => host.timers.HandlesKept journal) Stage.handled_fresh
      (fun _ _ hστ hσ => hστ.handled hσ) (fun σ host hs hσ => ?_) hp
    rw [hs.timers]
    refine ⟨fun id handle hh => ?_, hσ.stopped, hσ.kept⟩
    rw [(hσ.marked id).flagged handle hh, Moment.any_flags]
  refine ⟨handled, fun call t id handle ht hh => ?_, handlesWork⟩
  subst ht
  exact result_isCancelled call t hh

/-- A timer is started and stopped by its number. -/
def stoppedByNumber : Session := runRootless idle
  [.timer (.start (.float 1.0) (.callback "ring")), .timer (.cancel 1)]

theorem get?_stoppedByNumber : stoppedByNumber.host.timers.handles.get? 1 =
    some { cancelled := false, live := false } := by
  decide +kernel

theorem handlesKept_stoppedByNumber : stoppedByNumber.Ran true ∧
    stoppedByNumber.host.timers.HandlesKept stoppedByNumber.journal ∧
    (∀ call, result (performTimer call (.isCancelled 1)).run stoppedByNumber = .ok (said false)) ∧
    ∀ (call : Caller) (t : Session), t.HandlesWork call := by
  have ran : stoppedByNumber.Ran true := ran_idle (by decide)
  obtain ⟨kept, answers, work⟩ := ran.handlesKept .last
  exact ⟨ran, kept, fun call => answers call _ 1 _ rfl get?_stoppedByNumber, work⟩

/-- Handles tell of everything that stopped their timers: one whose timer was stopped is flagged, and one whose
timer was not, and that was not cancelled itself, is not flagged. -/
def Truthful (journal : List Moment) (t : Timers) : Prop :=
  ∀ id handle, t.handles.get? id = some handle →
    (.stopped id ∈ journal → handle.cancelled = true) ∧
      (.stopped id ∉ journal → .handleCancelled id ∉ journal → handle.cancelled = false)

/-- **A handle does not tell that its timer was stopped by its number.** -/
theorem not_truthful_stoppedByNumber :
    ¬ Truthful stoppedByNumber.journal stoppedByNumber.host.timers := by
  intro h
  have stopped : .stopped 1 ∈ stoppedByNumber.journal := List.mem_cons_of_mem _ List.mem_cons_self
  exact absurd ((h 1 _ get?_stoppedByNumber).1 stopped) (by decide)

end Session

end FrameHost
