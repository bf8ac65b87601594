import FrameHost.Proofs.Hierarchy
import FrameHost.Proofs.InPlace

/-!
# The index of listeners

That a frame listens for an event is kept twice: at the frame, and in a table of the registry, with the
moment at which it began to. Here the operations are taken one by one: whatever is done, the tables stay
an index of the frames, and only one frame gets new moments, all later than any before.

* `Registry.hears`, `Registry.since?`: the two places where a registration is kept.
* `Registry.Indexed`: the tables are an index of the frames.
* `Registry.Retuned`: what one operation may do to the moments.
* `EarStep.retuned`, `Registry.Indexed.enroll`: **operations on listeners, and taking a frame in, keep the
  index**.
* `Registry.Silent`: what leaves listeners alone.
-/

namespace FrameHost

/-! ## Registrations -/

namespace Frame

/-- Whether a frame has a registration: for one event, or for every event. -/
def hears (f : Frame) : Option String → Bool
  | some event => f.events.contains event
  | none => f.allEvents

/-- What a frame listens for. -/
def ears (f : Frame) : List String × Bool := (f.events, f.allEvents)

/-- The registrations of a frame, in the order in which they are made when it is taken in. -/
def registrations (f : Frame) : List (Option String) :=
  (Text.sorted f.events).map some ++ if f.allEvents then [none] else []

end Frame

namespace Registry

/-- Whether a frame has a registration: for one event, or for every event. -/
def hears (r : Registry) (id : FrameId) (what : Option String) : Bool := (r.get? id).any (·.hears what)

/-- The moment that the tables keep for a registration. -/
def since? (r : Registry) (id : FrameId) : Option String → Option Nat
  | some event => ((r.listeners.get? event).getD {}).get? id
  | none => r.allListeners.get? id

/-- The tables keep one moment for each registration, and no moment was given out twice. -/
structure Dated (r : Registry) : Prop where
  events : ∀ event, ((r.listeners.get? event).getD {}).keys.Nodup
  all : r.allListeners.keys.Nodup
  past : ∀ id what n, r.since? id what = some n → n ≤ r.moment
  apart : ∀ a b what what' n, r.since? a what = some n → r.since? b what' = some n →
    a = b ∧ what = what'

/-- The tables are an index of the frames. -/
structure Indexed (r : Registry) : Prop extends Dated r where
  live : ∀ id what, (r.since? id what).isSome = r.hears id what

/-- What one operation may do to the moments: only one frame gets new ones, which are later than all
before, and only where it had none. -/
def Retuned (id : FrameId) (r r' : Registry) : Prop := ∀ x what n, r'.since? x what = some n →
  r.since? x what = some n ∨ x = id ∧ r.moment < n ∧ r.since? x what = none

/-- No registration gets a moment. -/
def Fewer (r r' : Registry) : Prop :=
  ∀ x what n, r'.since? x what = some n → r.since? x what = some n

/-- Listeners are left alone. -/
structure Silent (r r' : Registry) : Prop where
  alike : Alike Frame.ears r r'
  listeners : r'.listeners = r.listeners
  allListeners : r'.allListeners = r.allListeners
  moment : r'.moment = r.moment

variable {r r' r'' : Registry} {id x : FrameId} {what : Option String}

/-! ## What leaves listeners alone -/

theorem Alike.hears (h : Alike Frame.ears r r') (x : FrameId) (what : Option String) :
    r'.hears x what = r.hears x what := by
  have hx := h x
  unfold Registry.hears
  cases hr : r.get? x with
  | none =>
    rw [hr] at hx
    rw [Option.map_eq_none_iff.1 hx]
  | some f =>
    rw [hr] at hx
    obtain ⟨f', hf', hears⟩ := Option.map_eq_some_iff.1 hx
    rw [hf']
    cases what with
    | none => exact (congrArg Prod.snd hears :)
    | some event => exact (congrArg (fun e => e.1.contains event) hears :)

namespace Silent

theorem refl (r : Registry) : Silent r r := ⟨.refl r, rfl, rfl, rfl⟩

theorem since? (h : Silent r r') (x : FrameId) (what : Option String) :
    r'.since? x what = r.since? x what := by
  cases what with
  | none => exact congrArg (Table.get? · x) h.allListeners
  | some event => exact congrArg (fun t => ((t.get? event).getD {}).get? x) h.listeners

theorem dated (h : Silent r r') (hr : r.Dated) : r'.Dated where
  events := h.listeners ▸ hr.events
  all := h.allListeners ▸ hr.all
  past := fun x what n hn => h.moment ▸ hr.past x what n (h.since? x what ▸ hn)
  apart := fun a b what what' n ha hb =>
    hr.apart a b what what' n (h.since? a what ▸ ha) (h.since? b what' ▸ hb)

theorem indexed (h : Silent r r') (hr : r.Indexed) : r'.Indexed where
  toDated := h.dated hr.toDated
  live := fun x what => by rw [h.since?, h.alike.hears, hr.live]

/-- What is written into frames in place leaves listeners alone. -/
theorem of_inPlace (h : InPlace r r') : Silent r r' where
  alike := (h.alike.map fun (_, _, events, allEvents) => (events, allEvents) :)
  listeners := h.listeners
  allListeners := h.allListeners
  moment := h.moment

theorem claimNameOf (id : FrameId) (f : Frame) : Silent r (r.claimNameOf id f) := by
  unfold Registry.claimNameOf Registry.claimName
  split
  · split
    · exact ⟨alike_update _ fun _ => rfl, rfl, rfl, rfl⟩
    · exact ⟨.of_frames rfl, rfl, rfl, rfl⟩
  · exact .refl r

end Silent

/-! ## New moments -/

theorem Fewer.refl (r : Registry) : Fewer r r := fun _ _ _ hn => hn

theorem Fewer.trans (h : Fewer r r') (h' : Fewer r' r'') : Fewer r r'' :=
  fun x what n hn => h x what n (h' x what n hn)

theorem Fewer.retuned (h : Fewer r r') : Retuned id r r' := fun x what n hn => .inl (h x what n hn)

theorem Silent.retuned (h : Silent r r') : Retuned id r r' :=
  Fewer.retuned fun x what _ hn => h.since? x what ▸ hn

theorem Retuned.silent (h : Retuned id r r') (hs : Silent r' r'') : Retuned id r r'' :=
  fun x what n hn => h x what n (hs.since? x what ▸ hn)

/-- A frame begins to listen at a new moment, unless it did already. -/
def begin (r : Registry) (id : FrameId) : Option String → Registry
  | some event => r.beginListening id event
  | none => r.beginListeningToAll id

theorem moment_begin (what : Option String) : (r.begin id what).moment = r.moment + 1 := by
  cases what <;> rfl

theorem frames_begin (what : Option String) : (r.begin id what).frames = r.frames := by
  cases what <;> rfl

theorem listeners_beginListening (event event' : String) :
    ((r.beginListening id event).listeners.get? event').getD {} =
      if event' == event then ((r.listeners.get? event).getD {}).insertNew id (r.moment + 1)
      else (r.listeners.get? event').getD {} := by
  unfold beginListening
  dsimp only [tick]
  rw [Table.get?_insert]
  split <;> rfl

theorem since?_begin (id x : FrameId) (what what' : Option String) :
    (r.begin id what).since? x what' =
      if x = id ∧ what' = what then some ((r.since? id what).getD (r.moment + 1))
      else r.since? x what' := by
  cases what with
  | none =>
    cases what' with
    | none =>
      refine (Table.get?_insertNew ..).trans ?_
      by_cases hx : x = id <;> simp [hx, since?, tick]
    | some event => exact (if_neg (by simp)).symm
  | some event =>
    cases what' with
    | none => exact (if_neg (by simp)).symm
    | some event' =>
      unfold since? begin
      dsimp only
      rw [listeners_beginListening]
      by_cases hevent : event' = event
      · subst hevent
        rw [if_pos (beq_self_eq_true _), Table.get?_insertNew]
        by_cases hx : x = id <;> simp [hx]
      · rw [if_neg (by simpa using hevent), if_neg (by simp [hevent])]

/-- A moment is an earlier one, or the new one, which is that of one registration only. -/
theorem cases_since?_begin {x : FrameId} {what what' : Option String} {n : Nat}
    (hn : (r.begin id what).since? x what' = some n) : r.since? x what' = some n ∨
      (x = id ∧ what' = what) ∧ n = r.moment + 1 ∧ r.since? x what' = none := by
  rw [since?_begin] at hn
  split at hn
  · rename_i hx
    obtain ⟨rfl, rfl⟩ := hx
    cases hs : r.since? x what' with
    | none =>
      rw [hs] at hn
      exact .inr ⟨⟨rfl, rfl⟩, (Option.some.inj hn).symm, rfl⟩
    | some m =>
      rw [hs] at hn
      exact .inl hn
  · exact .inl hn

theorem Dated.begin (h : r.Dated) (id : FrameId) (what : Option String) : (r.begin id what).Dated := by
  constructor
  case events =>
    intro event'
    cases what with
    | none => exact h.events event'
    | some event =>
      change (((r.beginListening id event).listeners.get? event').getD {}).keys.Nodup
      rw [listeners_beginListening]
      split
      · exact Table.nodup_insertNew (h.events event) ..
      · exact h.events event'
  case all =>
    cases what with
    | none => exact Table.nodup_insertNew h.all ..
    | some event => exact h.all
  case past =>
    intro x what' n hn
    rw [moment_begin]
    rcases cases_since?_begin hn with hn | ⟨-, rfl, -⟩
    · exact Nat.le_succ_of_le (h.past _ _ _ hn)
    · exact Nat.le_refl _
  case apart =>
    intro a b u v n ha hb
    rcases cases_since?_begin ha with ha | ⟨⟨rfl, rfl⟩, rfl, -⟩
    · rcases cases_since?_begin hb with hb | ⟨-, rfl, -⟩
      · exact h.apart a b u v n ha hb
      · exact absurd (h.past _ _ _ ha) (Nat.not_succ_le_self _)
    · rcases cases_since?_begin hb with hb | ⟨⟨rfl, rfl⟩, -⟩
      · exact absurd (h.past _ _ _ hb) (Nat.not_succ_le_self _)
      · exact ⟨rfl, rfl⟩

theorem retuned_begin (id : FrameId) (what : Option String) : Retuned id r (r.begin id what) := by
  intro x what' n hn
  rcases cases_since?_begin hn with hn | ⟨⟨rfl, rfl⟩, rfl, hnone⟩
  · exact .inl hn
  · exact .inr ⟨rfl, Nat.lt_succ_self _, hnone⟩

theorem isSome_since?_begin (id x : FrameId) (what what' : Option String) :
    ((r.begin id what).since? x what').isSome =
      (decide (x = id ∧ what' = what) || (r.since? x what').isSome) := by
  rw [since?_begin]
  by_cases hx : x = id ∧ what' = what <;> simp [hx]

/-! ## Taking a frame in -/

/-- A frame begins to listen for several things in turn. -/
def beginAll (r : Registry) (id : FrameId) (whats : List (Option String)) : Registry :=
  whats.foldl (fun r what => r.begin id what) r

theorem frames_beginAll (whats : List (Option String)) : (r.beginAll id whats).frames = r.frames := by
  induction whats generalizing r with
  | nil => rfl
  | cons what whats ih => exact ih.trans (frames_begin what)

theorem Dated.beginAll (h : r.Dated) (whats : List (Option String)) : (r.beginAll id whats).Dated := by
  induction whats generalizing r with
  | nil => exact h
  | cons what whats ih => exact ih (h.begin id what)

theorem isSome_since?_beginAll (whats : List (Option String)) :
    ((r.beginAll id whats).since? x what).isSome =
      (decide (x = id ∧ what ∈ whats) || (r.since? x what).isSome) := by
  induction whats generalizing r with
  | nil => simp [beginAll]
  | cons what' whats ih =>
    refine ih.trans ?_
    rw [isSome_since?_begin, ← Bool.or_assoc]
    congr 1
    by_cases hx : x = id <;> by_cases hw : what = what' <;> simp [hx, hw]

theorem retuned_beginAll (whats : List (Option String)) : Retuned id r (r.beginAll id whats) := by
  induction whats generalizing r with
  | nil => exact (Silent.refl r).retuned
  | cons what' whats ih =>
    intro x what n hn
    rcases ih x what n hn with hn | ⟨rfl, hlt, hnone⟩
    · exact retuned_begin id what' x what n hn
    · rw [moment_begin] at hlt
      refine .inr ⟨rfl, Nat.lt_of_succ_lt hlt, ?_⟩
      have hsome := isSome_since?_begin (r := r) x x what' what
      rw [hnone] at hsome
      cases hs : r.since? x what with
      | none => rfl
      | some m => simp [hs] at hsome

theorem mem_registrations {f : Frame} : what ∈ f.registrations ↔ f.hears what = true := by
  unfold Frame.registrations Text.sorted
  cases what with
  | none => cases h : f.allEvents <;> simp [Frame.hears, h]
  | some event => cases h : f.allEvents <;> simp [Frame.hears]

/-- A frame that is taken in is written under its id; then it is registered for what it listens for. -/
def seat (r : Registry) (id : FrameId) (f : Frame) : Registry :=
  { r.claimNameOf id f with frames := (r.claimNameOf id f).frames.insert id f }

theorem enroll_eq (f : Frame) :
    r.enroll id f = ((r.seat id f).beginAll id f.registrations).markDirty := by
  unfold enroll seat beginAll Frame.registrations
  rw [List.foldl_append, List.foldl_map]
  cases f.allEvents <;> rfl

theorem since?_seat (f : Frame) : (r.seat id f).since? x what = r.since? x what :=
  (Silent.claimNameOf id f).since? x what

theorem hears_seat (f : Frame) :
    (r.seat id f).hears x what = if x = id then f.hears what else r.hears x what := by
  have hget : (r.seat id f).get? x = if x == id then some f else (r.claimNameOf id f).get? x :=
    Table.get?_insert ..
  unfold hears
  rw [hget]
  by_cases hx : x = id
  · simp [hx]
  · rw [if_neg (by simpa using hx), if_neg hx]
    exact (Silent.claimNameOf id f).alike.hears x what

/-- **Taking a frame in keeps the index**, if it listens for all that the tables have of its id. -/
theorem Indexed.enroll (h : r.Indexed) {f : Frame}
    (hid : ∀ what, r.hears id what = true → f.hears what = true) :
    (r.enroll id f).Indexed ∧ Retuned id r (r.enroll id f) := by
  have dated : (r.seat id f).Dated :=
    have hr := (Silent.claimNameOf id f).dated h.toDated
    ⟨hr.events, hr.all, hr.past, hr.apart⟩
  have retuned : Retuned id r ((r.seat id f).beginAll id f.registrations) := fun x what n hn => by
    have hmoment : (r.seat id f).moment = r.moment := (Silent.claimNameOf id f).moment
    have hx := retuned_beginAll f.registrations x what n hn
    rwa [since?_seat, hmoment] at hx
  rw [enroll_eq]
  have marked (q : Registry) : Silent q q.markDirty := .of_inPlace .markDirty
  refine ⟨{ toDated := (marked _).dated (dated.beginAll _), live := fun x what => ?_ },
    retuned.silent (marked _)⟩
  have hhears : ((r.seat id f).beginAll id f.registrations).hears x what =
      (r.seat id f).hears x what := (Alike.of_frames (frames_beginAll _)).hears x what
  refine (isSome_since?_beginAll f.registrations).trans (Eq.trans ?_ hhears.symm)
  rw [since?_seat, h.live, hears_seat]
  by_cases hx : x = id
  · subst hx
    have hmem : what ∈ f.registrations ↔ f.hears what = true := mem_registrations
    cases hf : f.hears what with
    | true => simp [hmem, hf]
    | false =>
      have hr : r.hears x what = false := Bool.eq_false_iff.2 fun hr => by simp [hid what hr] at hf
      simp [hmem, hf, hr]
  · simp [hx]

/-! ## Operations on listeners -/

/-- A frame that is told of something else to listen for. -/
theorem Indexed.register (h : r.Indexed) {f : Frame} (hf : r.get? id = some f)
    {g : Frame → Frame} (hg : ∀ f what', (g f).hears what' = (decide (what' = what) || f.hears what')) :
    ((r.update id g).begin id what).Indexed ∧ Retuned id r ((r.update id g).begin id what) := by
  have dated : (r.update id g).Dated := ⟨h.events, h.all, h.past, h.apart⟩
  refine ⟨{ toDated := dated.begin id what, live := fun x what' => ?_ }, retuned_begin id what⟩
  have hhears : ((r.update id g).begin id what).hears x what' = (r.update id g).hears x what' :=
    (Alike.of_frames (frames_begin what)).hears x what'
  refine (isSome_since?_begin ..).trans (Eq.trans ?_ hhears.symm)
  change (_ || (r.since? x what').isSome) = _
  rw [h.live]
  unfold hears
  rw [get?_update]
  by_cases hx : x = id
  · subst hx
    simp [hf, hg]
  · simp [hx]

theorem registerEvent_eq (h : r.Indexed) {f : Frame} (hf : r.get? id = some f) {event : String}
    (hnew : f.events.contains event = false) : r.registerEvent id event =
      (r.update id fun f => { f with events := f.events ++ [event] }).begin id (some event) := by
  have hnone : ((r.listeners.get? event).getD {}).contains id = false := by
    refine (h.live id (some event)).trans ?_
    unfold hears
    rw [hf]
    exact hnew
  have hwrite (n : Nat) : ((r.listeners.get? event).getD {}).insertNew id n =
      ((r.listeners.get? event).getD {}).insert id n := if_neg (by simp [hnone])
  unfold registerEvent begin beginListening tick
  dsimp only
  rw [hf]
  dsimp only
  rw [hnew]
  exact congrArg (fun t => { r.update id _ with
    moment := r.moment + 1, listeners := r.listeners.insert event t }) (hwrite _).symm

theorem registerAllEvents_eq (h : r.Indexed) {f : Frame} (hf : r.get? id = some f)
    (hnew : f.allEvents = false) :
    r.registerAllEvents id = (r.update id fun f => { f with allEvents := true }).begin id none := by
  have hnone : r.allListeners.contains id = false := by
    refine (h.live id none).trans ?_
    unfold hears
    rw [hf]
    exact hnew
  have hwrite (n : Nat) : r.allListeners.insertNew id n = r.allListeners.insert id n :=
    if_neg (by simp [hnone])
  unfold registerAllEvents begin beginListeningToAll tick
  rw [hf]
  dsimp only
  rw [hnew]
  exact congrArg (fun t => { r.update id _ with moment := r.moment + 1, allListeners := t })
    (hwrite _).symm

/-- A registration that is dropped, at the frame and in its table. -/
theorem Indexed.drop (h : r.Indexed) (id : FrameId) (what : Option String) {g : Frame → Frame}
    (hg : ∀ f what', (g f).hears what' = (f.hears what' && !decide (what' = what)))
    (hframes : r'.frames = (r.update id g).frames) (hmoment : r'.moment = r.moment)
    (hevents : ∀ event, ((r'.listeners.get? event).getD {}).keys.Nodup)
    (hall : r'.allListeners.keys.Nodup)
    (hsince : ∀ x what', r'.since? x what' =
      if x = id ∧ what' = what then none else r.since? x what') :
    r'.Indexed ∧ Fewer r r' := by
  have fewer : Fewer r r' := fun x what' n hn => by
    rw [hsince] at hn
    split at hn
    · cases hn
    · exact hn
  refine ⟨⟨⟨hevents, hall, ?past, ?apart⟩, fun x what' => ?_⟩, fewer⟩
  case past => exact fun x what' n hn => hmoment ▸ h.past x what' n (fewer _ _ _ hn)
  case apart => exact fun a b u v n ha hb => h.apart a b u v n (fewer _ _ _ ha) (fewer _ _ _ hb)
  have hhears : r'.hears x what' = (r.update id g).hears x what' :=
    (Alike.of_frames hframes).hears x what'
  rw [hhears, hsince]
  have hlive := h.live x what'
  unfold hears at hlive ⊢
  rw [get?_update]
  by_cases hx : x = id
  · subst hx
    by_cases hw : what' = what
    · cases hf : r.get? x <;> simp [hw, hg]
    · cases hf : r.get? x <;> simp [hw, hg, hlive, hf]
  · simp [hx, hlive]

theorem frames_unregisterEvent (hid : r.contains id = true) (event : String) :
    (r.unregisterEvent id event).frames =
      (r.update id fun f => { f with events := f.events.filter (· ≠ event) }).frames := by
  unfold Registry.unregisterEvent
  rw [if_pos hid]
  dsimp only
  split <;> rfl

theorem listeners_unregisterEvent (hid : r.contains id = true) (event event' : String) :
    ((r.unregisterEvent id event).listeners.get? event').getD {} =
      if event' = event then ((r.listeners.get? event).getD {}).erase id
      else (r.listeners.get? event').getD {} := by
  have hlisteners (g : Frame → Frame) : (r.update id g).listeners = r.listeners := rfl
  unfold Registry.unregisterEvent
  rw [if_pos hid]
  dsimp only
  cases htable : r.listeners.get? event with
  | none =>
    rw [hlisteners, htable]
    dsimp only
    rw [hlisteners]
    split
    · rename_i hevent
      rw [hevent, htable]
      rfl
    · rfl
  | some table =>
    rw [hlisteners, htable]
    dsimp only
    -- a table that becomes empty is removed, which looks the same
    split
    · rename_i hempty
      have hnil : table.erase id = {} := congrArg Table.mk (List.isEmpty_iff.1 hempty)
      rw [Table.get?_erase]
      by_cases hevent : event' = event <;> simp [hevent, hnil]
    · rw [Table.get?_insert]
      by_cases hevent : event' = event <;> simp [hevent]

theorem Indexed.unregisterEvent (h : r.Indexed) (id : FrameId) (event : String) :
    (r.unregisterEvent id event).Indexed ∧ Fewer r (r.unregisterEvent id event) := by
  cases hid : r.contains id with
  | false =>
    have hr : r.unregisterEvent id event = r := if_neg (by simp [hid])
    rw [hr]
    exact ⟨h, .refl r⟩
  | true =>
    have hrest : (r.unregisterEvent id event).moment = r.moment ∧
        (r.unregisterEvent id event).allListeners = r.allListeners := by
      unfold Registry.unregisterEvent
      rw [if_pos hid]
      dsimp only
      split <;> exact ⟨rfl, rfl⟩
    refine h.drop id (some event) ?_ (frames_unregisterEvent hid event) hrest.1 ?_ ?_ ?_
    · intro f what'
      cases what' with
      | none => simp [Frame.hears]
      | some event' => by_cases he : event' = event <;> simp [Frame.hears, he]
    · intro event'
      rw [listeners_unregisterEvent hid]
      split
      · exact Table.nodup_erase (h.events event) id
      · exact h.events event'
    · rw [hrest.2]
      exact h.all
    · intro x what'
      cases what' with
      | none =>
        rw [if_neg (by simp)]
        exact congrArg (Table.get? · x) hrest.2
      | some event' =>
        unfold since?
        dsimp only
        rw [listeners_unregisterEvent hid]
        by_cases he : event' = event
        · rw [if_pos he, Table.get?_erase]
          by_cases hx : x = id <;> simp [hx, he]
        · rw [if_neg he, if_neg (by simp [he])]

/-- A frame stops to listen for every event. -/
def deafen (r : Registry) (id : FrameId) : Registry :=
  { r.update id fun f => { f with allEvents := false } with
    allListeners := r.allListeners.erase id }

theorem Indexed.deafen (h : r.Indexed) (id : FrameId) :
    (r.deafen id).Indexed ∧ Fewer r (r.deafen id) := by
  refine h.drop id none (g := fun f => { f with allEvents := false }) ?_ rfl rfl h.events
    (Table.nodup_erase h.all id) ?_
  · intro f what'
    cases what' <;> simp [Frame.hears]
  · intro x what'
    cases what' with
    | none =>
      refine (Table.get?_erase ..).trans ?_
      by_cases hx : x = id <;> simp [hx, since?]
    | some event' => exact (if_neg (by simp)).symm

theorem Indexed.unregisterAllEvents (h : r.Indexed) (id : FrameId) :
    (r.unregisterAllEvents id).Indexed ∧ Fewer r (r.unregisterAllEvents id) := by
  have each (events : List String) {r : Registry} (h : r.Indexed) :
      (events.foldl (fun r event => r.unregisterEvent id event) r).Indexed ∧
        Fewer r (events.foldl (fun r event => r.unregisterEvent id event) r) := by
    induction events generalizing r with
    | nil => exact ⟨h, .refl r⟩
    | cons event events ih =>
      obtain ⟨h', hr'⟩ := h.unregisterEvent id event
      obtain ⟨h'', hr''⟩ := ih h'
      exact ⟨h'', hr'.trans hr''⟩
  unfold Registry.unregisterAllEvents
  split
  · exact ⟨h, .refl r⟩
  · rename_i f hf
    obtain ⟨h', hr'⟩ := each f.events h
    obtain ⟨h'', hr''⟩ := h'.deafen id
    exact ⟨h'', hr'.trans hr''⟩

theorem Indexed.registerEvent (h : r.Indexed) (id : FrameId) (event : String) :
    (r.registerEvent id event).Indexed ∧ Retuned id r (r.registerEvent id event) := by
  cases hf : r.get? id with
  | none =>
    have hr : r.registerEvent id event = r := by
      unfold Registry.registerEvent
      rw [hf]
    rw [hr]
    exact ⟨h, (Silent.refl r).retuned⟩
  | some f =>
    cases hnew : f.events.contains event with
    | true =>
      have hr : r.registerEvent id event = r := by
        unfold Registry.registerEvent
        rw [hf]
        exact if_pos hnew
      rw [hr]
      exact ⟨h, (Silent.refl r).retuned⟩
    | false =>
      rw [registerEvent_eq h hf hnew]
      refine h.register hf fun f what' => ?_
      cases what' with
      | none => simp [Frame.hears]
      | some event' => simp [Frame.hears, Bool.or_comm]

theorem Indexed.registerAllEvents (h : r.Indexed) (id : FrameId) :
    (r.registerAllEvents id).Indexed ∧ Retuned id r (r.registerAllEvents id) := by
  cases hf : r.get? id with
  | none =>
    have hr : r.registerAllEvents id = r := by
      unfold Registry.registerAllEvents
      rw [hf]
    rw [hr]
    exact ⟨h, (Silent.refl r).retuned⟩
  | some f =>
    cases hnew : f.allEvents with
    | true =>
      have hr : r.registerAllEvents id = r := by
        unfold Registry.registerAllEvents
        rw [hf]
        exact if_pos hnew
      rw [hr]
      exact ⟨h, (Silent.refl r).retuned⟩
    | false =>
      rw [registerAllEvents_eq h hf hnew]
      refine h.register hf fun f what' => ?_
      cases what' <;> simp [Frame.hears]

theorem indexed_empty : ({} : Registry).Indexed where
  events := fun _ => .nil
  all := .nil
  past := fun _ what _ hn => by cases what <;> cases hn
  apart := fun _ _ what _ _ ha => by cases what <;> cases ha
  live := fun _ what => by cases what <;> rfl

end Registry

/-! ## Steps -/

variable {r r' : Registry}

/-- **Whatever a frame begins or ceases to listen for, the tables stay an index.** -/
theorem EarStep.retuned (h : EarStep r r') (hr : r.Indexed) :
    r'.Indexed ∧ ∃ id, Registry.Retuned id r r' := by
  cases h with
  | absent => exact ⟨hr, 0, (Registry.Silent.refl r).retuned⟩
  | listening id event => exact (hr.registerEvent id event).imp_right fun h => ⟨id, h⟩
  | deaf id event => exact (hr.unregisterEvent id event).imp_right fun h => ⟨id, h.retuned⟩
  | listeningToAll id => exact (hr.registerAllEvents id).imp_right fun h => ⟨id, h⟩
  | deafToAll id => exact (hr.unregisterAllEvents id).imp_right fun h => ⟨id, h.retuned⟩

end FrameHost
