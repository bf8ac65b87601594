import FrameHost.Proofs.Listeners.Index
import FrameHost.Proofs.Step.Run

/-!
# Listeners stand in the order in which they began to listen

Who listens for an event is told from the moments that the tables keep. What happened tells the same: the
frames are seen whenever listeners may have changed, so a registration is live since the earliest sight of
the frames from which on every sight shows it. Here the two orders are shown to be one.

* `liveSince`, `listeningSince`: since when a frame listens, told from what happened.
* `Registry.Recorded`: the order of the moments is the order in which registrations became live.
* `Step.tuned`: **every step keeps the moments in order**.
* `Registry.ListensInOrder`: listeners are the frames that are registered, once each, the earliest first.
* `Session.Ran.listensInOrder`: **whenever the host of a run is met, listeners stand in order**.
-/

namespace FrameHost

/-! ## What happened -/

/-- The frames as they were seen when something happened. -/
def Moment.registry? : Moment → Option Registry
  | .called _ _ seen | .answered _ _ seen => some seen.registry
  | .created _ seen | .tuned seen | .enrolled _ _ seen | .painted seen => some seen
  | _ => none

/-- Since when a registration is live, if it is: how much had happened before the earliest sight of the
frames from which on every sight shows it. -/
def liveSince (id : FrameId) (what : Option String) : List Moment → Option Nat
  | [] => none
  | m :: earlier =>
    match m.registry? with
    | none => liveSince id what earlier
    | some seen =>
      if seen.hears id what then some ((liveSince id what earlier).getD earlier.length) else none

/-- Since when a frame listens for an event, be it for this one or for every event. -/
def listeningSince (id : FrameId) (event : String) (journal : List Moment) : Option Nat :=
  Option.merge min (liveSince id (some event) journal) (liveSince id none journal)

/-- Whether a frame that was taken in asked for an id that had been drawn. -/
def Moment.isDrawn : Moment → Bool
  | .enrolled wanted last _ => decide (wanted ≤ last)
  | _ => true

/-- Every frame that a caller brought asked for an id that had been drawn. -/
def Drawn (journal : List Moment) : Prop := ∀ m ∈ journal, m.isDrawn = true

instance (journal : List Moment) : Decidable (Drawn journal) :=
  inferInstanceAs (Decidable (∀ m ∈ journal, m.isDrawn = true))

/-- Listeners are the frames that an event reaches, once each, and who has listened for longer comes
first. -/
structure Registry.ListensInOrder (r : Registry) (journal : List Moment) : Prop where
  once : ∀ event, (r.listenersOf event).Nodup
  reached : ∀ event id, id ∈ r.listenersOf event ↔ r.isRegistered id event = true
  ordered : ∀ event, (r.listenersOf event).Pairwise fun a b =>
    ∃ m n, listeningSince a event journal = some m ∧ listeningSince b event journal = some n ∧ m < n

variable {raw : Bool} {σ τ : Stage} {r r' : Registry} {id : FrameId} {what : Option String}
  {journal : List Moment} {m : Moment}

/-! ## Sights of the frames -/

theorem liveSince_lt {n : Nat} (h : liveSince id what journal = some n) : n < journal.length := by
  induction journal generalizing n with
  | nil => cases h
  | cons m earlier ih =>
    have later {n : Nat} (hn : liveSince id what earlier = some n) : n < earlier.length + 1 :=
      Nat.lt_succ_of_lt (ih hn)
    unfold liveSince at h
    split at h
    · exact later h
    · split at h
      · cases hs : liveSince id what earlier with
        | none =>
          rw [hs] at h
          cases h
          exact Nat.lt_succ_self _
        | some n' =>
          rw [hs] at h
          cases h
          exact later hs
      · cases h

theorem liveSince_append {ms : List Moment} (hms : ∀ m ∈ ms, m.registry? = none) :
    liveSince id what (ms ++ journal) = liveSince id what journal := by
  induction ms with
  | nil => rfl
  | cons m ms ih =>
    rw [List.cons_append, liveSince, hms m List.mem_cons_self]
    exact ih fun m' hm' => hms m' (List.mem_cons_of_mem _ hm')

theorem liveSince_cons {seen : Registry} (hm : m.registry? = some seen) :
    liveSince id what (m :: journal) =
      if seen.hears id what then some ((liveSince id what journal).getD journal.length) else none := by
  rw [liveSince, hm]

/-! ## The order of the moments -/

/-- What happened shows the live registrations, and the moments that the tables keep are in the order in
which those became live; of different frames no two became live at once. -/
structure Registry.Recorded (r : Registry) (journal : List Moment) : Prop where
  live : ∀ id what, (liveSince id what journal).isSome = r.hears id what
  ordered : ∀ a b what what' k l m n, r.since? a what = some k → r.since? b what' = some l →
    liveSince a what journal = some m → liveSince b what' journal = some n → k < l →
      m ≤ n ∧ (a ≠ b → m < n)

namespace Registry.Recorded

theorem silent (h : r.Recorded journal) (hs : Silent r r') : r'.Recorded journal where
  live := fun x what => (h.live x what).trans (hs.alike.hears x what).symm
  ordered := fun a b what what' k l m n hk hl =>
    h.ordered a b what what' k l m n (hs.since? a what ▸ hk) (hs.since? b what' ▸ hl)

theorem append (h : r.Recorded journal) {ms : List Moment} (hms : ∀ m ∈ ms, m.registry? = none) :
    r.Recorded (ms ++ journal) where
  live := fun x what => (congrArg _ (liveSince_append hms)).trans (h.live x what)
  ordered := fun a b what what' k l m n hk hl hm hn =>
    h.ordered a b what what' k l m n hk hl (liveSince_append hms ▸ hm) (liveSince_append hms ▸ hn)

/-- **A sight of the frames after one operation on listeners keeps the order.** -/
theorem see (h : r.Recorded journal) (hr : r.Indexed) (hr' : r'.Indexed) (ht : Retuned id r r')
    (hm : m.registry? = some r') : r'.Recorded (m :: journal) := by
  -- a registration that is seen was live before, or has just become live
  have before {x : FrameId} {what : Option String} {k n : Nat} (hk : r'.since? x what = some k)
      (hn : liveSince x what (m :: journal) = some n) :
      r.since? x what = some k ∧ liveSince x what journal = some n ∨
        x = id ∧ r.moment < k ∧ n = journal.length := by
    have hears : r'.hears x what = true :=
      (hr'.live x what).symm.trans (congrArg Option.isSome hk)
    rw [liveSince_cons hm, if_pos hears] at hn
    have hlive := h.live x what
    rw [← hr.live] at hlive
    rcases ht x what k hk with hk | ⟨rfl, hlt, hnone⟩
    · rw [hk] at hlive
      obtain ⟨n', hn'⟩ := Option.isSome_iff_exists.1 hlive
      rw [hn'] at hn
      exact .inl ⟨hk, hn'.trans hn⟩
    · rw [hnone] at hlive
      rw [Option.not_isSome_iff_eq_none.1 (Bool.eq_false_iff.1 hlive)] at hn
      exact .inr ⟨rfl, hlt, (Option.some.inj hn).symm⟩
  constructor
  case live =>
    intro x what
    rw [liveSince_cons hm]
    cases r'.hears x what <;> rfl
  case ordered =>
    intro a b what what' k l n n' hk hl hn hn' hkl
    rcases before hk hn with ⟨hk, hn⟩ | ⟨rfl, hnew, rfl⟩
    · rcases before hl hn' with ⟨hl, hn'⟩ | ⟨-, -, rfl⟩
      · exact h.ordered a b what what' k l n n' hk hl hn hn' hkl
      · have hlt := liveSince_lt hn
        exact ⟨Nat.le_of_lt hlt, fun _ => hlt⟩
    · rcases before hl hn' with ⟨hl, -⟩ | ⟨rfl, -, rfl⟩
      · exact absurd (hr.past b what' l hl) (Nat.not_le_of_gt (Nat.lt_trans hnew hkl))
      · exact ⟨Nat.le_refl _, fun hne => absurd rfl hne⟩

end Registry.Recorded

/-! ## Steps -/

/-- The tables are an index of the frames, which are numbered by the ids that were drawn, and their moments
are in order. -/
structure Stage.Tuned (σ : Stage) : Prop where
  numbered : ∀ id, σ.registry.contains id = true → id ≤ σ.lastId
  indexed : σ.registry.Indexed
  recorded : σ.registry.Recorded σ.journal

/-- Listeners are left alone, and no sight of the frames is taken. -/
theorem Stage.Tuned.quiet (hσ : σ.Tuned) (hs : Registry.Silent σ.registry τ.registry)
    (hlast : σ.lastId ≤ τ.lastId)
    (hj : ∃ ms, τ.journal = ms ++ σ.journal ∧ ∀ m ∈ ms, m.registry? = none) : τ.Tuned := by
  obtain ⟨ms, hj, hms⟩ := hj
  refine ⟨fun id hid => ?_, hs.indexed hσ.indexed, ?_⟩
  · exact Int.le_trans (hσ.numbered id ((hs.alike.contains id).symm.trans hid)) hlast
  · rw [hj]
    exact (hσ.recorded.append hms).silent hs

/-- Listeners are left alone while a sight of the frames is taken. -/
theorem Stage.Tuned.look (hσ : σ.Tuned) (hm : m.registry? = some σ.registry) : (σ.note m).Tuned :=
  have retuned : Registry.Retuned 0 σ.registry σ.registry := (Registry.Silent.refl _).retuned
  ⟨hσ.numbered, hσ.indexed, hσ.recorded.see hσ.indexed hσ.indexed retuned hm⟩

/-- A frame is taken in, and perhaps listed under another. -/
theorem Stage.Tuned.enroll (hσ : σ.Tuned) {f : Frame}
    (hid : ∀ what, σ.registry.hears id what = true → f.hears what = true)
    (hs : Registry.Silent (σ.registry.enroll id f) τ.registry)
    (hlast : σ.lastId ≤ τ.lastId) (hle : id ≤ τ.lastId) (hj : τ.journal = m :: σ.journal)
    (hm : m.registry? = some τ.registry) : τ.Tuned := by
  obtain ⟨hindexed, hretuned⟩ := hσ.indexed.enroll hid
  refine ⟨fun x hx => ?_, hs.indexed hindexed, ?_⟩
  · rcases Registry.contains_enroll.1 ((hs.alike.contains x).symm.trans hx) with rfl | hx
    · exact hle
    · exact Int.le_trans (hσ.numbered x hx) hlast
  · rw [hj]
    exact hσ.recorded.see hσ.indexed (hs.indexed hindexed) (hretuned.silent hs) hm

/-- **Every step keeps the moments in order**, as long as frames are taken in under ids that were drawn. -/
theorem Step.tuned (h : Step raw σ τ) (hdrawn : Drawn τ.journal) (hσ : σ.Tuned) : τ.Tuned := by
  have later (ms : List Moment) (hj : τ.journal = ms ++ σ.journal)
      (hms : ∀ m ∈ ms, m.registry? = none) (hs : Registry.Silent σ.registry τ.registry)
      (hlast : σ.lastId ≤ τ.lastId) : τ.Tuned := hσ.quiet hs hlast ⟨ms, hj, hms⟩
  -- no registration of an id that is new is in the tables
  have absent {id : FrameId} {f : Frame} (hnew : σ.registry.contains id = false)
      (what : Option String) (hears : σ.registry.hears id what = true) : f.hears what = true := by
    have hnone : σ.registry.get? id = none := Option.not_isSome_iff_eq_none.1 (Bool.eq_false_iff.1 hnew)
    unfold Registry.hears at hears
    rw [hnone] at hears
    cases hears
  cases h with
  | drew => exact later [] rfl (by simp) (.refl _) (Int.le_of_lt (Int.lt_succ _))
  | framed h => exact later [] rfl (by simp) (.of_inPlace h.inPlace) (Int.le_refl _)
  | keyed =>
    exact later [] rfl (by simp) (.of_inPlace (.edit _ fun _ => rfl)) (Int.le_refl _)
  | tied h => exact later [] rfl (by simp) (.of_inPlace h.inPlace) (Int.le_refl _)
  | rewritten hraw h => exact later [] rfl (by simp) (.of_inPlace h.inPlace) (Int.le_refl _)
  | changed h | changedInPart h =>
    exact later [] rfl (by simp) (.of_inPlace h.inPlace) (Int.le_refl _)
  | painted =>
    exact (hσ.look (m := .painted σ.registry) rfl).quiet ⟨.of_frames rfl, rfl, rfl, rfl⟩
      (Int.le_refl _) ⟨[], rfl, by simp⟩
  | called callback args h => exact hσ.look (congrArg some h.registry)
  | answered command outcome h => exact hσ.look (congrArg some h.registry)
  | created hg ha hf hr =>
    subst hr
    obtain ⟨hnew, hlast, hle⟩ := hg.new hσ.numbered (Int.le_refl _)
    exact hσ.enroll (absent hnew) (.of_inPlace (.link _ _)) hlast hle rfl rfl
  | enrolled f hraw hg hr =>
    subst hr
    have hw : _ ≤ σ.lastId := of_decide_eq_true (hdrawn _ List.mem_cons_self)
    obtain ⟨hnew, hlast, hle⟩ := hg.new hσ.numbered hw
    exact hσ.enroll (absent hnew) (.refl _) hlast hle rfl rfl
  | enrolledAgain hraw hf hr =>
    subst hr
    refine hσ.enroll (fun what hears => ?_) (.refl _) (Int.le_refl _)
      (hσ.numbered _ (congrArg Option.isSome hf)) rfl rfl
    unfold Registry.hears at hears
    rwa [hf] at hears
  | listened h =>
    obtain ⟨hindexed, id, hretuned⟩ := h.retuned hσ.indexed
    refine ⟨fun x hx => hσ.numbered x ((h.alike.contains x).symm.trans hx), hindexed, ?_⟩
    exact hσ.recorded.see hσ.indexed hindexed hretuned rfl
  | queueCleared =>
    exact later _ rfl (fun _ hm => of_mem_moments hm fun _ => rfl) (.refl _) (Int.le_refl _)
  | timersCleared =>
    exact later _ rfl (fun _ hm => of_mem_clearing hm rfl fun _ => rfl) (.refl _) (Int.le_refl _)
  | erred h =>
    refine later _ rfl (fun _ hm => ?_) (.refl _) (Int.le_refl _)
    exact of_mem_complaint h hm (fun _ _ _ _ => rfl) (fun _ _ _ => rfl) (fun _ _ => rfl) fun _ _ => rfl
  | told | primarySet | scriptsCleared | returned | invoked | queued | flushBegan | flushed | flushEnded
  | started | cancelled | handleCancelled | tickBegan | fired | tickEnded | updateBegan | passedBy | reached
  | updated | failed | followed | updateEnded =>
    exact later [_] rfl (by simp [Moment.registry?]) (.refl _) (Int.le_refl _)
  | _ => exact later [] rfl (by simp) (.refl _) (Int.le_refl _)

/-! ## Who listens -/

/-- The moments of two tables, the earlier one where both have one. -/
theorem get?_listenerMoments (h : r.Indexed) (event : String) (id : FrameId) :
    (r.listenerMoments event).get? id =
      Option.merge min (r.since? id (some event)) (r.since? id none) := by
  have merged (es : List (FrameId × Nat)) (t : Table FrameId Nat) (hes : (es.map (·.1)).Nodup) :
      (es.foldl (fun t e => t.insert e.1 (min e.2 ((t.get? e.1).getD e.2))) t).get? id =
        Option.merge min (es.lookup id) (t.get? id) := by
    induction es generalizing t with
    | nil => cases h : t.get? id <;> simp [h]
    | cons e es ih =>
      obtain ⟨a, n⟩ := e
      obtain ⟨hnot, hes⟩ := List.nodup_cons.1 hes
      refine (ih _ hes).trans ?_
      rw [Table.get?_insert, List.lookup_cons]
      by_cases hid : id = a
      · subst hid
        have hlookup : es.lookup id = none := Option.not_isSome_iff_eq_none.1 fun hsome =>
          hnot ((Table.mem_keys_iff (t := ⟨es⟩)).2 hsome)
        cases t.get? id <;> simp [hlookup]
      · have hne : (id == a) = false := by simpa using hid
        simp [hne]
  exact merged _ _ (h.events event)

theorem nodup_listenerMoments (h : r.allListeners.keys.Nodup) (event : String) :
    (r.listenerMoments event).keys.Nodup := by
  have merged (es : List (FrameId × Nat)) (t : Table FrameId Nat) (ht : t.keys.Nodup) :
      (es.foldl (fun t e => t.insert e.1 (min e.2 ((t.get? e.1).getD e.2))) t).keys.Nodup := by
    induction es generalizing t with
    | nil => exact ht
    | cons e es ih => exact ih _ (Table.nodup_insert ht ..)
  exact merged _ _ h

/-- What is live has a moment in the tables, and has been seen. -/
theorem Registry.Recorded.isSome_liveSince (hj : r.Recorded journal) (h : r.Indexed) (id : FrameId)
    (what : Option String) : (liveSince id what journal).isSome = (r.since? id what).isSome := by
  rw [hj.live, h.live]

/-- The earliest registration of a listener is the one that has been live for longest. -/
theorem exists_earliest (h : r.Indexed) (hj : r.Recorded journal) {event : String} {k : Nat}
    (hk : (r.listenerMoments event).get? id = some k) :
    ∃ what m, r.since? id what = some k ∧ liveSince id what journal = some m ∧
      listeningSince id event journal = some m := by
  rw [get?_listenerMoments h] at hk
  have seen {what : Option String} {k : Nat} (hk : r.since? id what = some k) :
      ∃ m, liveSince id what journal = some m :=
    Option.isSome_iff_exists.1 ((hj.isSome_liveSince h id what).trans (congrArg Option.isSome hk))
  have unseen {what : Option String} (hk : r.since? id what = none) :
      liveSince id what journal = none :=
    Option.isNone_iff_eq_none.1 (by rw [← Option.not_isSome, hj.isSome_liveSince h, hk]; rfl)
  unfold listeningSince
  cases hone : r.since? id (some event) with
  | none =>
    rw [hone, Option.merge_none_left] at hk
    obtain ⟨m, hm⟩ := seen hk
    exact ⟨none, m, hk, hm, by rw [unseen hone, hm, Option.merge_none_left]⟩
  | some a =>
    obtain ⟨m, hm⟩ := seen hone
    cases hevery : r.since? id none with
    | none =>
      rw [hone, hevery, Option.merge_none_right] at hk
      cases hk
      exact ⟨some event, m, hone, hm, by rw [unseen hevery, hm, Option.merge_none_right]⟩
    | some b =>
      obtain ⟨n, hn⟩ := seen hevery
      rw [hone, hevery] at hk
      cases hk
      rw [hm, hn]
      rcases Nat.lt_trichotomy a b with hlt | rfl | hlt
      · have hle := (hj.ordered _ _ _ _ _ _ _ _ hone hevery hm hn hlt).1
        refine ⟨some event, m, ?_, hm, ?_⟩
        · rw [hone, Nat.min_eq_left (Nat.le_of_lt hlt)]
        · rw [Option.merge_some_some, Nat.min_eq_left hle]
      · cases (h.apart _ _ _ _ _ hone hevery).2
      · have hle := (hj.ordered _ _ _ _ _ _ _ _ hevery hone hn hm hlt).1
        refine ⟨none, n, ?_, hn, ?_⟩
        · rw [hevery, Nat.min_eq_right (Nat.le_of_lt hlt)]
        · rw [Option.merge_some_some, Nat.min_eq_right hle]

/-- **Where the tables are an index and their moments are in order, so are the listeners.** -/
theorem listensInOrder_of_recorded (h : r.Indexed) (hj : r.Recorded journal) :
    r.ListensInOrder journal := by
  have perm (event : String) : (r.listenersOf event).Perm (r.listenerMoments event).keys :=
    (List.mergeSort_perm ..).map _
  have once (event : String) : (r.listenersOf event).Nodup :=
    (perm event).nodup_iff.2 (nodup_listenerMoments h.all event)
  refine ⟨once, fun event id => ?_, fun event => ?_⟩
  · rw [(perm event).mem_iff, Table.mem_keys_iff, get?_listenerMoments h]
    have hreached : r.isRegistered id event = (r.hears id none || r.hears id (some event)) := by
      unfold Registry.isRegistered Registry.hears
      cases r.get? id <;> rfl
    rw [hreached, ← h.live, ← h.live]
    cases r.since? id (some event) <;> cases r.since? id none <;> simp
  · have sorted : ((r.listenerMoments event).entries.mergeSort fun a b => decide (a.2 ≤ b.2)).Pairwise
        fun a b => decide (a.2 ≤ b.2) = true :=
      List.pairwise_mergeSort (fun a b c hab hbc => by simp at *; omega) (fun a b => by simp; omega) _
    have distinct := List.pairwise_map.1 (once event)
    refine List.pairwise_map.2 ((sorted.and distinct).imp_of_mem fun {a b} ha hb hab => ?_)
    obtain ⟨hle, hne⟩ := hab
    have found {e : FrameId × Nat}
        (he : e ∈ (r.listenerMoments event).entries.mergeSort fun a b => decide (a.2 ≤ b.2)) :=
      (Table.mem_entries_iff (nodup_listenerMoments h.all event)).1 (List.mem_mergeSort.1 he)
    obtain ⟨what, m, hk, hm, hsince⟩ := exists_earliest h hj (found ha)
    obtain ⟨what', n, hl, hn, hsince'⟩ := exists_earliest h hj (found hb)
    have hlt : a.2 < b.2 := by
      refine Nat.lt_of_le_of_ne (of_decide_eq_true hle) fun heq => hne ?_
      exact (h.apart _ _ _ _ _ hk (heq ▸ hl)).1
    exact ⟨m, n, hsince, hsince', (hj.ordered _ _ _ _ _ _ _ _ hk hl hm hn hlt).2 hne⟩

/-! ## Runs -/

theorem Stage.tuned_fresh (clock : Clock) : Tuned { clock } where
  numbered := fun _ h => by cases h
  indexed := Registry.indexed_empty
  recorded :=
    { live := fun _ _ => rfl
      ordered := fun _ _ what _ _ _ _ _ hk => by cases what <;> cases hk }

/-- **Whenever the host of a run is met, the listeners of every event are the frames that are registered for
it, in the order in which they began to listen**, if the ids of all frames were drawn. -/
theorem Session.Ran.listensInOrder {s : Session} (h : s.Ran true) {host : Host}
    (hp : s.Past journal host) (hdrawn : Drawn journal) : host.registry.ListensInOrder journal := by
  refine h.past (I := fun σ => Drawn σ.journal → σ.Tuned)
    (P := fun journal host => Drawn journal → host.registry.ListensInOrder journal)
    (fun clock _ => Stage.tuned_fresh clock) (fun σ τ hστ hσ hτ => ?_) (fun σ host hs hσ hdrawn => ?_) hp
    hdrawn
  · exact hστ.tuned hτ (hσ fun m hm => hτ m (hστ.journal_suffix.subset hm))
  · rw [hs.registry]
    exact listensInOrder_of_recorded (hσ hdrawn).indexed (hσ hdrawn).recorded

/-- Frames come with something that they listen for, are taken in again, and change their minds. -/
theorem Session.listensInOrder_runRootless :
    let s := Session.runRootless (fun _ _ _ => {})
      [.registry (.register none { events := ["BAG_UPDATE"] }),
        .registry (.register (some 1) { allEvents := true }),
        .frame (.act (some 1) .registerAllEvents),
        .frame (.act (some 2) (.registerEvent "BAG_UPDATE")),
        .frame (.act (some 1) (.unregisterEvent "BAG_UPDATE")),
        .registry (.registerAgain (some 1))]
    Drawn s.journal ∧ s.host.registry.ListensInOrder s.journal :=
  have hdrawn : Drawn _ := by decide +kernel
  ⟨hdrawn, Session.Ran.listensInOrder
    (Session.ran_runRootless (fun _ _ _ => by decide) (by decide)) .last hdrawn⟩

end FrameHost
