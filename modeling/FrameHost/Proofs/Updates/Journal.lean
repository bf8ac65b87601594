import FrameHost.Proofs.Batches

/-!
# What is known of updates from what happened

An update comes to frames one after another. It passes a frame by that has no primary callback, or one for
which the frame is muted; else it runs the primary callback, and the frame is muted if that fails. All of this
can be told from the journal.

* `primaryIn`, `mutedIn`: the primary callback of a slot, and the callback for which a frame is muted.
* `runningIn`: the primary callbacks that updates are running.
* `Updates.Told`: what updates do is what these say.
* `Updates.Told.raised`: **a frame is muted for a callback that raised an error when an update ran it**.
* `Updates.Told.muted_of_stuck`: **it stays muted while its slot is not written**, if updates do not nest.
-/

namespace FrameHost

/-! ## Slots and muted frames -/

/-- The slot whose primary callback updates run. -/
abbrev updateSlot (frame : FrameId) : Slot := ⟨frame, .onUpdate⟩

/-- What a moment means for the turns that updates give. -/
def Moment.updateMark? : Moment → Option (Mark Turn)
  | .updateBegan frames later _ => some (.began (frames.map .reach ++ later.map .follow))
  | .reached frame _ _ _ => some (.took (.reach frame))
  | .followed frame => some (.took (.follow frame))
  | .updateEnded => some .ended
  | _ => none

/-- What a moment writes into a slot, if it writes there. -/
def Moment.written? (slot : Slot) : Moment → Option (Option String)
  | .scripted there callback => if slot = there then some callback else none
  | .scriptsCleared frame => if slot.frame = frame then some none else none
  | _ => none

/-- What a frame is muted for after a moment, if that moment decides it. -/
def Moment.mutes? (frame : FrameId) : Moment → Option (Option String)
  | .reached there _ true _ => if frame = there then some none else none
  | .updated there callback true => if frame = there then some (some callback) else none
  | _ => none

/-- What the last moment decided that decided anything. -/
def lastOf (decides? : Moment → Option (Option String)) (journal : List Moment) : Option String :=
  (journal.findSome? decides?).join

/-- The primary callback of a slot. -/
abbrev primaryIn (slot : Slot) (journal : List Moment) : Option String :=
  lastOf (Moment.written? slot) journal

/-- The callback for which a frame is muted. -/
abbrev mutedIn (frame : FrameId) (journal : List Moment) : Option String :=
  lastOf (Moment.mutes? frame) journal

/-- The primary callbacks that updates are running, the innermost first, with their frames. -/
def runningIn : List Moment → List (FrameId × String)
  | [] => []
  | .reached frame (some callback) true _ :: earlier => (frame, callback) :: runningIn earlier
  | .updated _ _ _ :: earlier => (runningIn earlier).tail
  | _ :: earlier => runningIn earlier

/-- The updates that are under way, the innermost first, with the turns that they have given. -/
abbrev updatesUnderWay (journal : List Moment) : List (Batch Turn) :=
  Batch.underWay Moment.updateMark? journal

variable {journal ms later during earlier before : List Moment} {m : Moment}
  {decides? : Moment → Option (Option String)} {frame : FrameId} {callback : String} {slot : Slot}

theorem lastOf_cons : lastOf decides? (m :: journal) = (decides? m).getD (lastOf decides? journal) := by
  cases h : decides? m with
  | none => rw [lastOf, List.findSome?_cons, h]; rfl
  | some decided => rw [lastOf, List.findSome?_cons, h]; rfl

theorem lastOf_quiet (h : ∀ m ∈ ms, decides? m = none) :
    lastOf decides? (ms ++ journal) = lastOf decides? journal := by
  rw [lastOf, List.findSome?_append, List.findSome?_eq_none_iff.2 h, Option.none_or]
  rfl

/-- Only a failure mutes a frame for a callback. -/
theorem Moment.eq_of_mutes? (h : m.mutes? frame = some (some callback)) :
    m = .updated frame callback true := by
  cases m with
  | updated there ran failed =>
    cases failed with
    | false => cases h
    | true =>
      rw [Moment.mutes?, Option.ite_none_right_eq_some] at h
      obtain ⟨rfl, h⟩ := h
      cases h
      rfl
  | reached there primary runs label =>
    cases runs with
    | false => cases h
    | true =>
      rw [Moment.mutes?, Option.ite_none_right_eq_some] at h
      cases h.2
  | _ => cases h

/-- Whether a moment has to do with updates or writes primary callbacks. -/
def Moment.touchesUpdates : Moment → Bool
  | .scripted _ _ | .scriptsCleared _ | .updateBegan _ _ _ | .reached _ _ _ _ | .updated _ _ _
  | .followed _ | .updateEnded => true
  | _ => false

theorem Moment.spared_of_touchesUpdates (h : m.touchesUpdates = false) :
    m.updateMark? = none ∧ (∀ slot, m.written? slot = none) ∧ ∀ frame, m.mutes? frame = none := by
  cases m with
  | scripted | scriptsCleared | updateBegan | reached | updated | followed | updateEnded => cases h
  | _ => exact ⟨rfl, fun _ => rfl, fun _ => rfl⟩

theorem runningIn_quiet (h : ∀ m ∈ ms, m.touchesUpdates = false) :
    runningIn (ms ++ journal) = runningIn journal := by
  induction ms with
  | nil => rfl
  | cons m ms ih =>
    have hm := h m List.mem_cons_self
    have hms := ih fun m' hm' => h m' (List.mem_cons_of_mem _ hm')
    cases m with
    | reached => cases hm
    | updated => cases hm
    | _ => exact hms

/-! ## What updates do -/

/-- The frames that an update is to come to for a handler: those that are visible and have a primary callback,
by rising id, each once. -/
structure Updates.Chosen (handler : Handler) (seen : Registry) (earlier : List Moment)
    (frames : List FrameId) : Prop where
  rising : frames.Pairwise (· < ·)
  iff : ∀ frame, frame ∈ frames ↔
    seen.isVisible frame = true ∧ (primaryIn ⟨frame, handler⟩ earlier).isSome = true

/-- What an update does fits what happened before. -/
def Moment.Fits (earlier : List Moment) : Moment → Prop
  | .updateBegan frames later seen =>
    Updates.Chosen .onUpdate seen earlier frames ∧ Updates.Chosen .onPostUpdate seen earlier later
  -- the primary callback of a frame is run unless the frame is muted for it
  | .reached frame primary runs _ =>
    primary = primaryIn (updateSlot frame) earlier ∧
      (runs = true ↔ primary.isSome = true ∧ mutedIn frame earlier ≠ primary) ∧
      (Batch.Flat Moment.updateMark? earlier → runningIn earlier = [])
  | .updated frame callback failed =>
    (runningIn earlier).head? = some (frame, callback) ∧
      (failed = true → ∃ during, Raised frame callback during earlier)
  | _ => True

theorem Moment.fits_of_touchesUpdates (h : m.touchesUpdates = false) : m.Fits journal := by
  cases m with
  | updateBegan | reached | updated => cases h
  | _ => exact trivial

/-- All that updates did fits what had happened before. -/
def Updates.Told (journal : List Moment) : Prop :=
  ∀ m earlier, m :: earlier <:+ journal → m.Fits earlier

/-- An update ran the primary callback of a frame, which raised an error, and since before that the slot was
not written. -/
inductive Updates.Stuck (frame : FrameId) (callback : String) : List Moment → Prop
  | intro {later during earlier : List Moment} (hr : Raised frame callback during earlier)
      (hlater : ∀ m ∈ later, m.written? (updateSlot frame) = none)
      (hduring : ∀ m ∈ during, m.written? (updateSlot frame) = none) :
      Stuck frame callback (later ++ .updated frame callback true :: earlier)

namespace Updates.Told

theorem nil : Told [] := fun _ _ hm => nomatch List.suffix_nil.1 hm

theorem of_suffix (h : Told journal) (hs : earlier <:+ journal) : Told earlier :=
  fun m e hm => h m e (hm.trans hs)

theorem cons (h : Told journal) (hm : m.Fits journal) : Told (m :: journal) := fun m' earlier hm' => by
  rcases List.suffix_cons_iff.1 hm' with heq | hold
  · cases heq
    exact hm
  · exact h m' earlier hold

theorem append (h : Told journal) (hms : ∀ m ∈ ms, m.touchesUpdates = false) : Told (ms ++ journal) :=
  fun m earlier hm => by
    rcases mem_or_suffix_of_suffix_append hm with hnew | hold
    · exact Moment.fits_of_touchesUpdates (hms m hnew)
    · exact h m earlier hold

/-- **A frame is muted for a callback that raised an error when an update ran it as the primary one.** -/
theorem raised (h : Told journal) (hm : mutedIn frame journal = some callback) :
    ∃ during earlier, .updated frame callback true :: earlier <:+ journal ∧
      Raised frame callback during earlier := by
  obtain ⟨later, m, earlier, rfl, hmutes, -⟩ :=
    List.findSome?_eq_some_iff.1 (Option.join_eq_some_iff.1 hm)
  cases Moment.eq_of_mutes? hmutes
  have hsuffix : .updated frame callback true :: earlier <:+
      later ++ .updated frame callback true :: earlier := List.suffix_append ..
  obtain ⟨during, hr⟩ := (h _ _ hsuffix).2 rfl
  exact ⟨during, earlier, hsuffix, hr⟩

/-- The frame that is passed by though it has a primary callback is muted for that callback. -/
theorem muted_of_passed (h : Told journal)
    {label : String} (hm : .reached frame (some callback) false label :: earlier <:+ journal) :
    mutedIn frame earlier = some callback := by
  obtain ⟨-, hruns, -⟩ := h _ _ hm
  refine Decidable.byContradiction fun hne => ?_
  cases hruns.2 ⟨rfl, hne⟩

/-! ## Where updates do not nest -/

theorem length_runningIn_le (h : Told journal) (hflat : Batch.Flat Moment.updateMark? journal) :
    (runningIn journal).length ≤ 1 := by
  induction journal with
  | nil => exact Nat.zero_le _
  | cons m journal ih =>
    have hle := ih (h.of_suffix (List.suffix_cons ..)) hflat.of_cons
    cases m with
    | reached frame primary runs label =>
      cases primary with
      | none => exact hle
      | some callback =>
        cases runs with
        | false => exact hle
        | true =>
          have halone := (h _ _ (List.suffix_refl _)).2.2 hflat.of_cons
          rw [runningIn, halone]
          exact Nat.le_refl _
    | updated =>
      rw [runningIn, List.length_tail]
      omega
    | _ => exact hle

theorem runningIn_updated (h : Told (.updated frame callback true :: journal))
    (hflat : Batch.Flat Moment.updateMark? journal) :
    runningIn (.updated frame callback true :: journal) = [] := by
  have hle := (h.of_suffix (List.suffix_cons ..)).length_runningIn_le hflat
  rw [runningIn]
  apply List.eq_nil_of_length_eq_zero
  rw [List.length_tail]
  omega

theorem primary_of_raised (h : Told earlier) (hr : Raised frame callback during earlier)
    (hduring : ∀ m ∈ during, m.written? (updateSlot frame) = none) :
    primaryIn (updateSlot frame) earlier = some callback := by
  cases hr with
  | @intro before label text handler hmem =>
    rw [primaryIn, lastOf_quiet hduring, lastOf_cons]
    exact (h _ _ (List.suffix_append ..)).1.symm

/-- While no update runs a primary callback of a frame, and the frame is muted for its own one, it stays so. -/
theorem muted_cons (h : Told (m :: journal)) (hp : primaryIn (updateSlot frame) journal = some callback)
    (hm : mutedIn frame journal = some callback) (hr : ∀ other, (frame, other) ∉ runningIn journal) :
    mutedIn frame (m :: journal) = some callback ∧ ∀ other, (frame, other) ∉ runningIn (m :: journal) := by
  have spared (hnone : m.mutes? frame = none) : mutedIn frame (m :: journal) = some callback := by
    rw [mutedIn, lastOf_cons, hnone]
    exact hm
  cases m with
  | reached there primary runs label =>
    obtain ⟨hprimary, hruns, -⟩ := h _ _ (List.suffix_refl _)
    cases primary with
    | none => cases runs with
      | false => exact ⟨spared rfl, hr⟩
      | true => cases (hruns.1 rfl).1
    | some ran => cases runs with
      | false => exact ⟨spared rfl, hr⟩
      | true =>
        have hne : frame ≠ there := by
          rintro rfl
          exact (hruns.1 rfl).2 (hm.trans (hp.symm.trans hprimary.symm))
        refine ⟨spared (if_neg hne), fun other hmem => ?_⟩
        rcases List.mem_cons.1 hmem with heq | hmem
        · exact hne (congrArg Prod.fst heq)
        · exact hr other hmem
  | updated there ran failed =>
    have hhead := (h _ _ (List.suffix_refl _)).1
    have hne : frame ≠ there := by
      rintro rfl
      exact hr ran (List.mem_of_head? hhead)
    refine ⟨spared ?_, fun other hmem => hr other (List.mem_of_mem_tail hmem)⟩
    cases failed with
    | false => rfl
    | true => exact if_neg hne
  | _ => exact ⟨spared rfl, hr⟩

/-- **A frame whose primary callback raised an error in an update stays muted for it while its slot is not
written**, if updates do not nest. -/
theorem muted_of_stuck (h : Told journal) (hflat : Batch.Flat Moment.updateMark? journal)
    (hs : Stuck frame callback journal) :
    primaryIn (updateSlot frame) journal = some callback ∧ mutedIn frame journal = some callback := by
  cases hs with
  | @intro later during earlier hr hlater hduring =>
    have hfailed : earlier <:+ .updated frame callback true :: earlier := List.suffix_cons ..
    have hprimary (ms : List Moment) (hms : ∀ m ∈ ms, m.written? (updateSlot frame) = none)
        (hj : Told (ms ++ .updated frame callback true :: earlier)) :
        primaryIn (updateSlot frame) (ms ++ .updated frame callback true :: earlier) = some callback := by
      rw [primaryIn, lastOf_quiet hms, lastOf_cons]
      exact (hj.of_suffix (hfailed.trans (List.suffix_append ..))).primary_of_raised hr hduring
    refine ⟨hprimary later hlater h, ?_⟩
    -- a primary callback of the frame that an update still ran could yet mute it for that one: none is run
    suffices kept : mutedIn frame (later ++ .updated frame callback true :: earlier) = some callback ∧
        ∀ other, (frame, other) ∉ runningIn (later ++ .updated frame callback true :: earlier) from kept.1
    induction later with
    | nil =>
      refine ⟨?_, fun other => ?_⟩
      · rw [List.nil_append, mutedIn, lastOf_cons, Moment.mutes?, if_pos rfl]
        rfl
      · rw [List.nil_append, runningIn_updated h hflat.of_cons]
        exact List.not_mem_nil
    | cons m later ih =>
      have hms := fun m' hm' => hlater m' (List.mem_cons_of_mem m hm')
      have hbefore := h.of_suffix (List.suffix_cons ..)
      obtain ⟨hmuted, hrunning⟩ := ih hms hbefore hflat.of_cons
      exact h.muted_cons (hprimary later hms hbefore) hmuted hrunning

/-- It is passed by whenever an update comes to it. -/
theorem passed_of_stuck (h : Told journal) (hflat : Batch.Flat Moment.updateMark? journal)
    (hs : Stuck frame callback earlier) {primary : Option String} {runs : Bool}
    {label : String}
    (hm : .reached frame primary runs label :: earlier <:+ journal) :
    primary = some callback ∧ runs = false := by
  have hearlier : earlier <:+ journal := (List.suffix_cons ..).trans hm
  obtain ⟨hp, hmuted⟩ := (h.of_suffix hearlier).muted_of_stuck (hflat.of_suffix hearlier) hs
  obtain ⟨hprimary, hruns, -⟩ := h _ _ hm
  refine ⟨hprimary.trans hp, Bool.eq_false_iff.2 fun hrun => (hruns.1 hrun).2 ?_⟩
  rw [hmuted, hprimary, hp]

end Updates.Told

end FrameHost
