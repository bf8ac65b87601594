import FrameHost.Proofs.InPlace
import FrameHost.Proofs.Listeners.Run

/-!
# The mark for painters

Whoever changes something to be drawn marks the registry, and a painter takes the mark. A painter who finds
no mark draws nothing, so nothing may have changed since the one before. One operation breaks this: a frame
whose parent is no frame is taken out of the tree without a mark, for the mark is left by the parent's list
of children.

* `Registry.Intact`: what a painter finds who finds no mark.
* `Registry.Heeds`: a change that leaves a mark, if it leaves more than that.
* `Step.heeds`: **every step leaves a mark**, unless a painter takes it.
* `Session.Ran.heeded`: **a painter who finds no mark finds the frames as the one before saw them**, but for
  parents that are no frames.
* `Session.not_heeded_orphan`: such a parent is lost without a mark.
-/

namespace FrameHost

/-! ## What painters see -/

/-- The frames as the last painter saw them. -/
def lastPainted : List Moment → Option Registry
  | [] => none
  | .painted seen :: _ => some seen
  | _ :: earlier => lastPainted earlier

/-- Every sight of the frames since the last painter came. -/
def sightsSince : List Moment → List Registry
  | [] => []
  | .painted _ :: _ => []
  | m :: earlier => m.registry?.toList ++ sightsSince earlier

/-- Something happened, other than that a painter came, and the frames were seen like this, if at all. -/
structure Moment.Shows (m : Moment) (r : Registry) : Prop where
  unpainted : ∀ seen, m ≠ .painted seen
  sight : ∀ seen, m.registry? = some seen → seen = r

theorem Moment.Shows.one {m : Moment} {r : Registry} (hu : ∀ seen, m ≠ .painted seen)
    (hs : ∀ seen, m.registry? = some seen → seen = r) : ∀ m' ∈ [m], m'.Shows r :=
  List.forall_mem_singleton.2 ⟨hu, hs⟩

namespace Registry

/-- A frame is as it was, but for what it listens for. One whose parent was no frame may have lost it. -/
inductive Stays (r : Registry) (f f' : Frame) : Prop
  | same (h : f'.unhearing = f.unhearing)
  | orphaned {p : FrameId} (hp : f.parent = some p) (ha : r.contains p = false)
      (h : f'.unhearing = { f with parent := none }.unhearing)

/-- No frame was added, and all are as they were. -/
structure Intact (r r' : Registry) : Prop where
  ids : r'.ids = r.ids
  frames : ∀ id f, r.get? id = some f → ∃ f', r'.get? id = some f' ∧ r.Stays f f'

/-- A change that leaves a mark, if it leaves more than that. -/
def Heeds (r r' : Registry) : Prop := r'.dirty = false → r.dirty = false ∧ r.Intact r'

variable {r r' r'' : Registry} {id : FrameId}

theorem Intact.of_alike (h : Alike Frame.unhearing r r') (hids : r'.ids = r.ids) : Intact r r' :=
  ⟨hids, fun _ _ hf =>
    have ⟨f', hf', hview⟩ := h.symm.exists_get? hf
    ⟨f', hf', .same hview⟩⟩

theorem Intact.refl (r : Registry) : Intact r r := .of_alike (.refl r) rfl

theorem Intact.contains (h : Intact r r') (id : FrameId) : r'.contains id = r.contains id := by
  rw [Bool.eq_iff_iff, contains_iff, contains_iff, h.ids]

theorem Intact.trans (h : Intact r r') (h' : Intact r' r'') : Intact r r'' := by
  refine ⟨h'.ids.trans h.ids, fun id f hf => ?_⟩
  obtain ⟨f', hf', hs⟩ := h.frames id f hf
  obtain ⟨f'', hf'', hs'⟩ := h'.frames id f' hf'
  refine ⟨f'', hf'', ?_⟩
  cases hs with
  | same hview =>
    cases hs' with
    | same hview' => exact .same (hview'.trans hview)
    | orphaned hp ha hview' =>
      have hparent : f.parent = f'.parent := (congrArg Frame.parent hview).symm
      refine .orphaned (hparent.trans hp) ((h.contains _).symm.trans ha) (hview'.trans ?_)
      exact congrArg (fun g : Frame => { g with parent := none }) hview
  | orphaned hp ha hview =>
    cases hs' with
    | same hview' => exact .orphaned hp ha (hview'.trans hview)
    | orphaned hp' =>
      -- what has lost its parent has none to lose
      have hnone : f'.parent = none := (congrArg Frame.parent hview :)
      cases hp'.symm.trans hnone

/-! ## Changes that leave a mark -/

theorem Heeds.refl (r : Registry) : Heeds r r := fun hd => ⟨hd, .refl r⟩

theorem Heeds.of_dirty (h : r'.dirty = true) : Heeds r r' := fun hd => by cases h.symm.trans hd

theorem dirty_edit (hc : r.contains id = true) (g : Frame → Frame) : (r.edit id g).dirty = true := by
  unfold edit
  rw [hc]
  rfl

theorem edit_of_absent (hc : r.contains id = false) (g : Frame → Frame) : r.edit id g = r := by
  unfold edit
  rw [hc]
  rfl

theorem Heeds.edit (id : FrameId) (g : Frame → Frame) : Heeds r (r.edit id g) := by
  cases hc : r.contains id with
  | true => exact .of_dirty (dirty_edit hc g)
  | false =>
    rw [edit_of_absent hc]
    exact .refl r

theorem Heeds.touch (id : FrameId) : Heeds r (r.touch id) := by
  unfold Registry.touch
  split
  · exact .of_dirty rfl
  · exact .refl r

/-- A layer or a level is fixed, and what is below settles. -/
theorem Heeds.fix (id : FrameId) (g : Frame → Frame) :
    Heeds r ((r.edit id g).settleDescendants id).1 := by
  cases hc : r.contains id with
  | true => exact .of_dirty ((InPlace.settleAll _).dirty (dirty_edit hc g))
  | false =>
    rw [edit_of_absent hc, settleDescendants, descendants_of_absent hc]
    exact .refl r

/-- A frame that moves under another marks the registry by the new parent's list. -/
theorem dirty_moveTo {p : FrameId} (hc : r.contains p = true) :
    (r.moveTo id (some p)).1.dirty = true := by
  have lifted : InPlace r ((r.detach id).setParentField id (some p)) :=
    (InPlace.detach id).trans (.update id fun _ => rfl)
  have listed : (r.relink id (some p)).dirty = true :=
    dirty_edit ((lifted.alike.contains p).trans hc) _
  exact (InPlace.settleTree id).dirty listed

theorem moveTo_none {p : FrameId} (hp : r.parentOf id = some p) :
    (r.moveTo id none).1 = (r.removeChild p id).setParentField id none := by
  unfold moveTo
  rw [hp]

/-- A frame whose parent is no frame leaves the tree, and no list of children is written. -/
theorem moveTo_none_of_absent {p : FrameId} (hp : r.parentOf id = some p)
    (hc : r.contains p = false) : (r.moveTo id none).1 = r.setParentField id none := by
  rw [moveTo_none hp, removeChild, edit_of_absent hc]

/-- A frame that leaves the tree marks the registry by the old parent's list, if there is one. -/
theorem Heeds.moveOut {f : Frame} (hf : r.get? id = some f) (hp : f.parent ≠ none) :
    Heeds r (r.moveTo id none).1 := by
  obtain ⟨p, hp⟩ := Option.ne_none_iff_exists'.1 hp
  have hparent : r.parentOf id = some p := by rw [parentOf, hf, Option.bind_some, hp]
  cases hc : r.contains p with
  | true =>
    rw [moveTo_none hparent]
    exact .of_dirty (dirty_edit hc _)
  | false =>
    rw [moveTo_none_of_absent hparent hc]
    refine fun hd => ⟨hd, ids_update .., fun x g hg => ?_⟩
    by_cases hx : x = id
    · subst hx
      cases hf.symm.trans hg
      refine ⟨{ f with parent := none }, ?_, .orphaned hp hc rfl⟩
      rw [setParentField, get?_update, if_pos (beq_self_eq_true x), hf]
      rfl
    · exact ⟨g, (get?_update_of_ne hx _).trans hg, .same rfl⟩

end Registry

/-! ## Steps -/

variable {raw : Bool} {σ τ : Stage} {r r' : Registry} {id : FrameId} {fault : Option Fault}
  {journal : List Moment} {m : Moment}

theorem FrameStep.heeds (h : FrameStep r r') : r.Heeds r' := by
  cases h with
  | touched id => exact .touch id
  | dirtied => exact .of_dirty rfl
  | resized id | attributed id | flagged id => exact .edit id _
  | layered id | levelled id => exact .fix id _

theorem AnchorStep.heeds (h : AnchorStep r id r') : r.Heeds r' := by
  cases h with
  | anchored | pinned | unanchored | unpinned => exact .edit id _
  | shifted _ _ hd => exact .of_dirty hd

theorem TreeStep.heeds (h : TreeStep r id r' fault) : r.Heeds r' := by
  cases h with
  | shown => exact .edit id _
  | @moved f parent hf hp hne =>
    cases parent with
    | none => exact .moveOut hf hne
    | some p => exact .of_dirty (Registry.dirty_moveTo (hp p rfl).contains)

theorem EarStep.heeds (h : EarStep r r') : r.Heeds r' := fun hd =>
  ⟨h.spares.dirty.symm.trans hd, .of_alike h.alike h.spares.ids⟩

theorem RawStep.heeds (h : RawStep r r') : r.Heeds r' := by
  cases h with
  | childAdded parent | childRemoved parent => exact .edit parent _

/-- **Every step leaves a mark if it changes a frame, or else a painter takes the mark.** -/
theorem Step.heeds (h : Step raw σ τ) :
    (τ.registry = σ.registry.clearDirty ∧ τ.journal = .painted σ.registry :: σ.journal) ∨
      σ.registry.Heeds τ.registry ∧
        ∃ ms, τ.journal = ms ++ σ.journal ∧ ∀ m ∈ ms, m.Shows τ.registry := by
  cases h with
  | painted => exact .inl ⟨rfl, rfl⟩
  | framed h => exact .inr ⟨h.heeds, [], rfl, by simp⟩
  | keyed => exact .inr ⟨.edit _ _, [], rfl, by simp⟩
  | tied h => exact .inr ⟨h.heeds, [], rfl, by simp⟩
  | rewritten hraw h => exact .inr ⟨h.heeds, [], rfl, by simp⟩
  | changed h | changedInPart h => exact .inr ⟨h.heeds, [], rfl, by simp⟩
  | listened h => exact .inr ⟨h.heeds, [_], rfl, .one (by simp) (by simp [Moment.registry?])⟩
  | created hg ha hf hr =>
    subst hr
    refine .inr ⟨.of_dirty ?_, [_], rfl, .one (by simp) (by simp [Moment.registry?])⟩
    exact (Registry.InPlace.link _ _).dirty rfl
  | enrolled f hraw hg hr | enrolledAgain hraw hf hr =>
    subst hr
    exact .inr ⟨.of_dirty rfl, [_], rfl, .one (by simp) (by simp [Moment.registry?])⟩
  | called callback args h | answered command outcome h =>
    refine .inr ⟨.refl _, [_], rfl, .one (by simp) fun seen hs => ?_⟩
    exact (Option.some.inj hs).symm.trans h.registry
  | queueCleared =>
    refine .inr ⟨.refl _, _, rfl, fun _ hm => of_mem_moments hm fun _ => ?_⟩
    exact ⟨by simp, by simp [Moment.registry?]⟩
  | timersCleared =>
    refine .inr ⟨.refl _, _, rfl, fun _ hm => of_mem_clearing hm ?_ fun _ => ?_⟩ <;>
      exact ⟨by simp, by simp [Moment.registry?]⟩
  | erred h =>
    refine .inr ⟨.refl _, _, rfl, fun _ hm => ?_⟩
    refine of_mem_complaint h hm (fun _ _ _ _ => ?_) (fun _ _ _ => ?_) (fun _ _ => ?_) fun _ _ => ?_ <;>
      exact ⟨by simp, by simp [Moment.registry?]⟩
  | told | primarySet | scriptsCleared | returned | invoked | queued | flushBegan | flushed | flushEnded
  | started | cancelled | handleCancelled | tickBegan | fired | tickEnded | updateBegan | passedBy | reached
  | updated | failed | followed | updateEnded =>
    exact .inr ⟨.refl _, [_], rfl, .one (by simp) (by simp [Moment.registry?])⟩
  | _ => exact .inr ⟨.refl _, [], rfl, by simp⟩

/-! ## Runs -/

/-- What a painter can rely on who finds no mark: the frames are as the last one saw them, and were so at
every sight in between. -/
def Trusted (journal : List Moment) (r : Registry) : Prop :=
  r.dirty = false → ∀ last, lastPainted journal = some last →
    last.Intact r ∧ ∀ seen ∈ sightsSince journal, last.Intact seen

/-- All painters who have come could rely on that, and so can one who comes now. -/
structure Heeded (journal : List Moment) (r : Registry) : Prop where
  past : ∀ seen earlier, .painted seen :: earlier <:+ journal → Trusted earlier seen
  now : Trusted journal r

theorem lastPainted_cons (hm : ∀ seen, m ≠ .painted seen) :
    lastPainted (m :: journal) = lastPainted journal := by
  cases m with
  | painted seen => exact absurd rfl (hm seen)
  | _ => rfl

theorem sightsSince_cons (hm : ∀ seen, m ≠ .painted seen) :
    sightsSince (m :: journal) = m.registry?.toList ++ sightsSince journal := by
  cases m with
  | painted seen => exact absurd rfl (hm seen)
  | _ => rfl

/-- What happens without a painter shows the frames as they are then, and the last painter is the same. -/
theorem Trusted.append (h : Trusted journal r) (hclean : r.dirty = false) (hr : r.Intact r')
    {ms : List Moment} (hms : ∀ m ∈ ms, m.Shows r') : Trusted (ms ++ journal) r' := by
  intro _ last hlast
  induction ms with
  | nil =>
    obtain ⟨hsame, hsights⟩ := h hclean last hlast
    exact ⟨hsame.trans hr, hsights⟩
  | cons m ms ih =>
    obtain ⟨hu, hs⟩ := hms m List.mem_cons_self
    rw [List.cons_append, lastPainted_cons hu] at hlast
    obtain ⟨hnow, hsights⟩ := ih (fun m' hm' => hms m' (List.mem_cons_of_mem _ hm')) hlast
    refine ⟨hnow, fun seen hseen => ?_⟩
    rw [List.cons_append, sightsSince_cons hu] at hseen
    rcases List.mem_append.1 hseen with hseen | hseen
    · cases hs seen (Option.mem_toList.1 hseen)
      exact hnow
    · exact hsights seen hseen

theorem heeded_fresh : Heeded [] {} where
  past := fun _ _ hs => by cases List.suffix_nil.1 hs
  now := fun _ _ hlast => by cases hlast

theorem Heeded.step (hσ : Heeded σ.journal σ.registry) (h : Step raw σ τ) :
    Heeded τ.journal τ.registry := by
  rcases h.heeds with ⟨hr, hj⟩ | ⟨hr, ms, hj, hms⟩
  · rw [hj, hr]
    constructor
    case past =>
      intro seen earlier hs
      rcases List.suffix_cons_iff.1 hs with heq | hs
      · cases heq
        exact hσ.now
      · exact hσ.past seen earlier hs
    case now =>
      intro _ last hlast
      cases hlast
      exact ⟨.of_alike (.of_frames rfl) rfl, fun seen hseen => by cases hseen⟩
  · rw [hj]
    constructor
    case past =>
      intro seen earlier hs
      rcases mem_or_suffix_of_suffix_append hs with hm | hs
      · exact absurd rfl ((hms _ hm).unpainted seen)
      · exact hσ.past seen earlier hs
    case now =>
      intro hd
      obtain ⟨hclean, hintact⟩ := hr hd
      exact hσ.now.append hclean hintact hms hd

open Session Act in
/-- What a painter does who comes to a session: the answer is whether there is a mark, and the mark is taken. -/
structure Session.PainterComes (s : Session) : Prop where
  answer : result (performRegistry .takeDirty).run s = .ok (said s.host.registry.dirty)
  takes : after (performRegistry .takeDirty).run s = { s with
    host := { s.host with registry := s.host.registry.clearDirty }
    journal := .painted s.host.registry :: s.journal }

theorem Session.painterComes (s : Session) : s.PainterComes := ⟨rfl, rfl⟩

/-- **A painter who finds no mark finds the frames as the one before saw them**: no frame was added, and
none has changed but for what it listens for, unless it has lost a parent that was no frame. What a painter finds
is what the answer says. -/
theorem Session.Ran.heeded {s : Session} (h : s.Ran raw) :
    Heeded s.journal s.host.registry ∧ ∀ t : Session, t.PainterComes := by
  obtain ⟨clock, hsteps⟩ := h.steps
  refine ⟨?_, painterComes⟩
  exact hsteps.keep (P := fun σ => Heeded σ.journal σ.registry) (fun _ _ hστ hσ => hσ.step hστ)
    heeded_fresh

/-- A painter comes twice, and a frame is made and sized in between. -/
theorem Session.heeded_runRootless :
    let s := Session.runRootless Session.idle
      [.registry .takeDirty, .frame (.create (.str "Frame") .null .none .null .null),
        .frame (.act (some 1) (.setSize (.int 100) (.int 50))), .registry .takeDirty]
    Heeded s.journal s.host.registry ∧ ∀ t : Session, t.PainterComes :=
  have ran : Session.Ran false _ := Session.ran_idle (by decide)
  Session.Ran.heeded ran

/-! ## A parent that is lost without a mark -/

namespace Session

open Act

variable {s : Session} {call : Caller} {f : Frame}

theorem isVisible_of_hidden {r : Registry} (hf : r.get? id = some f) (hv : f.visible = false) :
    r.isVisible id = false := by
  unfold Registry.isVisible
  rw [hf]
  exact congrArg (· && _) hv

/-- A hidden frame that has no children leaves the tree, and nobody is told. -/
theorem setParent_none_after (hf : s.host.registry.get? id = some f) (hp : f.parent ≠ none)
    (hv : f.visible = false) (hc : f.children = []) :
    after (setParent call id f none).run s =
      { s with host := { s.host with registry := (s.host.registry.moveTo id none).1 } } := by
  have alone : s.host.registry.visibilities id = [(id, false)] := by
    have below : s.host.registry.descendants id = [] := by
      unfold Registry.descendants Registry.childrenOf
      rw [hf, Option.map_some, Option.getD_some, hc]
      exact Walk.explore.eq_1 ..
    rw [Registry.visibilities, below, List.map_singleton, isVisible_of_hidden hf hv]
  have still : (s.host.registry.moveTo id none).1.isVisible id = false := by
    have written : Registry.Alike Frame.visible s.host.registry
        (s.host.registry.setParentField id none) := Registry.alike_update id fun _ => rfl
    have relinked : Registry.Alike Frame.visible (s.host.registry.setParentField id none)
        (s.host.registry.moveTo id none).1 :=
      Registry.alike_relink (fun _ _ _ => rfl) fun _ _ h => h
    obtain ⟨g, hg, hview⟩ := (written.trans relinked).symm.exists_get? hf
    exact isVisible_of_hidden hg (hview.trans hv)
  unfold setParent
  rw [after_lift_bind]
  change after (ite _ _ _ : Attempt Bool).run s = _
  rw [if_neg hp, after_bind_pure]
  change after (ExceptT.bindCont
    (fun _ => (s.host.registry.visibilities id).forM fun e => liftM (notify call e.1 e.2))
    (result (tryRegistry fun r => r.moveTo id none).run s))
    (after (tryRegistry fun r => r.moveTo id none).run s) = _
  rw [tryRegistry_result, tryRegistry_after, alone]
  change after (notify call id false) _ = _
  unfold notify
  rw [after_registry_bind]
  exact congrArg (fun m => after m _) (if_neg fun hne => hne still)

theorem answer_setParent_none (call : Caller) (hf : s.host.registry.get? id = some f)
    (hp : f.parent ≠ none) (hv : f.visible = false) (hc : f.children = []) :
    let c : Command := .frame (.act (some id) (.setParent .none))
    let h := { s.host with registry := (s.host.registry.moveTo id none).1 }
    ∃ outcome, after (answer call c) s =
      { s with host := h, journal := .answered c outcome h :: s.journal } := by
  intro c h
  let s' : Session := { s with calls := [] }
  have performed : after (perform call c).run s' = { s' with host := h } := by
    have hat : (result registry s').at? (some id) = some f := hf
    change after (frameAction call (some id) (.setParent .none)).run s' = _
    unfold frameAction
    rw [after_lift_bind, hat]
    change after (setParent call id f none >>= fun b => pure (said b) : Attempt Reply).run s' = _
    rw [after_bind_pure, setParent_none_after (s := s') hf hp hv hc]
  exact ⟨_, by rw [after_answer, performed]⟩

/-- A hidden frame is brought under a parent that is no frame, and a painter comes. -/
def orphaned : List Command :=
  [.registry (.register none { parent := some 99, visible := false }), .registry .takeDirty]

/-- The frame leaves the tree. -/
def adopted : Command := .frame (.act (some 1) (.setParent .none))

/-- **The frame loses its parent and leaves no mark**, so the painter who comes next draws nothing. -/
theorem not_heeded_orphan :
    let s := runRootless idle (orphaned ++ [adopted])
    s.Ran true ∧ ∃ last, lastPainted s.journal = some last ∧ last.parentOf 1 = some 99 ∧
      s.host.registry.parentOf 1 = none ∧
      result (performRegistry .takeDirty).run s = .ok (said false) := by
  have hframe : ((runRootless idle orphaned).host.registry.get? 1).any fun f => decide <|
      f.parent = some 99 ∧ f.visible = false ∧ f.children = [] := by decide +kernel
  have habsent : (runRootless idle orphaned).host.registry.contains 99 = false := by decide +kernel
  have hclean : (runRootless idle orphaned).host.registry.dirty = false := by decide +kernel
  have hseen : (lastPainted (runRootless idle orphaned).journal).any fun last => decide <|
      last.parentOf 1 = some 99 := by decide +kernel
  refine ⟨ran_idle (by decide), ?_⟩
  rw [runRootless_concat]
  generalize runRootless idle orphaned = s at *
  obtain ⟨f, hf, hfields⟩ := (Option.any_eq_true _ _).1 hframe
  obtain ⟨hp, hv, hc⟩ := of_decide_eq_true hfields
  obtain ⟨last, hlast, hlisted⟩ := (Option.any_eq_true _ _).1 hseen
  obtain ⟨outcome, hafter⟩ := answer_setParent_none (caller idle) hf
    (fun hnone => by cases hp.symm.trans hnone) hv hc
  have hparent : s.host.registry.parentOf 1 = some 99 := by
    rw [Registry.parentOf, hf, Option.bind_some, hp]
  rw [adopted, hafter]
  refine ⟨last, ?_, of_decide_eq_true hlisted, ?_, ?_⟩
  · exact (lastPainted_cons fun seen h => by cases h).trans hlast
  · exact (Registry.parentOf_relink (congrArg Option.isSome hf) none).trans (if_pos rfl)
  · rw [(painterComes _).answer, Registry.moveTo_none_of_absent hparent habsent]
    exact congrArg (fun b => Except.ok (said b)) hclean

end Session

end FrameHost
