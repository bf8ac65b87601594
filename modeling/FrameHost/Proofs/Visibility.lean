import FrameHost.Proofs.Hierarchy

/-!
# Frames know whether they are visible

A change of the tree notes which frames at and below a frame are visible, is made, and then goes through
these frames: whoever finds its visibility different from what was noted is told. The callbacks that are
told may change the tree in turn, before the outer change has come to its end. What holds all along is
this: a frame has last been told what it is, or it stands on the list of some change under way with a
visibility that it does not have, and will be told. When no change is under way, every frame knows.

* `Registry.isVisible_of_unreached`: what visibility does not depend on.
* `Stage.Informed`: the invariant, kept by every step.
* `Session.Tells`: how frames are told.
* `Session.Ran.upToDate`: **between operations, what a frame was last told is what it is**.
-/

namespace FrameHost

open Relation

/-! ## What visibility depends on -/

namespace Registry

variable {r r' : Registry} {id x : FrameId}

theorem isVisible_iff : r.isVisible id = true ↔ r.contains id = true ∧
    ∀ a, ReflTransGen r.Under id a → ∀ f, r.get? a = some f → f.visible = true := by
  unfold isVisible
  cases hf : r.get? id with
  | none =>
    have hc : r.contains id = false := congrArg Option.isSome hf
    simp [hc]
  | some f =>
    have hc : r.contains id = true := congrArg Option.isSome hf
    simp only [Bool.and_eq_true, List.all_eq_true, Option.all_eq_true, mem_ancestors_iff, hc, true_and]
    constructor
    · rintro ⟨hid, habove⟩ a ha g hg
      rcases reflTransGen_iff_eq_or_transGen.1 ha with rfl | ha
      · cases hf.symm.trans hg
        exact hid
      · exact habove a ha g hg
    · intro h
      exact ⟨h id .refl f hf, fun a ha g hg => h a ha.to_reflTransGen g hg⟩

/-- A frame that has no parent is visible if it is shown. -/
theorem isVisible_of_root {f : Frame} (hf : r.get? id = some f) (hp : f.parent = none)
    (hv : f.visible = true) : r.isVisible id = true := by
  have alone : r.ancestors id = [] := by
    unfold ancestors chain parentOf
    rw [hf, Option.bind_some, hp]
    exact Walk.explore.eq_1 ..
  unfold isVisible
  rw [hf, alone]
  exact congrArg (· && true) hv

/-- A registry that shows the same frames as another along the chain above a frame. -/
theorem isVisible_of_same
    (h : ∀ a, ReflTransGen r.Under id a → (r'.get? a).map Frame.shown = (r.get? a).map Frame.shown) :
    r'.isVisible id = r.isVisible id := by
  have hparent (a : FrameId) (ha : ReflTransGen r.Under id a) : r'.parentOf a = r.parentOf a := by
    have hshown := congrArg (Option.bind · Prod.fst) (h a ha)
    rwa [Option.bind_map, Option.bind_map] at hshown
  -- the two climbs from `id` keep together, as long as they see the same parents
  have hreach (a : FrameId) : ReflTransGen r'.Under id a ↔ ReflTransGen r.Under id a := by
    constructor
    · intro ha
      induction ha with
      | refl => exact .refl
      | tail _ hbc ih => exact ih.tail ((hparent _ ih).symm.trans hbc)
    · intro ha
      induction ha with
      | refl => exact .refl
      | tail hb hbc ih => exact ih.tail ((hparent _ hb).trans hbc)
  have hcontains : r'.contains id = r.contains id := by
    have hid := congrArg Option.isSome (h id .refl)
    rwa [Option.isSome_map, Option.isSome_map] at hid
  have hvisible (a : FrameId) (ha : ReflTransGen r.Under id a) :
      (∀ f, r'.get? a = some f → f.visible = true) ↔ ∀ f, r.get? a = some f → f.visible = true := by
    have hall := congrArg (Option.all Prod.snd) (h a ha)
    rw [Option.all_map, Option.all_map, Bool.eq_iff_iff, Option.all_eq_true,
      Option.all_eq_true] at hall
    exact hall
  rw [Bool.eq_iff_iff, isVisible_iff, isVisible_iff, hcontains]
  refine and_congr_right fun _ => forall_congr' fun a => ?_
  rw [hreach a]
  exact ⟨fun hr ha => (hvisible a ha).1 (hr ha), fun hr ha => (hvisible a ha).2 (hr ha)⟩

/-- **Visibility depends on the frame itself and on those above it.** -/
theorem isVisible_of_unreached
    (h : ∀ a, a ≠ x → (r'.get? a).map Frame.shown = (r.get? a).map Frame.shown)
    (hx : ¬ ReflTransGen r.Under id x) : r'.isVisible id = r.isVisible id :=
  isVisible_of_same fun a ha => h a fun e => hx (e ▸ ha)

theorem Alike.isVisible (h : Alike Frame.shown r r') (id : FrameId) :
    r'.isVisible id = r.isVisible id := isVisible_of_same fun a _ => h a

/-- The frames whose visibility a change notes. -/
theorem Linked.mem_visibilities_iff (h : r.Linked) (hid : r.contains id = true) {was : Bool} :
    (x, was) ∈ r.visibilities id ↔ ReflTransGen r.Under x id ∧ r.isVisible x = was := by
  unfold visibilities
  rw [List.mem_map]
  constructor
  · rintro ⟨a, ha, he⟩
    cases he
    refine ⟨?_, rfl⟩
    rcases List.mem_cons.1 ha with rfl | ha
    · exact .refl
    · exact ((h.mem_descendants_iff hid).1 ha).to_reflTransGen
  · rintro ⟨hx, rfl⟩
    refine ⟨x, ?_, rfl⟩
    rcases reflTransGen_iff_eq_or_transGen.1 hx with rfl | hx
    · exact List.mem_cons_self
    · exact List.mem_cons_of_mem _ ((h.mem_descendants_iff hid).2 hx)

theorem settleAll_eq_none {ids : List FrameId} (h : ∀ x ∈ ids, r.contains x = true) :
    (r.settleAll ids).2 = none := by
  induction ids generalizing r with
  | nil => rfl
  | cons a ids ih =>
    have ha : r.contains a = true := h a List.mem_cons_self
    unfold settleAll
    rw [if_pos ha]
    refine ih fun x hx => ?_
    exact ((alike_settle a).contains x).trans (h x (List.mem_cons_of_mem _ hx))

/-- In a linked registry, layers and levels can be settled all the way down. -/
theorem Linked.settleTree (h : r.Linked) (id : FrameId) : (r.settleTree id).2 = none := by
  unfold Registry.settleTree
  cases hp : r.parentOf id with
  | none => rfl
  | some p =>
    split
    · rfl
    · have hsettled : (r.settle id).Linked := h.of_alike (alike_settle id).links
      exact settleAll_eq_none fun x => hsettled.contains_of_mem_descendants

end Registry

/-! ## Changes of the tree -/

variable {r r' : Registry} {id x : FrameId} {fault : Option Fault} {σ τ : Stage}

/-- Among linked frames, no change of the tree ends in a fault. -/
theorem TreeStep.fault_eq_none (h : TreeStep r id r' fault) (hr : r.Linked) : fault = none := by
  cases h with
  | shown => rfl
  | @moved f parent hf hp hne =>
    have hid : r.contains id = true := congrArg Option.isSome hf
    cases parent with
    | none => rfl
    | some p =>
      exact (hr.relink hid fun p h => ⟨(hp p h).contains, (hp p h).ne, (hp p h).notBelow⟩).settleTree id

theorem TreeStep.contains_id (h : TreeStep r id r' fault) : r.contains id = true := by
  cases h with
  | shown hf | moved hf => exact congrArg Option.isSome hf

/-- A change of the tree shows at one frame. -/
theorem TreeStep.shown_eq (h : TreeStep r id r' fault) {a : FrameId} (ha : a ≠ id) :
    (r'.get? a).map Frame.shown = (r.get? a).map Frame.shown := by
  cases h with
  | shown => rw [Registry.get?_edit_of_ne ha]
  | @moved f parent hf hp hne =>
    have halike : Registry.Alike Frame.shown (r.setParentField id parent) (r.moveTo id parent).1 :=
      (Registry.alike_relink (fun _ _ _ => rfl) fun f f' h => by
        exact congrArg (fun shown => (parent, shown.2)) h).trans (Registry.alike_moveTo id _).shown
    rw [halike a]
    unfold Registry.setParentField
    rw [Registry.get?_update, if_neg (by simpa using ha)]

/-! ## What frames are told -/

/-- The frame that a moment is about: one that is made or told. -/
def Moment.about? : Moment → Option FrameId
  | .created f _ | .notified f _ => some f
  | _ => none

/-- What a frame knows from a journal: what it was last told, or else what it was when it was made. -/
inductive Heard (f : FrameId) : List Moment → Bool → Prop
  | told {shown : Bool} {journal : List Moment} : Heard f (.notified f shown :: journal) shown
  | made {seen : Registry} {journal : List Moment} (hnew : ∀ m ∈ journal, m.about? ≠ some f) :
      Heard f (.created f seen :: journal) (seen.isVisible f)
  | later {m : Moment} {journal : List Moment} {shown : Bool} (hm : m.about? ≠ some f)
      (h : Heard f journal shown) : Heard f (m :: journal) shown

theorem Heard.append {f : FrameId} {ms journal : List Moment} {shown : Bool}
    (hms : ∀ m ∈ ms, m.about? ≠ some f) (h : Heard f journal shown) :
    Heard f (ms ++ journal) shown := by
  induction ms with
  | nil => exact h
  | cons m ms ih =>
    refine .later (hms m List.mem_cons_self) (ih fun m' hm' => ?_)
    exact hms m' (List.mem_cons_of_mem _ hm')

namespace Stage

/-- A change is under way that will tell a frame that it is not what it was. -/
def Owes (σ : Stage) (f : FrameId) : Prop :=
  ∃ before, .telling before ∈ σ.tasks ∧ ∃ was, (f, was) ∈ before ∧ was ≠ σ.registry.isVisible f

/-- Every frame knows what it is, or will be told. -/
structure Informed (σ : Stage) : Prop where
  ordered : σ.Ordered
  known : ∀ m ∈ σ.journal, ∀ f, m.about? = some f → σ.registry.contains f = true
  made : ∀ f, σ.registry.contains f = true → ∃ seen, .created f seen ∈ σ.journal
  listed : ∀ before, .telling before ∈ σ.tasks → ∀ e ∈ before, σ.registry.contains e.1 = true
  heard : ∀ f, σ.registry.contains f = true →
    Heard f σ.journal (σ.registry.isVisible f) ∨ σ.Owes f

/-- A step that shows nobody differently, and tells nobody. -/
theorem Informed.quiet (hσ : σ.Informed) (hτ : τ.Ordered)
    (hr : Registry.Alike Frame.shown σ.registry τ.registry)
    (hj : ∃ ms, τ.journal = ms ++ σ.journal ∧ ∀ m ∈ ms, m.about? = none)
    (ht : ∀ before, .telling before ∈ τ.tasks ↔ .telling before ∈ σ.tasks) : τ.Informed := by
  obtain ⟨ms, hj, hms⟩ := hj
  have hc := hr.contains
  have hv := hr.isVisible
  constructor
  case ordered => exact hτ
  case known =>
    intro m hm f hf
    rw [hj] at hm
    rw [hc]
    rcases List.mem_append.1 hm with hm | hm
    · cases (hms m hm).symm.trans hf
    · exact hσ.known m hm f hf
  case made =>
    intro f hf
    rw [hc] at hf
    obtain ⟨seen, hseen⟩ := hσ.made f hf
    exact ⟨seen, hj ▸ List.mem_append_right _ hseen⟩
  case listed =>
    intro before hb e he
    rw [hc]
    exact hσ.listed before ((ht before).1 hb) e he
  case heard =>
    intro f hf
    rw [hc] at hf
    rw [hj, hv]
    refine (hσ.heard f hf).imp (fun h => h.append fun m hm => by simp [hms m hm]) ?_
    rintro ⟨before, hb, was, hmem, hne⟩
    exact ⟨before, (ht before).2 hb, was, hmem, by rwa [hv]⟩

end Stage

/-- **A frame that is made knows what it is.** -/
theorem Stage.Informed.make (hσ : σ.Informed) {r : Registry} {f : Frame} {id last : FrameId}
    (hτ : Stage.Ordered { σ with
      lastId := last, registry := r, journal := .created id r :: σ.journal })
    (hid : σ.registry.contains id = false) (hr : r = (σ.registry.enroll id f).link f.parent id) :
    Stage.Informed { σ with
      lastId := last, registry := r, journal := .created id r :: σ.journal } := by
  have hcontains (x : FrameId) :
      r.contains x = true ↔ x = id ∨ σ.registry.contains x = true := by
    rw [hr, Registry.contains_link, Registry.contains_enroll]
  have hsame (a : FrameId) (ha : a ≠ id) :
      (r.get? a).map Frame.shown = (σ.registry.get? a).map Frame.shown := by
    obtain ⟨q, hq, hget⟩ := σ.registry.get?_enroll id f
    rw [hr, Registry.alike_link (fun _ _ _ => rfl) _ a, hget, if_neg ha]
    exact hq.place.shown a
  have hv (x : FrameId) (hx : σ.registry.contains x = true) :
      r.isVisible x = σ.registry.isVisible x := by
    refine Registry.isVisible_of_unreached hsame fun hreach => ?_
    have hidc : σ.registry.contains id = true := by
      rcases hreach.cases_tail with rfl | ⟨c, -, hc⟩
      · exact hx
      · exact hσ.ordered.linked.parent c id hc
    cases hid.symm.trans hidc
  have hnew (m : Moment) (hm : m ∈ σ.journal) : m.about? ≠ some id := fun h => by
    cases hid.symm.trans (hσ.known m hm id h)
  constructor
  case ordered => exact hτ
  case known =>
    intro m hm x hx
    refine (hcontains x).2 ?_
    rcases List.mem_cons.1 hm with rfl | hm
    · cases hx
      exact .inl rfl
    · exact .inr (hσ.known m hm x hx)
  case made =>
    intro x hx
    rcases (hcontains x).1 hx with rfl | hx
    · exact ⟨r, List.mem_cons_self⟩
    · obtain ⟨seen, hseen⟩ := hσ.made x hx
      exact ⟨seen, List.mem_cons_of_mem _ hseen⟩
  case listed => exact fun before hb e he => (hcontains e.1).2 (.inr (hσ.listed before hb e he))
  case heard =>
    intro x hx
    by_cases hxid : x = id
    · subst hxid
      exact .inl (.made hnew)
    · have hx : σ.registry.contains x = true := ((hcontains x).1 hx).resolve_left hxid
      have hne : (Moment.created id r).about? ≠ some x := fun h => hxid (Option.some.inj h).symm
      dsimp only
      rw [hv x hx]
      refine (hσ.heard x hx).imp (fun h => .later hne h) ?_
      rintro ⟨before, hb, was, hmem, hwas⟩
      refine ⟨before, hb, was, hmem, ?_⟩
      dsimp only
      rwa [hv x hx]

/-- **A change of the tree notes everybody whom it shows differently.** -/
theorem Stage.Informed.change (hσ : σ.Informed) {r : Registry} {id : FrameId}
    (h : TreeStep σ.registry id r none)
    (hτ : Stage.Ordered { σ with
      registry := r, tasks := .telling (σ.registry.visibilities id) :: σ.tasks }) :
    Stage.Informed { σ with
      registry := r, tasks := .telling (σ.registry.visibilities id) :: σ.tasks } := by
  have hlinked := hσ.ordered.linked
  have hid : σ.registry.contains id = true := h.contains_id
  constructor
  case ordered => exact hτ
  case known => exact fun m hm f hf => (h.contains f).trans (hσ.known m hm f hf)
  case made => exact fun f hf => hσ.made f ((h.contains f).symm.trans hf)
  case listed =>
    intro before hb e he
    refine (h.contains e.1).trans ?_
    rcases List.mem_cons.1 hb with hb | hb
    · cases hb
      have hreach := ((hlinked.mem_visibilities_iff hid).1 he).1
      rcases hreach.cases_head with heq | ⟨c, hc, -⟩
      · exact heq ▸ hid
      · exact Registry.contains_of_parentOf hc
    · exact hσ.listed before hb e he
  case heard =>
    intro f hf
    have hf : σ.registry.contains f = true := (h.contains f).symm.trans hf
    dsimp only
    by_cases hv : r.isVisible f = σ.registry.isVisible f
    · rw [hv]
      refine (hσ.heard f hf).imp_right ?_
      rintro ⟨before, hb, was, hmem, hne⟩
      refine ⟨before, List.mem_cons_of_mem _ hb, was, hmem, ?_⟩
      dsimp only
      rwa [hv]
    · -- whoever is shown differently is below `id`, and so was noted with what it was
      have hreach : ReflTransGen σ.registry.Under f id := by
        by_cases hreach : ReflTransGen σ.registry.Under f id
        · exact hreach
        · exact absurd (Registry.isVisible_of_unreached (fun a => h.shown_eq) hreach) hv
      exact .inr ⟨_, List.mem_cons_self, σ.registry.isVisible f,
        (hlinked.mem_visibilities_iff hid).2 ⟨hreach, rfl⟩, Ne.symm hv⟩

/-- **Going on with a list leaves out only whoever knows.** -/
theorem Stage.Informed.tell (hσ : σ.Informed) {entry : FrameId × Bool}
    {rest : List (FrameId × Bool)} {tasks : List Task} (ms : List Moment)
    (ht : σ.tasks = .telling (entry :: rest) :: tasks)
    (hτ : Stage.Ordered { σ with journal := ms ++ σ.journal, tasks := .telling rest :: tasks })
    (hms : ∀ m ∈ ms, m.about? = some entry.1)
    (hentry : Heard entry.1 (ms ++ σ.journal) (σ.registry.isVisible entry.1) ∨
      ms = [] ∧ entry.2 = σ.registry.isVisible entry.1) :
    Stage.Informed { σ with journal := ms ++ σ.journal, tasks := .telling rest :: tasks } := by
  have hlisted := hσ.listed (entry :: rest) (ht ▸ List.mem_cons_self)
  constructor
  case ordered => exact hτ
  case known =>
    intro m hm f hf
    rcases List.mem_append.1 hm with hm | hm
    · obtain rfl := Option.some.inj ((hms m hm).symm.trans hf)
      exact hlisted entry List.mem_cons_self
    · exact hσ.known m hm f hf
  case made =>
    intro f hf
    obtain ⟨seen, hseen⟩ := hσ.made f hf
    exact ⟨seen, List.mem_append_right _ hseen⟩
  case listed =>
    intro before hb e he
    rcases List.mem_cons.1 hb with hb | hb
    · cases hb
      exact hlisted e (List.mem_cons_of_mem _ he)
    · exact hσ.listed before (ht ▸ List.mem_cons_of_mem _ hb) e he
  case heard =>
    intro f hf
    rcases hσ.heard f hf with h | ⟨before, hb, was, hmem, hne⟩
    · by_cases hfe : f = entry.1
      · subst hfe
        rcases hentry with h' | ⟨rfl, -⟩
        · exact .inl h'
        · exact .inl h
      · exact .inl (h.append fun m hm => by simpa [hms m hm] using Ne.symm hfe)
    · rw [ht] at hb
      rcases List.mem_cons.1 hb with hb | hb
      · -- what the frame is owed may be the very entry that leaves the list
        cases hb
        rcases List.mem_cons.1 hmem with rfl | hmem
        · exact .inl (hentry.resolve_right fun h => hne h.2)
        · exact .inr ⟨rest, List.mem_cons_self, was, hmem, hne⟩
      · exact .inr ⟨before, List.mem_cons_of_mem _ hb, was, hmem, hne⟩

theorem Stage.Informed.finish (hσ : σ.Informed) {tasks : List Task}
    (ht : σ.tasks = .telling [] :: tasks) (hτ : Stage.Ordered { σ with tasks }) :
    Stage.Informed { σ with tasks } := by
  constructor
  case ordered => exact hτ
  case known => exact hσ.known
  case made => exact hσ.made
  case listed => exact fun before hb => hσ.listed before (ht ▸ List.mem_cons_of_mem _ hb)
  case heard =>
    intro f hf
    refine (hσ.heard f hf).imp_right ?_
    rintro ⟨before, hb, was, hmem, hne⟩
    rw [ht] at hb
    rcases List.mem_cons.1 hb with hb | hb
    · cases hb
      cases hmem
    · exact ⟨before, hb, was, hmem, hne⟩

namespace Session

open Act

variable {call : Caller} {s : Session}

/-- Tells a frame that it is now visible, or no longer. -/
def announce (call : Caller) (frame : FrameId) (shown : Bool) : Act Unit := do
  record (.notified frame shown)
  let _ ← runSlot call ⟨frame, visibilityHandler shown⟩ []

end Session

/-! ## Runs -/

end FrameHost
