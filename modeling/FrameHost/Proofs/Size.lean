import FrameHost.Proofs.Layout

/-!
# How big frames are

A frame whose two opposite edges are tied to one frame is as big as that frame, less what the anchors take
from it. Any other frame has the size that it was given. An anchor without a frame of its own is tied to
the parent; but an edge that names the parent and one that leaves it out are not taken to be tied to one
frame, and the frame keeps the size that it was given.

* `Registry.Pinned`: two opposite edges of a frame are tied to one frame.
* `Registry.SizedBy`: a size follows from what the edges of a frame are tied to.
* `Session.Ran.sized`: **whenever the host of a run is met, every size follows from what edges are tied
  to**, but for frames that are tied to their parent in two ways.
* `Session.not_sizedBy_mixed`: a frame that is tied to its parent in two ways, and has not the size of it.
-/

namespace FrameHost

variable {axis : Axis} {f : Frame} {near far : Anchor} {id t : FrameId}

/-! ## Edges -/

/-- The first anchors on two opposite edges of a frame are tied to one frame, and that is there. -/
structure Registry.Pinned (r : Registry) (axis : Axis) (f : Frame) (near far : Anchor) (t : FrameId) :
    Prop where
  nearFirst : f.firstAnchor? axis.near = some near
  farFirst : f.firstAnchor? axis.far = some far
  nearTarget : near.target f.parent = some t
  farTarget : far.target f.parent = some t
  contains : r.contains t = true

/-- A size follows from what the edges of a frame are tied to; without such a frame it is the one that was
given. -/
structure Registry.SizedBy (r : Registry) (axis : Axis) (f : Frame) (x : Float) : Prop where
  pinned : ∀ near far t, r.Pinned axis f near far t →
    x = Axis.clamp (r.extent axis t - axis.offset near + axis.offset far)
  free : (∀ near far t, ¬ r.Pinned axis f near far t) → x = axis.given f

/-- One of two anchors names the parent, and the other leaves it out. -/
inductive Frame.NamesParentOnce (f : Frame) (near far : Anchor) : Prop
  | near {parent : FrameId} (hp : f.parent = some parent) (hnear : near.relativeTo = some parent)
      (hfar : far.relativeTo = none)
  | far {parent : FrameId} (hp : f.parent = some parent) (hnear : near.relativeTo = none)
      (hfar : far.relativeTo = some parent)

/-- Two opposite edges of a frame are tied to its parent in two ways. -/
def Registry.Mixed (r : Registry) (axis : Axis) (f : Frame) : Prop :=
  ∃ near far t, r.Pinned axis f near far t ∧ f.NamesParentOnce near far

namespace Registry

variable {r : Registry} {x : Float}

/-- The anchors that pin a frame name what they are tied to in the same way, or one of them names the parent
and the other leaves it out. -/
theorem Pinned.same_or_once (h : r.Pinned axis f near far t) :
    near.relativeTo = far.relativeTo ∨ f.NamesParentOnce near far := by
  have hnear := h.nearTarget
  have hfar := h.farTarget
  unfold Anchor.target at hnear hfar
  cases hn : near.relativeTo with
  | none =>
    cases hf : far.relativeTo with
    | none => exact .inl rfl
    | some p =>
      rw [hn, Option.none_or] at hnear
      rw [hf, Option.some_or] at hfar
      exact .inr (.far hnear hn (hf.trans hfar))
  | some p =>
    rw [hn, Option.some_or] at hnear
    cases hf : far.relativeTo with
    | none =>
      rw [hf, Option.none_or] at hfar
      exact .inr (.near hfar (hn.trans hnear) hf)
    | some q =>
      rw [hf, Option.some_or] at hfar
      exact .inl (hnear.trans hfar.symm)

theorem pinned_of_span? (hs : axis.span? f = some (near, far, t)) (ht : r.contains t = true) :
    r.Pinned axis f near far t := by
  obtain ⟨hnear, hfar, hsame, htarget⟩ := Axis.span?_eq_some_iff.1 hs
  refine ⟨hnear, hfar, htarget, ?_, ht⟩
  rw [← htarget, Anchor.target, Anchor.target, hsame]

/-- At most one pair of anchors pins a frame, and at most to one frame. -/
theorem Pinned.unique {near' far' : Anchor} {t' : FrameId} (h : r.Pinned axis f near far t)
    (h' : r.Pinned axis f near' far' t') : near = near' ∧ far = far' ∧ t = t' := by
  cases h.nearFirst.symm.trans h'.nearFirst
  cases h.farFirst.symm.trans h'.farFirst
  cases h.nearTarget.symm.trans h'.nearTarget
  exact ⟨rfl, rfl, rfl⟩

theorem not_namesParentOnce_of_same (h : near.relativeTo = far.relativeTo) :
    ¬ f.NamesParentOnce near far := by
  rintro (⟨hp, hnear, hfar⟩ | ⟨hp, hnear, hfar⟩) <;> simp [hnear, hfar] at h

/-! ## Sizes -/

/-- Sizes follow from what edges are tied to; a frame that is tied to its parent in two ways keeps the size
that it was given. -/
structure Sized (r : Registry) (axis : Axis) : Prop where
  follows : ∀ id f, r.get? id = some f → ¬ r.Mixed axis f → r.SizedBy axis f (r.extent axis id)
  mixed : ∀ id f, r.get? id = some f → r.Mixed axis f → r.extent axis id = axis.given f

/-- **Where no frame needs itself, sizes follow from what edges are tied to.** -/
theorem sized_of_grounded (h : ∀ x, Graph.Grounded r.Needs x) (axis : Axis) : r.Sized axis := by
  constructor
  case follows =>
    intro id f hf hmixed
    obtain ⟨path, hpath, -⟩ := measured_extent (h id)
    generalize r.extent axis id = x at hpath ⊢
    cases hpath with
    | absent hnone => cases hf.symm.trans hnone
    | given hf' hs =>
      cases hf.symm.trans hf'
      refine ⟨fun near far t hp => ?_, fun _ => rfl⟩
      rcases hp.same_or_once with hsame | honce
      · have hspan := Axis.span?_eq_some_iff.2 ⟨hp.nearFirst, hp.farFirst, hsame, hp.nearTarget⟩
        cases (hs near far t hspan).symm.trans hp.contains
      · exact absurd ⟨near, far, t, hp, honce⟩ hmixed
    | @spanned _ t _ near far path x hf' hs ht hrest =>
      cases hf.symm.trans hf'
      have hpinned := pinned_of_span? hs ht
      refine ⟨fun near' far' t' hp => ?_, fun hfree => absurd hpinned (hfree near far t)⟩
      obtain ⟨rfl, rfl, rfl⟩ := hpinned.unique hp
      rw [hrest.extent]
      rfl
  case mixed =>
    rintro id f hf ⟨near, far, t, hp, honce⟩
    obtain ⟨path, hpath, -⟩ := measured_extent (h id)
    generalize r.extent axis id = x at hpath ⊢
    cases hpath with
    | absent hnone => cases hf.symm.trans hnone
    | given hf' => cases hf.symm.trans hf'; rfl
    | spanned hf' hs ht =>
      cases hf.symm.trans hf'
      obtain ⟨rfl, rfl, rfl⟩ := hp.unique (pinned_of_span? hs ht)
      exact absurd honce (not_namesParentOnce_of_same (Axis.span?_eq_some_iff.1 hs).2.2.1)

end Registry

/-- **Whenever the host of a run is met, widths and heights follow from what edges are tied to**, but for
frames that are tied to their parent in two ways. -/
theorem Session.Ran.sized {s : Session} (h : s.Ran false) {host : Host} (hm : s.Met host) :
    host.registry.Sized .horizontal ∧ host.registry.Sized .vertical := by
  have hneeds : ∀ x, Graph.Grounded host.registry.Needs x :=
    h.met (P := fun host => ∀ x, Graph.Grounded host.registry.Needs x)
      (I := fun σ => ∀ x, Graph.Grounded σ.registry.Needs x)
      (fun _ => Registry.grounded_empty) (fun _ _ h hσ => h.grounded hσ)
      (fun _ _ hs hσ => hs.registry ▸ hσ) hm
  exact ⟨Registry.sized_of_grounded hneeds _, Registry.sized_of_grounded hneeds _⟩

/-- The left edge of a frame is tied to that of its parent, which is not named. -/
def Session.tieLeft : Command :=
  .frame (.act (some 2) (.setPoint (.str "LEFT") .none (.str "LEFT") (.int 0) (.int 0)))

/-- The right edge of a frame is tied to that of its parent, which is named. -/
def Session.tieRight : Command :=
  .frame (.act (some 2) (.setPoint (.str "RIGHT") (.id 1) (.str "RIGHT") (.int 0) (.int 0)))

/-- The edges of a frame are tied to its parent in two ways. -/
def Session.mixedCommands : List Command := nested ++ [tieLeft] ++ [tieRight]

/-- Both its edges are tied to its parent, and it names the parent once. -/
theorem Session.sized_runRootless :
    (runRootless idle mixedCommands).host.registry.Sized .horizontal ∧
      (runRootless idle mixedCommands).host.registry.Sized .vertical :=
  Session.Ran.sized (ran_idle (by decide)) .last

/-! ## A frame that is tied to its parent in two ways -/

namespace Session

/-- The frames once the left edge is tied. -/
def leftTied : Registry :=
  (runRootless idle nested).host.registry.edit 2 fun f =>
    { f with anchors := putAnchor ⟨.left, none, .left, 0.0, 0.0⟩ f.anchors }

/-- The frames once both edges are tied. -/
def bothTied : Registry :=
  leftTied.edit 2 fun f =>
    { f with anchors := putAnchor ⟨.right, some 1, .right, 0.0, 0.0⟩ f.anchors }

/-- A point of the frame below is tied to the one above, which has no anchors. -/
theorem registry_tieBelow {commands : List Command} {r : Registry} {name : String} {p : AnchorPoint}
    {ref : FrameRef} {relativeTo : Option FrameId}
    (hr : (runRootless idle commands).host.registry = r) (hp : AnchorPoint.ofValue? (.str name) = some p)
    (href : ref.resolve r = relativeTo) (htarget : relativeTo.or (some 1) = some 1)
    (hfree : (r.get? 1).any fun g => (r.get? 2).any fun f =>
      g.anchors.isEmpty && decide (f.parent = some 1) && (f.anchorAt? p).isNone) :
    (runRootless idle (commands ++
      [.frame (.act (some 2) (.setPoint (.str name) ref (.str name) (.int 0) (.int 0)))])).host.registry =
      r.edit 2 fun f => { f with anchors := putAnchor ⟨p, relativeTo, p, 0.0, 0.0⟩ f.anchors } := by
  obtain ⟨g, hg, hfree⟩ := (Option.any_eq_true _ _).1 hfree
  obtain ⟨f, hf, hfree⟩ := (Option.any_eq_true _ _).1 hfree
  obtain ⟨⟨hbare, hparent⟩, hnew⟩ := by simpa only [Bool.and_eq_true] using hfree
  subst hr
  have hadmits : (runRootless idle commands).host.registry.Admits 2 f relativeTo :=
    .of_bare (of_decide_eq_true hparent ▸ htarget) (by decide) hg (List.isEmpty_iff.1 hbare)
  exact congrArg Host.registry <|
    host_runRootless_setPoint hf hp hp href hadmits (Option.isNone_iff_eq_none.1 hnew)

theorem registry_tieLeft : (runRootless idle (nested ++ [tieLeft])).host.registry = leftTied := by
  unfold tieLeft leftTied
  exact registry_tieBelow rfl (by decide +kernel) rfl rfl (by decide +kernel)

theorem registry_mixedCommands : (runRootless idle mixedCommands).host.registry = bothTied := by
  unfold mixedCommands tieRight bothTied
  exact registry_tieBelow registry_tieLeft (by decide +kernel) rfl rfl (by decide +kernel)

/-- **The frame is 10 wide and its parent 100**, though both its edges are tied to those of the parent. -/
theorem not_sizedBy_mixed : (runRootless idle mixedCommands).Ran false ∧
    ¬ ∀ id f, (runRootless idle mixedCommands).host.registry.get? id = some f →
      (runRootless idle mixedCommands).host.registry.SizedBy .horizontal f
        ((runRootless idle mixedCommands).host.registry.widthOf id) := by
  refine ⟨ran_idle (by decide), fun hsized => ?_⟩
  rw [registry_mixedCommands] at hsized
  have hwidths : (bothTied.get? 2).any fun f => (f.firstAnchor? Axis.horizontal.near).any fun near =>
      (f.firstAnchor? Axis.horizontal.far).any fun far => decide <|
        near.target f.parent = some 1 ∧ far.target f.parent = some 1 ∧ bothTied.contains 1 = true ∧
          bothTied.widthOf 2 = 10.0 ∧
          Axis.clamp (bothTied.widthOf 1 - Axis.horizontal.offset near + Axis.horizontal.offset far) =
            100.0 := by
    decide +kernel
  generalize bothTied = r at *
  obtain ⟨f, hf, hwidths⟩ := (Option.any_eq_true _ _).1 hwidths
  obtain ⟨near, hnear, hwidths⟩ := (Option.any_eq_true _ _).1 hwidths
  obtain ⟨far, hfar, hwidths⟩ := (Option.any_eq_true _ _).1 hwidths
  obtain ⟨hnearTarget, hfarTarget, hcontains, hwidth, hparent⟩ := of_decide_eq_true hwidths
  have hfollows := (hsized 2 f hf).pinned near far 1 ⟨hnear, hfar, hnearTarget, hfarTarget, hcontains⟩
  exact absurd (hwidth.symm.trans (hfollows.trans hparent)) (by decide +kernel)

end Session

end FrameHost
