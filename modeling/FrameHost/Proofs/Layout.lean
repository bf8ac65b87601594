import FrameHost.Proofs.AnchorGraph
import FrameHost.Proofs.Hierarchy

/-!
# Where frames lie

A frame lies on the rectangle of the frame that its first anchor is tied to, and without anchors on that
of its parent. The guard of the anchors follows anchors only, so a frame without anchors can lead on from
its parent to a frame that is tied to it in turn. Such a loop is broken at the frame whose rectangle is
asked for: the screen takes its place.

* `Registry.Hangs`: which frame another one is laid out by.
* `Layout.reference_congr`: frames that are being visited do not matter unless they are met.
* `Session.Ran.laidOut`: **rectangles agree with each other, but for frames that lead back to themselves**.
* `Session.not_agrees_tied`: a frame that leads back to itself, and does not agree.
-/

namespace FrameHost

open Relation

/-! ## What a layout says -/

/-- A number, rounded, as a field of a rectangle. -/
def Rect.Rounds (x : Float) (field : Int32) : Prop :=
  ∃ n, Value.round x = .ok n ∧ Rect.toField n = .ok field

namespace Registry

variable {r : Registry} {id a b stop x : FrameId}

/-- `a` is laid out by `b`, which need not be there. -/
def Hangs (r : Registry) (a b : FrameId) : Prop :=
  ∃ f, r.get? a = some f ∧ Layout.referenceOf f = some b

/-- A frame lies on a rectangle: it has its own size, rounded, and the point of its first anchor lies at
the point which that anchor names, shifted right and up. Without anchors it starts where the rectangle
does. -/
structure LiesOn (r : Registry) (id : FrameId) (f : Frame) (base rect : Rect) : Prop where
  width : Rect.Rounds (r.widthOf id) rect.width
  height : Rect.Rounds (r.heightOf id) rect.height
  corner : f.anchors = [] → rect.x = base.x ∧ rect.y = base.y
  point : ∀ a, f.anchors.head? = some a →
    Rect.Rounds ((base.point a.relativePoint).1 + a.x - r.widthOf id * a.point.across) rect.x ∧
    Rect.Rounds ((base.point a.relativePoint).2 - a.y - r.heightOf id * a.point.down) rect.y

end Registry

/-- From a frame on, each lies on the next, down to one that is laid out by the frame `stop`, and lies on
the screen. -/
inductive Layout.Stacked (l : Layout) (r : Registry) (stop : FrameId) : FrameId → Rect → Prop
  | grounded {a : FrameId} {f : Frame} {base rect : Rect} (hf : r.get? a = some f)
      (hnext : Layout.referenceOf f = some stop) (hbase : l.screen = .ok base)
      (hlies : r.LiesOn a f base rect) : Stacked l r stop a rect
  | onto {a b : FrameId} {f : Frame} {base rect : Rect} (hf : r.get? a = some f)
      (hnext : Layout.referenceOf f = some b) (hb : b ≠ stop) (h : Stacked l r stop b base)
      (hlies : r.LiesOn a f base rect) : Stacked l r stop a rect

namespace Layout

variable {l : Layout} {r : Registry} {id a b stop : FrameId} {f : Frame} {base rect : Rect}
  {visiting visiting' : List FrameId}

/-! ## Rectangles -/

theorem exists_of_bind {ε α β : Type} {x : Except ε α} {f : α → Except ε β} {b : β}
    (h : x >>= f = .ok b) : ∃ a, x = .ok a ∧ f a = .ok b := by
  cases x with
  | error e => cases h
  | ok a => exact ⟨a, rfl, h⟩

theorem ok_of_toOption {ε α : Type} {x : Except ε α} {a : α} (h : x.toOption = some a) :
    x = .ok a := by
  cases x with
  | error e => cases h
  | ok b =>
    cases h
    rfl

theorem fields_of_ofInts {x y width height : Int} (h : Rect.ofInts x y width height = .ok rect) :
    Rect.toField x = .ok rect.x ∧ Rect.toField y = .ok rect.y ∧
      Rect.toField width = .ok rect.width ∧ Rect.toField height = .ok rect.height := by
  obtain ⟨fx, hx, h⟩ := exists_of_bind h
  obtain ⟨fy, hy, h⟩ := exists_of_bind h
  obtain ⟨fw, hw, h⟩ := exists_of_bind h
  obtain ⟨fh, hh, h⟩ := exists_of_bind h
  cases h
  exact ⟨hx, hy, hw, hh⟩

/-- A field of a rectangle is taken over as it is. -/
theorem eq_of_toField {field field' : Int32} (h : Rect.toField field.toInt = .ok field') :
    field' = field := by
  unfold Rect.toField at h
  split at h
  · cases h
    exact Int32.ofInt_toInt field
  · cases h

/-- **A frame that has been placed on a rectangle lies on it.** -/
theorem liesOn_of_place (h : place r id f base = .ok rect) : r.LiesOn id f base rect := by
  unfold place at h
  cases hanchors : f.anchors with
  | nil =>
    rw [hanchors] at h
    obtain ⟨w, hw, h⟩ := exists_of_bind h
    obtain ⟨t, ht, h⟩ := exists_of_bind h
    obtain ⟨hx, hy, hwidth, hheight⟩ := fields_of_ofInts h
    refine ⟨⟨w, hw, hwidth⟩, ⟨t, ht, hheight⟩, fun _ => ?_, fun a ha => ?_⟩
    · exact ⟨eq_of_toField hx, eq_of_toField hy⟩
    · rw [hanchors] at ha
      cases ha
  | cons a anchors =>
    rw [hanchors] at h
    obtain ⟨x, hx, h⟩ := exists_of_bind h
    obtain ⟨y, hy, h⟩ := exists_of_bind h
    obtain ⟨w, hw, h⟩ := exists_of_bind h
    obtain ⟨t, ht, h⟩ := exists_of_bind h
    obtain ⟨hxField, hyField, hwidth, hheight⟩ := fields_of_ofInts h
    refine ⟨⟨w, hw, hwidth⟩, ⟨t, ht, hheight⟩, fun hnil => ?_, fun b hb => ?_⟩
    · cases hanchors.symm.trans hnil
    · rw [hanchors] at hb
      cases hb
      exact ⟨⟨x, hx, hxField⟩, ⟨y, hy, hyField⟩⟩

/-! ## References -/

theorem reference_of_mem (h : a ∈ visiting) : l.reference r visiting (some a) = l.screen := by
  rw [reference, if_pos h]

theorem reference_of_absent (h : r.get? a = none) :
    l.reference r visiting (some a) = l.screen := by
  rw [reference]
  split
  · rfl
  · split
    · rfl
    · rename_i hf
      cases h.symm.trans hf

theorem reference_of_frame (ha : a ∉ visiting) (hf : r.get? a = some f) :
    l.reference r visiting (some a) =
      l.reference r (a :: visiting) (referenceOf f) >>= place r a f := by
  rw [reference, if_neg ha]
  split
  · rename_i hnone
    cases hf.symm.trans hnone
  · rename_i g hg
    cases hf.symm.trans hg
    rfl

/-- The rectangle of a frame that is there. -/
theorem frameRect_of_frame (hf : r.get? id = some f) :
    l.frameRect r (some id) = l.reference r [id] (referenceOf f) >>= place r id f := by
  have hat : r.at? (some id) = some f := hf
  unfold frameRect
  rw [hat]
  exact reference_of_frame List.not_mem_nil hf

/-- `a` is laid out by `b`, and is not visited before. -/
def Leads (r : Registry) (visiting : List FrameId) (a b : FrameId) : Prop :=
  a ∉ visiting ∧ r.Hangs a b

theorem Leads.of_cons {c : FrameId} (h : Leads r (c :: visiting) a b) : Leads r visiting a b :=
  ⟨fun ha => h.1 (List.mem_cons_of_mem c ha), h.2⟩

/-- **The frames that are being visited matter only where they are met.** -/
theorem reference_congr {o : Option FrameId}
    (h : ∀ a, o = some a → ∀ x, ReflTransGen (Leads r visiting) a x →
      (x ∈ visiting ↔ x ∈ visiting')) :
    l.reference r visiting o = l.reference r visiting' o := by
  fun_induction l.reference r visiting o generalizing visiting' with
  | case1 => rw [reference]
  | case2 visiting a ha => rw [reference_of_mem ((h a rfl a .refl).1 ha)]
  | case3 visiting a ha hf => rw [reference_of_absent hf]
  | case4 visiting a ha f hf ih =>
    have ha' : a ∉ visiting' := fun hmem => ha ((h a rfl a .refl).2 hmem)
    rw [reference_of_frame ha' hf, ih fun b hb x hx => ?_]
    have hstep : Leads r visiting a b := ⟨ha, f, hf, hb⟩
    have hreach : ReflTransGen (Leads r visiting) a x :=
      .head hstep (ReflTransGen.mono (fun _ _ => Leads.of_cons) _ _ hx)
    rw [List.mem_cons, List.mem_cons, h a rfl x hreach]

/-- Whoever leads back to a frame meets nobody twice on the way. -/
theorem grounded_of_hangs (h : ReflTransGen r.Hangs a stop) :
    Graph.Grounded (fun a b => a ≠ stop ∧ r.Hangs a b) a := by
  induction h using ReflTransGen.head_induction_on with
  | refl => exact Acc.intro _ fun b hb => absurd rfl hb.1
  | @head a c hac _ ih =>
    refine Acc.intro _ fun b hb => ?_
    obtain ⟨f, hf, hc⟩ := hac
    obtain ⟨-, g, hg, hb⟩ := hb
    cases hf.symm.trans hg
    cases hc.symm.trans hb
    exact ih

/-- A frame that leads to one whose rectangle is being looked for is stacked on the screen in its place. -/
theorem stacked_of_reference (hreach : ReflTransGen r.Hangs a stop) (ha : a ≠ stop)
    (h : l.reference r [stop] (some a) = .ok rect) : l.Stacked r stop a rect := by
  induction hreach using ReflTransGen.head_induction_on generalizing rect with
  | refl => exact absurd rfl ha
  | @head a b hab hb ih =>
    have hreach : ReflTransGen r.Hangs a stop := .head hab hb
    have hstop : a ∉ [stop] := fun hmem => ha (List.mem_singleton.1 hmem)
    obtain ⟨f, hf, hnext⟩ := hab
    rw [reference_of_frame hstop hf, hnext] at h
    obtain ⟨base, hbase, hplace⟩ := exists_of_bind h
    have hlies := liesOn_of_place hplace
    by_cases hbs : b = stop
    · subst hbs
      rw [reference_of_mem (List.mem_cons_of_mem a List.mem_cons_self)] at hbase
      exact .grounded hf hnext hbase hlies
    · -- the way to `stop` does not come by `a` again, so that `a` is being visited does not matter
      refine .onto hf hnext hbs (ih hbs ?_) hlies
      rw [← hbase]
      refine (reference_congr fun c hc x hx => ?_).symm
      cases hc
      have hxa : x ≠ a := by
        rintro rfl
        have hback : ReflTransGen (fun a b => a ≠ stop ∧ r.Hangs a b) b x :=
          ReflTransGen.mono (fun y z hyz =>
            ⟨fun e => hyz.1 (List.mem_cons_of_mem x (List.mem_singleton.2 e)), hyz.2⟩) _ _ hx
        have hstep : x ≠ stop ∧ r.Hangs x b := ⟨ha, f, hf, hnext⟩
        exact (grounded_of_hangs hreach).not_transGen (.head' hstep hback)
      simp [hxa]

/-! ## Frames that hang on each other -/

/-- **A frame that does not lead back to itself lies on the rectangle of the frame that it is laid out
by.** -/
theorem exists_base_of_hangs (hab : r.Hangs a b) (hb : r.contains b = true)
    (hloop : ¬ TransGen r.Hangs a a) (hrect : l.frameRect r (some a) = .ok rect) :
    ∃ f base, r.get? a = some f ∧ l.frameRect r (some b) = .ok base ∧ r.LiesOn a f base rect := by
  obtain ⟨f, hf, hnext⟩ := hab
  obtain ⟨g, hg⟩ := Option.isSome_iff_exists.1 hb
  rw [frameRect_of_frame hf] at hrect
  obtain ⟨base, hbase, hplace⟩ := exists_of_bind hrect
  refine ⟨f, base, hf, ?_, liesOn_of_place hplace⟩
  have hat : r.at? (some b) = some g := hg
  unfold frameRect
  rw [hat, ← hbase, hnext]
  refine (reference_congr fun c hc x hx => ?_).symm
  cases hc
  have hxa : x ≠ a := by
    rintro rfl
    have hback : ReflTransGen r.Hangs b x := ReflTransGen.mono (fun _ _ h => h.2) _ _ hx
    exact hloop (.head' ⟨f, hf, hnext⟩ hback)
  simp [hxa]

/-- **A frame that is laid out by no other lies on the screen.** -/
theorem exists_screen_of_free (hf : r.get? a = some f)
    (hfree : ∀ b, r.Hangs a b → r.contains b = false) (hrect : l.frameRect r (some a) = .ok rect) :
    ∃ base, l.screen = .ok base ∧ r.LiesOn a f base rect := by
  rw [frameRect_of_frame hf] at hrect
  obtain ⟨base, hbase, hplace⟩ := exists_of_bind hrect
  refine ⟨base, ?_, liesOn_of_place hplace⟩
  cases hnext : referenceOf f with
  | none =>
    rw [hnext, reference] at hbase
    exact hbase
  | some b =>
    have hb : r.get? b = none :=
      Option.not_isSome_iff_eq_none.1 (Bool.eq_false_iff.1 (hfree b ⟨f, hf, hnext⟩))
    rw [hnext, reference_of_absent hb] at hbase
    exact hbase

/-- Of two frames that are laid out by each other, the one that is asked for lies on the other, and that
one on the screen. -/
theorem frameRect_of_pair {g : Frame} (hf : r.get? a = some f) (hg : r.get? b = some g)
    (hab : referenceOf f = some b) (hba : referenceOf g = some a) (hne : b ≠ a) :
    l.frameRect r (some a) = l.screen >>= place r b g >>= place r a f := by
  have hb : b ∉ [a] := fun hmem => hne (List.mem_singleton.1 hmem)
  rw [frameRect_of_frame hf, hab, reference_of_frame hb hg, hba,
    reference_of_mem (List.mem_cons_of_mem b List.mem_cons_self)]

/-- **A frame that leads back to itself is stacked on the screen in its own place.** -/
theorem stacked_of_loop (hloop : TransGen r.Hangs a a) (hrect : l.frameRect r (some a) = .ok rect) :
    l.Stacked r a a rect := by
  obtain ⟨b, ⟨f, hf, hnext⟩, hb⟩ := TransGen.head'_iff.1 hloop
  rw [frameRect_of_frame hf, hnext] at hrect
  obtain ⟨base, hbase, hplace⟩ := exists_of_bind hrect
  have hlies := liesOn_of_place hplace
  by_cases hba : b = a
  · subst hba
    rw [reference_of_mem List.mem_cons_self] at hbase
    exact .grounded hf hnext hbase hlies
  · exact .onto hf hnext hba (stacked_of_reference hb hba hbase) hlies

end Layout

/-! ## Loops -/

namespace Registry

variable {r : Registry} {id a b : FrameId}

/-- What is reached by edges that are edges of another kind, too, is reached by those. -/
theorem transGen_of_reached {R S : FrameId → FrameId → Prop} (h : TransGen R a b)
    (hS : ∀ x y, ReflTransGen R a x → R x y → S x y) : TransGen S a b := by
  induction h with
  | single hab => exact .single (hS _ _ .refl hab)
  | tail hac hcb ih => exact .tail ih (hS _ _ hac.to_reflTransGen hcb)

/-- **In a loop, both anchors and parents are followed**: the anchors alone make no loop, and neither do
the parents. -/
theorem mixed_of_loop (hr : r.Linked) (hneeds : ∀ x, Graph.Grounded r.Needs x) (hloop : TransGen r.Hangs id id) :
    (∃ a f, ReflTransGen r.Hangs id a ∧ r.get? a = some f ∧ f.anchors = []) ∧
      ∃ a f, ReflTransGen r.Hangs id a ∧ r.get? a = some f ∧ f.anchors ≠ [] := by
  constructor
  · refine Classical.byContradiction fun hnone => ?_
    refine (hneeds id).not_transGen (transGen_of_reached hloop fun x y hx hxy => ?_)
    obtain ⟨f, hf, hnext⟩ := hxy
    obtain ⟨first, rest, hanchors⟩ := List.exists_cons_of_ne_nil fun hnil =>
      hnone ⟨x, f, hx, hf, hnil⟩
    unfold Layout.referenceOf at hnext
    rw [hanchors] at hnext
    exact needs_iff.2 ⟨f, hf, first, hanchors ▸ List.mem_cons_self, hnext⟩
  · refine Classical.byContradiction fun hnone => ?_
    refine (hr.grounded id).not_transGen (transGen_of_reached hloop fun x y hx hxy => ?_)
    obtain ⟨f, hf, hnext⟩ := hxy
    have hanchors : f.anchors = [] :=
      Classical.byContradiction fun hsome => hnone ⟨x, f, hx, hf, hsome⟩
    unfold Layout.referenceOf at hnext
    rw [hanchors] at hnext
    exact Option.bind_eq_some_iff.2 ⟨f, hf, hnext⟩

end Registry

/-! ## Runs -/

/-- The rectangle of a frame agrees with that of the frame that it is laid out by, if that is there, and
else with the screen. -/
structure Host.Agrees (h : Host) (a : FrameId) : Prop where
  hung : ∀ b rect, h.registry.Hangs a b → h.registry.contains b = true →
    h.layout.frameRect h.registry (some a) = .ok rect → ∃ f base, h.registry.get? a = some f ∧
      h.layout.frameRect h.registry (some b) = .ok base ∧ h.registry.LiesOn a f base rect
  free : ∀ f rect, h.registry.get? a = some f →
    (∀ b, h.registry.Hangs a b → h.registry.contains b = false) →
    h.layout.frameRect h.registry (some a) = .ok rect →
    ∃ base, h.layout.screen = .ok base ∧ h.registry.LiesOn a f base rect

/-- Rectangles agree with each other, but for frames that lead back to themselves, which follow both
anchors and parents. Such a frame is stacked on the screen in its own place. -/
structure Host.LaidOut (h : Host) : Prop where
  agrees : ∀ a, ¬ TransGen h.registry.Hangs a a → h.Agrees a
  looped : ∀ a rect, TransGen h.registry.Hangs a a →
    h.layout.frameRect h.registry (some a) = .ok rect → h.layout.Stacked h.registry a a rect
  mixed : ∀ a, TransGen h.registry.Hangs a a →
    (∃ b f, ReflTransGen h.registry.Hangs a b ∧ h.registry.get? b = some f ∧ f.anchors = []) ∧
      ∃ b f, ReflTransGen h.registry.Hangs a b ∧ h.registry.get? b = some f ∧ f.anchors ≠ []

/-- **Whenever the host of a run is met, rectangles agree with each other**, but for frames that lead back
to themselves by way of an anchor and a parent. -/
theorem Session.Ran.laidOut {s : Session} (h : s.Ran false) {host : Host} (hm : s.Met host) :
    host.LaidOut := by
  obtain ⟨hlinked, hneeds⟩ : host.registry.Linked ∧ ∀ x, Graph.Grounded host.registry.Needs x :=
    h.met (P := fun host => host.registry.Linked ∧ ∀ x, Graph.Grounded host.registry.Needs x)
      (I := fun σ => σ.Ordered ∧ ∀ x, Graph.Grounded σ.registry.Needs x)
      (fun clock => ⟨Stage.ordered_fresh clock, Registry.grounded_empty⟩)
      (fun _ _ h hσ => ⟨h.ordered hσ.1, h.grounded hσ.2⟩)
      (fun _ _ hs hσ => hs.registry ▸ ⟨hσ.1.linked, hσ.2⟩) hm
  constructor
  case agrees =>
    intro a hloop
    constructor
    · exact fun b rect hab hb => Layout.exists_base_of_hangs hab hb hloop
    · exact fun f rect => Layout.exists_screen_of_free
  case looped => exact fun a rect => Layout.stacked_of_loop
  case mixed => exact fun a => Registry.mixed_of_loop hlinked hneeds

/-- A frame is tied to its own child, which lies on it in turn. -/
theorem Session.laidOut_runRootless : (Session.runRootless (fun _ _ _ => {})
    [.frame (.create (.str "Frame") .null .none .null .null),
      .frame (.create (.str "Frame") .null (.id 1) .null .null),
      .frame (.act (some 1) (.setAllPoints (.id 2)))]).host.LaidOut :=
  Session.Ran.laidOut (Session.ran_runRootless (fun _ _ _ => by decide) (by decide)) .last

/-! ## A frame that leads back to itself -/

namespace Session

open Act

variable {s : Session} {id : FrameId} {f : Frame} {point relativePoint x y : Value}
  {relativeTo : Option FrameId} {p q : AnchorPoint} {dx dy : Float}

theorem anchorPoints_of {label : FrameId → String} {id : FrameId} {point relativePoint : Value}
    {p q : AnchorPoint} (hp : AnchorPoint.ofValue? point = some p)
    (hq : AnchorPoint.ofValue? relativePoint = some q) :
    anchorPoints label id point relativePoint = .ok (p, q) := by
  unfold anchorPoints
  rw [hp]
  dsimp only
  split
  · cases hq
  · rw [hq]

/-- **An anchor that a frame admits is written**, if its point had none. -/
theorem setPoint_after
    (hpoints : anchorPoints s.host.label id point relativePoint = .ok (p, q))
    (ha : s.host.registry.Admits id f relativeTo)
    (hx : x.toFloat = .ok dx) (hy : y.toFloat = .ok dy) (hnew : f.anchorAt? p = none) :
    after (setPoint id f point relativeTo relativePoint x y).run s =
      after (onRegistry fun r => r.edit id fun f =>
        { f with anchors := putAnchor ⟨p, relativeTo, q, dx, dy⟩ f.anchors }) s := by
  have hguard : (mayAnchor id f relativeTo).run s = pure (true, s) := by
    cases htarget : relativeTo.or f.parent with
    | none =>
      unfold mayAnchor
      rw [htarget]
      rfl
    | some t =>
      unfold mayAnchor
      rw [htarget]
      change (if s.host.registry.wouldLoop id t = true then _ else _ : Act Bool).run s = _
      rw [ha.noLoop t htarget]
      rfl
  have hfree : result (mayAnchor id f relativeTo) s = true := congrArg Prod.fst hguard
  have hstill : after (mayAnchor id f relativeTo) s = s := congrArg Prod.snd hguard
  rw [Session.after_setPoint hpoints ha.contains]
  unfold writePoint
  rw [after_lift_bind, hfree, hstill, hx, hy]
  change after (ite _ _ _ : Attempt Bool).run s = _
  rw [hnew]
  rfl

theorem host_answer_setPoint {call : Caller} {ref : FrameRef} (hf : s.host.registry.get? id = some f)
    (hpoints : anchorPoints s.host.label id (point.liveOnly s.host.registry.contains)
      (relativePoint.liveOnly s.host.registry.contains) = .ok (p, q))
    (href : ref.resolve s.host.registry = relativeTo) (ha : s.host.registry.Admits id f relativeTo)
    (hx : (x.liveOnly s.host.registry.contains).toFloat = .ok dx)
    (hy : (y.liveOnly s.host.registry.contains).toFloat = .ok dy) (hnew : f.anchorAt? p = none) :
    (after (answer call (.frame (.act (some id) (.setPoint point ref relativePoint x y)))) s).host =
      { s.host with registry := s.host.registry.edit id fun f =>
        { f with anchors := putAnchor ⟨p, relativeTo, q, dx, dy⟩ f.anchors } } := by
  let s' : Session := { s with calls := [] }
  have hat : (result registry s').at? (some id) = some f := hf
  have hresolve : ref.resolve (result registry s') = relativeTo := href
  change (after (frameAction call (some id) (.setPoint _ ref _ _ _)).run s').host = _
  unfold frameAction
  rw [after_lift_bind, hat]
  change (after ((registry : Attempt Registry) >>= fun r =>
    setPoint id f _ (ref.resolve r) _ _ _ >>= fun b => pure (said b)).run s').host = _
  rw [after_lift_bind, hresolve, after_bind_pure]
  exact congrArg Session.host (setPoint_after (s := s') hpoints ha hx hy hnew)

/-- What is left of a run without callbacks once one more point of a frame is tied. -/
theorem host_runRootless_setPoint {commands : List Command} {point relativePoint : String} {ref : FrameRef}
    (hf : (runRootless idle commands).host.registry.get? id = some f)
    (hp : AnchorPoint.ofValue? (.str point) = some p)
    (hq : AnchorPoint.ofValue? (.str relativePoint) = some q)
    (href : ref.resolve (runRootless idle commands).host.registry = relativeTo)
    (ha : (runRootless idle commands).host.registry.Admits id f relativeTo) (hnew : f.anchorAt? p = none) :
    (runRootless idle (commands ++
      [.frame (.act (some id) (.setPoint (.str point) ref (.str relativePoint) (.int 0) (.int 0)))])).host =
      { (runRootless idle commands).host with
        registry := (runRootless idle commands).host.registry.edit id fun f =>
          { f with anchors := putAnchor ⟨p, relativeTo, q, 0.0, 0.0⟩ f.anchors } } := by
  rw [runRootless_concat]
  generalize runRootless idle commands = s at *
  exact host_answer_setPoint hf (anchorPoints_of hp hq) href ha rfl rfl hnew

/-- A frame of 100 by 50 is made, and one of 10 by 20 under it. -/
def nested : List Command :=
  [.frame (.create (.str "Frame") .null .none .null .null),
    .frame (.create (.str "Frame") .null (.id 1) .null .null),
    .frame (.act (some 1) (.setSize (.int 100) (.int 50))),
    .frame (.act (some 2) (.setSize (.int 10) (.int 20)))]

/-- The top left of the frame above is tied to the bottom right of the one below. -/
def tied : Command :=
  .frame (.act (some 1) (.setPoint (.str "TOPLEFT") (.id 2) (.str "BOTTOMRIGHT") (.int 0) (.int 0)))

/-- The frames once they are tied. -/
def tiedFrames : Registry :=
  (runRootless idle nested).host.registry.edit 1 fun f =>
    { f with anchors := putAnchor ⟨.topLeft, some 2, .bottomRight, 0.0, 0.0⟩ f.anchors }

/-- The anchor is written: no frame has anchors before, so the guard finds no loop. -/
theorem host_tied : (runRootless idle (nested ++ [tied])).host =
    { (runRootless idle nested).host with registry := tiedFrames } := by
  have habove : ((runRootless idle nested).host.registry.get? 1).any fun f => f.anchors.isEmpty := by
    decide +kernel
  have hbelow : ((runRootless idle nested).host.registry.get? 2).any fun f => f.anchors.isEmpty := by
    decide +kernel
  obtain ⟨f, hf, hanchors⟩ := (Option.any_eq_true _ _).1 habove
  obtain ⟨g, hg, hfree⟩ := (Option.any_eq_true _ _).1 hbelow
  have hnew : f.anchorAt? .topLeft = none := by
    unfold Frame.anchorAt?
    rw [List.isEmpty_iff.1 hanchors]
    rfl
  exact host_runRootless_setPoint hf (by decide +kernel) (by decide +kernel) rfl
    (.of_bare rfl (by decide) hg (List.isEmpty_iff.1 hfree)) hnew

/-- **The frame below starts at (1024, 768), the one above it at (10, 20)**: the frame below has no anchors,
and does not start where its parent does. -/
theorem not_agrees_tied : (runRootless idle (nested ++ [tied])).Ran false ∧
    ¬ ∀ a, (runRootless idle (nested ++ [tied])).host.Agrees a := by
  refine ⟨ran_runRootless (fun _ _ _ _ h => by cases h) (by decide), fun hagrees => ?_⟩
  have hpair : (tiedFrames.get? 1).any fun f => (tiedFrames.get? 2).any fun g => decide <|
      Layout.referenceOf f = some 2 ∧ Layout.referenceOf g = some 1 ∧ g.anchors = [] ∧
        ((runRootless idle nested).host.layout.screen >>= Layout.place tiedFrames 2 g >>=
          Layout.place tiedFrames 1 f).toOption = some ⟨10, 20, 100, 50⟩ ∧
        ((runRootless idle nested).host.layout.screen >>= Layout.place tiedFrames 1 f >>=
          Layout.place tiedFrames 2 g).toOption = some ⟨1024, 768, 10, 20⟩ := by
    decide +kernel
  have agrees := hagrees 2
  rw [host_tied] at agrees
  generalize tiedFrames = r at *
  generalize runRootless idle nested = s at *
  obtain ⟨f, hf, hpair⟩ := (Option.any_eq_true _ _).1 hpair
  obtain ⟨g, hg, hpair⟩ := (Option.any_eq_true _ _).1 hpair
  obtain ⟨hfg, hgf, hfree, habove, hbelow⟩ := of_decide_eq_true hpair
  rw [← Layout.frameRect_of_pair hf hg hfg hgf (by decide)] at habove
  rw [← Layout.frameRect_of_pair hg hf hgf hfg (by decide)] at hbelow
  obtain ⟨g', base, hg', hbase, hlies⟩ := agrees.hung 1 ⟨1024, 768, 10, 20⟩ ⟨g, hg, hgf⟩
    (congrArg Option.isSome hf) (Layout.ok_of_toOption hbelow)
  cases hg.symm.trans hg'
  cases (Layout.ok_of_toOption habove).symm.trans hbase
  exact absurd (hlies.corner hfree).1 (by decide)

end Session

end FrameHost
