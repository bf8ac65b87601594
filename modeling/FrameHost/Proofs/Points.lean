import FrameHost.Proofs.Refusal
import Mathlib

/-!
# Anchors are kept by their points

A frame has one anchor for a point at most. So it does not matter that the anchor to be replaced or removed is
looked for as a value: there is no other one like it. A new anchor takes the place of the former one for its
point, and comes last if there was none; all other anchors stay where they are.

* `Anchor.Put`: an anchor is written into a list.
* `Registry.OncePerPoint`: no frame has two anchors for one point.
* `Step.oncePerPoint`: **every step keeps it so**.
* `Session.WritesByPoint`: what the writes of anchors do.
* `Session.Ran.writesByPoint`: **whenever the host of a run is met, anchors are written by their points**.
-/

namespace FrameHost

/-! ## Lists of anchors -/

namespace Anchor

/-- What an anchor ties to what, without the offset. -/
def tie (a : Anchor) : AnchorPoint × Option FrameId × AnchorPoint :=
  (a.point, a.relativeTo, a.relativePoint)

/-- Two offsets are the same, but for the sign of zero. -/
def SameOffset (x y : Float) : Prop := x = y ∨ x = 0 ∧ y = -0 ∨ x = -0 ∧ y = 0

/-- Two anchors are the same, but for the sign of an offset that is zero. -/
structure Same (a b : Anchor) : Prop where
  tie : a.tie = b.tie
  x : SameOffset a.x b.x
  y : SameOffset a.y b.y

variable {a b : Anchor} {anchors anchors' front back : List Anchor}

theorem SameOffset.symm {x y : Float} (h : SameOffset x y) : SameOffset y x := by
  rcases h with rfl | ⟨hx, hy⟩ | ⟨hx, hy⟩
  · exact .inl rfl
  · exact .inr (.inr ⟨hy, hx⟩)
  · exact .inr (.inl ⟨hy, hx⟩)

theorem Same.refl (a : Anchor) : Same a a := ⟨rfl, .inl rfl, .inl rfl⟩

theorem Same.symm (h : a.Same b) : b.Same a := ⟨h.tie.symm, h.x.symm, h.y.symm⟩

theorem same_of_agrees (h : a.agrees b = true) : a.Same b := by
  have offset {x y : Float} (h : (x == y) = true) : SameOffset x y := (Float.beq_iff_ne_nan_and_eq.1 h).2.2
  simp only [agrees, Bool.and_eq_true, beq_iff_eq] at h
  obtain ⟨⟨⟨⟨hp, ht⟩, hq⟩, hx⟩, hy⟩ := h
  exact ⟨by rw [tie, tie, hp, ht, hq], offset hx, offset hy⟩

/-- An anchor is written into a list: in the place of the only one for its point, or at the end if there is
none. -/
inductive Put (a : Anchor) : List Anchor → List Anchor → Prop
  | replaced {front back : List Anchor} {b : Anchor} (hb : b.point = a.point)
      (hothers : ∀ c ∈ front ++ back, c.point ≠ a.point) : Put a (front ++ b :: back) (front ++ a :: back)
  | appended {anchors : List Anchor} (hnone : ∀ c ∈ anchors, c.point ≠ a.point) :
      Put a anchors (anchors ++ [a])

theorem Put.cons (h : a.Put anchors anchors') (hb : b.point ≠ a.point) :
    a.Put (b :: anchors) (b :: anchors') := by
  cases h with
  | @replaced front back c hc hothers =>
    change a.Put ((b :: front) ++ c :: back) ((b :: front) ++ a :: back)
    exact .replaced hc (List.forall_mem_cons.2 ⟨hb, hothers⟩)
  | appended hnone =>
    change a.Put (b :: anchors) ((b :: anchors) ++ [a])
    exact .appended (List.forall_mem_cons.2 ⟨hb, hnone⟩)

/-- **Among anchors for different points, an anchor is written by its point.** -/
theorem put_putAnchor (h : (anchors.map point).Nodup) : a.Put anchors (Session.putAnchor a anchors) := by
  induction anchors with
  | nil =>
    change a.Put [] ([] ++ [a])
    exact .appended fun c hc => by cases hc
  | cons b bs ih =>
    obtain ⟨hb, hbs⟩ := List.nodup_cons.1 h
    unfold Session.putAnchor
    split
    · rename_i hpoint
      change a.Put ([] ++ b :: bs) ([] ++ a :: bs)
      refine .replaced hpoint fun c hc hsame => hb ?_
      exact List.mem_map.2 ⟨c, hc, hsame.trans hpoint.symm⟩
    · rename_i hpoint
      exact (ih hbs).cons hpoint

theorem Put.nodup (h : a.Put anchors anchors') (hn : (anchors.map point).Nodup) :
    (anchors'.map point).Nodup := by
  cases h with
  | replaced hb =>
    rw [List.map_append, List.map_cons] at hn ⊢
    rwa [hb] at hn
  | appended hnone =>
    rw [List.map_append, List.nodup_append]
    refine ⟨hn, List.pairwise_singleton _ _, fun p hp q hq hpq => ?_⟩
    obtain ⟨c, hc, rfl⟩ := List.mem_map.1 hp
    exact hnone c hc (hpq.trans (List.mem_singleton.1 hq))

/-- What is found for a point and written again leaves the list as it is. -/
theorem putAnchor_of_find? (h : anchors.find? (fun b => b.point == a.point) = some a) :
    Session.putAnchor a anchors = anchors := by
  induction anchors with
  | nil => cases h
  | cons b bs ih =>
    unfold Session.putAnchor
    by_cases hb : b.point = a.point
    · rw [List.find?_cons_of_pos (by simpa using hb)] at h
      rw [if_pos hb, Option.some.inj h]
    · rw [List.find?_cons_of_neg (by simpa using hb)] at h
      rw [if_neg hb, ih h]

/-- **Among anchors for different points, removing the one for a point takes no other.** -/
theorem eraseP_of_nodup (h : ((front ++ a :: back).map point).Nodup) :
    (front ++ a :: back).eraseP (fun b => b.point == a.point) = front ++ back := by
  have hfront : ∀ b ∈ front, ¬ (b.point == a.point) = true := by
    intro b hb hsame
    rw [List.map_append, List.nodup_append] at h
    exact h.2.2 b.point (List.mem_map_of_mem hb) a.point List.mem_cons_self (eq_of_beq hsame)
  rw [List.eraseP_append_right _ hfront]
  exact congrArg (front ++ ·) (List.eraseP_cons_of_pos (beq_self_eq_true a.point))

end Anchor

/-- Whether an action writes the anchors of a frame. -/
def FrameAction.writesAnchors : FrameAction → Bool
  | .setPoint .. | .setAllPoints _ | .clearAllPoints | .clearPoint _ | .shiftPoints .. => true
  | _ => false

/-! ## One anchor for a point -/

/-- No two anchors of a frame are for the same point. -/
def Frame.OncePerPoint (f : Frame) : Prop := (f.anchors.map Anchor.point).Nodup

namespace Registry

variable {r r' : Registry} {id : FrameId}

/-- No frame has two anchors for the same point. -/
def OncePerPoint (r : Registry) : Prop := ∀ id f, r.get? id = some f → f.OncePerPoint

namespace OncePerPoint

theorem of_alike (h : r.OncePerPoint) (ha : Alike Frame.anchors r r') : r'.OncePerPoint := by
  intro id f hf
  obtain ⟨g, hg, hanchors⟩ := ha.exists_get? hf
  unfold Frame.OncePerPoint
  rw [← hanchors]
  exact h id g hg

theorem update (h : r.OncePerPoint) {g : Frame → Frame}
    (hg : ∀ f : Frame, f.OncePerPoint → (g f).OncePerPoint) : (r.update id g).OncePerPoint := by
  intro x f hf
  rw [get?_update] at hf
  split at hf
  · obtain ⟨f', hf', rfl⟩ := Option.map_eq_some_iff.1 hf
    exact hg f' (h x f' hf')
  · exact h x f hf

theorem edit (h : r.OncePerPoint) {g : Frame → Frame}
    (hg : ∀ f : Frame, f.OncePerPoint → (g f).OncePerPoint) : (r.edit id g).OncePerPoint :=
  (h.update hg).of_alike (alike_update_edit id g)

/-- A frame that is taken in brings its own anchors; the others keep theirs. -/
theorem enroll (h : r.OncePerPoint) {f : Frame} (hf : f.OncePerPoint) :
    (r.enroll id f).OncePerPoint := by
  obtain ⟨q, hq, hget⟩ := r.get?_enroll id f
  intro x g hg
  rw [hget] at hg
  split at hg
  · cases hg
    exact hf
  · exact h.of_alike (hq.map Frame.anchors :) x g hg

end OncePerPoint

end Registry

/-! ## Steps -/

variable {r r' : Registry} {id : FrameId} {fault : Option Fault} {σ τ : Stage}

theorem AnchorStep.oncePerPoint (h : AnchorStep r id r') (hr : r.OncePerPoint) : r'.OncePerPoint := by
  cases h with
  | anchored a => exact hr.edit fun f hf => (Anchor.put_putAnchor hf).nodup hf
  | pinned => exact hr.edit fun _ _ => by simp [Frame.OncePerPoint]
  | unanchored => exact hr.edit fun _ _ => List.nodup_nil
  | unpinned p => exact hr.edit fun f hf => hf.sublist (List.eraseP_sublist.map Anchor.point)
  | shifted dx dy =>
    refine hr.update fun f hf => ?_
    unfold Frame.OncePerPoint
    rw [List.map_map]
    exact hf

/-- Frames that are shown, hidden or moved keep their anchors. -/
theorem TreeStep.anchors (h : TreeStep r id r' fault) : Registry.Alike Frame.anchors r r' := by
  cases h with
  | shown => exact Registry.alike_edit id fun _ => rfl
  | @moved f parent =>
    have lifted : Registry.Alike Frame.anchors r (r.setParentField id parent) :=
      Registry.alike_update id fun _ => rfl
    have relinked := lifted.trans (Registry.alike_relink (fun _ _ _ => rfl) fun _ _ h => h)
    exact relinked.trans ((Registry.alike_moveTo id parent).map fun (_, _, anchors) => anchors :)

/-- **Every step leaves no frame with two anchors for one point.** -/
theorem Step.oncePerPoint (h : Step false σ τ) (hσ : σ.registry.OncePerPoint) :
    τ.registry.OncePerPoint := by
  cases h with
  | framed h => exact hσ.of_alike (h.alike.map fun (_, _, anchors) => anchors :)
  | listened h => exact hσ.of_alike (h.alike.map Frame.anchors :)
  | keyed => exact hσ.edit fun _ hf => hf
  | tied h => exact h.oncePerPoint hσ
  | @created kind name above f id last r hg ha hf hr =>
    subst hr
    have hanchors : f.anchors = [] := congrArg (·.2.2) (Frame.place_of_sized hf).2
    have bare : f.OncePerPoint := by
      unfold Frame.OncePerPoint
      rw [hanchors]
      exact List.nodup_nil
    exact (hσ.enroll bare).of_alike (Registry.alike_link (fun _ _ _ => rfl) _)
  | enrolled _ hraw | enrolledAgain hraw | rewritten hraw => cases hraw
  | changed h | changedInPart h => exact hσ.of_alike h.anchors
  | _ => exact hσ

/-! ## Writes -/

namespace Registry

variable {f : Frame} {anchors : List Anchor}

/-- A frame is given other anchors, and nothing else of any frame changes. -/
def Reanchored (r : Registry) (id : FrameId) (f : Frame) (anchors : List Anchor) (r' : Registry) : Prop :=
  ∀ x, r'.get? x = if x = id then some { f with anchors } else r.get? x

theorem reanchored_refl (hf : r.get? id = some f) : r.Reanchored id f f.anchors r := by
  intro x
  split
  · rename_i hx
    exact hx ▸ hf
  · rfl

theorem reanchored_update (hf : r.get? id = some f) (g : List Anchor → List Anchor) :
    r.Reanchored id f (g f.anchors) (r.update id fun f => { f with anchors := g f.anchors }) := by
  intro x
  rw [get?_update]
  by_cases hx : x = id
  · subst hx
    rw [if_pos (beq_self_eq_true x), if_pos rfl, hf]
    rfl
  · rw [if_neg (by simpa using hx), if_neg hx]

theorem Reanchored.congr {r'' : Registry} (h : r.Reanchored id f anchors r')
    (hget : ∀ x, r''.get? x = r'.get? x) : r.Reanchored id f anchors r'' :=
  fun x => (hget x).trans (h x)

theorem reanchored_edit (hf : r.get? id = some f) (g : List Anchor → List Anchor) :
    r.Reanchored id f (g f.anchors) (r.edit id fun f => { f with anchors := g f.anchors }) :=
  (reanchored_update hf g).congr fun x => by rw [get?_edit, get?_update]

end Registry

namespace Session

open Act

variable {s t : Session} {call : Caller} {f : Frame} {point relativePoint x y : Value}
  {relativeTo : Option FrameId} {p q : AnchorPoint}

/-- **What writing an anchor comes to**: the anchor is written, unless it was there already, or nothing is. -/
theorem writePoint_cases (id : FrameId) (f : Frame) (relativeTo : Option FrameId) (p q : AnchorPoint)
    (x y : Value) (s : Session) :
    (∃ dx dy, x.toFloat = .ok dx ∧ y.toFloat = .ok dy ∧
      result (writePoint id f relativeTo p q x y).run s = .ok true ∧
      (after (writePoint id f relativeTo p q x y).run s).host.registry =
        if (f.anchorAt? p).any (Anchor.agrees ⟨p, relativeTo, q, dx, dy⟩) then s.host.registry
        else s.host.registry.edit id fun f =>
          { f with anchors := putAnchor ⟨p, relativeTo, q, dx, dy⟩ f.anchors }) ∨
    (result (writePoint id f relativeTo p q x y).run s ≠ .ok true ∧
      (after (writePoint id f relativeTo p q x y).run s).host.registry = s.host.registry) := by
  have still := registry_mayAnchor id f relativeTo s
  unfold writePoint
  rw [result_lift_bind, after_lift_bind]
  cases result (mayAnchor id f relativeTo) s with
  | false => exact .inr ⟨nofun, still⟩
  | true =>
    cases x.toFloat with
    | error e => exact .inr ⟨nofun, still⟩
    | ok dx =>
      cases y.toFloat with
      | error e => exact .inr ⟨nofun, still⟩
      | ok dy =>
        refine .inl ⟨dx, dy, rfl, rfl, ?_, ?_⟩
        · change result (if (f.anchorAt? p).any (Anchor.agrees ⟨p, relativeTo, q, dx, dy⟩) then _ else _ :
            Attempt Bool).run _ = _
          split <;> rfl
        · change (after (if (f.anchorAt? p).any (Anchor.agrees ⟨p, relativeTo, q, dx, dy⟩) then _ else _ :
            Attempt Bool).run _).host.registry = _
          by_cases hagrees : (f.anchorAt? p).any (Anchor.agrees ⟨p, relativeTo, q, dx, dy⟩) = true
          · rw [if_pos hagrees, if_pos hagrees]
            exact still
          · rw [if_neg hagrees, if_neg hagrees]
            exact congrArg (fun r : Registry => r.edit id fun f =>
              { f with anchors := putAnchor ⟨p, relativeTo, q, dx, dy⟩ f.anchors }) still

/-- **A point that is set has the anchor that was asked for, and it alone.** -/
theorem setPoint_puts {id : FrameId} (hf : s.host.registry.get? id = some f) (honce : f.OncePerPoint)
    (h : result (setPoint id f point relativeTo relativePoint x y).run s = .ok true) :
    ∃ p q dx dy, ∃ a : Anchor, ∃ anchors, anchorPoints s.host.label id point relativePoint = .ok (p, q) ∧
      x.toFloat = .ok dx ∧ y.toFloat = .ok dy ∧ a.Same ⟨p, relativeTo, q, dx, dy⟩ ∧
      a.Put f.anchors anchors ∧ s.host.registry.Reanchored id f anchors
        (after (setPoint id f point relativeTo relativePoint x y).run s).host.registry := by
  rcases setPoint_cases id f point relativeTo relativePoint x y s with
    ⟨hrefused, -⟩ | ⟨p, q, hpoints, hc⟩
  · cases hrefused.symm.trans h
  rw [result_setPoint hpoints hc] at h
  rw [after_setPoint hpoints hc]
  rcases writePoint_cases id f relativeTo p q x y s with ⟨dx, dy, hx, hy, -, hr⟩ | ⟨hno, -⟩
  · rw [hr]
    let a : Anchor := ⟨p, relativeTo, q, dx, dy⟩
    split
    · rename_i hagrees
      obtain ⟨b, hb, hagrees⟩ := (Option.any_eq_true ..).1 hagrees
      have hbp : b.point = p := by simpa using List.find?_some (p := fun a : Anchor => a.point == p) hb
      have hput : putAnchor b f.anchors = f.anchors := Anchor.putAnchor_of_find? (hbp.symm ▸ hb)
      refine ⟨p, q, dx, dy, b, f.anchors, hpoints, hx, hy, (Anchor.same_of_agrees hagrees).symm, ?_,
        Registry.reanchored_refl hf⟩
      have put := Anchor.put_putAnchor (a := b) honce
      rwa [hput] at put
    · exact ⟨p, q, dx, dy, a, putAnchor a f.anchors, hpoints, hx, hy, .refl a, Anchor.put_putAnchor honce,
        Registry.reanchored_edit hf (putAnchor a)⟩
  · exact absurd h hno

theorem clearPoint_true_iff {id : FrameId} : result (clearPoint id f point) s = true ↔
    ∃ a ∈ f.anchors, AnchorPoint.ofValue? point = some a.point := by
  unfold clearPoint
  cases hp : AnchorPoint.ofValue? point with
  | none => exact ⟨fun h => (Bool.noConfusion h :), fun ⟨_, _, h⟩ => by cases h⟩
  | some p =>
    have hany : (f.anchorAt? p).isSome = true ↔ ∃ a ∈ f.anchors, some p = some a.point := by
      rw [Frame.anchorAt?, List.find?_isSome]
      refine exists_congr fun a => and_congr_right fun _ => ?_
      rw [beq_iff_eq, Option.some.injEq, eq_comm]
    rw [← hany]
    dsimp only
    cases (f.anchorAt? p).isSome with
    | true => exact ⟨fun _ => rfl, fun _ => rfl⟩
    | false => exact ⟨fun h => (Bool.noConfusion h :), fun h => by cases h⟩

/-- **A point that is cleared loses its anchor, and no other goes.** -/
theorem clearPoint_removes {id : FrameId} {front back : List Anchor} {a : Anchor}
    (hf : s.host.registry.get? id = some f) (honce : f.OncePerPoint)
    (ha : f.anchors = front ++ a :: back) (hp : AnchorPoint.ofValue? point = some a.point) :
    s.host.registry.Reanchored id f (front ++ back) (after (clearPoint id f point) s).host.registry := by
  have hfound : (f.anchorAt? a.point).isSome = true := by
    rw [Frame.anchorAt?, List.find?_isSome]
    exact ⟨a, ha ▸ List.mem_append_right _ List.mem_cons_self, beq_self_eq_true a.point⟩
  have hrest : f.anchors.eraseP (fun b => b.point == a.point) = front ++ back := by
    rw [ha]
    refine Anchor.eraseP_of_nodup ?_
    rw [← ha]
    exact honce
  unfold clearPoint
  rw [hp]
  dsimp only
  rw [if_pos hfound, ← hrest]
  exact Registry.reanchored_edit hf _

theorem shiftPoints_shifts {id : FrameId} (hf : s.host.registry.get? id = some f) (dx dy : Value) :
    ∃ anchors, s.host.registry.Reanchored id f anchors
        (after (shiftPoints id f dx dy).run s).host.registry ∧
      anchors.map Anchor.tie = f.anchors.map Anchor.tie ∧
      ∀ u v, dx.number = .ok u → dy.number = .ok v → anchors = f.anchors.map fun a => a.shift u v := by
  have hget (x : FrameId) : (s.host.registry.touch id).get? x = s.host.registry.get? x := by
    unfold Registry.touch
    split <;> rfl
  have touched : s.host.registry.Reanchored id f f.anchors (s.host.registry.touch id) :=
    (Registry.reanchored_refl hf).congr hget
  unfold shiftPoints
  rw [after_lift_bind]
  cases hempty : f.anchors.isEmpty with
  | true =>
    have hnil : f.anchors = [] := List.isEmpty_iff.1 hempty
    exact ⟨f.anchors, touched, rfl, fun _ _ _ _ => by rw [hnil]; rfl⟩
  | false =>
    cases dx.number with
    | error e => exact ⟨f.anchors, touched, rfl, nofun⟩
    | ok u =>
      cases dy.number with
      | error e => exact ⟨f.anchors, touched, rfl, fun _ _ _ => nofun⟩
      | ok v =>
        have hf' : (s.host.registry.touch id).get? id = some f := (hget id).trans hf
        have shifted := Registry.reanchored_update hf' fun anchors => anchors.map fun a => a.shift u v
        refine ⟨f.anchors.map fun a => a.shift u v, fun x => ?_, ?_, ?_⟩
        · rw [← hget x]
          exact shifted x
        · rw [List.map_map]
          rfl
        · rintro _ _ ⟨⟩ ⟨⟩
          rfl

/-! ## Actions -/

theorem setPoint_elsewhere {id z : FrameId} (hz : z ≠ id) :
    (after (setPoint id f point relativeTo relativePoint x y).run s).host.registry.get? z =
      s.host.registry.get? z := by
  rcases setPoint_cases id f point relativeTo relativePoint x y s with
    ⟨-, log, hafter⟩ | ⟨p, q, hpoints, hc⟩
  · rw [hafter]
  · rw [after_setPoint hpoints hc]
    rcases writePoint_cases id f relativeTo p q x y s with ⟨dx, dy, -, -, -, hr⟩ | ⟨-, hr⟩
    · rw [hr]
      split
      · rfl
      · exact Registry.get?_edit_of_ne hz _
    · rw [hr]

theorem setAllPoints_elsewhere {id z : FrameId} (hz : z ≠ id) :
    (after (setAllPoints id f relativeTo) s).host.registry.get? z = s.host.registry.get? z := by
  have still := registry_mayAnchor id f relativeTo s
  unfold setAllPoints
  rw [after_registry_bind]
  dsimp only
  split
  · rfl
  · rw [after_bind]
    cases result (mayAnchor id f relativeTo) s with
    | false => exact congrArg (fun r : Registry => r.get? z) still
    | true =>
      refine Eq.trans ?_ (congrArg (fun r : Registry => r.get? z) still)
      exact Registry.get?_edit_of_ne hz _

theorem clearPoint_elsewhere {id z : FrameId} (hz : z ≠ id) :
    (after (clearPoint id f point) s).host.registry.get? z = s.host.registry.get? z := by
  unfold clearPoint
  split
  · rfl
  · split
    · exact Registry.get?_edit_of_ne hz _
    · rfl

/-- **A write of anchors touches no other frame**, whether it is refused, fails or is done. -/
theorem writesAnchors_elsewhere {id x : FrameId} {a : FrameAction} (ha : a.writesAnchors = true)
    (hx : x ≠ id) : (after (frameAction call (some id) a).run s).host.registry.get? x =
      s.host.registry.get? x := by
  cases hf : s.host.registry.get? id with
  | none =>
    have hat : (result registry s).at? (some id) = none := hf
    unfold frameAction
    rw [after_lift_bind, hat]
    cases a <;> rfl
  | some f =>
    rw [after_frameAction hf]
    cases a with
    | setPoint point relativeTo relativePoint u v =>
      rw [presentAction, after_lift_bind, after_bind_pure]
      exact setPoint_elsewhere hx
    | setAllPoints relativeTo =>
      rw [presentAction, after_lift_bind]
      exact setAllPoints_elsewhere hx
    | clearAllPoints => exact Registry.get?_edit_of_ne hx _
    | clearPoint point => exact clearPoint_elsewhere hx
    | shiftPoints u v =>
      rw [presentAction, after_bind_pure]
      obtain ⟨anchors, hr, -⟩ := shiftPoints_shifts hf u v
      rw [hr, if_neg hx]
    | _ => cases ha

/-- **Anchors are written by their points.** A point that is set has the anchor that was asked for, in the place
of the former one or at the end. A point can be cleared exactly if it has an anchor, and that goes alone. A
shift changes nothing but offsets, and no write touches another frame. -/
structure WritesByPoint (call : Caller) (s : Session) : Prop where
  setPoint : ∀ id point relativeTo relativePoint x y,
    result (frameAction call (some id) (.setPoint point relativeTo relativePoint x y)).run s =
      .ok (said true) →
    ∃ f p q dx dy, ∃ a : Anchor, ∃ anchors, s.host.registry.get? id = some f ∧
      anchorPoints s.host.label id point relativePoint = .ok (p, q) ∧ x.toFloat = .ok dx ∧
      y.toFloat = .ok dy ∧ a.Same ⟨p, relativeTo.resolve s.host.registry, q, dx, dy⟩ ∧
      a.Put f.anchors anchors ∧ s.host.registry.Reanchored id f anchors
        (after (frameAction call (some id) (.setPoint point relativeTo relativePoint x y)).run
          s).host.registry
  clearPoint : ∀ id point,
    result (frameAction call (some id) (.clearPoint point)).run s = .ok (said true) ↔
      ∃ f, s.host.registry.get? id = some f ∧
        ∃ a ∈ f.anchors, AnchorPoint.ofValue? point = some a.point
  clearedPoint : ∀ id point f front a back, s.host.registry.get? id = some f →
    f.anchors = front ++ a :: back → AnchorPoint.ofValue? point = some a.point →
    s.host.registry.Reanchored id f (front ++ back)
      (after (frameAction call (some id) (.clearPoint point)).run s).host.registry
  shiftPoints : ∀ id dx dy f, s.host.registry.get? id = some f →
    ∃ anchors, anchors.map Anchor.tie = f.anchors.map Anchor.tie ∧
      (∀ u v, dx.number = .ok u → dy.number = .ok v →
        anchors = f.anchors.map fun a => a.shift u v) ∧
      s.host.registry.Reanchored id f anchors
        (after (frameAction call (some id) (.shiftPoints dx dy)).run s).host.registry
  elsewhere : ∀ id a, a.writesAnchors = true → ∀ x, x ≠ id →
    (after (frameAction call (some id) a).run s).host.registry.get? x = s.host.registry.get? x

/-- An action on a frame that is not there is not done. -/
theorem result_frameAction_absent {id : FrameId} (hf : s.host.registry.get? id = none)
    (a : FrameAction) : result (frameAction call (some id) a).run s ≠ .ok (said true) := by
  have hat : (result registry s).at? (some id) = none := hf
  unfold frameAction
  rw [result_lift_bind, hat]
  cases a <;> exact fun h => by cases h

/-- **Where no frame has two anchors for one point, anchors are written by their points.** -/
theorem writesByPoint_of_oncePerPoint (h : s.host.registry.OncePerPoint) : WritesByPoint call s where
  setPoint := by
    intro id point relativeTo relativePoint x y hset
    cases hf : s.host.registry.get? id with
    | none => exact absurd hset (result_frameAction_absent hf _)
    | some f =>
      rw [result_frameAction hf, presentAction, asked_iff] at hset
      rw [after_frameAction hf, presentAction, after_lift_bind, after_bind_pure]
      obtain ⟨p, q, dx, dy, a, anchors, hput⟩ := setPoint_puts hf (h id f hf) hset
      exact ⟨f, p, q, dx, dy, a, anchors, rfl, hput⟩
  clearPoint := by
    intro id point
    cases hf : s.host.registry.get? id with
    | none =>
      have undone : result (frameAction call (some id) (.clearPoint point)).run s ≠ .ok (said true) :=
        result_frameAction_absent hf _
      exact ⟨fun hcleared => absurd hcleared undone, fun ⟨_, hf', _⟩ => by cases hf'⟩
    | some f =>
      rw [result_frameAction hf, presentAction]
      have lifted : result (liftM (clearPoint id f point) : Attempt Bool).run s = .ok true ↔
          result (clearPoint id f point) s = true := ⟨Except.ok.inj, congrArg Except.ok⟩
      rw [said_iff, lifted, clearPoint_true_iff]
      simp only [Option.some.injEq, exists_eq_left']
  clearedPoint := by
    intro id point f front a back hf ha hp
    rw [after_frameAction hf, presentAction]
    exact clearPoint_removes hf (h id f hf) ha hp
  shiftPoints := by
    intro id dx dy f hf
    rw [after_frameAction hf, presentAction, after_bind_pure]
    obtain ⟨anchors, hr, htie, hshift⟩ := shiftPoints_shifts hf dx dy
    exact ⟨anchors, htie, hshift, hr⟩
  elsewhere := fun id a ha x hx => writesAnchors_elsewhere ha hx

/-! ## Runs -/

/-- **Whenever the host of a run is met, no frame has two anchors for one point, and anchors are written by
their points**, however callbacks are nested: one that is set takes the place of the former one for its point,
or comes last; one that is cleared goes alone; and none of another frame changes. -/
theorem Ran.writesByPoint (h : s.Ran false) {host : Host} (hm : s.Met host) (ht : t.host = host)
    (call : Caller) : host.registry.OncePerPoint ∧ WritesByPoint call t := by
  have once : host.registry.OncePerPoint := h.met (fun _ _ _ hf => by cases hf)
    (fun _ _ h hσ => h.oncePerPoint hσ) (fun _ _ hs hσ => hs.registry ▸ hσ) hm
  subst ht
  exact ⟨once, writesByPoint_of_oncePerPoint once⟩

/-- A point of a frame is set twice, to offsets that are no numbers, with another one between. -/
theorem writesByPoint_runRootless :
    let s := runRootless idle [.frame (.create (.str "Frame") .null .none .null .null),
      .frame (.act (some 1) (.setPoint (.str "TOP") .none .null (.float (0.0 / 0.0)) (.int 0))),
      .frame (.act (some 1) (.setPoint (.str "LEFT") .none .null (.int 0) (.int 0))),
      .frame (.act (some 1) (.setPoint (.str "TOP") .none .null (.float (0.0 / 0.0)) (.int 0)))]
    s.Ran false ∧ s.host.registry.OncePerPoint ∧ WritesByPoint (caller idle) s := by
  intro s
  have ran : s.Ran false := ran_idle (by decide)
  exact ⟨ran, Ran.writesByPoint ran .last rfl (caller idle)⟩

end Session

end FrameHost
