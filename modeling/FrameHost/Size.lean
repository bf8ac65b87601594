import FrameHost.Registry.Basic

/-!
# Effective sizes

A frame whose two opposite edges are anchored to one frame takes its size from that frame; any other
frame has the size it was given. Width and height are found in the same way along their own axis.

* `Axis`: what distinguishes width from height.
* `Registry.extent?`: follows at most a number of frames; `none` when that is not enough.
* `Registry.extent`: follows as many frames as there are.
-/

namespace FrameHost

/-- A direction in which frames have a size. -/
structure Axis where
  /-- The points on the edge that the size grows from. -/
  near : AnchorPoint → Bool
  /-- The points on the opposite edge. -/
  far : AnchorPoint → Bool
  /-- An anchor's offset in this direction. -/
  offset : Anchor → Float
  /-- The size that a frame was given. -/
  given : Frame → Float

namespace Axis

/-- Left to right. -/
def horizontal : Axis := ⟨AnchorPoint.onLeft, AnchorPoint.onRight, Anchor.x, Frame.width⟩

/-- Bottom to top, as offsets point up. -/
def vertical : Axis := ⟨AnchorPoint.onBottom, AnchorPoint.onTop, Anchor.y, Frame.height⟩

variable (axis : Axis)

/-- The anchors of two opposite edges that are tied to one frame, with that frame. -/
def span? (f : Frame) : Option (Anchor × Anchor × FrameId) := do
  let near ← f.firstAnchor? axis.near
  let far ← f.firstAnchor? axis.far
  guard (near.relativeTo = far.relativeTo)
  let target ← near.target f.parent
  return (near, far, target)

/-- A size is never negative; what is not a number counts as zero. -/
def clamp (x : Float) : Float := if 0.0 < x then x else 0.0

/-- The size between two anchors tied to a frame of size `x`. -/
def between (near far : Anchor) (x : Float) : Float :=
  clamp (x - axis.offset near + axis.offset far)

end Axis

namespace Registry

variable (r : Registry)

/-- The size of a frame along an axis, found by way of at most `fuel` frames. -/
def extent? (axis : Axis) : (fuel : Nat) → FrameId → Option Float
  | 0, _ => none
  | fuel + 1, id =>
    match r.get? id with
    | none => some 0.0
    | some f =>
      match axis.span? f with
      | none => some (axis.given f)
      | some (near, far, target) =>
        if r.contains target then (extent? axis fuel target).map (axis.between near far)
        else some (axis.given f)

def extent (axis : Axis) (id : FrameId) : Float := (r.extent? axis (r.size + 1) id).getD 0.0

def widthOf (id : FrameId) : Float := r.extent .horizontal id

def heightOf (id : FrameId) : Float := r.extent .vertical id

/-- A size found by way of some frames is found by way of more. -/
theorem extent?_mono {axis : Axis} {n m : Nat} (h : n ≤ m) {id : FrameId} {x : Float}
    (hx : r.extent? axis n id = some x) : r.extent? axis m id = some x := by
  induction n generalizing m id x with
  | zero => simp [extent?] at hx
  | succ n ih =>
    obtain ⟨m, rfl⟩ : ∃ k, m = k + 1 := ⟨m - 1, by omega⟩
    have hnm : n ≤ m := by omega
    unfold extent? at hx ⊢
    split at hx
    · exact hx
    · rename_i f hf
      split at hx
      · exact hx
      · split at hx
        · rename_i hc
          obtain ⟨y, hy, rfl⟩ := Option.map_eq_some_iff.1 hx
          rw [if_pos hc, ih hnm hy]
          rfl
        · rename_i hc
          rw [if_neg hc]
          exact hx

end Registry

end FrameHost
