import FrameHost.Proofs.Listeners.Run

/-!
# Ids of frames that are taken in

A frame that is taken in asks for an id. One that is taken is replaced by the next id that is drawn, and
nobody asks whether that one is free: a caller may have brought a frame under an id that had not been drawn
yet. Then the frame under the drawn id is lost.

* `Registry.Gains`: a frame is added, and no other is lost.
* `Session.register_gains_iff`: **a frame is added exactly when one of the two ids is free**.
* `Session.Ran.register_gains`: this is so in every run in which frames ask for ids that were drawn.
* `Session.not_gains_ahead`: the second of two frames that ask for the id 1 replaces the first.
-/

namespace FrameHost

namespace Registry

variable {r : Registry} {id : FrameId} {f : Frame}

/-- A frame is added under an id of its own, at the end. All others stay under their ids and are what they
were, though one may have lost its name. -/
structure Gains (r r' : Registry) (id : FrameId) (f : Frame) : Prop where
  new : r.contains id = false
  own : r'.get? id = some f
  kept : ∀ x g, r.get? x = some g → ∃ g', r'.get? x = some g' ∧ g'.nameless = g.nameless
  ids : r'.ids = r.ids ++ [id]
  size : r'.size = r.size + 1

theorem size_eq_length_ids : r.size = r.ids.length := by
  unfold size Table.size ids Table.keys
  rw [List.length_map]

theorem ids_claimNameOf : (r.claimNameOf id f).ids = r.ids := by
  unfold claimNameOf claimName
  split
  · dsimp only
    split
    · exact ids_update ..
    · rfl
  · rfl

/-- A new id comes last. -/
theorem ids_enroll (hid : r.contains id = false) : (r.enroll id f).ids = r.ids ++ [id] := by
  have hnot : id ∉ (r.claimNameOf id f).ids := fun h =>
    Bool.eq_false_iff.1 hid (r.contains_iff.2 (ids_claimNameOf ▸ h))
  have hinsert : (r.enroll id f).ids =
      if id ∈ (r.claimNameOf id f).ids then _ else (r.claimNameOf id f).ids ++ [id] :=
    (congrArg Table.keys (frames_enroll r id f)).trans (Table.keys_insert _ id f)
  rw [hinsert, if_neg hnot, ids_claimNameOf]

/-- **Taking a frame in under an id adds it exactly when the id is new.** -/
theorem gains_enroll_iff : r.Gains (r.enroll id f) id f ↔ r.contains id = false := by
  refine ⟨Gains.new, fun hid => ?_⟩
  obtain ⟨q, hq, hget⟩ := get?_enroll r id f
  have hids : (r.enroll id f).ids = r.ids ++ [id] := ids_enroll hid
  constructor
  case new => exact hid
  case own => rw [hget, if_pos rfl]
  case kept =>
    intro x g hg
    have hne : x ≠ id := by
      rintro rfl
      cases hid.symm.trans (congrArg Option.isSome hg)
    rw [hget, if_neg hne]
    exact hq.symm.exists_get? hg
  case ids => exact hids
  case size => rw [size_eq_length_ids, size_eq_length_ids, hids, List.length_append]; rfl

/-- The id that is granted is new when one of the two is free. -/
theorem Granted.new_iff {last wanted last' : FrameId} (h : r.Granted last wanted id last') :
    r.contains id = false ↔ (r.contains wanted = true → r.contains (last + 1) = false) := by
  cases h with
  | asked hfree => exact ⟨fun _ htaken => Bool.noConfusion (hfree.symm.trans htaken), fun _ => hfree⟩
  | fresh htaken => exact ⟨fun hfree _ => hfree, fun h => h htaken⟩

end Registry

namespace Session

open Act

variable {s : Session}

/-- **Taking a new frame in adds it and loses none exactly when the id that it asks for, or else the next
one to be drawn, is free.** -/
theorem register_gains_iff (s : Session) (wanted : FrameId) (f : Frame) :
    s.host.registry.Gains (after (register wanted f) s).host.registry
        (result (register wanted f) s) f ↔
      (s.host.registry.contains wanted = true →
        s.host.registry.contains (s.lastId + 1) = false) := by
  obtain ⟨id, last, log, hgranted, hid, hafter⟩ := register_after wanted f s
  rw [hid, hafter]
  exact Registry.gains_enroll_iff.trans hgranted.new_iff

/-- **No frame is lost in a run in which all frames that callers bring ask for ids that were drawn**,
whatever the next one asks for. -/
theorem Ran.register_gains (h : s.Ran true) (hdrawn : Drawn s.journal) (wanted : FrameId) (f : Frame) :
    s.host.registry.Gains (after (register wanted f) s).host.registry
      (result (register wanted f) s) f := by
  obtain ⟨clock, hsteps⟩ := h.steps
  have tuned : (s.stage []).Tuned :=
    hsteps.keep (P := fun σ => Drawn σ.journal → σ.Tuned)
      (fun σ τ hστ hσ hτ => hστ.tuned hτ (hσ fun m hm => hτ m (hστ.journal_suffix.subset hm)))
      (fun _ => Stage.tuned_fresh clock) hdrawn
  have free : s.host.registry.contains (s.lastId + 1) = false := Bool.eq_false_iff.2 fun htaken =>
    absurd (tuned.numbered _ htaken) (Int.not_le_of_gt (Int.lt_succ s.lastId))
  obtain ⟨id, last, log, hgranted, hid, hafter⟩ := register_after wanted f s
  rw [hid, hafter]
  exact Registry.gains_enroll_iff.2 (hgranted.new_iff.2 fun _ => free)

/-- A frame is brought under the id 1 before any id was drawn, and then another one. -/
theorem not_gains_ahead :
    let s := runRootless (fun _ _ _ => {}) [.registry (.register (some 1) { name := "First" })]
    s.Ran true ∧ result (register 1 { name := "Second" }) s = 1 ∧
      ¬ s.host.registry.Gains (after (register 1 { name := "Second" }) s).host.registry 1
        { name := "Second" } := by
  intro s
  have hran : s.Ran true := ran_runRootless (fun _ _ _ => by decide) (by decide)
  have htaken : s.host.registry.contains 1 = true := by decide +kernel
  have hnext : result (register 1 { name := "Second" }) s = 1 := by decide +kernel
  refine ⟨hran, hnext, fun hgains => ?_⟩
  cases htaken.symm.trans hgains.new

end Session

end FrameHost
