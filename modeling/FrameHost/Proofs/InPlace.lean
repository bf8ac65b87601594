import FrameHost.Proofs.Alike

/-!
# Writing into frames in place

Most steps of a run write into frames that are there already. No frame comes or goes by them, none changes
its kind, its name or what it listens for, and so the indexes of the registry are left alone. A registry
that is marked to be drawn stays marked.

* `Registry.InPlace`: frames are written in place.
* `FrameStep.inPlace`, `AnchorStep.inPlace`, `TreeStep.inPlace`, `RawStep.inPlace`: **steps that write in
  place**.
-/

namespace FrameHost

/-- What a frame is: its kind, its name and what it listens for. -/
def Frame.identity (f : Frame) : WidgetType × Option String × List String × Bool :=
  (f.type, f.name, f.events, f.allEvents)

namespace Registry

variable {r r' r'' : Registry} {id : FrameId}

/-- Frames are written in place, and may be marked to be drawn. -/
structure InPlace (r r' : Registry) : Prop where
  alike : Alike Frame.identity r r'
  ids : r'.ids = r.ids
  names : r'.names = r.names
  listeners : r'.listeners = r.listeners
  allListeners : r'.allListeners = r.allListeners
  moment : r'.moment = r.moment
  dirty : r.dirty = true → r'.dirty = true

namespace InPlace

theorem refl (r : Registry) : InPlace r r := ⟨.refl r, rfl, rfl, rfl, rfl, rfl, fun h => h⟩

theorem trans (h : InPlace r r') (h' : InPlace r' r'') : InPlace r r'' where
  alike := h.alike.trans h'.alike
  ids := h'.ids.trans h.ids
  names := h'.names.trans h.names
  listeners := h'.listeners.trans h.listeners
  allListeners := h'.allListeners.trans h.allListeners
  moment := h'.moment.trans h.moment
  dirty := fun hd => h'.dirty (h.dirty hd)

theorem update (id : FrameId) {g : Frame → Frame} (hg : ∀ f, (g f).identity = f.identity) :
    InPlace r (r.update id g) :=
  ⟨alike_update id hg, ids_update .., rfl, rfl, rfl, rfl, fun h => h⟩

theorem markDirty : InPlace r r.markDirty := ⟨fun _ => rfl, rfl, rfl, rfl, rfl, rfl, fun _ => rfl⟩

theorem edit (id : FrameId) {g : Frame → Frame} (hg : ∀ f, (g f).identity = f.identity) :
    InPlace r (r.edit id g) := by
  unfold Registry.edit
  split
  · exact (update id hg).trans markDirty
  · exact .refl r

theorem touch (id : FrameId) : InPlace r (r.touch id) := by
  unfold Registry.touch
  split
  · exact markDirty
  · exact .refl r

theorem settle (id : FrameId) : InPlace r (r.settle id) := by
  unfold Registry.settle
  split
  · exact .refl r
  · exact update id fun _ => rfl

theorem settleAll (ids : List FrameId) : InPlace r (r.settleAll ids).1 := by
  induction ids generalizing r with
  | nil => exact .refl r
  | cons id ids ih =>
    unfold Registry.settleAll
    split
    · exact (settle id).trans ih
    · exact .refl r

theorem settleTree (id : FrameId) : InPlace r (r.settleTree id).1 := by
  unfold Registry.settleTree
  split
  · exact .refl r
  · exact (settle id).trans (settleAll _)

theorem addChild (parent child : FrameId) : InPlace r (r.addChild parent child) :=
  edit _ fun _ => rfl

theorem removeChild (parent child : FrameId) : InPlace r (r.removeChild parent child) :=
  edit _ fun _ => rfl

theorem link (parent : Option FrameId) (id : FrameId) : InPlace r (r.link parent id) := by
  unfold Registry.link
  split
  · exact .refl r
  · exact addChild _ _

theorem detach (id : FrameId) : InPlace r (r.detach id) := by
  unfold Registry.detach
  split
  · exact removeChild _ _
  · exact .refl r

theorem relink (id : FrameId) (parent : Option FrameId) : InPlace r (r.relink id parent) := by
  have lifted : InPlace r ((r.detach id).setParentField id parent) :=
    (detach id).trans (update id fun _ => rfl)
  exact lifted.trans (link parent id)

theorem moveTo (id : FrameId) (parent : Option FrameId) : InPlace r (r.moveTo id parent).1 := by
  unfold Registry.moveTo
  cases parent with
  | none => exact relink id none
  | some p => exact (relink id (some p)).trans (settleTree id)

end InPlace

end Registry

/-! ## Steps -/

variable {r r' : Registry} {id : FrameId} {fault : Option Fault}

theorem FrameStep.inPlace (h : FrameStep r r') : r.InPlace r' := by
  cases h with
  | touched id => exact .touch id
  | dirtied => exact .markDirty
  | resized id | attributed id => exact .edit id fun _ => rfl
  | layered id | levelled id =>
    refine Registry.InPlace.trans ?_ (.settleAll _)
    exact .edit id fun _ => rfl
  | flagged id flag =>
    refine .edit id fun _ => ?_
    cases flag <;> rfl

theorem AnchorStep.inPlace (h : AnchorStep r id r') : r.InPlace r' := by
  cases h with
  | anchored | pinned | unanchored | unpinned => exact .edit id fun _ => rfl
  | shifted => exact .update id fun _ => rfl

theorem TreeStep.inPlace (h : TreeStep r id r' fault) : r.InPlace r' := by
  cases h with
  | shown => exact .edit id fun _ => rfl
  | moved => exact .moveTo id _

theorem RawStep.inPlace (h : RawStep r r') : r.InPlace r' := by
  cases h with
  | childAdded parent child => exact .addChild parent child
  | childRemoved parent child => exact .removeChild parent child

end FrameHost
