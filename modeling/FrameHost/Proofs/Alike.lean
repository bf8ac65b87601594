import FrameHost.Proofs.Step

/-!
# Registries that look alike

A law about frames looks at some of their fields only. Two registries are alike through a view when it
shows the same of every frame. What a step does not write is alike before and after, so a law that looks
at nothing else is kept.

* `Registry.Alike`: alike through a view.
* `FrameStep.alike`, `EarStep.spares`, `AnchorStep.alike`: what steps leave alone.
* `Registry.alike_moveTo`, `Registry.get?_enroll`: moving a frame and taking one in.
-/

namespace FrameHost

/-! ## Views -/

namespace Frame

/-- Where a frame stands: its links, whether it is shown, and its anchors. -/
def place (f : Frame) :
    (Option FrameId × List FrameId × Table String FrameId) × Bool × List Anchor :=
  ((f.parent, f.children, f.keys), f.visible, f.anchors)

/-- The links of a frame: its parent, its children and the names of these. -/
def links (f : Frame) : Option FrameId × List FrameId × Table String FrameId :=
  (f.parent, f.children, f.keys)

/-- What the frames that a frame is placed by follow from. -/
def ties (f : Frame) : Option FrameId × List Anchor := (f.parent, f.anchors)

/-- What visibility follows from. -/
def shown (f : Frame) : Option FrameId × Bool := (f.parent, f.visible)

/-- All of a frame but its name. -/
def nameless (f : Frame) : Frame := { f with name := none }

/-- All of a frame but what it listens for. -/
def unhearing (f : Frame) : Frame := { f with events := [], allEvents := false }

/-- All of a frame but its anchors. -/
def unanchored (f : Frame) : Frame := { f with anchors := [] }

/-- The frame that is made, once templates have sized it. -/
theorem place_of_sized {kind : WidgetType} {name : Option String}
    {above : Option (FrameId × Frame)} {f : Frame}
    (hf : (Session.blankFrame kind name above).Sized f) :
    f.parent = above.map (·.1) ∧ f.place = ((f.parent, [], {}), true, []) := by
  obtain ⟨width, height, rfl⟩ := hf
  cases above <;> exact ⟨rfl, rfl⟩

end Frame

namespace Registry

variable {β γ : Type} {view : Frame → β} {r r' r'' : Registry} {id : FrameId}

/-- What is found on one side of a view is found on the other. -/
theorem exists_of_map_eq {o o' : Option Frame} {f : Frame} (h : o'.map view = o.map view)
    (hf : o' = some f) : ∃ g, o = some g ∧ view g = view f := by
  subst hf
  exact Option.map_eq_some_iff.1 h.symm

/-- Through a view of frames, two registries show the same. -/
def Alike (view : Frame → β) (r r' : Registry) : Prop :=
  ∀ id, (r'.get? id).map view = (r.get? id).map view

namespace Alike

theorem refl (r : Registry) : Alike view r r := fun _ => rfl

theorem trans (h : Alike view r r') (h' : Alike view r' r'') : Alike view r r'' :=
  fun id => (h' id).trans (h id)

theorem symm (h : Alike view r r') : Alike view r' r := fun id => (h id).symm

theorem exists_get? (h : Alike view r r') {f : Frame} (hf : r'.get? id = some f) :
    ∃ g, r.get? id = some g ∧ view g = view f := exists_of_map_eq (h id) hf

theorem of_frames (h : r'.frames = r.frames) : Alike view r r' := fun id => by
  unfold get?
  rw [h]

/-- What a view shows, it shows through any glass. -/
theorem map (g : β → γ) (h : Alike view r r') : Alike (g ∘ view) r r' := fun id => by
  rw [← Option.map_map, ← Option.map_map, h id]

theorem place (h : Alike Frame.nameless r r') : Alike Frame.place r r' := (h.map Frame.place :)

theorem links (h : Alike Frame.place r r') : Alike Frame.links r r' :=
  (h.map fun (links, _) => links :)

theorem ties (h : Alike Frame.place r r') : Alike Frame.ties r r' :=
  (h.map fun ((parent, _), _, anchors) => (parent, anchors) :)

theorem shown (h : Alike Frame.place r r') : Alike Frame.shown r r' :=
  (h.map fun ((parent, _), visible, _) => (parent, visible) :)

theorem isSome (h : Alike view r r') (id : FrameId) : (r'.get? id).isSome = (r.get? id).isSome := by
  have hid := congrArg Option.isSome (h id)
  rwa [Option.isSome_map, Option.isSome_map] at hid

theorem contains (h : Alike view r r') (id : FrameId) : r'.contains id = r.contains id :=
  h.isSome id

/-- What is read off a view is read off alike registries alike. -/
theorem getD (h : Alike view r r') (g : β → γ) (d : γ) (id : FrameId) :
    ((r'.get? id).map (g ∘ view)).getD d = ((r.get? id).map (g ∘ view)).getD d := by
  rw [h.map g id]

theorem parentOf (h : Alike view r r') (g : β → Option FrameId) (hg : ∀ f, g (view f) = f.parent)
    (id : FrameId) : r'.parentOf id = r.parentOf id := by
  have hp : ∀ r : Registry, r.parentOf id = ((r.get? id).map (g ∘ view)).getD none := fun r => by
    unfold Registry.parentOf
    cases r.get? id with
    | none => rfl
    | some f => exact (hg f).symm
  rw [hp, hp, h.getD]

end Alike

/-! ## Changes of single frames -/

/-- A frame that has been changed was there before. -/
theorem exists_of_update {g : Frame → Frame} {f' : Frame} (h : (r.update id g).get? id = some f') :
    ∃ f, r.get? id = some f ∧ g f = f' := by
  rw [get?_update, if_pos (beq_self_eq_true id)] at h
  exact Option.map_eq_some_iff.1 h

/-- A change of one frame is seen nowhere else. -/
theorem get?_update_of_ne {x : FrameId} (hx : x ≠ id) (g : Frame → Frame) :
    (r.update id g).get? x = r.get? x := by rw [get?_update, if_neg (by simpa using hx)]

theorem get?_edit_of_ne {x : FrameId} (hx : x ≠ id) (g : Frame → Frame) :
    (r.edit id g).get? x = r.get? x := by rw [get?_edit, if_neg (by simpa using hx)]

theorem alike_update (id : FrameId) {g : Frame → Frame} (h : ∀ f, view (g f) = view f) :
    Alike view r (r.update id g) := fun x => by
  rw [get?_update]
  split
  · cases r.get? x with
    | none => rfl
    | some f => exact congrArg some (h f)
  · rfl

theorem alike_edit (id : FrameId) {g : Frame → Frame} (h : ∀ f, view (g f) = view f) :
    Alike view r (r.edit id g) := by
  unfold edit
  split
  · exact alike_update id h
  · exact .refl r

theorem alike_touch (id : FrameId) : Alike view r (r.touch id) := by
  unfold touch
  split <;> exact .refl r

/-- One change made to alike registries leaves them alike. -/
theorem Alike.update (h : Alike view r r') (id : FrameId) {g : Frame → Frame}
    (hg : ∀ f f', view f = view f' → view (g f) = view (g f')) :
    Alike view (r.update id g) (r'.update id g) := fun x => by
  have hx := h x
  rw [get?_update, get?_update]
  split
  · cases hr : r.get? x with
    | none =>
      rw [hr] at hx
      rw [Option.map_eq_none_iff.1 hx]
    | some f =>
      rw [hr] at hx
      obtain ⟨f', hf', hview⟩ := Option.map_eq_some_iff.1 hx
      rw [hf']
      exact congrArg some (hg f' f hview)
  · exact hx

/-- Whether the registry is marked does not show in its frames. -/
theorem alike_update_edit (id : FrameId) (g : Frame → Frame) :
    Alike view (r.update id g) (r.edit id g) := fun x => by rw [get?_edit, get?_update]

/-! ## Layers and levels -/

theorem alike_settle (id : FrameId) : Alike Frame.place r (r.settle id) := by
  unfold settle
  split
  · exact .refl r
  · exact alike_update id fun _ => rfl

theorem alike_settleAll (ids : List FrameId) : Alike Frame.place r (r.settleAll ids).1 := by
  induction ids generalizing r with
  | nil => exact .refl r
  | cons id ids ih =>
    unfold settleAll
    split
    · exact (alike_settle id).trans ih
    · exact .refl r

theorem alike_settleTree (id : FrameId) : Alike Frame.place r (r.settleTree id).1 := by
  unfold settleTree
  split
  · exact .refl r
  · exact (alike_settle id).trans (alike_settleAll _)

/-! ## Listeners -/

/-- Frames begin or cease to listen, and all else is left alone but the tables of listeners. -/
structure Spares (r r' : Registry) : Prop where
  alike : Alike Frame.unhearing r r'
  ids : r'.ids = r.ids
  names : r'.names = r.names
  dirty : r'.dirty = r.dirty

namespace Spares

theorem refl (r : Registry) : Spares r r := ⟨.refl r, rfl, rfl, rfl⟩

theorem trans (h : Spares r r') (h' : Spares r' r'') : Spares r r'' where
  alike := h.alike.trans h'.alike
  ids := h'.ids.trans h.ids
  names := h'.names.trans h.names
  dirty := h'.dirty.trans h.dirty

theorem registerEvent (id : FrameId) (event : String) : Spares r (r.registerEvent id event) := by
  unfold Registry.registerEvent
  split
  · exact .refl r
  · split
    · exact .refl r
    · exact ⟨alike_update id fun _ => rfl, ids_update .., rfl, rfl⟩

theorem unregisterEvent (id : FrameId) (event : String) :
    Spares r (r.unregisterEvent id event) := by
  unfold Registry.unregisterEvent
  split
  · dsimp only
    split <;> exact ⟨alike_update id fun _ => rfl, ids_update .., rfl, rfl⟩
  · exact .refl r

theorem registerAllEvents (id : FrameId) : Spares r (r.registerAllEvents id) := by
  unfold Registry.registerAllEvents
  split
  · exact .refl r
  · split
    · exact .refl r
    · exact ⟨alike_update id fun _ => rfl, ids_update .., rfl, rfl⟩

theorem unregisterAllEvents (id : FrameId) : Spares r (r.unregisterAllEvents id) := by
  have each (events : List String) (r : Registry) :
      Spares r (events.foldl (fun r event => r.unregisterEvent id event) r) := by
    induction events generalizing r with
    | nil => exact .refl r
    | cons event events ih => exact (unregisterEvent id event).trans (ih _)
  unfold Registry.unregisterAllEvents
  split
  · exact .refl r
  · have last (r : Registry) : Spares r
        { r.update id fun f => { f with allEvents := false } with
          allListeners := r.allListeners.erase id } :=
      ⟨alike_update id fun _ => rfl, ids_update .., rfl, rfl⟩
    exact (each _ r).trans (last _)

end Spares

/-! ## Taking frames in -/

theorem alike_claimName (name : String) (id : FrameId) :
    Alike Frame.nameless r (r.claimName name id) := by
  unfold claimName
  dsimp only
  split
  · exact alike_update _ fun _ => rfl
  · exact .refl r

/-- A frame that is taken in claims its name, and then it is written. -/
theorem frames_enroll (r : Registry) (id : FrameId) (f : Frame) :
    (r.enroll id f).frames = (r.claimNameOf id f).frames.insert id f := by
  have listened (events : List String) (r : Registry) :
      (events.foldl (fun r event => r.beginListening id event) r).frames = r.frames := by
    induction events generalizing r with
    | nil => rfl
    | cons event events ih => exact ih (r.beginListening id event)
  unfold enroll
  cases f.allEvents <;> exact listened _ _

/-- Taking a frame in is seen at its id only, but for the names that others lose. -/
theorem get?_enroll (r : Registry) (id : FrameId) (f : Frame) :
    ∃ q, Alike Frame.nameless r q ∧
      ∀ x, (r.enroll id f).get? x = if x = id then some f else q.get? x := by
  have hq : Alike Frame.nameless r (r.claimNameOf id f) := by
    unfold claimNameOf
    split
    · exact alike_claimName _ id
    · exact .refl r
  refine ⟨r.claimNameOf id f, hq, fun x => ?_⟩
  unfold get?
  rw [frames_enroll, Table.get?_insert]
  by_cases hx : x = id
  · rw [if_pos hx, if_pos (beq_iff_eq.2 hx)]
  · rw [if_neg hx, if_neg (fun h => hx (eq_of_beq h))]

/-! ## Moving frames -/

/-- A frame is taken off the list of the frame above it. -/
def detach (r : Registry) (id : FrameId) : Registry :=
  match r.parentOf id with
  | some old => r.removeChild old id
  | none => r

/-- The links of a frame that moves under another, or out of the tree. -/
def relink (r : Registry) (id : FrameId) (parent : Option FrameId) : Registry :=
  ((r.detach id).setParentField id parent).link parent id

/-- The lists of children are left out of a view. -/
theorem alike_detach (hview : ∀ (f : Frame) children keys, view { f with children, keys } = view f) :
    Alike view r (r.detach id) := by
  unfold detach
  split
  · exact alike_edit _ fun _ => hview _ _ _
  · exact .refl r

theorem alike_link (hview : ∀ (f : Frame) children keys, view { f with children, keys } = view f)
    (parent : Option FrameId) : Alike view r (r.link parent id) := by
  unfold link
  split
  · exact .refl r
  · exact alike_edit _ fun f => hview f _ f.keys

/-- What a view without the lists of children sees of a move. -/
theorem alike_relink (hview : ∀ (f : Frame) children keys, view { f with children, keys } = view f)
    {parent : Option FrameId} (hparent : ∀ f f' : Frame, view f = view f' →
      view { f with parent } = view { f' with parent }) :
    Alike view (r.setParentField id parent) (r.relink id parent) :=
  ((alike_detach hview).update id hparent).trans (alike_link hview parent)

/-- Moving a frame relinks it, and else only layers and levels change. -/
theorem alike_moveTo (id : FrameId) (parent : Option FrameId) :
    Alike Frame.place (r.relink id parent) (r.moveTo id parent).1 := by
  unfold moveTo
  cases parent with
  | none => exact .refl _
  | some p => exact alike_settleTree id

end Registry

/-! ## Steps -/

variable {r r' : Registry} {id : FrameId}

/-- **A step that writes into the frames leaves alone where they stand.** -/
theorem FrameStep.alike (h : FrameStep r r') : Registry.Alike Frame.place r r' := by
  cases h with
  | touched id => exact Registry.alike_touch id
  | dirtied => exact .refl r
  | resized id | attributed id => exact Registry.alike_edit id fun _ => rfl
  | layered id | levelled id =>
    refine Registry.Alike.trans ?_ (Registry.alike_settleAll _)
    exact Registry.alike_edit id fun _ => rfl
  | flagged id flag =>
    refine Registry.alike_edit id fun _ => ?_
    cases flag <;> rfl

/-- **Whether a frame listens shows nowhere else**, but in the tables of listeners. -/
theorem EarStep.spares (h : EarStep r r') : r.Spares r' := by
  cases h with
  | absent => exact .refl r
  | listening id event => exact .registerEvent id event
  | deaf id event => exact .unregisterEvent id event
  | listeningToAll id => exact .registerAllEvents id
  | deafToAll id => exact .unregisterAllEvents id

theorem EarStep.alike (h : EarStep r r') : Registry.Alike Frame.unhearing r r' := h.spares.alike

/-- What becomes of anchors leaves all else alone. -/
theorem AnchorStep.alike (h : AnchorStep r id r') : Registry.Alike Frame.unanchored r r' := by
  cases h with
  | anchored | pinned | unanchored | unpinned => exact Registry.alike_edit id fun _ => rfl
  | shifted => exact Registry.alike_update id fun _ => rfl

end FrameHost
