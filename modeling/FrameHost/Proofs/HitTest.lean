import FrameHost.Proofs.Delivery
import FrameHost.Proofs.Enrolment
import FrameHost.Proofs.Inheritance
import FrameHost.Proofs.Layout
import Mathlib.Data.Prod.Lex
import Mathlib.Order.Bounds.Basic

/-!
# Which frame a point hits

Frames lie over each other. A hit test goes through all frames in the order of their registration and keeps the
frontmost of those that it has found under the point. Since no two frames stand at one place in the order of
drawing, what it ends with depends only on which frames are there.

* `Layout.Under`: a frame lies under a point.
* `Layout.standing`: where a frame stands in the order of drawing.
* `Layout.exists_foldlM_consider`: **going through frames finds the frontmost of them**.
* `Step.nodup_ids`: no step registers an id twice.
* `Session.Amid.hits_topmost`: **what a point hits and whom a click reaches, wherever a run has come**.
-/

namespace FrameHost

/-! ## Points -/

/-- A point lies in a rectangle: on the left and top edges it does, on the others not. -/
def Rect.Holds (rect : Rect) (x y : Int) : Prop :=
  rect.x.toInt ≤ x ∧ x < rect.x.toInt + rect.width.toInt ∧
    rect.y.toInt ≤ y ∧ y < rect.y.toInt + rect.height.toInt

instance (rect : Rect) (x y : Int) : Decidable (rect.Holds x y) :=
  inferInstanceAs (Decidable (_ ∧ _ ∧ _ ∧ _))

theorem Rect.contains_eq (rect : Rect) (x y : Int) : rect.contains x y = decide (rect.Holds x y) := by
  rw [Bool.eq_iff_iff, decide_eq_true_iff]
  simp [Rect.contains, Rect.Holds, and_assoc]

/-- A whole number of 32 bits. -/
def Rect.Fits (n : Int) : Prop := -2147483648 ≤ n ∧ n ≤ 2147483647

/-- A coordinate that fits is read as it is. -/
theorem Rect.toCoordinate_of_fits {n : Int} (h : Rect.Fits n) : Rect.toCoordinate (.int n) = .ok n := by
  obtain ⟨hlow, hhigh⟩ := h
  have hfield : Rect.toField n = .ok n.toInt32 := by
    refine if_pos ⟨?_, ?_⟩
    · have hmin : Int64.minValue.toInt ≤ -2147483648 := by decide
      omega
    · have hmax : 2147483647 ≤ Int64.maxValue.toInt := by decide
      omega
  have hround : n.toInt32.toInt = n := Int32.toInt_ofInt_of_le (by omega) (by omega)
  simp [Rect.toCoordinate, hfield, Except.map, hround]

namespace Layout

variable {l : Layout} {r : Registry} {x y : Int} {id : FrameId} {f : Frame}

/-- Whether a point lies in a rectangle is told rightly where the coordinates fit. -/
theorem hits_of_fits (rect : Rect) (hx : Rect.Fits x) (hy : Rect.Fits y) :
    hits rect (.int x) (.int y) = .ok (decide (rect.Holds x y)) := by
  rw [hits, Rect.toCoordinate_of_fits hx, Rect.toCoordinate_of_fits hy, ← Rect.contains_eq]
  rfl

/-! ## Frames under a point -/

/-- A frame takes the mouse and is visible. -/
structure Exposed (r : Registry) (id : FrameId) (f : Frame) : Prop where
  registered : r.get? id = some f
  mouse : f.mouseEnabled = true
  visible : r.isVisible id = true

/-- A frame takes the mouse, is visible, and has a rectangle in which a point lies. -/
structure Under (l : Layout) (r : Registry) (x y : Int) (id : FrameId) (f : Frame) : Prop
    extends Exposed r id f where
  holds : ∃ rect, l.frameRect r (some id) = .ok rect ∧ rect.Holds x y

/-- A point can be tested: every frame that takes the mouse and is visible has a rectangle, and whether the
point lies in it is told rightly. -/
structure Testable (l : Layout) (r : Registry) (x y : Int) : Prop where
  computed : ∀ id f, Exposed r id f → ∃ rect, l.frameRect r (some id) = .ok rect
  told : ∀ id f rect, Exposed r id f → l.frameRect r (some id) = .ok rect →
    hits rect (.int x) (.int y) = .ok (decide (rect.Holds x y))

theorem Testable.of_fits (h : ∀ id f, Exposed r id f → ∃ rect, l.frameRect r (some id) = .ok rect)
    (hx : Rect.Fits x) (hy : Rect.Fits y) : l.Testable r x y :=
  ⟨h, fun _ _ rect _ _ => hits_of_fits rect hx hy⟩

/-- Frames that are laid out by no other have rectangles if they can be placed on the screen. -/
theorem Testable.of_placed (hids : r.ids.Nodup)
    (h : r.frames.entries.all fun e => decide <|
      referenceOf e.2 = none ∧ (l.screen >>= place r e.1 e.2).toOption.isSome)
    (hx : Rect.Fits x) (hy : Rect.Fits y) : l.Testable r x y := by
  refine .of_fits (fun id f hexposed => ?_) hx hy
  have hlisted : (id, f) ∈ r.frames.entries := (Table.mem_entries_iff hids).2 hexposed.registered
  obtain ⟨hfree, hplaced⟩ := of_decide_eq_true (List.all_eq_true.1 h _ hlisted)
  obtain ⟨rect, hrect⟩ := Option.isSome_iff_exists.1 hplaced
  refine ⟨rect, ?_⟩
  rw [frameRect_of_frame hexposed.registered, hfree, reference]
  exact ok_of_toOption hrect

/-! ## The order of drawing -/

/-- Where a frame stands in the order of drawing: by the place of its layer, then by its level, then by its
id. -/
def standing (id : FrameId) (f : Frame) : ℕ ×ₗ ℤ ×ₗ ℤ :=
  toLex (Strata.order.idxOf f.strata, toLex (f.level, id))

theorem id_eq_of_standing {id' : FrameId} {f' : Frame} (h : standing id f = standing id' f') : id = id' := by
  have hlevels := congrArg (fun p => (ofLex p).2) h
  exact congrArg (fun p => (ofLex p).2) hlevels

/-- The same of what a hit test keeps of a frame. -/
def Front.standing (a : Front) : ℕ ×ₗ ℤ ×ₗ ℤ := toLex (a.rank, toLex (a.level, a.id))

theorem standing_front (h : f.strata ∈ Strata.order) : (front id f).standing = standing id f := by
  simp [front, Front.standing, standing, Strata.rank, h]

/-- Being in front is standing higher. -/
theorem Front.above_iff {a b : Front} : a.above b = true ↔ b.standing < a.standing := by
  simp only [Front.above, Front.standing, Prod.Lex.toLex_lt_toLex, Bool.or_eq_true, Bool.and_eq_true,
    decide_eq_true_eq, beq_iff_eq]
  constructor
  · rintro (hrank | ⟨hrank, hlevel | ⟨hlevel, hid⟩⟩)
    · exact .inl hrank
    · exact .inr ⟨hrank.symm, .inl hlevel⟩
    · exact .inr ⟨hrank.symm, .inr ⟨hlevel.symm, hid⟩⟩
  · rintro (hrank | ⟨hrank, hlevel | ⟨hlevel, hid⟩⟩)
    · exact .inl hrank
    · exact .inr ⟨hrank.symm, .inl hlevel⟩
    · exact .inr ⟨hrank.symm, .inr ⟨hlevel.symm, hid⟩⟩

/-! ## Going through frames -/

/-- The best that was found among some frames: none of them, or one that stands highest. -/
structure Best (found : Set Front) (best : Option Front) : Prop where
  absent : best = none → found = ∅
  highest : ∀ b, best = some b → b ∈ found ∧ ∀ a ∈ found, a.standing ≤ b.standing

theorem best_empty : Best ∅ none := ⟨fun _ => rfl, nofun⟩

/-- The better of what was found before and of one more frame. -/
def better (best : Option Front) (a : Front) : Front :=
  match best with
  | none => a
  | some b => if a.above b then a else b

theorem Best.insert {found : Set Front} {best : Option Front} (h : Best found best) (a : Front) :
    Best (found ∪ {a}) (some (better best a)) := by
  refine ⟨nofun, fun c hc => ?_⟩
  cases best with
  | none =>
    cases hc
    rw [h.absent rfl, Set.empty_union]
    exact ⟨rfl, fun d hd => by rw [Set.mem_singleton_iff.1 hd, better]⟩
  | some b =>
    obtain ⟨hb, hgreatest⟩ := h.highest b rfl
    by_cases habove : a.above b
    · have hlt : b.standing < a.standing := Front.above_iff.1 habove
      simp only [better, habove, if_true, Option.some.injEq] at hc
      subst hc
      refine ⟨.inr rfl, fun d hd => ?_⟩
      rcases hd with hd | rfl
      · exact (hgreatest d hd).trans hlt.le
      · exact le_refl _
    · have hle : a.standing ≤ b.standing := not_lt.1 fun hlt => habove (Front.above_iff.2 hlt)
      simp only [better, habove, Bool.false_eq_true, if_false, Option.some.injEq] at hc
      subst hc
      refine ⟨.inl hb, fun d hd => ?_⟩
      rcases hd with hd | rfl
      · exact hgreatest d hd
      · exact hle

section Consider

variable {best : Option Front} {e : FrameId × Frame}

/-- A frame under the point is taken if nothing better was found. -/
theorem consider_of_under (ht : l.Testable r x y) (h : l.Under r x y e.1 e.2) :
    l.consider r (.int x) (.int y) best e = .ok (some (better best (front e.1 e.2))) := by
  obtain ⟨rect, hrect, hholds⟩ := h.holds
  have hhits : hits rect (.int x) (.int y) = .ok true := by
    rw [ht.told _ _ rect h.toExposed hrect, decide_eq_true hholds]
  have hlook : l.consider r (.int x) (.int y) best e =
      (l.frameRect r (some e.1) >>= fun rect => hits rect (.int x) (.int y) >>= fun hit =>
        if hit then .ok (some (better best (front e.1 e.2))) else .ok best) := by
    unfold consider
    rw [h.mouse, h.visible]
    cases best <;> rfl
  rw [hlook, hrect]
  change hits rect (.int x) (.int y) >>= _ = _
  rw [hhits]
  rfl

/-- A frame that is not under the point is passed by. -/
theorem consider_of_not_under (ht : l.Testable r x y) (he : r.get? e.1 = some e.2)
    (h : ¬ l.Under r x y e.1 e.2) : l.consider r (.int x) (.int y) best e = .ok best := by
  by_cases hexposed : Exposed r e.1 e.2
  · obtain ⟨rect, hrect⟩ := ht.computed _ _ hexposed
    have hholds : ¬ rect.Holds x y := fun hholds => h ⟨hexposed, rect, hrect, hholds⟩
    have hhits : hits rect (.int x) (.int y) = .ok false := by
      rw [ht.told _ _ rect hexposed hrect, decide_eq_false hholds]
    unfold consider
    rw [hexposed.mouse, hexposed.visible, hrect]
    change hits rect (.int x) (.int y) >>= _ = _
    rw [hhits]
    rfl
  · have hclosed : (!e.2.mouseEnabled || !r.isVisible e.1) = true := by
      by_contra hopen
      simp only [Bool.or_eq_true, Bool.not_eq_true', not_or, Bool.not_eq_false] at hopen
      exact hexposed ⟨he, hopen.1, hopen.2⟩
    unfold consider
    rw [hclosed]
    rfl

end Consider

/-- What lies under a point among some frames, as a hit test keeps it. -/
def foundIn (l : Layout) (r : Registry) (x y : Int) (es : List (FrameId × Frame)) : Set Front :=
  {a | ∃ e ∈ es, l.Under r x y e.1 e.2 ∧ front e.1 e.2 = a}

theorem foundIn_nil : l.foundIn r x y [] = ∅ := by
  ext a
  simp [foundIn]

theorem foundIn_cons_of_under {e : FrameId × Frame} (h : l.Under r x y e.1 e.2)
    (es : List (FrameId × Frame)) :
    l.foundIn r x y (e :: es) = {front e.1 e.2} ∪ l.foundIn r x y es := by
  ext a
  simp [foundIn, h, eq_comm]

theorem foundIn_cons_of_not_under {e : FrameId × Frame} (h : ¬ l.Under r x y e.1 e.2)
    (es : List (FrameId × Frame)) : l.foundIn r x y (e :: es) = l.foundIn r x y es := by
  ext a
  simp [foundIn, h]

/-- **Going through frames finds the frontmost of those under the point**, and of what was found before. -/
theorem exists_foldlM_consider (ht : l.Testable r x y) (es : List (FrameId × Frame))
    (hes : ∀ e ∈ es, r.get? e.1 = some e.2) {found : Set Front} {best : Option Front}
    (h : Best found best) : ∃ best', es.foldlM (l.consider r (.int x) (.int y)) best = .ok best' ∧
      Best (found ∪ l.foundIn r x y es) best' := by
  induction es generalizing found best with
  | nil =>
    rw [foundIn_nil, Set.union_empty]
    exact ⟨best, rfl, h⟩
  | cons e es ih =>
    have hrest := fun e he => hes e (List.mem_cons_of_mem _ he)
    by_cases hunder : l.Under r x y e.1 e.2
    · rw [List.foldlM_cons, consider_of_under ht hunder, foundIn_cons_of_under hunder, ← Set.union_assoc]
      exact ih hrest (h.insert _)
    · rw [List.foldlM_cons, consider_of_not_under ht (hes e List.mem_cons_self) hunder,
        foundIn_cons_of_not_under hunder]
      exact ih hrest h

/-- What a hit test answers: nothing where no frame lies under the point, and else the one frame there that
stands above all others. -/
structure Topmost (l : Layout) (r : Registry) (x y : Int) (hit : Option FrameId) : Prop where
  none_iff : hit = none ↔ ∀ id f, ¬ l.Under r x y id f
  some_iff : ∀ id, hit = some id ↔ ∃ f, l.Under r x y id f ∧
    ∀ id' f', l.Under r x y id' f' → id' ≠ id → standing id' f' < standing id f

/-- What was found among all frames is the topmost of them. -/
theorem topmost_of_best (hids : r.ids.Nodup) (hlayers : ∀ id f, r.get? id = some f → f.strata ∈ Strata.order)
    {best : Option Front} (h : Best (l.foundIn r x y r.frames.entries) best) :
    l.Topmost r x y (best.map (·.id)) := by
  have found (id : FrameId) (f : Frame) (hunder : l.Under r x y id f) :
      front id f ∈ l.foundIn r x y r.frames.entries :=
    ⟨(id, f), (Table.mem_entries_iff hids).2 hunder.registered, hunder, rfl⟩
  have stands (id : FrameId) (f : Frame) (hunder : l.Under r x y id f) :
      (front id f).standing = standing id f := standing_front (hlayers id f hunder.registered)
  cases best with
  | none =>
    have nobody (id : FrameId) (f : Frame) : ¬ l.Under r x y id f := fun hunder => by
      have hfound := found id f hunder
      rw [h.absent rfl] at hfound
      exact hfound
    refine ⟨⟨fun _ => nobody, fun _ => rfl⟩, fun id => ⟨nofun, ?_⟩⟩
    rintro ⟨f, hunder, -⟩
    exact absurd hunder (nobody id f)
  | some b =>
    obtain ⟨⟨e, -, hunder, rfl⟩, hgreatest⟩ := h.highest b rfl
    have above (id' : FrameId) (f' : Frame) (hunder' : l.Under r x y id' f') (hne : id' ≠ e.1) :
        standing id' f' < standing e.1 e.2 := by
      have hle := hgreatest _ (found id' f' hunder')
      rw [stands _ _ hunder', stands _ _ hunder] at hle
      exact lt_of_le_of_ne hle fun heq => hne (id_eq_of_standing heq)
    refine ⟨⟨nofun, fun hnobody => absurd hunder (hnobody e.1 e.2)⟩, fun id => ⟨fun hid => ?_, ?_⟩⟩
    · cases hid
      exact ⟨e.2, hunder, above⟩
    · -- two frames cannot both stand above the other
      rintro ⟨f, hunder', hmost⟩
      by_contra hne
      have hid : id ≠ e.1 := fun heq => hne (congrArg some heq.symm)
      exact lt_asymm (above id f hunder' hid) (hmost e.1 e.2 hunder hid.symm)

/-- **A hit test answers the topmost frame.** -/
theorem exists_frameAt? (hids : r.ids.Nodup)
    (hlayers : ∀ id f, r.get? id = some f → f.strata ∈ Strata.order) (ht : l.Testable r x y) :
    ∃ hit, l.frameAt? r (.int x) (.int y) = .ok hit ∧ l.Topmost r x y hit := by
  obtain ⟨best, hbest, h⟩ := exists_foldlM_consider ht r.frames.entries
    (fun e he => (Table.mem_entries_iff hids).1 he) best_empty
  rw [Set.empty_union] at h
  refine ⟨best.map (·.id), ?_, topmost_of_best hids hlayers h⟩
  rw [frameAt?, hbest]
  rfl

end Layout

/-! ## No id twice -/

theorem Registry.nodup_ids_enroll {r : Registry} (h : r.ids.Nodup) (id : FrameId) (f : Frame) :
    (r.enroll id f).ids.Nodup := by
  have hclaimed : (r.claimNameOf id f).ids.Nodup := by
    rw [ids_claimNameOf]
    exact h
  rw [ids, frames_enroll]
  exact Table.nodup_insert hclaimed id f

/-- No step registers an id twice. -/
theorem Step.nodup_ids {scope : Scope} {σ τ : Stage} (h : Step scope σ τ) (hσ : σ.registry.ids.Nodup) :
    τ.registry.ids.Nodup := by
  have written {r : Registry} (h : σ.registry.InPlace r) : r.ids.Nodup := h.ids ▸ hσ
  cases h with
  | framed h => exact written h.inPlace
  | keyed => exact written (.edit _ fun _ => rfl)
  | tied h => exact written h.inPlace
  | rewritten hraw h => exact written h.inPlace
  | changed h | changedInPart h => exact written h.inPlace
  | listened h => exact h.spares.ids ▸ hσ
  | created hg ha hf hr =>
    subst hr
    change (Registry.link (Registry.enroll ..) ..).ids.Nodup
    rw [(Registry.InPlace.link _ _).ids]
    exact Registry.nodup_ids_enroll hσ _ _
  | enrolled f hraw hg hr | enrolledAgain hraw hf hr =>
    subst hr
    exact Registry.nodup_ids_enroll hσ _ _
  | _ => exact hσ

namespace Session

open Act

variable {s : Session} {script : Script} {depth : Nat} {frame : FrameId}

/-- In the middle of a run no id is registered twice, and every frame is in a layer in which frames are
drawn. -/
theorem Amid.drawable (h : Amid false s) : s.host.registry.ids.Nodup ∧
    ∀ id f, s.host.registry.get? id = some f → f.strata ∈ Strata.order := by
  obtain ⟨tasks, -, hlayered, hids⟩ := h.keep
    (I := fun σ => σ.Ordered ∧ σ.registry.Layered ∧ σ.registry.ids.Nodup)
    (fun clock => ⟨Stage.ordered_fresh clock, Registry.layered_empty, List.nodup_nil⟩)
    (fun _ _ h hσ => ⟨h.ordered hσ.1, h.keepsLayers hσ.1 hσ.2.1, h.nodup_ids hσ.2.2⟩)
  exact ⟨hids, fun id f hf => (hlayered.drawable id f hf).strata⟩

/-! ## Clicks -/

/-- What a click leaves of a session: nothing but a line of the log where it hit no frame; and else the slots of
the frame for what comes before, at and after a click have been run one after another, with its handle, and no
other callback has been called. -/
def Reaches (call : Caller) (button : Value) (s t : Session) : Option FrameId → Prop
  | none => ∃ log, t = { s with log }
  | some frame =>
    let args := [button, .bool false]
    let before := after (runSlot call ⟨frame, .preClick⟩ args) s
    let clicked := after (runSlot call ⟨frame, .onClick⟩ args) before
    t = after (runSlot call ⟨frame, .postClick⟩ args) clicked ∧
      ∃ calls, t.calls = s.calls ++ calls ∧ InTurn (.handle frame :: args)
        (s.host.scripts.callbacksOf ⟨frame, .preClick⟩ ++ before.host.scripts.callbacksOf ⟨frame, .onClick⟩ ++
          clicked.host.scripts.callbacksOf ⟨frame, .postClick⟩) calls

/-- A click asks which frame is hit, and answers it. -/
theorem click_result {call : Caller} {x y button : Value} {hit : Option FrameId}
    (h : s.host.layout.frameAt? s.host.registry x y = .ok hit) :
    result (click call x y button).run s = .ok hit := by
  unfold click
  rw [result_lift_bind]
  change result (ExceptT.run (attempt (s.host.layout.frameAt? s.host.registry x y) >>= _)) s = _
  rw [h]
  cases hit <;> rfl

/-- **A click reaches the frame that it hits, and no other.** -/
theorem click_reaches
    (hscript : ∀ callback count args, ∀ c ∈ (script callback count args).steps, c.fits true = true)
    (depth : Nat) {x y : Value} (button : Value) {hit : Option FrameId}
    (h : s.host.layout.frameAt? s.host.registry x y = .ok hit)
    (hframe : ∀ frame, hit = some frame → s.host.registry.contains frame = true) :
    Reaches (runCallback script (depth + 1)) button s
      (after (click (runCallback script (depth + 1)) x y button).run s) hit := by
  let call := runCallback script (depth + 1)
  cases hit with
  | none =>
    have hleft : after (click call x y button).run s = after (say "SimState" .trace "script"
        ("Click at (" ++ x.text s.host.label ++ ", " ++ y.text s.host.label ++ ") hit nothing")) s := by
      unfold click
      rw [after_lift_bind]
      change after (ExceptT.run (attempt (s.host.layout.frameAt? s.host.registry x y) >>= _)) s = _
      rw [h]
      rfl
    exact ⟨_, hleft⟩
  | some frame =>
    have hthere := hframe frame rfl
    have hgoes (slot : Slot) (args : List Value) (s : Session) : Goes true (runSlot call slot args) s :=
      runSlot_goes (runCallback_goes_of_fits hscript (depth + 1)) slot args s
    let args := [button, Value.bool false]
    let before := after (runSlot call ⟨frame, .preClick⟩ args) s
    let clicked := after (runSlot call ⟨frame, .onClick⟩ args) before
    have hbefore : before.host.registry.contains frame = true := contains_after (hgoes _ _ _) hthere
    have hclicked : clicked.host.registry.contains frame = true := contains_after (hgoes _ _ _) hbefore
    have hleft : after (click call x y button).run s =
        after (runSlot call ⟨frame, .postClick⟩ args) clicked := by
      unfold click
      rw [after_lift_bind]
      change after (ExceptT.run (attempt (s.host.layout.frameAt? s.host.registry x y) >>= _)) s = _
      rw [h]
      rfl
    have hslot (handler : Handler) : Slot.frame ⟨frame, handler⟩ = some frame := rfl
    obtain ⟨first, hfirst, inTurn⟩ := calls_slot hscript (hslot .preClick) hthere args
    obtain ⟨second, hsecond, inTurn'⟩ := calls_slot hscript (hslot .onClick) hbefore args
    obtain ⟨third, hthird, inTurn''⟩ := calls_slot hscript (hslot .postClick) hclicked args
    refine ⟨hleft, first ++ second ++ third, ?_, (inTurn.append inTurn').append inTurn''⟩
    rw [hleft, hthird, hsecond, hfirst]
    simp

/-- **What a point hits and whom a click there reaches, wherever a run has come.** Every frame is in one of the
layers; the hit test answers the frame under the point that stands above all others there, and nothing exactly
when no frame lies under it. A click answers the same, and reaches that frame only, whatever its callbacks do. -/
theorem Amid.hits_topmost (h : Amid false s)
    (hscript : ∀ callback count args, ∀ c ∈ (script callback count args).steps, c.fits true = true)
    (depth : Nat) {x y : Int} (ht : s.host.layout.Testable s.host.registry x y) (button : Value) :
    let call := runCallback script (depth + 1)
    (∀ id f, s.host.registry.get? id = some f → f.strata ∈ Strata.order) ∧
    ∃ hit, s.host.layout.frameAt? s.host.registry (.int x) (.int y) = .ok hit ∧
      s.host.layout.Topmost s.host.registry x y hit ∧
      result (click call (.int x) (.int y) button).run s = .ok hit ∧
      Reaches call button s (after (click call (.int x) (.int y) button).run s) hit := by
  intro call
  obtain ⟨hids, hlayers⟩ := h.drawable
  obtain ⟨hit, hhit, htopmost⟩ := Layout.exists_frameAt? hids hlayers ht
  refine ⟨hlayers, hit, hhit, htopmost, click_result hhit, click_reaches hscript depth button hhit ?_⟩
  intro frame hframe
  obtain ⟨f, hunder, -⟩ := (htopmost.some_iff frame).1 hframe
  exact congrArg Option.isSome hunder.registered

/-- Two frames that take the mouse and lie over each other, the smaller one in front. -/
def overlapping : Session := runRootless idle
  [.frame (.create (.str "Button") .null .none .null .null),
    .frame (.create (.str "Frame") .null .none .null .null),
    .frame (.act (some 1) (.setSize (.int 100) (.int 50))),
    .frame (.act (some 2) (.setSize (.int 10) (.int 20))),
    .frame (.act (some 1) (.setFlag .mouseEnabled (.bool true))),
    .frame (.act (some 2) (.setFlag .mouseEnabled (.bool true))),
    .frame (.slot (some 2) (.setScript (.str "OnClick") (.callback "press")))]

theorem amid_overlapping : Amid false overlapping := (ran_idle (by decide)).within.amid

theorem testable_overlapping : overlapping.host.layout.Testable overlapping.host.registry 3 4 :=
  .of_placed amid_overlapping.drawable.1 (by decide +kernel) ⟨by decide, by decide⟩ ⟨by decide, by decide⟩

theorem hits_topmost_overlapping : Amid false overlapping ∧
    overlapping.host.layout.Testable overlapping.host.registry 3 4 ∧
    (∀ id f, overlapping.host.registry.get? id = some f → f.strata ∈ Strata.order) ∧
    ∃ hit, overlapping.host.layout.frameAt? overlapping.host.registry (.int 3) (.int 4) = .ok hit ∧
      overlapping.host.layout.Topmost overlapping.host.registry 3 4 hit ∧
      result (click (caller idle) (.int 3) (.int 4) (.str "LeftButton")).run overlapping = .ok hit ∧
      Reaches (caller idle) (.str "LeftButton") overlapping
        (after (click (caller idle) (.int 3) (.int 4) (.str "LeftButton")).run overlapping) hit :=
  ⟨amid_overlapping, testable_overlapping,
    amid_overlapping.hits_topmost (fun _ _ _ _ h => by cases h) 399 testable_overlapping (.str "LeftButton")⟩

end Session

end FrameHost
