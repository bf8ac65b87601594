import FrameHost.Proofs.Layout

/-!
# The search for a rectangle

The rectangle of a frame is found by two functions that call each other: one enters a frame, looks for its
size and asks for the rectangle that it lies on, the other one answers with the screen, or with the rectangle
of the next frame. No function bounds the other, and parents and anchors may lead round in a circle; but a
frame that has been entered is not entered again. Only the search for a size has no such guard.

* `Layout.Computes`, `Layout.Refers`: the two functions, as relations that a search satisfies when it ends.
* `Layout.exists_refers`: the search ends where the sizes of the frames that it comes by can be found.
* `Layout.Refers.split`: what is left of a search when it has entered a frame.
* `Layout.exists_resolves`: **on every graph of parents and anchors the search ends, enters no frame twice,
  and turns to the screen just where the next frame is not there, or has been entered.**
-/

namespace FrameHost

open Relation

/-- The searches for the width and for the height of a frame end. -/
structure Registry.Sizable (r : Registry) (a : FrameId) : Prop where
  width : ∃ path x, r.Measured .horizontal a path x
  height : ∃ path x, r.Measured .vertical a path x

/-- The size of a frame can be found if no two anchors span it. -/
theorem Registry.sizable_of_span? {r : Registry} {a : FrameId} (h : ∀ f, r.get? a = some f →
    (Axis.horizontal.span? f).isNone ∧ (Axis.vertical.span? f).isNone) : r.Sizable a := by
  cases hf : r.get? a with
  | none => exact ⟨⟨[a], _, .absent hf⟩, ⟨[a], _, .absent hf⟩⟩
  | some f =>
    obtain ⟨hhorizontal, hvertical⟩ := h f hf
    rw [Option.isNone_iff_eq_none] at hhorizontal hvertical
    have hgiven {axis : Axis} (hnone : axis.span? f = none) : r.Measured axis a [a] (axis.given f) :=
      .given hf fun near far t hspan => by cases hnone.symm.trans hspan
    exact ⟨⟨[a], _, hgiven hhorizontal⟩, ⟨[a], _, hgiven hvertical⟩⟩

namespace Layout

/-! ## The two functions -/

mutual

/-- The search for the rectangle of a frame ends: which frames it enters, and what it comes to. -/
inductive Computes (l : Layout) (r : Registry) :
    List FrameId → FrameId → List FrameId → Except Fault Rect → Prop
  | absent {visiting : List FrameId} {id : FrameId} (hf : r.get? id = none) :
      Computes l r visiting id [] (.ok Rect.empty)
  | placed {visiting : List FrameId} {id : FrameId} {f : Frame} {widthPath heightPath entered : List FrameId}
      {base : Except Fault Rect} (hf : r.get? id = some f)
      (hwidth : r.Measured .horizontal id widthPath (r.widthOf id))
      (hheight : r.Measured .vertical id heightPath (r.heightOf id))
      (hbase : Refers l r (id :: visiting) (referenceOf f) entered base) :
      Computes l r visiting id (id :: entered) (base >>= place r id f)

/-- The search for the rectangle that a frame lies on ends. -/
inductive Refers (l : Layout) (r : Registry) :
    List FrameId → Option FrameId → List FrameId → Except Fault Rect → Prop
  | screen {visiting : List FrameId} {reference : Option FrameId}
      (h : ∀ a, reference = some a → a ∈ visiting ∨ r.contains a = false) :
      Refers l r visiting reference [] l.screen
  | frame {visiting entered : List FrameId} {a : FrameId} {rect : Except Fault Rect} (ha : a ∉ visiting)
      (hc : r.contains a = true) (h : Computes l r visiting a entered rect) :
      Refers l r visiting (some a) entered rect

end

/-- Frames are piled on the screen, the last one at the bottom. -/
inductive Piled (l : Layout) (r : Registry) : List FrameId → Except Fault Rect → Prop
  | screen : Piled l r [] l.screen
  | placed {a : FrameId} {f : Frame} {below : List FrameId} {base : Except Fault Rect}
      (hf : r.get? a = some f) (hbelow : Piled l r below base) :
      Piled l r (a :: below) (base >>= place r a f)

variable {l : Layout} {r : Registry} {id a : FrameId} {o : Option FrameId}
  {visiting entered entered' before after : List FrameId} {rect rect' : Except Fault Rect}

/-! ## Searches end -/

/-- A frame can be entered if its size can be found. -/
theorem Computes.of_sizable {f : Frame} (hf : r.get? id = some f) (hsize : r.Sizable id)
    (hbase : Refers l r (id :: visiting) (referenceOf f) entered rect) :
    Computes l r visiting id (id :: entered) (rect >>= place r id f) := by
  obtain ⟨widthPath, width, hwidth⟩ := hsize.width
  obtain ⟨heightPath, height, hheight⟩ := hsize.height
  exact .placed hf hwidth.measured_extent hheight.measured_extent hbase

/-- **The search ends**, as there are fewer and fewer frames that have not been entered. -/
theorem exists_refers (hsize : ∀ a, o = some a → ∀ b, ReflTransGen r.Hangs a b → r.Sizable b) :
    ∃ entered, Refers l r visiting o entered (l.reference r visiting o) := by
  fun_induction l.reference r visiting o with
  | case1 visiting =>
    refine ⟨[], .screen fun b hb => ?_⟩
    cases hb
  | case2 visiting a ha =>
    refine ⟨[], .screen fun b hb => ?_⟩
    cases hb
    exact .inl ha
  | case3 visiting a ha hf =>
    refine ⟨[], .screen fun b hb => ?_⟩
    cases hb
    exact .inr (congrArg Option.isSome hf)
  | case4 visiting a ha f hf ih =>
    obtain ⟨entered, hentered⟩ := ih fun b hb c hc => hsize a rfl c (.head ⟨f, hf, hb⟩ hc)
    exact ⟨a :: entered, .frame ha (congrArg Option.isSome hf) (.of_sizable hf (hsize a rfl a .refl) hentered)⟩

/-- The search for the rectangle of a frame ends. -/
theorem exists_computes (hsize : ∀ a, ReflTransGen r.Hangs id a → r.Sizable a) :
    ∃ entered, Computes l r [] id entered (l.frameRect r (some id)) := by
  cases hf : r.get? id with
  | none =>
    have hrect : l.frameRect r (some id) = .ok Rect.empty := by
      unfold frameRect
      rw [show r.at? (some id) = none from hf]
    exact ⟨[], hrect ▸ .absent hf⟩
  | some f =>
    have hentered : ∃ entered, Refers l r [id] (referenceOf f) entered (l.reference r [id] (referenceOf f)) :=
      exists_refers fun b hb c hc => hsize c (.head ⟨f, hf, hb⟩ hc)
    obtain ⟨entered, hentered⟩ := hentered
    rw [frameRect_of_frame hf]
    exact ⟨id :: entered, .of_sizable hf (hsize id .refl) hentered⟩

/-! ## What a search comes by -/

/-- A search that enters a frame enters the one that it was asked for. -/
theorem Refers.cons (h : Refers l r visiting o (a :: after) rect) :
    ∃ f base, o = some a ∧ a ∉ visiting ∧ r.get? a = some f ∧ rect = base >>= place r a f ∧
      Refers l r (a :: visiting) (referenceOf f) after base := by
  cases h with
  | frame ha hc h =>
    cases h with
    | placed hf _ _ hbase => exact ⟨_, _, rfl, ha, hf, rfl, hbase⟩

/-- A search enters no frame if there is none to be entered. -/
theorem Refers.eq_nil_iff (h : Refers l r visiting o entered rect) :
    entered = [] ↔ ∀ a, o = some a → a ∈ visiting ∨ r.contains a = false := by
  cases h with
  | screen hscreen => exact iff_of_true rfl hscreen
  | @frame _ _ a _ ha hc h =>
    cases h with
    | absent hf => cases hc.symm.trans (congrArg Option.isSome hf)
    | placed =>
      refine iff_of_false (List.cons_ne_nil _ _) fun hscreen => ?_
      rcases hscreen a rfl with hmem | hnone
      · exact ha hmem
      · cases hc.symm.trans hnone

theorem Refers.nil (h : Refers l r visiting o [] rect) : rect = l.screen := by
  cases h with
  | screen => rfl
  | frame ha hc h =>
    cases h with
    | absent hf => cases hc.symm.trans (congrArg Option.isSome hf)

/-- **What is left of a search when it has entered a frame.** -/
theorem Refers.split (h : Refers l r visiting o (before ++ a :: after) rect) :
    ∃ f base, a ∉ visiting ∧ r.get? a = some f ∧
      Refers l r (a :: (before.reverse ++ visiting)) (referenceOf f) after base := by
  -- on the frames entered, as the two relations are mutual
  induction before generalizing visiting o rect with
  | nil =>
    obtain ⟨f, base, -, ha, hf, -, hbase⟩ := h.cons
    exact ⟨f, base, ha, hf, hbase⟩
  | cons b before ih =>
    obtain ⟨g, base, -, -, -, -, hbase⟩ := h.cons
    obtain ⟨f, below, ha, hf, hbelow⟩ := ih hbase
    refine ⟨f, below, fun hmem => ha (List.mem_cons_of_mem b hmem), hf, ?_⟩
    rwa [List.reverse_cons, List.append_assoc]

theorem Refers.nodup (h : Refers l r visiting o entered rect) : entered.Nodup := by
  induction entered generalizing visiting o rect with
  | nil => exact List.nodup_nil
  | cons a later ih =>
    obtain ⟨f, base, -, -, -, -, hbase⟩ := h.cons
    refine List.nodup_cons.2 ⟨fun ha => ?_, ih hbase⟩
    obtain ⟨before, after, rfl⟩ := List.append_of_mem ha
    obtain ⟨-, -, hvisiting, -⟩ := hbase.split
    exact hvisiting List.mem_cons_self

/-- The rectangle of a search is that of the pile of frames that it enters. -/
theorem Refers.piled (h : Refers l r visiting o entered rect) : l.Piled r entered rect := by
  induction entered generalizing visiting o rect with
  | nil => exact h.nil ▸ .screen
  | cons a later ih =>
    obtain ⟨f, base, -, -, hf, rfl, hbase⟩ := h.cons
    exact .placed hf (ih hbase)

/-- A search goes in one way only. -/
theorem Refers.unique (h : Refers l r visiting o entered rect) (h' : Refers l r visiting o entered' rect') :
    entered = entered' ∧ rect = rect' := by
  induction entered generalizing visiting o rect entered' rect' with
  | nil =>
    obtain rfl : entered' = [] := h'.eq_nil_iff.2 (h.eq_nil_iff.1 rfl)
    exact ⟨rfl, h.nil.trans h'.nil.symm⟩
  | cons a later ih =>
    cases entered' with
    | nil => cases h.eq_nil_iff.2 (h'.eq_nil_iff.1 rfl)
    | cons b later' =>
      obtain ⟨f, base, rfl, -, hf, rfl, hbase⟩ := h.cons
      obtain ⟨g, base', hab, -, hg, rfl, hbase'⟩ := h'.cons
      cases hab
      cases hf.symm.trans hg
      obtain ⟨rfl, rfl⟩ := ih hbase hbase'
      exact ⟨rfl, rfl⟩

theorem Computes.unique (h : Computes l r visiting id entered rect)
    (h' : Computes l r visiting id entered' rect') : entered = entered' ∧ rect = rect' := by
  cases h with
  | absent hf =>
    cases h' with
    | absent => exact ⟨rfl, rfl⟩
    | placed hf' => cases hf.symm.trans hf'
  | placed hf _ _ hbase =>
    cases h' with
    | absent hf' => cases hf.symm.trans hf'
    | placed hf' _ _ hbase' =>
      cases hf.symm.trans hf'
      obtain ⟨rfl, rfl⟩ := hbase.unique hbase'
      exact ⟨rfl, rfl⟩

/-! ## Every graph -/

/-- The search for the rectangle of an id enters these frames, in this order. -/
structure Resolves (l : Layout) (r : Registry) (id : FrameId) (entered : List FrameId) : Prop where
  /-- The search ends, in one way only, and finds the rectangle. -/
  ends : ∀ entered' rect, Computes l r [] id entered' rect ↔
    entered' = entered ∧ rect = l.frameRect r (some id)
  /-- It enters no frame twice. -/
  once : entered.Nodup
  registered : ∀ a ∈ entered, r.contains a = true
  /-- The frame itself is entered first, if it is there. -/
  first : entered.head? = if r.contains id = true then some id else none
  /-- From a frame it goes on to the one that the frame is laid out by. -/
  next : ∀ before a b after f, entered = before ++ a :: b :: after → r.get? a = some f →
    referenceOf f = some b
  /-- It turns to the screen at a frame that is laid out by none, or by one that is not there or has been
  entered, and at no other. -/
  screen : ∀ before a after f, entered = before ++ a :: after → r.get? a = some f →
    (after = [] ↔ ∀ b, referenceOf f = some b → b ∈ before ++ [a] ∨ r.contains b = false)
  /-- The rectangle is that of the frames on each other, and the last one on the screen. -/
  piled : r.contains id = true → l.Piled r entered (l.frameRect r (some id))
  /-- An id that is not there has the empty rectangle. -/
  unknown : r.contains id = false → l.frameRect r (some id) = .ok Rect.empty

/-- A search for the rectangle of an id enters what a search for the rectangle to lie on does. -/
theorem Computes.exists_refers (h : Computes l r [] id entered rect) :
    ∃ rect', Refers l r [] (some id) entered rect' ∧ (r.contains id = true → rect' = rect) := by
  cases hc : r.contains id with
  | true => exact ⟨rect, .frame List.not_mem_nil hc h, fun _ => rfl⟩
  | false =>
    cases h with
    | absent =>
      refine ⟨l.screen, .screen fun a ha => ?_, nofun⟩
      cases ha
      exact .inr hc
    | placed hf => cases hc.symm.trans (congrArg Option.isSome hf)

/-- A search enters the frame that it is for. -/
theorem Computes.head?_eq (h : Computes l r visiting id entered rect) :
    entered.head? = if r.contains id = true then some id else none := by
  cases h with
  | absent hf => exact (if_neg (Bool.eq_false_iff.1 (congrArg Option.isSome hf))).symm
  | placed hf => exact (if_pos (congrArg Option.isSome hf)).symm

/-- **What a search enters, and where it turns to the screen.** -/
theorem Computes.resolution (h : Computes l r [] id entered (l.frameRect r (some id))) :
    l.Resolves r id entered := by
  obtain ⟨rect, hrefers, hrect⟩ := h.exists_refers
  constructor
  case ends => exact fun entered' rect => ⟨fun h' => h'.unique h, fun hsame => hsame.1 ▸ hsame.2 ▸ h⟩
  case once => exact hrefers.nodup
  case registered =>
    intro a ha
    obtain ⟨before, after, rfl⟩ := List.append_of_mem ha
    obtain ⟨f, -, -, hf, -⟩ := hrefers.split
    exact congrArg Option.isSome hf
  case first => exact h.head?_eq
  case next =>
    rintro before a b after f rfl hf
    obtain ⟨g, base, -, hg, hbase⟩ := hrefers.split
    cases hf.symm.trans hg
    obtain ⟨-, -, hnext, -⟩ := hbase.cons
    exact hnext
  case screen =>
    rintro before a after f rfl hf
    obtain ⟨g, base, -, hg, hbase⟩ := hrefers.split
    cases hf.symm.trans hg
    rw [hbase.eq_nil_iff]
    simp [or_comm]
  case piled => exact fun hc => hrect hc ▸ hrefers.piled
  case unknown =>
    intro hc
    have hf : r.get? id = none := Option.not_isSome_iff_eq_none.1 (Bool.eq_false_iff.1 hc)
    exact (h.unique (.absent hf)).2

/-- **On every graph of parents and anchors, the search for a rectangle ends, enters no frame twice, and turns
to the screen just where the next frame is not there, or has been entered**, if the sizes can be found of the
frames that it comes by. -/
theorem exists_resolves (l : Layout) (r : Registry) (id : FrameId)
    (hsize : ∀ a, ReflTransGen r.Hangs id a → r.Sizable a) : ∃ entered, l.Resolves r id entered := by
  obtain ⟨entered, h⟩ := exists_computes (l := l) hsize
  exact ⟨entered, h.resolution⟩

/-- A frame lies on its parent, which is tied to the frame in turn. -/
def knotted : Registry where
  frames := ⟨[(1, { parent := some 2 }), (2, { anchors := [⟨.topLeft, some 1, .bottomRight, 0.0, 0.0⟩] })]⟩

theorem sizable_knotted (a : FrameId) : knotted.Sizable a := by
  have hspan : ∀ e ∈ knotted.frames.entries,
      (Axis.horizontal.span? e.2).isNone ∧ (Axis.vertical.span? e.2).isNone := by decide +kernel
  apply Registry.sizable_of_span?
  intro f hf
  exact hspan (a, f) ((Table.mem_entries_iff (by decide)).2 hf)

theorem exists_resolves_knotted : (∀ a, ReflTransGen knotted.Hangs 1 a → knotted.Sizable a) ∧
    ∃ entered, (Layout.mk 800 600).Resolves knotted 1 entered :=
  ⟨fun a _ => sizable_knotted a, exists_resolves ⟨800, 600⟩ knotted 1 fun a _ => sizable_knotted a⟩

end Layout

end FrameHost
