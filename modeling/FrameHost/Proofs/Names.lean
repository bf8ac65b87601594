import FrameHost.Proofs.InPlace
import FrameHost.Proofs.Listeners.Run

/-!
# Names

That a frame carries a name is kept twice: at the frame, and in an index from names to ids. A frame that is
taken in claims its name, and whoever held it before loses it. Here the index is shown to be the inverse of
the names that the frames carry.

* `Registry.Named`: the index leads from a name to the one frame that carries it.
* `Registry.Renames`: what becomes of the names when a frame is taken in.
* `Registry.Named.renames_enroll`, `Registry.Renames.named`: **a frame that is taken in moves its name to
  itself, and the index stays the inverse of the names**.
* `Session.Ran.namesIndexed`: **whenever the host of a run is met, the index is the inverse of the names**.
-/

namespace FrameHost

namespace Registry

variable {r r' r'' : Registry} {id x : FrameId} {f : Frame} {name : String}

/-! ## Both sides -/

/-- What is written at a frame as its name, if there is such a frame. -/
def nameOf (r : Registry) (id : FrameId) : Option (Option String) := (r.get? id).map (·.name)

/-- The index of names is the inverse of the names of the frames, and so no two frames carry the same
name. -/
structure Named (r : Registry) : Prop where
  index : ∀ name id, name ≠ "" →
    (r.idOfName? name = some id ↔ ∃ f, r.get? id = some f ∧ f.name = some name)
  unique : ∀ name a b, name ≠ "" → r.nameOf a = some (some name) → r.nameOf b = some (some name) →
    a = b

/-- What becomes of the names when a frame is taken in: it carries its own, and the index leads there. A
frame that carried the same name becomes anonymous, and all other names stay. -/
structure Renames (r r' : Registry) (id : FrameId) (f : Frame) : Prop where
  own : r'.nameOf id = some f.name
  found : ∀ name, f.properName? = some name → r'.idOfName? name = some id
  lost : ∀ x name, x ≠ id → f.properName? = some name → r.nameOf x = some (some name) →
    r'.nameOf x = some none
  kept : ∀ x, x ≠ id → (∀ name, f.properName? = some name → r.nameOf x ≠ some (some name)) →
    r'.nameOf x = r.nameOf x
  rest : ∀ name, f.properName? ≠ some name → r'.idOfName? name = r.idOfName? name

theorem nameOf_eq_some_iff :
    r.nameOf id = some (some name) ↔ ∃ f, r.get? id = some f ∧ f.name = some name :=
  Option.map_eq_some_iff

theorem properName?_eq_some_iff : f.properName? = some name ↔ f.name = some name ∧ name ≠ "" := by
  simp [Frame.properName?, Option.filter_eq_some_iff]

theorem Named.iff (h : r.Named) (hname : name ≠ "") :
    r.idOfName? name = some id ↔ r.nameOf id = some (some name) :=
  (h.index name id hname).trans nameOf_eq_some_iff.symm

/-- An index leads to one frame only. -/
theorem named_of_iff
    (h : ∀ name id, name ≠ "" → (r.idOfName? name = some id ↔ r.nameOf id = some (some name))) :
    r.Named where
  index := fun name id hname => (h name id hname).trans nameOf_eq_some_iff
  unique := fun name a b hname ha hb =>
    Option.some.inj (((h name a hname).2 ha).symm.trans ((h name b hname).2 hb))

theorem named_empty : Named {} := named_of_iff fun name id _ => by
  constructor
  · exact fun h => by cases h
  · exact fun h => by cases h

/-- Names are left alone, on both sides. -/
theorem Named.of_alike (h : r.Named) (ha : Alike Frame.name r r') (hn : r'.names = r.names) :
    r'.Named := named_of_iff fun name id hname => by
  rw [nameOf, ha id, idOfName?, hn]
  exact h.iff hname

theorem InPlace.alike_name (h : InPlace r r') : Alike Frame.name r r' :=
  (h.alike.map fun (_, name, _) => name :)

theorem Named.inPlace (h : r.Named) (h' : InPlace r r') : r'.Named :=
  h.of_alike h'.alike_name h'.names

/-! ## Claiming a name -/

theorem idOfName?_claimName (name name' : String) :
    (r.claimName name id).idOfName? name' =
      if name' = name then some id else r.idOfName? name' := by
  have hnames : (r.claimName name id).names = r.names.insert name id := by
    unfold claimName
    dsimp only
    split <;> rfl
  unfold idOfName?
  rw [hnames, Table.get?_insert]
  by_cases hname : name' = name
  · rw [if_pos hname, if_pos (beq_iff_eq.2 hname)]
  · rw [if_neg hname, if_neg (fun h => hname (eq_of_beq h))]

/-- Who held a name before it was claimed is anonymous afterwards, and nobody else is. -/
theorem Named.nameOf_claimName (h : r.Named) (hname : name ≠ "") (hx : x ≠ id) :
    (r.claimName name id).nameOf x =
      if r.nameOf x = some (some name) then some none else r.nameOf x := by
  unfold claimName
  dsimp only
  cases hholder : r.nameHolder? name id with
  | none =>
    -- the index leads to nobody, or to `id` already
    refine (if_neg fun hcarried => ?_).symm
    have hindex : r.idOfName? name = some x := (h.iff hname).2 hcarried
    have hheld : r.nameHolder? name id = some x := by
      unfold nameHolder?
      rw [hindex]
      exact Option.filter_some_pos (decide_eq_true hx)
    cases hholder.symm.trans hheld
  | some holder =>
    have hheld : r.nameOf holder = some (some name) :=
      (h.iff hname).1 (Option.filter_eq_some_iff.1 hholder).1
    change ((r.update holder fun f => { f with name := none }).get? x).map (·.name) = _
    rw [get?_update]
    by_cases heq : x = holder
    · subst heq
      obtain ⟨g, hg, -⟩ := nameOf_eq_some_iff.1 hheld
      rw [if_pos (beq_self_eq_true x), if_pos hheld, hg]
      rfl
    · have hother : r.nameOf x ≠ some (some name) := fun hcarried =>
        heq (h.unique name x holder hname hcarried hheld)
      rw [if_neg (by simpa using heq), if_neg hother]
      rfl

/-! ## Taking a frame in -/

theorem names_enroll : (r.enroll id f).names = (r.claimNameOf id f).names := by
  have begun (whats : List (Option String)) (r : Registry) :
      (r.beginAll id whats).names = r.names := by
    induction whats generalizing r with
    | nil => rfl
    | cons what whats ih => exact (ih _).trans (by cases what <;> rfl)
  rw [enroll_eq]
  exact begun _ _

theorem nameOf_enroll_self : (r.enroll id f).nameOf id = some f.name := by
  rw [nameOf, get?, frames_enroll, Table.get?_insert_self]
  rfl

theorem nameOf_enroll_of_ne (hx : x ≠ id) :
    (r.enroll id f).nameOf x = (r.claimNameOf id f).nameOf x := by
  rw [nameOf, get?, frames_enroll, Table.get?_insert_of_ne _ _ hx]
  rfl

/-- **A frame that is taken in moves its name to itself**, under whatever id. -/
theorem Named.renames_enroll (h : r.Named) (id : FrameId) (f : Frame) :
    r.Renames (r.enroll id f) id f := by
  have index (name : String) :
      (r.enroll id f).idOfName? name = (r.claimNameOf id f).idOfName? name :=
    congrArg (Table.get? · name) names_enroll
  cases hproper : f.properName? with
  | none =>
    have hclaim : r.claimNameOf id f = r := by rw [claimNameOf, hproper]
    rw [hclaim] at index
    constructor
    case own => exact nameOf_enroll_self
    case found => exact fun name hname => by cases hproper.symm.trans hname
    case lost => exact fun x name _ hname => by cases hproper.symm.trans hname
    case kept => exact fun x hx _ => (nameOf_enroll_of_ne hx).trans (by rw [hclaim])
    case rest => exact fun name _ => index name
  | some own =>
    have hown : own ≠ "" := (properName?_eq_some_iff.1 hproper).2
    have hclaim : r.claimNameOf id f = r.claimName own id := by rw [claimNameOf, hproper]
    have others (x : FrameId) (hx : x ≠ id) : (r.enroll id f).nameOf x =
        if r.nameOf x = some (some own) then some none else r.nameOf x := by
      rw [nameOf_enroll_of_ne hx, hclaim, h.nameOf_claimName hown hx]
    simp only [hclaim, idOfName?_claimName] at index
    constructor
    case own => exact nameOf_enroll_self
    case found =>
      intro name hname
      cases hproper.symm.trans hname
      exact (index own).trans (if_pos rfl)
    case lost =>
      intro x name hx hname hcarried
      cases hproper.symm.trans hname
      exact (others x hx).trans (if_pos hcarried)
    case kept => exact fun x hx hne => (others x hx).trans (if_neg (hne own hproper))
    case rest =>
      intro name hname
      exact (index name).trans (if_neg fun heq => hname (hproper.trans (congrArg some heq.symm)))

/-- **The index stays the inverse of the names** when a frame is taken in, unless it replaces one that
carries another name. -/
theorem Renames.named (h : r.Renames r' id f) (hr : r.Named)
    (hid : ∀ name, name ≠ "" → r.nameOf id = some (some name) → f.name = some name) : r'.Named := by
  refine named_of_iff fun name x hname => ?_
  by_cases hown : f.properName? = some name
  · -- the name that is claimed leads to the new frame, and nobody else carries it
    rw [h.found name hown]
    constructor
    · rintro ⟨⟩
      rw [h.own, (properName?_eq_some_iff.1 hown).1]
    · intro hcarried
      refine congrArg some (Decidable.byContradiction fun hx => ?_)
      have hbefore : r.nameOf x ≠ some (some name) := fun hbefore => by
        cases hcarried.symm.trans (h.lost x name (Ne.symm hx) hown hbefore)
      refine hbefore ((h.kept x (Ne.symm hx) fun name' hown' => ?_).symm.trans hcarried)
      cases hown.symm.trans hown'
      exact hbefore
  · rw [h.rest name hown, hr.iff hname]
    have hnot : f.name ≠ some name := fun hf => hown (properName?_eq_some_iff.2 ⟨hf, hname⟩)
    by_cases hx : x = id
    · subst hx
      rw [h.own]
      exact ⟨fun hcarried => absurd (hid name hname hcarried) hnot,
        fun hcarried => absurd (Option.some.inj hcarried) hnot⟩
    · by_cases hlost : ∃ own, f.properName? = some own ∧ r.nameOf x = some (some own)
      · obtain ⟨own, hproper, hcarried⟩ := hlost
        rw [h.lost x own hx hproper hcarried, hcarried]
        refine ⟨fun heq => ?_, fun heq => by cases heq⟩
        cases heq
        exact absurd hproper hown
      · rw [h.kept x hx fun own hproper hcarried => hlost ⟨own, hproper, hcarried⟩]

/-- What is written in place afterwards does not touch names. -/
theorem Renames.inPlace (h : r.Renames r' id f) (h' : r'.InPlace r'') : r.Renames r'' id f where
  own := (h'.alike_name id).trans h.own
  found := fun name hname => (congrArg (Table.get? · name) h'.names).trans (h.found name hname)
  lost := fun x name hx hname hcarried => (h'.alike_name x).trans (h.lost x name hx hname hcarried)
  kept := fun x hx hne => (h'.alike_name x).trans (h.kept x hx hne)
  rest := fun name hname => (congrArg (Table.get? · name) h'.names).trans (h.rest name hname)

end Registry

/-! ## Runs -/

variable {raw : Bool} {σ τ : Stage} {journal : List Moment}

/-- Every step leaves the index of names the inverse of the names, as long as frames are taken in under ids
that were drawn. -/
theorem Step.named (h : Step raw σ τ) (hdrawn : Drawn τ.journal)
    (hnumbered : ∀ id, σ.registry.contains id = true → id ≤ σ.lastId) (hσ : σ.registry.Named) :
    τ.registry.Named := by
  -- nobody carries a name under an id that is new
  have taken {id : FrameId} (f : Frame) (hnew : σ.registry.contains id = false) :
      (σ.registry.enroll id f).Named := by
    refine (hσ.renames_enroll id f).named hσ fun name _ hcarried => ?_
    obtain ⟨g, hg, -⟩ := Registry.nameOf_eq_some_iff.1 hcarried
    cases hnew.symm.trans (congrArg Option.isSome hg)
  cases h with
  | framed h => exact hσ.inPlace h.inPlace
  | keyed => exact hσ.inPlace (.edit _ fun _ => rfl)
  | tied h => exact hσ.inPlace h.inPlace
  | rewritten hraw h => exact hσ.inPlace h.inPlace
  | changed h | changedInPart h => exact hσ.inPlace h.inPlace
  | painted => exact hσ.of_alike (.of_frames rfl) rfl
  | listened h => exact hσ.of_alike (h.alike.map Frame.name :) h.spares.names
  | created hg ha hf hr =>
    subst hr
    obtain ⟨hnew, -⟩ := hg.new hnumbered (Int.le_refl _)
    exact (taken _ hnew).inPlace (.link _ _)
  | enrolled f hraw hg hr =>
    subst hr
    have hw : _ ≤ σ.lastId := of_decide_eq_true (hdrawn _ List.mem_cons_self)
    exact taken f (hg.new hnumbered hw).1
  | @enrolledAgain id f r hraw hf hr =>
    subst hr
    refine (hσ.renames_enroll id f).named hσ fun name _ hcarried => ?_
    obtain ⟨g, hg, hname⟩ := Registry.nameOf_eq_some_iff.1 hcarried
    cases hf.symm.trans hg
    exact hname
  | _ => exact hσ

theorem Session.Ran.named {s : Session} (h : s.Ran true) {host : Host} (hp : s.Past journal host)
    (hdrawn : Drawn journal) : host.registry.Named := by
  refine h.past (I := fun σ => Drawn σ.journal → σ.Tuned ∧ σ.registry.Named)
    (P := fun journal host => Drawn journal → host.registry.Named)
    (fun clock _ => ⟨Stage.tuned_fresh clock, Registry.named_empty⟩)
    (fun σ τ hστ hσ hτ => ?_) (fun σ host hs hσ hdrawn => ?_) hp hdrawn
  · obtain ⟨tuned, named⟩ := hσ fun m hm => hτ m (hστ.journal_suffix.subset hm)
    exact ⟨hστ.tuned hτ tuned, hστ.named hτ tuned.numbered named⟩
  · rw [hs.registry]
    exact (hσ hdrawn).2

/-- **Whenever the host of a run is met, its index of names is the inverse of the names of the frames**, and
a frame that is then taken in, and perhaps listed under another, moves its name to itself, if the ids of all
frames were drawn. -/
theorem Session.Ran.namesIndexed {s : Session} (h : s.Ran true) {host : Host}
    (hp : s.Past journal host) (hdrawn : Drawn journal) :
    host.registry.Named ∧ ∀ id f parent,
      host.registry.Renames ((host.registry.enroll id f).link parent id) id f :=
  have named := h.named hp hdrawn
  ⟨named, fun id f parent => (named.renames_enroll id f).inPlace (.link parent id)⟩

/-- Two frames come with one name, and the one that lost it is taken in again. -/
theorem Session.namesIndexed_runRootless :
    let s := Session.runRootless Session.idle
      [.registry (.register none { name := some "Bag" }),
        .registry (.register (some 1) { name := some "Bag" }),
        .registry (.registerAgain (some 1)),
        .registry (.register none { name := some "" })]
    Drawn s.journal ∧ s.host.registry.Named ∧ ∀ id f parent,
      s.host.registry.Renames ((s.host.registry.enroll id f).link parent id) id f :=
  have hdrawn : Drawn _ := by decide +kernel
  ⟨hdrawn, Session.Ran.namesIndexed (Session.ran_idle (by decide)) .last hdrawn⟩

end FrameHost
