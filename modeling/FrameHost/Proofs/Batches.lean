import FrameHost.Proofs.Step
import Mathlib.Data.List.Forall2

/-!
# Batches

A flush takes all events that wait, and an update all frames that it is to come to; what was taken is then
gone through one after another, while callbacks may begin flushes and updates of their own. Which batches are
under way can be told from the journal.

* `Batch.underWay`: the batches that are under way, with what has been done of each.
* `Batch.Sound`: **batches are gone through from front to back and to their end**.
* `Batch.Paired`: that, and the batches under way are the tasks under way.
-/

namespace FrameHost

/-- What a moment means for the batches of a kind. -/
inductive Mark (ι : Type)
  /-- A batch began. -/
  | began (batch : List ι)
  /-- One of the innermost batch has its turn. -/
  | took (x : ι)
  /-- The innermost batch ended. -/
  | ended

/-- A batch that is under way. -/
structure Batch (ι : Type) where
  whole : List ι
  /-- What had its turn, in that order. -/
  done : List ι

namespace Batch

variable {ι : Type} (mark? : Moment → Option (Mark ι))

/-- The batches that are under way, the innermost first. -/
def underWay : List Moment → List (Batch ι)
  | [] => []
  | m :: earlier =>
    match mark? m with
    | none => underWay earlier
    | some (.began batch) => ⟨batch, []⟩ :: underWay earlier
    | some (.took x) => (underWay earlier).modifyHead fun b => { b with done := b.done ++ [x] }
    | some .ended => (underWay earlier).tail

/-- What has its turn is the next one of the innermost batch, and a batch that ends has been gone through. -/
structure Sound (journal : List Moment) : Prop where
  took : ∀ m earlier x, m :: earlier <:+ journal → mark? m = some (.took x) →
    ∃ b outer rest, underWay mark? earlier = b :: outer ∧ b.whole = b.done ++ x :: rest
  ended : ∀ m earlier, m :: earlier <:+ journal → mark? m = some .ended →
    ∃ b outer, underWay mark? earlier = b :: outer ∧ b.done = b.whole

/-- No batch began inside another one. -/
def Flat (journal : List Moment) : Prop :=
  ∀ m earlier batch, m :: earlier <:+ journal → mark? m = some (.began batch) →
    underWay mark? earlier = []

/-- The batches under way are the tasks under way, and a task knows what is left of its batch. If batches do not
nest, none began inside another one. -/
structure Paired (nest : Bool) (rest? : Task → Option (List ι)) (σ : Stage) : Prop where
  sound : Sound mark? σ.journal
  flat : nest = false → Flat mark? σ.journal
  left : List.Forall₂ (fun b rest => b.whole = b.done ++ rest) (underWay mark? σ.journal)
    (σ.tasks.filterMap rest?)

variable {mark?} {nest : Bool} {m : Moment} {journal ms : List Moment} {x : ι} {batch rest : List ι}
  {rests : List (List ι)} {rest? : Task → Option (List ι)} {σ τ : Stage}

/-! ## Journals -/

theorem underWay_quiet (hms : ∀ m ∈ ms, mark? m = none) :
    underWay mark? (ms ++ journal) = underWay mark? journal := by
  induction ms with
  | nil => rfl
  | cons m ms ih =>
    rw [List.cons_append, underWay, hms m List.mem_cons_self]
    exact ih fun m' hm' => hms m' (List.mem_cons_of_mem _ hm')

theorem Flat.of_suffix {earlier : List Moment} (h : Flat mark? journal) (hs : earlier <:+ journal) :
    Flat mark? earlier := fun m e batch hm => h m e batch (hm.trans hs)

theorem Flat.of_cons (h : Flat mark? (m :: journal)) : Flat mark? journal :=
  h.of_suffix (List.suffix_cons ..)

theorem Flat.nil : Flat mark? [] := fun _ _ _ hm => nomatch List.suffix_nil.1 hm

theorem Flat.append (h : Flat mark? journal) (hms : ∀ m ∈ ms, ∀ batch, mark? m ≠ some (.began batch)) :
    Flat mark? (ms ++ journal) := fun m earlier batch hm hb => by
  rcases mem_or_suffix_of_suffix_append hm with hnew | hold
  · exact absurd hb (hms m hnew batch)
  · exact h m earlier batch hold hb

theorem Flat.cons (h : Flat mark? journal)
    (hm : ∀ batch, mark? m = some (.began batch) → underWay mark? journal = []) :
    Flat mark? (m :: journal) := fun m' earlier batch hm' hb => by
  rcases List.suffix_cons_iff.1 hm' with heq | hold
  · cases heq
    exact hm batch hb
  · exact h m' earlier batch hold hb

theorem Flat.length_underWay_le (h : Flat mark? journal) : (underWay mark? journal).length ≤ 1 := by
  induction journal with
  | nil => exact Nat.zero_le _
  | cons m journal ih =>
    have hle := ih h.of_cons
    rw [underWay]
    split
    · exact hle
    · rename_i batch hm
      rw [h m journal batch (List.suffix_refl _) hm]
      exact Nat.le_refl _
    · rw [List.length_modifyHead]
      exact hle
    · rw [List.length_tail]
      omega

theorem Sound.nil : Sound mark? [] where
  took := fun _ _ _ hm => nomatch List.suffix_nil.1 hm
  ended := fun _ _ hm => nomatch List.suffix_nil.1 hm

theorem Sound.quiet (h : Sound mark? journal) (hms : ∀ m ∈ ms, mark? m = none) :
    Sound mark? (ms ++ journal) where
  took := fun m earlier x hm hx => by
    rcases mem_or_suffix_of_suffix_append hm with hnew | hold
    · cases (hms m hnew).symm.trans hx
    · exact h.took m earlier x hold hx
  ended := fun m earlier hm he => by
    rcases mem_or_suffix_of_suffix_append hm with hnew | hold
    · cases (hms m hnew).symm.trans he
    · exact h.ended m earlier hold he

theorem Sound.cons (h : Sound mark? journal)
    (htook : ∀ x, mark? m = some (.took x) →
      ∃ b outer rest, underWay mark? journal = b :: outer ∧ b.whole = b.done ++ x :: rest)
    (hended : mark? m = some .ended →
      ∃ b outer, underWay mark? journal = b :: outer ∧ b.done = b.whole) :
    Sound mark? (m :: journal) where
  took := fun m' earlier x hm hx => by
    rcases List.suffix_cons_iff.1 hm with heq | hold
    · cases heq
      exact htook x hx
    · exact h.took m' earlier x hold hx
  ended := fun m' earlier hm he => by
    rcases List.suffix_cons_iff.1 hm with heq | hold
    · cases heq
      exact hended he
    · exact h.ended m' earlier hold he

/-! ## Stages -/

theorem Paired.fresh (hj : σ.journal = []) (ht : σ.tasks = []) : Paired mark? nest rest? σ where
  sound := hj ▸ .nil
  flat := fun _ => hj ▸ .nil
  left := by
    rw [hj, ht]
    exact .nil

theorem Paired.idle (h : Paired mark? nest rest? σ) (ht : σ.tasks.filterMap rest? = []) :
    underWay mark? σ.journal = [] := by
  have left := h.left
  rw [ht] at left
  exact List.forall₂_nil_right_iff.1 left

theorem Paired.filterMap_eq_nil (h : Paired mark? nest rest? σ) (hidle : underWay mark? σ.journal = []) :
    σ.tasks.filterMap rest? = [] := by
  have left := h.left
  rw [hidle] at left
  exact List.forall₂_nil_left_iff.1 left

theorem Paired.quiet (hσ : Paired mark? nest rest? σ) (hj : τ.journal = ms ++ σ.journal)
    (hms : ∀ m ∈ ms, mark? m = none) (ht : τ.tasks.filterMap rest? = σ.tasks.filterMap rest?) :
    Paired mark? nest rest? τ where
  sound := hj ▸ hσ.sound.quiet hms
  flat := fun hn => hj ▸ (hσ.flat hn).append fun m hm batch hb => by cases (hms m hm).symm.trans hb
  left := by
    rw [hj, underWay_quiet hms, ht]
    exact hσ.left

theorem Paired.pass (hσ : Paired mark? nest rest? σ) (hj : τ.journal = m :: σ.journal)
    (hm : mark? m = none) (ht : τ.tasks.filterMap rest? = σ.tasks.filterMap rest?) :
    Paired mark? nest rest? τ :=
  hσ.quiet (hj : _ = [m] ++ σ.journal) (fun _ h => List.mem_singleton.1 h ▸ hm) ht

theorem Paired.begin (hσ : Paired mark? nest rest? σ) (hj : τ.journal = m :: σ.journal)
    (hm : mark? m = some (.began batch))
    (hn : nest = true ∨ σ.tasks = [])
    (ht : τ.tasks.filterMap rest? = batch :: σ.tasks.filterMap rest?) : Paired mark? nest rest? τ where
  sound := by
    rw [hj]
    exact hσ.sound.cons (fun x hx => by cases hm.symm.trans hx) fun he => by cases hm.symm.trans he
  flat := fun hnest => by
    rw [hj]
    refine (hσ.flat hnest).cons fun _ _ => hσ.idle ?_
    rw [hn.resolve_left (by simp [hnest])]
    rfl
  left := by
    rw [hj, ht, underWay, hm]
    exact .cons rfl hσ.left

theorem Paired.take (hσ : Paired mark? nest rest? σ) (hj : τ.journal = m :: σ.journal)
    (hm : mark? m = some (.took x)) (ht : σ.tasks.filterMap rest? = (x :: rest) :: rests)
    (ht' : τ.tasks.filterMap rest? = rest :: rests) : Paired mark? nest rest? τ := by
  have left := hσ.left
  rw [ht] at left
  cases hb : underWay mark? σ.journal with
  | nil => rw [hb] at left; cases left
  | cons b outer =>
    rw [hb] at left
    obtain ⟨hwhole, houter⟩ := List.forall₂_cons.1 left
    refine ⟨?_, fun hn => hj ▸ (hσ.flat hn).cons fun _ h => (nomatch hm.symm.trans h), ?_⟩
    · rw [hj]
      refine hσ.sound.cons (fun x' hx => ?_) fun he => by cases hm.symm.trans he
      cases hm.symm.trans hx
      exact ⟨b, outer, rest, hb, hwhole⟩
    · rw [hj, ht', underWay, hm, hb]
      refine .cons ?_ houter
      rw [hwhole, List.append_assoc, List.singleton_append]

theorem Paired.finish (hσ : Paired mark? nest rest? σ) (hj : τ.journal = m :: σ.journal)
    (hm : mark? m = some .ended) (ht : σ.tasks.filterMap rest? = [] :: rests)
    (ht' : τ.tasks.filterMap rest? = rests) : Paired mark? nest rest? τ := by
  have left := hσ.left
  rw [ht] at left
  cases hb : underWay mark? σ.journal with
  | nil => rw [hb] at left; cases left
  | cons b outer =>
    rw [hb] at left
    obtain ⟨hwhole, houter⟩ := List.forall₂_cons.1 left
    refine ⟨?_, fun hn => hj ▸ (hσ.flat hn).cons fun _ h => (nomatch hm.symm.trans h), ?_⟩
    · rw [hj]
      refine hσ.sound.cons (fun x hx => by cases hm.symm.trans hx) fun _ => ?_
      exact ⟨b, outer, hb, by rw [hwhole, List.append_nil]⟩
    · rw [hj, ht', underWay, hm, hb]
      exact houter

end Batch

end FrameHost
