import FrameHost.Proofs.Step

/-!
# Acts that go by steps

An act goes by steps from a session when the session it leaves is reached by steps, whatever tasks are
under way. Acts that go by steps can be put together; here are the ways in which the operations of a
session do so.

* `Act.Goes`, `Attempt.Goes`: an operation goes by steps.
* `Act.Moves`: an act goes by steps that change what is under way.
* `Act.Goes.bind`, `Attempt.Goes.bind`: one after another.
-/

namespace FrameHost

variable {scope : Scope} {α β : Type} {s : Session}

namespace Act

/-- The session that an act leaves. -/
def after (m : Act α) (s : Session) : Session := (m.run s).run.2

/-- What an act answers. -/
def result (m : Act α) (s : Session) : α := (m.run s).run.1

theorem after_bind {m : Act α} {f : α → Act β} :
    after (m >>= f) s = after (f (result m s)) (after m s) := rfl

theorem result_bind {m : Act α} {f : α → Act β} :
    result (m >>= f) s = result (f (result m s)) (after m s) := rfl

/-- The act goes by steps from a session. -/
structure Goes (scope : Scope) (m : Act α) (s : Session) : Prop where
  steps : ∀ tasks, Steps scope (s.stage tasks) ((after m s).stage tasks)

/-- An act that leaves every stage as it is. -/
theorem Goes.still {m : Act α} (h : ∀ tasks, (after m s).stage tasks = s.stage tasks) :
    Goes scope m s := ⟨fun tasks => by rw [h tasks]⟩

/-- An act that is one step. -/
theorem Goes.step {m : Act α}
    (h : ∀ tasks, Step scope (s.stage tasks) ((after m s).stage tasks)) : Goes scope m s :=
  ⟨fun tasks => .single (h tasks)⟩

theorem Goes.pure (a : α) : Goes scope (pure a) s := ⟨fun _ => .refl⟩

theorem Goes.bind {m : Act α} {f : α → Act β} (hm : Goes scope m s)
    (hf : Goes scope (f (result m s)) (after m s)) : Goes scope (m >>= f) s :=
  ⟨fun tasks => (hm.steps tasks).trans (hf.steps tasks)⟩

/-- One act after another, where it does not matter what the first one answers. -/
theorem Goes.then {m : Act α} {f : α → Act β} (hm : Goes scope m s)
    (hf : ∀ a s, Goes scope (f a) s) : Goes scope (m >>= f) s := hm.bind (hf _ _)

/-- Nothing that happened is forgotten. -/
theorem Goes.journal_suffix {m : Act α} (h : Goes scope m s) : s.journal <:+ (after m s).journal :=
  (h.steps []).journal_suffix

/-- Steps by which an act goes take some tasks up or put some down. -/
def Moves (scope : Scope) (m : Act α) (s : Session) (tasks tasks' : List Task) : Prop :=
  Steps scope (s.stage tasks) ((after m s).stage tasks')

theorem Moves.step {m : Act α} {tasks tasks' : List Task}
    (h : Step scope (s.stage tasks) ((after m s).stage tasks')) : Moves scope m s tasks tasks' := .single h

theorem Goes.moves {m : Act α} (h : Goes scope m s) (tasks : List Task) : Moves scope m s tasks tasks :=
  h.steps tasks

theorem Moves.bind {m : Act α} {f : α → Act β} {tasks tasks' tasks'' : List Task}
    (hm : Moves scope m s tasks tasks') (hf : Moves scope (f (result m s)) (after m s) tasks' tasks'') :
    Moves scope (m >>= f) s tasks tasks'' := Relation.ReflTransGen.trans hm hf

theorem Moves.lift {m : Act α} {tasks tasks' : List Task} (hm : Moves scope m s tasks tasks') :
    Moves scope (liftM m : Attempt α).run s tasks tasks' := hm

/-- Two acts that are one step, and what comes after them. -/
theorem Moves.bindBoth {m m' : Act Unit} {f : Act β} {tasks tasks' tasks'' : List Task}
    (h : Step scope (s.stage tasks) ((after m' (after m s)).stage tasks'))
    (hf : Moves scope f (after m' (after m s)) tasks' tasks'') :
    Moves scope (m >>= fun _ => m' >>= fun _ => f) s tasks tasks'' := Relation.ReflTransGen.head h hf

theorem Goes.map {m : Act α} (f : α → β) (hm : Goes scope m s) : Goes scope (f <$> m) s :=
  ⟨hm.steps⟩

theorem Goes.forM {f : α → Act Unit} (hf : ∀ a s, Goes scope (f a) s) (l : List α) :
    Goes scope (l.forM f) s := by
  induction l generalizing s with
  | nil => exact .pure _
  | cons a l ih => exact (hf a s).bind ih

end Act

namespace Attempt

/-- The operation goes by steps from a session, whether it ends in a fault or not. -/
structure Goes (scope : Scope) (m : Attempt α) (s : Session) : Prop where
  run : Act.Goes scope m.run s

theorem Goes.pure (a : α) : Goes scope (pure a) s := ⟨.pure _⟩

theorem Goes.throw (e : Fault) : Goes scope (throw e : Attempt α) s := ⟨.pure _⟩

theorem Goes.lift {m : Act α} (hm : Act.Goes scope m s) : Goes scope (liftM m) s := ⟨hm.map _⟩

theorem Goes.bind {m : Attempt α} {f : α → Attempt β} (hm : Goes scope m s)
    (hf : ∀ a, Act.result m.run s = .ok a → Goes scope (f a) (Act.after m.run s)) :
    Goes scope (m >>= f) s := by
  constructor
  change Act.Goes scope (m.run >>= ExceptT.bindCont f) s
  refine hm.run.bind ?_
  cases h : Act.result m.run s with
  | error e => exact .pure _
  | ok a => exact (hf a h).run

/-- One operation after another, where it does not matter what the first one answers. -/
theorem Goes.then {m : Attempt α} {f : α → Attempt β} (hm : Goes scope m s)
    (hf : ∀ a s, Goes scope (f a) s) : Goes scope (m >>= f) s := hm.bind fun a _ => hf a _

/-- Two acts that go by steps together, and what comes after them. -/
theorem Goes.liftBoth {m : Act Unit} {m' : Act α} {f : α → Attempt β}
    (hm : Act.Goes scope (do m; m') s) (hf : ∀ a s, Goes scope (f a) s) :
    Goes scope (do m; let a ← m'; f a) s :=
  ⟨(Act.Goes.bind hm (hf _ _).run : Act.Goes scope ((do m; m') >>= fun a => (f a).run) s)⟩

theorem Goes.forM {f : α → Attempt Unit} (hf : ∀ a s, Goes scope (f a) s) (l : List α) :
    Goes scope (l.forM f) s := by
  induction l generalizing s with
  | nil => exact .pure _
  | cons a l ih => exact (hf a s).bind fun _ _ => ih

theorem Goes.foldlM {f : β → α → Attempt β} (hf : ∀ b a s, Goes scope (f b a) s) (l : List α)
    (b : β) : Goes scope (l.foldlM f b) s := by
  induction l generalizing b s with
  | nil => exact .pure _
  | cons a l ih =>
    rw [List.foldlM_cons]
    exact (hf b a s).bind fun b _ => ih b

/-- One operation after another, in steps that change what is under way. -/
theorem Moves.bind {m : Attempt α} {f : α → Attempt β} {tasks tasks' : List Task}
    (hm : Act.Moves scope m.run s tasks tasks')
    (hf : ∀ a, Act.result m.run s = .ok a →
      Act.Moves scope (f a).run (Act.after m.run s) tasks' tasks') :
    Act.Moves scope (m >>= f).run s tasks tasks' := by
  change Act.Moves scope (m.run >>= ExceptT.bindCont f) s tasks tasks'
  refine Act.Moves.bind hm ?_
  cases h : Act.result m.run s with
  | error e => exact .refl
  | ok a => exact hf a h

theorem Goes.attempt (x : Except Fault α) : Goes scope (Session.attempt x) s := ⟨.pure _⟩

end Attempt

namespace Session

open Act

theorem say_goes (source : String) (tag : LogTag) (category message : String) :
    Goes scope (say source tag category message) s := ⟨fun _ => .refl⟩

theorem raise?_after (fault : Option Fault) (s : Session) : after (raise? fault).run s = s := by
  cases fault <;> rfl

theorem raise?_goes (fault : Option Fault) (s : Session) : Attempt.Goes scope (raise? fault) s :=
  ⟨.still fun _ => by rw [raise?_after]⟩

theorem after_currentHost_bind {f : Host → Act α} :
    after (currentHost >>= f) s = after (f s.host) s := rfl

theorem result_currentHost_bind {f : Host → Act α} :
    result (currentHost >>= f) s = result (f s.host) s := rfl

theorem run_currentHost_bind {f : Host → Act α} :
    (currentHost >>= f).run s = (f s.host).run s := rfl

theorem after_registry_bind {f : Registry → Act α} :
    after (registry >>= f) s = after (f s.host.registry) s := rfl

theorem result_registry_bind {f : Registry → Act α} :
    result (registry >>= f) s = result (f s.host.registry) s := rfl

theorem after_lift_bind {m : Act α} {f : α → Attempt β} :
    after ((liftM m : Attempt α) >>= f).run s = after (f (result m s)).run (after m s) := rfl

theorem result_lift_bind {m : Act α} {f : α → Attempt β} :
    result ((liftM m : Attempt α) >>= f).run s = result (f (result m s)).run (after m s) := rfl

theorem run_lift_bind {m : Act α} {f : α → Attempt β} :
    ((liftM m : Attempt α) >>= f).run.run s = (f (result m s)).run.run (after m s) := rfl

/-- What is answered in the end does not change what is left. -/
theorem after_bind_pure {m : Attempt α} {g : α → β} :
    after (m >>= fun a => pure (g a) : Attempt β).run s = after m.run s := by
  change after (ExceptT.bindCont (fun a => pure (g a)) (result m.run s) : Act _) (after m.run s) = _
  cases result m.run s <;> rfl

theorem result_bind_pure {m : Attempt α} {g : α → β} :
    result (m >>= fun a => pure (g a) : Attempt β).run s = (result m.run s).map g := by
  change result (ExceptT.bindCont (fun a => pure (g a)) (result m.run s) : Act _) (after m.run s) = _
  cases result m.run s <;> rfl

theorem after_forM_record (f : α → Moment) (l : List α) (s : Session) :
    after (l.forM fun a => record (f a)) s =
      { s with journal := (l.map f).reverse ++ s.journal } := by
  induction l generalizing s with
  | nil => rfl
  | cons a l ih =>
    have h := ih (after (record (f a)) s)
    rw [List.map_cons, List.reverse_cons, List.append_assoc]
    exact h

theorem onLog_goes (f : Log → Log) : Goes scope (onLog f) s := ⟨fun _ => .refl⟩

theorem sayNotes_goes (source : String) (notes : List LoadNote) :
    Goes scope (sayNotes source notes) s :=
  Goes.forM (fun _ _ => say_goes ..) notes

end Session

end FrameHost
