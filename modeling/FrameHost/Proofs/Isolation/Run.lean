import FrameHost.Proofs.Isolation.Command
import FrameHost.Proofs.Step.Run

/-!
# Runs and errors

Two runs carry out the same commands, where the callbacks of the second one do the same but raise no
errors. As long as the first one has no error handler to be told of an error, and none of its updates fails,
the two come to the same, but for how many errors there were and what the log says.

* `Script.calm`: the same script without errors.
* `runCallback_twin`: a callback with what it does in turn.
* `Session.errors_contained`: the two runs.
-/

namespace FrameHost

/-- The same script, but its callbacks raise no errors. -/
def Script.calm (script : Script) : Script := fun callback count args =>
  { script callback count args with raises := none }

theorem Call.bareAll_append (cs ds : List Call) :
    Call.bareAll (cs ++ ds) = Call.bareAll cs ++ Call.bareAll ds := by
  induction cs with
  | nil => rfl
  | cons c cs ih => exact congrArg (c.bare :: ·) ih

theorem Answer.bare_of_hush {c : Command} {a a' : Answer} (h : a'.hush c = a.hush c) :
    a'.bare = a.bare := by
  cases a
  cases a'
  exact congrArg (Answer.mk _) (Answer.mk.inj h).2

namespace Session

open Act

/-- Answers to the same commands that are the same but for what they tell of errors. -/
structure SameAnswers (cs : List Command) (as as' : List Answer) : Prop where
  hush : cs.zipWith Answer.hush as' = cs.zipWith Answer.hush as
  bare : Answer.bareAll as' = Answer.bareAll as

theorem answerAll_twin {call call' : Caller}
    (hcall : ∀ callback args, Act.Twin Milder (call callback args) (call' callback args))
    (cs : List Command) :
    Act.Twin (SameAnswers cs) (answerAll call cs) (answerAll call' cs) := by
  induction cs with
  | nil => exact .answer ⟨rfl, rfl⟩
  | cons c cs ih =>
    unfold answerAll
    refine (answer_twin hcall c).bindBy (fun _ => rfl) fun a a' ha => ?_
    refine ih.bindBy (fun _ => ⟨rfl, rfl⟩) fun as as' has => ?_
    exact .answer ⟨congrArg₂ List.cons ha has.hush,
      congrArg₂ List.cons (Answer.bare_of_hush ha) has.bare⟩

theorem countRun_twin (callback : String) :
    Act.Twin Eq (countRun callback) (countRun callback) where
  grows _ := List.suffix_refl _
  follows _ _ hs _ := by
    cases hs with
    | mk hshared hcalls hjournal => exact ⟨rfl, .mk hshared hcalls hjournal⟩

/-- **A callback does the same without its error**, and so do the callbacks that it runs, by induction on
how deep they may be nested. -/
theorem runCallback_twin (script : Script) (depth : Nat) (callback : String) (args : List Value) :
    Act.Twin Milder (runCallback script depth callback args)
      (runCallback script.calm depth callback args) := by
  induction depth generalizing callback args with
  | zero => exact .answer (.inr rfl)
  | succ depth ih =>
    refine currentHost_bind_twin fun h errors => ?_
    have began : Moment.hush (.called callback args { h with errors }) =
      Moment.hush (.called callback args h) := rfl
    refine (record_twin began).bind fun _ => (countRun_twin callback).bind fun count => ?_
    refine (answerAll_twin ih _).bindBy (fun _ => ⟨rfl, rfl⟩) fun as as' has => ?_
    have called : Act.Twin Eq
        (modify fun s => { s with calls := s.calls ++
          [.mk callback args as (script callback count args).raises] } : Act Unit)
        (modify fun s => { s with calls := s.calls ++ [.mk callback args as' none] }) := by
      refine .modify (fun _ => List.suffix_refl _) fun s _ hs => ?_
      cases hs with
      | mk hshared hcalls hjournal =>
        refine .mk hshared ?_ hjournal
        rw [Call.bareAll_append, Call.bareAll_append, hcalls]
        exact congrArg (fun as => _ ++ [Call.mk callback args as none]) has.bare
    have ended (raised : Option String) : Moment.hush (.returned callback none) =
      Moment.hush (.returned callback raised) := rfl
    exact called.bind fun _ => (record_twin (ended _)).bind fun _ => .answer (.inl rfl)

/-- **Errors in callbacks are contained.** Two runs carry out the same commands from the same session, and
the callbacks of the second one raise no errors. If errors have no say in the first run, the second one
leaves the same behind but for errors and the log: the same host, the same callbacks run with the same
values in the same order, and the same answers. -/
theorem errors_contained (script : Script) (depth : Nat) (cs : List Command) (s : Session)
    (hcalm : Calm (after (answerAll (runCallback script depth) cs) s).journal) :
    (after (answerAll (runCallback script.calm depth) cs) s).hush =
        (after (answerAll (runCallback script depth) cs) s).hush ∧
      cs.zipWith Answer.hush (result (answerAll (runCallback script.calm depth) cs) s) =
        cs.zipWith Answer.hush (result (answerAll (runCallback script depth) cs) s) := by
  obtain ⟨has, hs⟩ :=
    (answerAll_twin (runCallback_twin script depth) cs).follows s s (.refl s) hcalm
  exact ⟨hs.hush, has.hush⟩

/-- A listener, its hook and a ticker raise errors. -/
theorem errors_contained_runRootless :
    let script : Script := fun callback _ _ =>
      { steps := if callback = "listener" then [.event (.enqueue "ZONE_CHANGED" [])] else []
        raises := some callback }
    let cs : List Command :=
      [.frame (.create (.str "Frame") .null .none .null .null),
        .frame (.act (some 1) (.registerEvent "BAG_UPDATE")),
        .frame (.slot (some 1) (.setScript (.str "OnEvent") (.callback "listener"))),
        .frame (.slot (some 1) (.hookScript (.str "OnEvent") (.callback "hook"))),
        .timer (.startTicker (.float 1.0) (.callback "ticker") .null),
        .event (.fire "BAG_UPDATE" []),
        .timer (.tick (.float 1.0))]
    Calm (runRootless script cs).journal ∧
      (runRootless script cs).host.errors = 3 ∧ (runRootless script.calm cs).host.errors = 0 ∧
        (runRootless script.calm cs).hush = (runRootless script cs).hush := by
  intro script cs
  have hcalm : Calm (runRootless script cs).journal := by decide +kernel
  exact ⟨hcalm, by decide +kernel, by decide +kernel,
    (errors_contained script depthLimit cs _ hcalm).1⟩

end Session

end FrameHost
