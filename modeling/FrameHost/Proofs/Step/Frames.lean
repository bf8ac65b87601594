import FrameHost.Proofs.Step.Dispatch

/-!
# Frame operations go by steps

A frame is made in one step, and every action on a frame is a few steps with the callbacks that it
tells in between.

* `create_goes`: making a frame.
* `frameAction_goes`: asking a frame or changing it.
-/

namespace FrameHost

variable {scope : Scope} {α β : Type} {s : Session}

/-! ## Operations that change nothing but the log and the catalog -/

namespace Attempt

/-- The operation leaves every stage as it is, and what it answers has a property. -/
structure Yields (m : Attempt α) (s : Session) (Q : α → Prop) : Prop where
  still : ∀ tasks, (Act.after m.run s).stage tasks = s.stage tasks
  answer : ∀ a, Act.result m.run s = .ok a → Q a

variable {Q : α → Prop} {Q' : β → Prop}

theorem Yields.goes {m : Attempt α} (h : Yields m s Q) : Goes scope m s := ⟨.still h.still⟩

theorem Yields.pure {a : α} (h : Q a) : Yields (pure a) s Q :=
  ⟨fun _ => rfl, fun b hb => by cases hb; exact h⟩

theorem Yields.throw (e : Fault) : Yields (throw e : Attempt α) s Q :=
  ⟨fun _ => rfl, fun _ hb => by cases hb⟩

theorem Yields.lift {m : Act α} (h : ∀ tasks, (Act.after m s).stage tasks = s.stage tasks)
    (hQ : Q (Act.result m s)) : Yields (liftM m) s Q :=
  ⟨h, fun b hb => by cases hb; exact hQ⟩

theorem Yields.bind {m : Attempt α} {f : α → Attempt β} (hm : Yields m s Q)
    (hf : ∀ a s, Q a → Yields (f a) s Q') : Yields (m >>= f) s Q' := by
  have hrun : ∀ s, (m >>= f).run s = (m.run >>= ExceptT.bindCont f) s := fun _ => rfl
  constructor
  · intro tasks
    rw [← hm.still tasks]
    change (Act.after (ExceptT.bindCont f (Act.result m.run s)) (Act.after m.run s)).stage tasks = _
    cases h : Act.result m.run s with
    | error e => rfl
    | ok a => exact (hf a _ (hm.answer a h)).still tasks
  · intro b hb
    change Act.result (ExceptT.bindCont f (Act.result m.run s)) (Act.after m.run s) = _ at hb
    cases h : Act.result m.run s with
    | error e => rw [h] at hb; cases hb
    | ok a => rw [h] at hb; exact (hf a _ (hm.answer a h)).answer b hb

/-- One operation after another, where it does not matter what the first one answers. -/
theorem Yields.then {m : Attempt α} {f : α → Attempt β} (hm : Yields m s fun _ => True)
    (hf : ∀ a s, Yields (f a) s Q') : Yields (m >>= f) s Q' := hm.bind fun a s _ => hf a s

/-- An act that leaves every stage as it is, in an operation that does the same. -/
theorem Yields.still_then {m : Act α} {f : α → Attempt β}
    (h : ∀ tasks, (Act.after m s).stage tasks = s.stage tasks)
    (hf : ∀ a s, Yields (f a) s Q') : Yields (liftM m >>= f) s Q' :=
  (Yields.lift h trivial).then hf

theorem Yields.attempt {x : Except Fault α} (h : ∀ a, x = .ok a → Q a) :
    Yields (Session.attempt x) s Q := ⟨fun _ => rfl, h⟩

theorem Yields.foldlM {f : α → β → Attempt α} (hf : ∀ a b s, Q a → Yields (f a b) s Q)
    (l : List β) {a : α} (ha : Q a) : Yields (l.foldlM f a) s Q := by
  induction l generalizing a s with
  | nil => exact .pure ha
  | cons b l ih =>
    rw [List.foldlM_cons]
    exact (hf a b s ha).bind fun a s ha => ih ha

end Attempt

namespace Session

open Act

/-! ## Creating frames -/

theorem sayMoved_after (id : FrameId) (f : Frame) (s : Session) :
    ∃ log, after (sayMoved id f) s = { s with log } := by
  unfold sayMoved
  split
  · rw [after_registry_bind]
    split
    · exact ⟨_, rfl⟩
    · exact ⟨s.log, rfl⟩
  · exact ⟨s.log, rfl⟩

/-- Taking a frame in under an id changes the frames and the log. -/
theorem enroll_after (id : FrameId) (f : Frame) (s : Session) :
    ∃ log, after (enroll id f) s =
      { s with log, host := { s.host with registry := s.host.registry.enroll id f } } := by
  obtain ⟨log, h⟩ := sayMoved_after id f s
  have h : after (enroll id f) s = after (sayRegistered id f)
      (after (onRegistry fun r => r.enroll id f) { s with log }) := h ▸ rfl
  exact ⟨_, h⟩

/-- Taking a frame in changes the frames, the log, and perhaps the last id. -/
theorem register_after (wanted : FrameId) (f : Frame) (s : Session) :
    ∃ id last log, s.host.registry.Granted s.lastId wanted id last ∧
      result (register wanted f) s = id ∧
      after (register wanted f) s =
        { s with
          log, lastId := last
          host := { s.host with registry := s.host.registry.enroll id f } } := by
  cases hc : s.host.registry.contains wanted with
  | false =>
    obtain ⟨log, h⟩ := enroll_after wanted f s
    refine ⟨wanted, s.lastId, log, .asked hc, ?_, ?_⟩
    · unfold register
      rw [result_registry_bind, hc]
      rfl
    · unfold register
      rw [after_registry_bind, hc]
      exact h
  | true =>
    obtain ⟨log, h⟩ := enroll_after (s.lastId + 1) f (after (say "WidgetRegistry" .warn "registry"
      ("Widget id " ++ showInt wanted ++ " already taken, reassigned to " ++
        showInt (s.lastId + 1))) (after drawId s))
    refine ⟨s.lastId + 1, s.lastId + 1, log, .fresh hc, ?_, ?_⟩
    · unfold register
      rw [result_registry_bind, hc]
      rfl
    · unfold register
      rw [after_registry_bind, hc]
      exact h

theorem sayNotes_still (source : String) (notes : List LoadNote) (s : Session)
    (tasks : List Task) : (after (sayNotes source notes) s).stage tasks = s.stage tasks := by
  unfold sayNotes
  induction notes generalizing s with
  | nil => rfl
  | cons note notes ih => exact ih (after (say source note.tag "loading" note.text) s)

theorem templateInfo_yields (name : String) (s : Session) :
    Attempt.Yields (templateInfo name) s fun _ => True := by
  unfold templateInfo
  refine Attempt.Yields.still_then (fun _ => rfl) fun h s => ?_
  refine Attempt.Yields.still_then (fun _ => rfl) fun _ s => ?_
  refine Attempt.Yields.still_then (sayNotes_still _ _ s) fun _ s => ?_
  exact .attempt fun _ _ => trivial

theorem applyTemplate_yields (f g : Frame) (hg : f.Sized g) (name : String) (s : Session) :
    Attempt.Yields (applyTemplate g name) s f.Sized := by
  unfold applyTemplate
  refine (templateInfo_yields name s).bind fun info s _ => ?_
  obtain ⟨width, height, rfl⟩ := hg
  split
  · refine Attempt.Yields.still_then (fun _ => rfl) fun _ s => ?_
    exact .pure ⟨width, height, rfl⟩
  · exact .pure ⟨_, _, rfl⟩

theorem applyTemplates_yields (f : Frame) (template : Value) (s : Session) :
    Attempt.Yields (applyTemplates f template) s f.Sized := by
  have hf : f.Sized f := ⟨f.width, f.height, rfl⟩
  unfold applyTemplates
  refine Attempt.Yields.still_then (fun _ => rfl) fun h s => ?_
  split
  · exact .pure hf
  split
  · exact .foldlM (fun g name s hg => applyTemplate_yields f g hg name s) _ hf
  · exact .throw _

theorem nameFor_yields (name : Value) (parent : Option Frame) (s : Session) :
    Attempt.Yields (nameFor name parent) s fun _ => True := by
  unfold nameFor
  split
  · split
    · exact .pure trivial
    · refine Attempt.Yields.then (.attempt fun _ _ => trivial) fun _ s => ?_
      exact .pure trivial
  · split
    · refine Attempt.Yields.then (.attempt fun _ _ => trivial) fun _ s => ?_
      exact .throw _
    · exact .pure trivial

theorem setScript_goes (frame : Option FrameId) (handler callback : Value) (s : Session) :
    Goes scope (setScript frame handler callback) s := by
  unfold setScript
  split
  · exact currentHost_bind_goes ((say_goes _ _ _ _).then fun _ _ => .pure _)
  · exact .step fun _ => .primarySet _ _

theorem installScripts_goes (frame : FrameId) (scripts : Value) (s : Session) :
    Attempt.Goes scope (installScripts frame scripts) s := by
  unfold installScripts
  split
  · refine Attempt.Goes.forM (fun e s => ?_) _
    exact (Attempt.Goes.lift (setScript_goes _ _ _ _)).then fun _ _ => .pure _
  · split
    · exact .throw _
    · exact .pure _

theorem get?_of_above {r : Registry} {parent : Option FrameId} {p : FrameId} {g : Frame}
    (h : (parent.bind fun id => (r.at? parent).map fun f => (id, f)) = some (p, g)) :
    r.get? p = some g := by
  obtain ⟨id, rfl, h⟩ := Option.bind_eq_some_iff.1 h
  obtain ⟨f, hf, h⟩ := Option.map_eq_some_iff.1 h
  cases h
  exact hf

variable {call : Caller} (hcall : ∀ callback args s, Goes scope (call callback args) s)

/-- A frame is taken in, listed under its parent and noted, all in one step. -/
theorem register_then_goes {kind : WidgetType} {name : Option String}
    {above : Option (FrameId × Frame)} {wanted : FrameId} {f : Frame}
    {rest : FrameId → Attempt α} (hs : s.lastId = wanted)
    (ha : ∀ p g, above = some (p, g) → s.host.registry.get? p = some g)
    (hf : (blankFrame kind name above).Sized f)
    (hrest : ∀ id s, Attempt.Goes scope (rest id) s) :
    Attempt.Goes scope (do
      let id ← register wanted f
      if let some (p, _) := above then
        onRegistry fun r => r.addChild p id
      record (.created id (← registry))
      rest id) s := by
  subst hs
  obtain ⟨id, last, log, hg, hid, hafter⟩ := register_after s.lastId f s
  constructor
  constructor
  intro tasks
  cases above with
  | none =>
    change Steps scope _ ((after (rest (result (register _ f) s)).run
      (after (record (.created (result (register _ f) s) (after (register _ f) s).host.registry))
        (after (register _ f) s))).stage tasks)
    rw [hid, hafter]
    refine .head ?_ ((hrest id _).run.steps tasks)
    exact .created hg ha hf rfl
  | some pg =>
    obtain ⟨p, g⟩ := pg
    change Steps scope _ ((after (rest (result (register _ f) s)).run
      (after (record (.created (result (register _ f) s)
        ((after (register _ f) s).host.registry.addChild p (result (register _ f) s))))
        (after (onRegistry fun r => r.addChild p (result (register _ f) s))
          (after (register _ f) s)))).stage tasks)
    rw [hid, hafter]
    refine .head ?_ ((hrest id _).run.steps tasks)
    exact .created hg ha hf rfl

include hcall in
theorem create_goes (type name : Value) (parent : Option FrameId) (template scripts : Value)
    (s : Session) : Attempt.Goes scope (create call type name parent template scripts) s := by
  unfold create
  split
  · refine (Attempt.Goes.lift currentHost_goes).then fun _ s => ?_
    exact (Attempt.Goes.lift (say_goes _ _ _ _)).then fun _ _ => .pure _
  · rename_i kind _
    refine (Attempt.Goes.lift registry_goes).bind fun r hr => ?_
    have made (s : Session) (hs : s.host.registry = r) : Attempt.Goes scope (do
        let name ← nameFor name (r.at? parent)
        let wanted ← drawId
        let above := parent.bind fun id => (r.at? parent).map fun f => (id, f)
        let f ← applyTemplates (blankFrame kind name above) template
        let id ← register wanted f
        if let some (p, _) := above then
          onRegistry fun r => r.addChild p id
        record (.created id (← registry))
        installScripts id scripts
        let _ ← runSlot call ⟨id, .onLoad⟩ []
        say "FrameManager" .state "registry"
          ("Created " ++ kind.name ++ " " ++ (← currentHost).label id)
        return some id) s := by
      have named := nameFor_yields name (r.at? parent) s
      refine named.goes.bind fun proper _ => ?_
      refine Attempt.Goes.bind (.lift (.step fun _ => .drew)) fun wanted hw => ?_
      dsimp only
      have sized := applyTemplates_yields (blankFrame kind proper
        (parent.bind fun id => (r.at? parent).map fun f => (id, f))) template
        (after drawId (after (nameFor name (r.at? parent)).run s))
      refine Attempt.Goes.bind sized.goes fun f hf => ?_
      refine register_then_goes ?_ ?_ (sized.answer f hf) fun id s => ?_
      · cases hw
        exact congrArg Stage.lastId (sized.still [])
      · have h : _ = r := (congrArg Stage.registry (sized.still [])).trans
          ((congrArg Stage.registry (named.still [])).trans hs)
        exact fun p g hpg => (congrArg (Registry.get? · p) h).trans (get?_of_above hpg)
      · refine (installScripts_goes _ _ _).then fun _ s => ?_
        refine (Attempt.Goes.lift (runSlot_goes hcall _ _ _)).then fun _ s => ?_
        refine (Attempt.Goes.lift currentHost_goes).then fun _ s => ?_
        exact (Attempt.Goes.lift (say_goes _ _ _ _)).then fun _ s => .pure _
    cases hr
    dsimp only
    split
    · refine Attempt.Goes.bind (.lift (say_goes _ _ _ _)) fun _ _ => made _ rfl
    · exact made s rfl

end Session

end FrameHost
