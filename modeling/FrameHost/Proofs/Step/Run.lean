import FrameHost.Proofs.Step.Command

/-!
# Runs go by steps

A run sets a session up and then carries out commands, while the script says what its callbacks do.
`Session.Ran` is what a run comes to; callbacks may be nested to any depth, and beyond a bound on it they
raise an error. In `Session.RanWithin` callbacks keep to a scope.

* `Session.RanWithin.steps`: a run is a sequence of steps from a host that has nothing but its clock.
* `Session.Amid`: a session in the middle of a run.
* `Session.Amid.past`: what every step keeps holds whenever the host is met.
-/

namespace FrameHost.Session

open Act

variable {scope : Scope} {raw : Bool} {s : Session}

/-! ## Callbacks -/

/-- What carrying a command out leaves: what the command does, and that it was answered. -/
theorem after_answer (call : Caller) (c : Command) (s : Session) : after (answer call c) s =
    { after (perform call c).run { s with calls := [] } with
      calls := s.calls
      journal := .answered c (result (perform call c).run { s with calls := [] })
        (after (perform call c).run { s with calls := [] }).host ::
          (after (perform call c).run { s with calls := [] }).journal } := rfl

theorem answerAll_moves {call : Caller}
    (hcall : ∀ callback args s, Goes scope (call callback args) s) (cs : List Command) (s : Session)
    {tasks : List Task} (hcs : ∀ c ∈ cs, c.Free scope tasks) :
    Moves scope (answerAll call cs) s tasks tasks := by
  induction cs generalizing s with
  | nil => exact .refl
  | cons c cs ih =>
    refine (answer_moves hcall c s (hcs c List.mem_cons_self)).bind ?_
    exact (ih _ fun c h => hcs c (List.mem_cons_of_mem _ h)).bind .refl

/-- **What callbacks do goes by steps**, by induction on how deep they may be nested. -/
theorem runCallback_goes {script : Script}
    (hscript : ∀ callback count args, ∀ c ∈ (script callback count args).steps, c.within scope = true)
    (depth : Nat) (callback : String) (args : List Value) (s : Session) :
    Goes scope (runCallback script depth callback args) s := by
  induction depth generalizing callback args s with
  | zero => exact .pure _
  | succ depth ih =>
    refine currentHost_bind_goes ?_
    refine Goes.bind (.step fun _ => .called callback args ⟨rfl, rfl, rfl, rfl, rfl, rfl, rfl, rfl⟩) ?_
    refine Goes.bind (m := countRun callback) ⟨fun _ => .refl⟩ ?_
    refine Goes.then ⟨fun tasks => answerAll_moves ih _ _ fun c hc => ?_⟩ fun answers s => ?_
    · exact Command.free_of_within (hscript _ _ _ c hc) tasks
    refine Goes.bind ⟨fun _ => .refl⟩ ?_
    exact Goes.bind (.step fun _ => .returned callback _) (.pure _)

/-- What callbacks do goes by steps that are restricted only as their commands are. -/
theorem runCallback_goes_of_fits {script : Script}
    (hscript : ∀ callback count args, ∀ c ∈ (script callback count args).steps, c.fits raw = true)
    (depth : Nat) (callback : String) (args : List Value) (s : Session) :
    Goes raw (runCallback script depth callback args) s :=
  runCallback_goes (fun callback count args c hc => Command.within_of_fits (hscript callback count args c hc))
    depth callback args s

/-! ## Runs -/

/-- What a run comes to that begins with setting a session up and goes on with commands. Unless it is
raw, all links between frames are left to the host. -/
inductive Ran (raw : Bool) : Session → Prop
  | intro (logging : Option Value) (origin : Origin)
      (hok : result (start logging origin).run {} = .ok ())
      (script : Script)
      (hscript : ∀ callback count args, ∀ c ∈ (script callback count args).steps,
        c.fits raw = true)
      (depth : Nat) (cs : List Command) (hcs : ∀ c ∈ cs, c.fits raw = true) :
      Ran raw (after (answerAll (runCallback script depth) cs)
        (after (start logging origin).run {}))

/-- What a run comes to in which callbacks keep to a scope; the caller need only do so with regard to links
between frames. -/
inductive RanWithin (scope : Scope) : Session → Prop
  | intro (logging : Option Value) (origin : Origin)
      (hok : result (start logging origin).run {} = .ok ())
      (script : Script)
      (hscript : ∀ callback count args, ∀ c ∈ (script callback count args).steps,
        c.within scope = true)
      (depth : Nat) (cs : List Command) (hcs : ∀ c ∈ cs, c.fits scope.raw = true) :
      RanWithin scope (after (answerAll (runCallback script depth) cs)
        (after (start logging origin).run {}))

theorem Ran.within (h : Ran raw s) : RanWithin raw s := by
  cases h with
  | intro logging origin hok script hscript depth cs hcs =>
    refine .intro logging origin hok script (fun callback count args c hc => ?_) depth cs hcs
    exact Command.within_of_fits (hscript callback count args c hc)

/-- A host without a root frame. -/
def rootless : Origin := .planned { config := some (.map [(.str "create_ui_parent", .bool false)]) }

theorem start_rootless : result (start none rootless).run {} = .ok () := rfl

/-- What a run comes to that carries out commands on a host without a root frame. -/
def runRootless (script : Script) (cs : List Command) : Session :=
  after (answerAll (caller script) cs) (after (start none rootless).run {})

theorem ranWithin_runRootless {script : Script}
    (hscript : ∀ callback count args, ∀ c ∈ (script callback count args).steps, c.within scope = true)
    {cs : List Command} (hcs : ∀ c ∈ cs, c.fits scope.raw = true) :
    RanWithin scope (runRootless script cs) :=
  .intro none rootless start_rootless script hscript depthLimit cs hcs

theorem ran_runRootless {script : Script}
    (hscript : ∀ callback count args, ∀ c ∈ (script callback count args).steps, c.fits raw = true)
    {cs : List Command} (hcs : ∀ c ∈ cs, c.fits raw = true) : Ran raw (runRootless script cs) :=
  .intro none rootless start_rootless script hscript depthLimit cs hcs

/-- Callbacks that do nothing. -/
def idle : Script := fun _ _ _ => {}

theorem ran_idle {cs : List Command} (hcs : ∀ c ∈ cs, c.fits raw = true) :
    Ran raw (runRootless idle cs) := ran_runRootless (fun _ _ _ _ h => by cases h) hcs

/-- The last command is carried out where the others lead. -/
theorem runRootless_concat {script : Script} (cs : List Command) (c : Command) :
    runRootless script (cs ++ [c]) = after (answer (caller script) c) (runRootless script cs) := by
  have concat (s : Session) : after (answerAll (caller script) (cs ++ [c])) s =
      after (answer (caller script) c) (after (answerAll (caller script) cs) s) := by
    induction cs generalizing s with
    | nil => rfl
    | cons c' cs ih => exact ih _
  exact concat _

/-- **A run is a sequence of steps from a host that has nothing but its clock.** -/
theorem RanWithin.steps (h : RanWithin scope s) : ∃ clock, Steps scope { clock } (s.stage []) := by
  cases h with
  | intro logging origin hok script hscript depth cs hcs =>
    obtain ⟨clock, hstart⟩ := start_steps hok
    refine ⟨clock, hstart.trans ?_⟩
    exact answerAll_moves (runCallback_goes hscript depth) cs _ fun c hc =>
      Command.free_of_fits (hcs c hc)

theorem Ran.steps (h : Ran raw s) : ∃ clock, Steps raw { clock } (s.stage []) := h.within.steps

/-- A session in the middle of a run: steps lead to it, whatever is under way. -/
structure Amid (scope : Scope) (s : Session) : Prop where
  steps : ∃ clock tasks, Steps scope { clock } (s.stage tasks)

theorem RanWithin.amid (h : RanWithin scope s) : Amid scope s := by
  obtain ⟨clock, h⟩ := h.steps
  exact ⟨clock, [], h⟩

/-- A run goes on from its middle. -/
theorem Amid.goes {α : Type} {m : Act α} (h : Amid scope s) (hm : Goes scope m s) :
    Amid scope (after m s) := by
  obtain ⟨clock, tasks, h⟩ := h.steps
  exact ⟨clock, tasks, h.trans (hm.steps tasks)⟩

/-- **What every step keeps holds in the middle of a run.** -/
theorem Amid.keep {I : Stage → Prop} (h : Amid scope s) (hfresh : ∀ clock, I { clock })
    (hstep : ∀ σ τ, Step scope σ τ → I σ → I τ) : ∃ tasks, I (s.stage tasks) := by
  obtain ⟨clock, tasks, h⟩ := h.steps
  exact ⟨tasks, h.keep hstep (hfresh clock)⟩

/-- A host that a run comes through, and what had happened by then: as it is at the end, as a callback
finds it, or as a command of the caller or of a callback leaves it. -/
inductive Past (s : Session) : List Moment → Host → Prop
  | last : Past s s.journal s.host
  | before {m : Moment} {earlier : List Moment} {host : Host} (hm : m :: earlier <:+ s.journal)
      (hh : m.host? = some host) : Past s earlier host

/-- A host that a run comes through. -/
inductive Met (s : Session) : Host → Prop
  | last : Met s s.host
  | before {m : Moment} {host : Host} (hm : m ∈ s.journal) (hh : m.host? = some host) : Met s host

theorem Met.past {host : Host} (h : s.Met host) : ∃ journal, s.Past journal host := by
  cases h with
  | last => exact ⟨_, .last⟩
  | before hm hh =>
    obtain ⟨later, earlier, hj⟩ := List.mem_iff_append.1 hm
    exact ⟨earlier, .before ⟨later, hj.symm⟩ hh⟩

/-- **What every step keeps, every host has that a run comes through**, given what had happened. -/
theorem Amid.past {I : Stage → Prop} {P : List Moment → Host → Prop}
    (hfresh : ∀ clock, I { clock }) (hstep : ∀ σ τ, Step scope σ τ → I σ → I τ)
    (hP : ∀ σ host, σ.Shows host → I σ → P σ.journal host)
    (h : Amid scope s) {journal : List Moment} {host : Host} (hp : s.Past journal host) :
    P journal host := by
  obtain ⟨clock, tasks, hsteps⟩ := h.steps
  have fresh : I { clock } ∧ ∀ m earlier, m :: earlier <:+ ([] : List Moment) →
      ∀ host, m.host? = some host → P earlier host :=
    ⟨hfresh clock, fun m earlier hm => by cases List.suffix_nil.1 hm⟩
  have kept := hsteps.keep
    (P := fun σ => I σ ∧ ∀ m earlier, m :: earlier <:+ σ.journal →
      ∀ host, m.host? = some host → P earlier host)
    (fun σ τ hστ hσ =>
      ⟨hstep σ τ hστ hσ.1, hστ.noted (fun host hs => hP σ host hs hσ.1) hσ.2⟩) fresh
  cases hp with
  | last => exact hP _ _ ⟨rfl, rfl, rfl, rfl, rfl, rfl, rfl, rfl⟩ kept.1
  | before hm hh => exact kept.2 _ _ hm _ hh

theorem RanWithin.past {I : Stage → Prop} {P : List Moment → Host → Prop}
    (hfresh : ∀ clock, I { clock }) (hstep : ∀ σ τ, Step scope σ τ → I σ → I τ)
    (hP : ∀ σ host, σ.Shows host → I σ → P σ.journal host)
    (h : s.RanWithin scope) {journal : List Moment} {host : Host} (hp : s.Past journal host) :
    P journal host := h.amid.past hfresh hstep hP hp

theorem Ran.past {I : Stage → Prop} {P : List Moment → Host → Prop} (hfresh : ∀ clock, I { clock })
    (hstep : ∀ σ τ, Step raw σ τ → I σ → I τ)
    (hP : ∀ σ host, σ.Shows host → I σ → P σ.journal host)
    (h : s.Ran raw) {journal : List Moment} {host : Host} (hp : s.Past journal host) :
    P journal host := h.within.past hfresh hstep hP hp

theorem Ran.met {I : Stage → Prop} {P : Host → Prop} (hfresh : ∀ clock, I { clock })
    (hstep : ∀ σ τ, Step raw σ τ → I σ → I τ) (hP : ∀ σ host, σ.Shows host → I σ → P host)
    (h : s.Ran raw) {host : Host} (hm : s.Met host) : P host := by
  obtain ⟨journal, hp⟩ := hm.past
  exact h.past (P := fun _ => P) hfresh hstep hP hp

end FrameHost.Session
