import FrameHost.Proofs.Step.Act
import FrameHost.Run

/-!
# Sessions that differ in errors only

A session is hushed when all that tells of errors is taken out of it: how many there were, the lines of
the log, and which callbacks raised one. Two sessions are twins when they are the same once they are
hushed. Two acts are twins when they lead from twins to twins and answer the same, as long as nothing
happens that errors have a say in.

* `Session.hush`: what is left of a session.
* `Calm`: errors have no say in what happened.
* `Session.Matches`: two sessions are the same once they are hushed.
* `Act.Twin`, `Attempt.Twin`: what two runs of an operation have in common.
* `Act.Twin.bind`, `Attempt.Twin.bind`: one after another.
-/

namespace FrameHost

/-! ## What is left without errors -/

mutual

/-- An answer without what it says: the callbacks that ran. -/
def Answer.bare : Answer → Answer
  | .mk _ calls => .mk (.ok (.value .null)) (Call.bareAll calls)

/-- A run of a callback without what it raised, and with bare answers. -/
def Call.bare : Call → Call
  | .mk callback args answers _ => .mk callback args (Answer.bareAll answers) none

/-- Some answers, each of them bare. -/
def Answer.bareAll : List Answer → List Answer
  | [] => []
  | a :: as => a.bare :: Answer.bareAll as

/-- Some runs of callbacks, each of them bare. -/
def Call.bareAll : List Call → List Call
  | [] => []
  | c :: cs => c.bare :: Call.bareAll cs

end

/-- Whether the answer of a command tells of errors: it says whether a callback raised one, or how many
there were. -/
def Command.tellsErrors : Command → Bool
  | .script (.invoke ..) | .script .errorCount => true
  | _ => false

/-- What a command answers, unless it tells of errors. -/
def Command.quiet (c : Command) (outcome : Except Fault Reply) : Except Fault Reply :=
  if c.tellsErrors then .ok (.value .null) else outcome

/-- An answer, unless it tells of errors, with the callbacks that ran. -/
def Answer.hush (c : Command) : Answer → Answer
  | .mk outcome calls => .mk (c.quiet outcome) (Call.bareAll calls)

/-- A host, but for how many errors there were. -/
def Host.hush (h : Host) : Host := { h with errors := 0 }

/-- The host that callers share, but for how many errors there were. -/
def Shared.hush : Shared → Shared
  | .other host => .other host.hush
  | shared => shared

/-- What happened, but for errors. -/
def Moment.hush : Moment → Moment
  | .called callback args seen => .called callback args seen.hush
  | .returned callback _ => .returned callback none
  | .answered c outcome seen => .answered c (c.quiet outcome) seen.hush
  | .invoked callback source _ handler => .invoked callback source none handler
  | m => m

/-- A session, but for errors and the lines of the log. -/
def Session.hush (s : Session) : Session :=
  { s with
    host := s.host.hush
    shared := s.shared.hush
    log := { s.log with lines := #[] }
    calls := Call.bareAll s.calls
    journal := s.journal.map Moment.hush }

/-- Whether errors have no say in what happens: a callback that raises one is no update of a frame, and
there is no handler to be told. -/
def Moment.isCalm : Moment → Bool
  | .updated _ _ failed => !failed
  | .invoked _ _ none _ => true
  | .invoked _ _ (some _) .null => true
  | .invoked _ _ (some _) _ => false
  | _ => true

theorem Moment.handler_of_isCalm {callback source text : String} {handler : Value}
    (h : isCalm (.invoked callback source (some text) handler) = true) : handler = .null := by
  cases handler <;> first | rfl | cases h

/-- Errors have no say in what happened. -/
def Calm (journal : List Moment) : Prop := ∀ m ∈ journal, m.isCalm = true

instance (journal : List Moment) : Decidable (Calm journal) :=
  inferInstanceAs (Decidable (∀ m ∈ journal, m.isCalm = true))

/-! ## Sessions that match -/

/-- Two sessions that are the same but for errors and the lines of the log. -/
inductive Session.Matches (s : Session) : Session → Prop
  | mk {errors : Nat} {shared : Shared} {lines : Array String} {calls : List Call}
      {journal : List Moment} (hshared : shared.hush = s.shared.hush)
      (hcalls : Call.bareAll calls = Call.bareAll s.calls)
      (hjournal : journal.map Moment.hush = s.journal.map Moment.hush) :
      Session.Matches s
        { s with
          host := { s.host with errors }
          shared, calls, journal
          log := { s.log with lines } }

theorem Session.Matches.refl (s : Session) : s.Matches s := .mk rfl rfl rfl

theorem Session.Matches.hush {s s' : Session} (h : s.Matches s') : s'.hush = s.hush := by
  cases h with
  | mk hshared hcalls hjournal =>
    unfold Session.hush
    rw [hshared, hcalls, hjournal]
    rfl

theorem Host.eq_of_hush {h h' : Host} (heq : h'.hush = h.hush) :
    ∃ errors, h' = { h with errors } := by
  refine ⟨h'.errors, ?_⟩
  calc h' = { h'.hush with errors := h'.errors } := rfl
    _ = { h.hush with errors := h'.errors } := by rw [heq]
    _ = { h with errors := h'.errors } := rfl

theorem Shared.eq_of_hush {shared shared' : Shared} (heq : shared'.hush = shared.hush) :
    shared' = shared ∨ ∃ host errors, shared = .other host ∧ shared' = .other { host with errors } := by
  cases shared with
  | none | current => cases shared' <;> first | exact .inl rfl | cases heq
  | other host =>
    cases shared' with
    | none | current => cases heq
    | other host' =>
      obtain ⟨errors, rfl⟩ := Host.eq_of_hush (Shared.other.inj heq)
      exact .inr ⟨host, errors, rfl, rfl⟩

theorem Calm.mono {earlier later : List Moment} (h : Calm later) (hs : earlier <:+ later) :
    Calm earlier := fun m hm => h m (hs.subset hm)

/-! ## Twins -/

variable {α β : Type}

namespace Act

/-- Two acts that lead from sessions that match to sessions that match, with answers in a relation, as long
as errors have no say. -/
structure Twin (Q : α → α → Prop) (m m' : Act α) : Prop where
  grows : ∀ s, s.journal <:+ (after m s).journal
  follows : ∀ s s', s.Matches s' → Calm (after m s).journal →
    Q (result m s) (result m' s') ∧ (after m s).Matches (after m' s')

namespace Twin

variable {Q : α → α → Prop} {R : β → β → Prop} {m m' : Act α} {f f' : α → Act β}

theorem mono {Q' : α → α → Prop} (hm : Twin Q m m') (hQ : ∀ a a', Q a a' → Q' a a') :
    Twin Q' m m' where
  grows := hm.grows
  follows s s' hs hcalm := (hm.follows s s' hs hcalm).imp_left (hQ _ _)

/-- One act after another, where the answers of the first need not be the same. -/
theorem bindBy (hm : Twin Q m m') (hQ : ∀ a, Q a a)
    (hf : ∀ a a', Q a a' → Twin R (f a) (f' a')) : Twin R (m >>= f) (m' >>= f') where
  grows s := (hm.grows s).trans ((hf _ _ (hQ (result m s))).grows (after m s))
  follows s s' hs hcalm := by
    have hlater := (hf _ _ (hQ (result m s))).grows (after m s)
    obtain ⟨hq, hs⟩ := hm.follows s s' hs (hcalm.mono hlater)
    exact (hf _ _ hq).follows _ _ hs hcalm

theorem bind (hm : Twin Eq m m') (hf : ∀ a, Twin R (f a) (f' a)) : Twin R (m >>= f) (m' >>= f') :=
  hm.bindBy (fun _ => rfl) fun a _ ha => ha ▸ hf a

/-- One act after another, where it does not matter what the first one answers. -/
theorem andThen {k k' : Act β} (hm : Twin Q m m') (hk : Twin R k k') :
    Twin R (m >>= fun _ => k) (m' >>= fun _ => k') :=
  (hm.mono fun _ _ _ => trivial : Twin (fun _ _ => True) m m').bindBy (fun _ => trivial)
    fun _ _ _ => hk

/-- An answer that is given without a change. -/
theorem answer {a a' : α} (h : Q a a') : Twin Q (pure a) (pure a') where
  grows _ := List.suffix_refl _
  follows _ _ hs _ := ⟨h, hs⟩

theorem pure (a : α) : Twin Eq (pure a) (pure a) := answer rfl

theorem forM {f f' : α → Act Unit} (hf : ∀ a, Twin Eq (f a) (f' a)) (l : List α) :
    Twin Eq (l.forM f) (l.forM f') := by
  induction l with
  | nil => exact .pure _
  | cons a l ih => exact (hf a).bind fun _ => ih

/-- A change of the session. -/
theorem modify {f f' : Session → Session} (hgrows : ∀ s, s.journal <:+ (f s).journal)
    (hf : ∀ s s', s.Matches s' → (f s).Matches (f' s')) :
    Twin Eq (modify f : Act Unit) (modify f') where
  grows := hgrows
  follows s s' hs _ := ⟨rfl, hf s s' hs⟩

/-- What is done with the session as it is. -/
theorem get_bind {f f' : Session → Act β} (hf : ∀ s s', s.Matches s' → Twin R (f s) (f' s')) :
    Twin R (get >>= f) (get >>= f') where
  grows s := (hf s s (.refl s)).grows s
  follows s s' hs hcalm := (hf s s' hs).follows s s' hs hcalm

end Twin

end Act

namespace Attempt

/-- Two operations that lead from sessions that match to sessions that match and end in the same way, as
long as errors have no say. -/
structure Twin (m m' : Attempt α) : Prop where
  run : Act.Twin Eq m.run m'.run

namespace Twin

variable {m m' : Attempt α} {f f' : α → Attempt β}

theorem bind (hm : Twin m m') (hf : ∀ a, Twin (f a) (f' a)) : Twin (m >>= f) (m' >>= f') := by
  constructor
  change Act.Twin Eq (m.run >>= ExceptT.bindCont f) (m'.run >>= ExceptT.bindCont f')
  refine hm.run.bind fun r => ?_
  cases r with
  | ok a => exact (hf a).run
  | error e => exact .pure _

theorem pure (a : α) : Twin (pure a) (pure a) := ⟨.pure _⟩

theorem throw (e : Fault) : Twin (throw e : Attempt α) (throw e) := ⟨.pure _⟩

theorem lift {m m' : Act α} (hm : Act.Twin Eq m m') :
    Twin (liftM m : Attempt α) (liftM m') := ⟨hm.bind fun _ => .pure _⟩

/-- A change of the session. -/
theorem modify {f f' : Session → Session} (hgrows : ∀ s, s.journal <:+ (f s).journal)
    (hf : ∀ s s', s.Matches s' → (f s).Matches (f' s')) :
    Twin (modify f : Attempt Unit) (modify f') := lift (.modify hgrows hf)

theorem attempt (x : Except Fault α) : Twin (Session.attempt x) (Session.attempt x) := ⟨.pure _⟩

theorem get_bind {f f' : Session → Attempt β} (hf : ∀ s s', s.Matches s' → Twin (f s) (f' s')) :
    Twin (get >>= f) (get >>= f') := by
  constructor
  change Act.Twin Eq ((get : Act Session) >>= fun s => (f s).run) (get >>= fun s => (f' s).run)
  exact .get_bind fun s s' hs => (hf s s' hs).run

theorem forM {f f' : α → Attempt Unit} (hf : ∀ a, Twin (f a) (f' a)) (l : List α) :
    Twin (l.forM f) (l.forM f') := by
  induction l with
  | nil => exact .pure _
  | cons a l ih => exact (hf a).bind fun _ => ih

theorem foldlM {f f' : β → α → Attempt β} (hf : ∀ b a, Twin (f b a) (f' b a)) (l : List α)
    (b : β) : Twin (l.foldlM f b) (l.foldlM f' b) := by
  induction l generalizing b with
  | nil => exact .pure _
  | cons a l ih =>
    rw [List.foldlM_cons, List.foldlM_cons]
    exact (hf b a).bind ih

theorem tryCatch {f f' : Fault → Attempt α} (hm : Twin m m') (hf : ∀ e, Twin (f e) (f' e)) :
    Twin (tryCatch m f) (tryCatch m' f') := by
  constructor
  change Act.Twin Eq (ExceptT.tryCatch m f) (ExceptT.tryCatch m' f')
  unfold ExceptT.tryCatch ExceptT.mk
  refine Act.Twin.bind hm.run fun r => ?_
  cases r with
  | ok a => exact .pure _
  | error e => exact (hf e).run

end Twin

end Attempt

/-! ## Elementary operations -/

namespace Session

open Act

variable {R : β → β → Prop}

theorem currentHost_bind_twin {f f' : Host → Act β}
    (hf : ∀ h errors, Act.Twin R (f h) (f' { h with errors })) :
    Act.Twin R (currentHost >>= f) (currentHost >>= f') where
  grows s := (hf s.host s.host.errors).grows s
  follows s s' hs hcalm := by
    cases hs with
    | mk hshared hcalls hjournal =>
      exact (hf s.host _).follows s _ (.mk hshared hcalls hjournal) hcalm

theorem lift_currentHost_bind_twin {f f' : Host → Attempt β}
    (hf : ∀ h errors, Attempt.Twin (f h) (f' { h with errors })) :
    Attempt.Twin ((liftM currentHost : Attempt Host) >>= f) (liftM currentHost >>= f') := by
  constructor
  change Act.Twin Eq (currentHost >>= fun h => (f h).run) (currentHost >>= fun h => (f' h).run)
  exact currentHost_bind_twin fun h errors => (hf h errors).run

theorem registry_twin : Act.Twin Eq registry registry where
  grows _ := List.suffix_refl _
  follows _ _ hs _ := by
    cases hs with
    | mk hshared hcalls hjournal => exact ⟨rfl, .mk hshared hcalls hjournal⟩

theorem onHost_twin {f f' : Host → Host}
    (hf : ∀ h errors, ∃ errors', f' { h with errors } = { f h with errors := errors' }) :
    Act.Twin Eq (onHost f) (onHost f') := by
  refine .modify (fun _ => List.suffix_refl _) fun s _ hs => ?_
  cases hs with
  | @mk errors shared lines calls journal hshared hcalls hjournal =>
    obtain ⟨errors', he⟩ := hf s.host errors
    dsimp only
    rw [he]
    exact .mk hshared hcalls hjournal

theorem onRegistry_twin (f : Registry → Registry) : Act.Twin Eq (onRegistry f) (onRegistry f) :=
  onHost_twin fun _ errors => ⟨errors, rfl⟩

theorem onScripts_twin (f : ScriptTable → ScriptTable) : Act.Twin Eq (onScripts f) (onScripts f) :=
  onHost_twin fun _ errors => ⟨errors, rfl⟩

theorem onTimers_twin (f : Timers → Timers) : Act.Twin Eq (onTimers f) (onTimers f) :=
  onHost_twin fun _ errors => ⟨errors, rfl⟩

theorem onLog_twin {f f' : Log → Log}
    (hf : ∀ log lines, ∃ lines', f' { log with lines } = { f log with lines := lines' }) :
    Act.Twin Eq (onLog f) (onLog f') := by
  refine .modify (fun _ => List.suffix_refl _) fun s _ hs => ?_
  cases hs with
  | @mk errors shared lines calls journal hshared hcalls hjournal =>
    obtain ⟨lines', hl⟩ := hf s.log lines
    dsimp only
    rw [hl]
    exact .mk hshared hcalls hjournal

theorem record_twin {m m' : Moment} (h : m'.hush = m.hush) :
    Act.Twin Eq (record m) (record m') := by
  refine .modify (fun _ => List.suffix_cons ..) fun s _ hs => ?_
  cases hs with
  | mk hshared hcalls hjournal =>
    refine .mk hshared hcalls ?_
    rw [List.map_cons, List.map_cons, h, hjournal]

theorem emit_eq (log : Log) (source : String) (tag : LogTag) (category message : String) :
    ∃ lines, log.emit source tag category message = { log with lines } := by
  unfold Log.emit
  split
  · exact ⟨_, rfl⟩
  · exact ⟨log.lines, rfl⟩

theorem say_twin (source : String) (tag : LogTag) (category message : String) :
    Act.Twin Eq (say source tag category message) (say source tag category message) := by
  refine onLog_twin fun log lines => ?_
  obtain ⟨_, hlines⟩ := emit_eq { log with lines } source tag category message
  obtain ⟨_, hlog⟩ := emit_eq log source tag category message
  exact ⟨_, hlines.trans (by rw [hlog])⟩

/-- A message may be spared. -/
theorem say_spared (source : String) (tag : LogTag) (category message : String) :
    Act.Twin Eq (say source tag category message) (pure ()) where
  grows _ := List.suffix_refl _
  follows s _ hs _ := by
    refine ⟨rfl, ?_⟩
    obtain ⟨lines, hlog⟩ := emit_eq s.log source tag category message
    have hsaid : after (say source tag category message) s = { s with log := { s.log with lines } } :=
      congrArg (fun log => { s with log }) hlog
    rw [hsaid]
    cases hs with
    | mk hshared hcalls hjournal => exact .mk hshared hcalls hjournal

theorem sayNotes_twin (source : String) (notes : List LoadNote) :
    Act.Twin Eq (sayNotes source notes) (sayNotes source notes) :=
  .forM (fun _ => say_twin ..) notes

theorem drawId_twin : Act.Twin Eq drawId drawId where
  grows _ := List.suffix_refl _
  follows _ _ hs _ := by
    cases hs with
    | mk hshared hcalls hjournal => exact ⟨rfl, .mk hshared hcalls hjournal⟩

theorem retune_twin (f : Registry → Registry) : Act.Twin Eq (retune f) (retune f) :=
  (onRegistry_twin f).bind fun _ => registry_twin.bind fun _ => record_twin rfl

theorem raise?_twin (fault : Option Fault) : Attempt.Twin (raise? fault) (raise? fault) := by
  cases fault with
  | none => exact .pure _
  | some e => exact .throw e

theorem tryRegistry_twin (f : Registry → Registry × Option Fault) :
    Attempt.Twin (tryRegistry f) (tryRegistry f) := by
  refine (Attempt.Twin.lift registry_twin).bind fun r => ?_
  exact (Attempt.Twin.lift (onRegistry_twin _)).bind fun _ => raise?_twin _

end Session

end FrameHost
