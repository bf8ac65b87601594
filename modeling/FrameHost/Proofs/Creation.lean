import FrameHost.Proofs.Names
import FrameHost.Proofs.Naming
import FrameHost.Proofs.Step.Run

/-!
# What name a new frame gets

Creating a frame first finds its name and then does all the rest, which does not depend on the name. So what
can be said of the name of a new frame is what can be said of the text that is found for it, and nothing else
about a name can stop a frame from being made.

* `Session.makeNamed`, `Session.create_eq`: the rest, and that it is the rest.
* `Session.makeNamed_ok`, `Session.makeNamed_error`: what comes of the rest.
* `Session.CreatesNamed`: a frame that is made gets a name, and the name stops nothing.
* `Session.creates_named_iff`: **the name of the parent is put in for `$parent`, whatever is asked for, exactly
  when the parent's name reads as itself**.
-/

namespace FrameHost

/-- A frame under another name. -/
def Frame.renamed (f : Frame) (name : Option String) : Frame := { f with name }

namespace Session

open Act

variable {α β : Type} {s : Session} {fault : Fault}

/-! ## Operations one after another -/

/-- An operation ends in a fault when its first part does, or else what follows it. -/
theorem bind_error_iff {m : Attempt α} {g : α → Attempt β} :
    result (m >>= g).run s = .error fault ↔ result m.run s = .error fault ∨
      ∃ a, result m.run s = .ok a ∧ result (g a).run (after m.run s) = .error fault := by
  change result (ExceptT.bindCont g (result m.run s) : Act _) (after m.run s) = _ ↔ _
  cases result m.run s with
  | error e =>
    refine ⟨fun h => .inl (Except.error.inj h ▸ rfl), fun h => ?_⟩
    obtain h | ⟨a, ha, -⟩ := h
    · cases h
      rfl
    · cases ha
  | ok a =>
    refine ⟨fun h => .inr ⟨a, rfl, h⟩, fun h => ?_⟩
    obtain h | ⟨b, hb, h⟩ := h
    · cases h
    · cases hb
      exact h

theorem run_bind_of_run {m : Attempt α} {g : α → Attempt β} {a : α} {s' : Session}
    (h : m.run s = (.ok a, s')) : (m >>= g).run s = (g a).run s' := by
  change (ExceptT.bindCont g (m.run s).1 : Act _) (m.run s).2 = _
  rw [h]
  rfl

theorem result_forM {g : α → Attempt Unit} (hg : ∀ a s, result (g a).run s = .ok ()) (l : List α)
    (s : Session) : result (l.forM g).run s = .ok () := by
  induction l generalizing s with
  | nil => rfl
  | cons a l ih =>
    change result (ExceptT.bindCont (fun _ => l.forM g) (result (g a).run s) : Act _) (after (g a).run s) = _
    rw [hg]
    exact ih _

/-! ## What does not depend on the name -/

theorem blankFrame_renamed (kind : WidgetType) (name : Option String) (above : Option (FrameId × Frame)) :
    blankFrame kind name above = (blankFrame kind none above).renamed name := by
  cases above <;> rfl

theorem applyTemplate_renamed (f : Frame) (name : Option String) (template : String) :
    applyTemplate (f.renamed name) template = (·.renamed name) <$> applyTemplate f template := by
  unfold applyTemplate
  rw [map_bind]
  refine congrArg (templateInfo template >>= ·) (funext fun info => ?_)
  cases info with
  | none => rw [map_bind]; rfl
  | some info => rw [map_pure]; rfl

/-- Templates do not look at the name of a frame. -/
theorem applyTemplates_renamed (f : Frame) (name : Option String) (template : Value) :
    applyTemplates (f.renamed name) template = (·.renamed name) <$> applyTemplates f template := by
  have each (names : List String) (f : Frame) : names.foldlM applyTemplate (f.renamed name) =
      (·.renamed name) <$> names.foldlM applyTemplate f := by
    induction names generalizing f with
    | nil => rw [List.foldlM_nil, List.foldlM_nil, map_pure]
    | cons n names ih =>
      rw [List.foldlM_cons, List.foldlM_cons, applyTemplate_renamed, bind_map_left, map_bind]
      exact congrArg (applyTemplate f n >>= ·) (funext ih)
  unfold applyTemplates
  rw [map_bind]
  refine congrArg (_ >>= ·) (funext fun host => ?_)
  split
  · rw [map_pure]
  · cases template with
    | str text => exact each _ _
    | _ => rfl

variable (call : Caller) (kind : WidgetType) (above : Option (FrameId × Frame)) (template scripts : Value)

/-- What is done with a new frame that has been taken in: its scripts are installed, and its `OnLoad` slot
runs. -/
def bringUp (id : FrameId) : Attempt (Option FrameId) := do
  installScripts id scripts
  let _ ← runSlot call ⟨id, .onLoad⟩ []
  say "FrameManager" .state "registry"
    ("Created " ++ kind.name ++ " " ++ (← currentHost).label id)
  return some id

/-- What is done with a new frame that has its sizes: it is taken in and brought up. -/
def enlist (wanted : FrameId) (f : Frame) : Attempt (Option FrameId) := do
  let id ← register wanted f
  if let some (p, _) := above then
    onRegistry fun r => r.addChild p id
  record (.created id (← registry))
  bringUp call kind scripts id

/-- What is done with a new frame that has its name. -/
def makeNamed (name : Option String) : Attempt (Option FrameId) := do
  let wanted ← drawId
  let f ← applyTemplates (blankFrame kind name above) template
  enlist call kind above scripts wanted f

/-- **A frame is made from its name**, once it is noted whether its parent is there. -/
theorem create_eq {type : Value} {kind : WidgetType} (hk : WidgetType.ofValue? type = some kind)
    (parent : Option FrameId) (s : Session) : ∃ log, ∀ asked,
      (create call type asked parent template scripts).run s =
        (nameFor asked (s.host.registry.at? parent) >>= makeNamed call kind
          (parent.bind fun id => (s.host.registry.at? parent).map fun f => (id, f)) template scripts).run
            { s with log } := by
  let made (asked : Value) := nameFor asked (s.host.registry.at? parent) >>= makeNamed call kind
    (parent.bind fun id => (s.host.registry.at? parent).map fun f => (id, f)) template scripts
  let warn : Act Unit := say "FrameManager" .warn "registry"
    ("Unknown parent id=" ++ showId parent ++ ", creating unparented")
  have hrun (asked : Value) : (create call type asked parent template scripts).run s =
      (if (parent.isSome && (s.host.registry.at? parent).isNone) = true then
        liftM warn >>= fun _ => made asked else made asked).run s := by
    rw [create, hk]
    rfl
  by_cases horphan : (parent.isSome && (s.host.registry.at? parent).isNone) = true
  · refine ⟨(after warn s).log, fun asked => ?_⟩
    rw [hrun, if_pos horphan]
    rfl
  · refine ⟨s.log, fun asked => ?_⟩
    rw [hrun, if_neg horphan]

/-! ## Taking a frame in and bringing it up -/

/-- Whether scripts can be installed depends on the scripts alone. -/
theorem installScripts_result (id id' : FrameId) (s s' : Session) :
    result (installScripts id scripts).run s = result (installScripts id' scripts).run s' := by
  unfold installScripts
  cases scripts with
  | map entries => exact (result_forM (fun _ _ => rfl) _ s).trans (result_forM (fun _ _ => rfl) _ s').symm
  | _ => dsimp only; split <;> rfl

theorem bringUp_result (id : FrameId) (s : Session) :
    result (bringUp call kind scripts id).run s =
      (result (installScripts id scripts).run s).map fun _ => some id := by
  change result (ExceptT.bindCont _ (result (installScripts id scripts).run s) : Act _)
    (after (installScripts id scripts).run s) = _
  cases result (installScripts id scripts).run s <;> rfl

/-- A frame that is taken in carries its name, and that is noted first. -/
theorem enlist_eq (wanted : FrameId) (f : Frame) (s : Session) :
    ∃ id s', s'.journal = .created id s'.host.registry :: s.journal ∧
      s'.host.registry.nameOf id = some f.name ∧
      (enlist call kind above scripts wanted f).run s = (bringUp call kind scripts id).run s' := by
  obtain ⟨id, last, log, -, hid, hafter⟩ := register_after wanted f s
  let r := s.host.registry.enroll id f
  have own : r.nameOf id = some f.name := Registry.nameOf_enroll_self
  cases above with
  | none =>
    refine ⟨id, after (record (.created id r))
      { s with log, lastId := last, host := { s.host with registry := r } }, rfl, own, ?_⟩
    change (bringUp call kind scripts (result (register wanted f) s)).run
      (after (record (.created (result (register wanted f) s) (after (register wanted f) s).host.registry))
        (after (register wanted f) s)) = _
    rw [hid, hafter]
  | some pg =>
    obtain ⟨p, g⟩ := pg
    refine ⟨id, after (record (.created id (r.addChild p id)))
      { s with log, lastId := last, host := { s.host with registry := r.addChild p id } }, rfl,
      ((Registry.InPlace.link (some p) id).alike_name id).trans own, ?_⟩
    change (bringUp call kind scripts (result (register wanted f) s)).run
      (after (record (.created (result (register wanted f) s)
        ((after (register wanted f) s).host.registry.addChild p (result (register wanted f) s))))
        (after (onRegistry fun r => r.addChild p (result (register wanted f) s))
          (after (register wanted f) s))) = _
    rw [hid, hafter]
    rfl

variable {call kind above template scripts} {name name' : Option String}

/-- Taking a frame in fails when its scripts cannot be installed, whatever the frame is. -/
theorem enlist_error {wanted : FrameId} {f g : Frame}
    (h : result (enlist call kind above scripts wanted f).run s = .error fault) :
    result (enlist call kind above scripts wanted g).run s = .error fault := by
  obtain ⟨id, t, -, -, hrun⟩ := enlist_eq call kind above scripts wanted f s
  obtain ⟨id', t', -, -, hrun'⟩ := enlist_eq call kind above scripts wanted g s
  have hbring : result (bringUp call kind scripts id).run t = .error fault :=
    (congrArg Prod.fst hrun).symm.trans h
  have same := installScripts_result scripts id' id t' t
  refine (congrArg Prod.fst hrun').trans ?_
  change result (bringUp call kind scripts id').run t' = _
  rw [bringUp_result] at hbring ⊢
  cases hi : result (installScripts id scripts).run t with
  | ok =>
    rw [hi] at hbring
    cases hbring
  | error e =>
    rw [hi] at hbring same
    cases hbring
    rw [same]
    rfl

/-! ## Making a frame from its name -/

theorem makeNamed_eq (call : Caller) (kind : WidgetType) (above : Option (FrameId × Frame))
    (template scripts : Value) (name : Option String) (s : Session) :
    (makeNamed call kind above template scripts name).run s =
      (applyTemplates (blankFrame kind none above) template >>= fun f =>
        enlist call kind above scripts (s.lastId + 1) (f.renamed name)).run (after drawId s) := by
  have hrun : (makeNamed call kind above template scripts name).run s =
      (applyTemplates (blankFrame kind name above) template >>=
        enlist call kind above scripts (s.lastId + 1)).run (after drawId s) := rfl
  rw [hrun, blankFrame_renamed, applyTemplates_renamed, bind_map_left]

/-- **What stops a frame from being made has nothing to do with its name.** -/
theorem makeNamed_error (h : result (makeNamed call kind above template scripts name).run s = .error fault) :
    result (makeNamed call kind above template scripts name').run s = .error fault := by
  have heq (name : Option String) :=
    congrArg Prod.fst (makeNamed_eq call kind above template scripts name s)
  refine (heq name').trans (bind_error_iff.2 ?_)
  obtain h | ⟨f, hf, h⟩ := bind_error_iff.1 ((heq name).symm.trans h)
  · exact .inl h
  · exact .inr ⟨f, hf, enlist_error h⟩

/-- Without templates and scripts nothing stops a frame from being made. -/
theorem makeNamed_plain (name : Option String) (s : Session) :
    result (makeNamed call kind above .null .null name).run s ≠ .error fault := by
  intro h
  obtain h | ⟨f, -, h⟩ := bind_error_iff.1
    ((congrArg Prod.fst (makeNamed_eq call kind above .null .null name s)).symm.trans h)
  · cases h
  · obtain ⟨id, t, -, -, hrun⟩ := enlist_eq call kind above .null (s.lastId + 1) (f.renamed name)
      (after (applyTemplates (blankFrame kind none above) .null).run (after drawId s))
    have hbring : result (bringUp call kind .null id).run t = .error fault :=
      (congrArg Prod.fst hrun).symm.trans h
    rw [bringUp_result] at hbring
    cases hbring

/-- **A frame that is made carries its name** when it has been taken in. -/
theorem makeNamed_ok {scope : Scope} (hcall : ∀ callback args s, Goes scope (call callback args) s)
    {made : Option FrameId} (h : result (makeNamed call kind above template scripts name).run s = .ok made) :
    ∃ id later seen, made = some id ∧
      (after (makeNamed call kind above template scripts name).run s).journal =
        later ++ .created id seen :: s.journal ∧ seen.nameOf id = some name := by
  have heq := makeNamed_eq call kind above template scripts name s
  obtain ⟨f, -, hrun⟩ := bind_ok ((congrArg Prod.fst heq).symm.trans h)
  let sized := after (applyTemplates (blankFrame kind none above) template).run (after drawId s)
  have hsized : sized.journal = s.journal := congrArg Stage.journal
    ((applyTemplates_yields (blankFrame kind none above) template (after drawId s)).still [])
  obtain ⟨id, t, hj, hname, hbring⟩ :=
    enlist_eq call kind above scripts (s.lastId + 1) (f.renamed name) sized
  have hall := heq.trans (hrun.trans hbring)
  have hdone : result (bringUp call kind scripts id).run t = .ok made := (congrArg Prod.fst hall).symm.trans h
  have hafter : after (makeNamed call kind above template scripts name).run s =
      after (bringUp call kind scripts id).run t := congrArg Prod.snd hall
  have goes : Attempt.Goes scope (bringUp call kind scripts id) t := by
    refine (installScripts_goes _ _ _).then fun _ s => ?_
    refine (Attempt.Goes.lift (runSlot_goes hcall _ _ _)).then fun _ s => ?_
    refine (Attempt.Goes.lift currentHost_goes).then fun _ s => ?_
    exact (Attempt.Goes.lift (say_goes _ _ _ _)).then fun _ s => .pure _
  obtain ⟨later, hlater⟩ := goes.run.journal_suffix
  refine ⟨id, later, t.host.registry, ?_, ?_, hname⟩
  · rw [bringUp_result] at hdone
    cases hi : result (installScripts id scripts).run t with
    | ok =>
      rw [hi] at hdone
      cases hdone
      rfl
    | error e =>
      rw [hi] at hdone
      cases hdone
  · rw [hafter, ← hlater, hj, hsized]

/-! ## Finding the name -/

/-- The name that a frame has for a text: an empty text is none. -/
def properName (text : String) : Option String := if text.isEmpty then none else some text

theorem properName_injective {a b : String} (h : properName a = properName b) : a = b := by
  unfold properName at h
  split at h
  · rename_i ha
    split at h
    · rename_i hb
      exact (String.isEmpty_iff.1 ha).trans (String.isEmpty_iff.1 hb).symm
    · cases h
  · split at h
    · cases h
    · exact Option.some.inj h

section

variable {parent : Option Frame} {ps : List Naming.Piece}

/-- Where the parent's name can be read, the name for a text is the text with it put in. -/
theorem nameFor_of_parse (hp : Naming.parse ((parent.bind (·.name)).getD "") = .ok ps) (asked : String)
    (s : Session) : (nameFor (.str asked) parent).run s =
      (.ok (properName (String.ofList (Naming.expandChars ps asked.toList))), s) := by
  cases hasked : asked.isEmpty with
  | true =>
    cases String.isEmpty_iff.1 hasked
    have hnone : Naming.expandChars ps "".toList = [] := by rw [String.toList_empty, Naming.expandChars]
    rw [hnone]
    rfl
  | false =>
    have hexpand : Naming.expand asked ((parent.bind (·.name)).getD "") =
        .ok (String.ofList (Naming.expandChars ps asked.toList)) := by
      rw [Naming.expand, hp]
      rfl
    rw [nameFor, hasked, hexpand]
    rfl

/-- Where the parent's name cannot be read, no text is a name. -/
theorem nameFor_of_error (hp : Naming.parse ((parent.bind (·.name)).getD "") = .error fault) {asked : String}
    (hasked : asked.isEmpty = false) (s : Session) :
    (nameFor (.str asked) parent).run s = (.error fault, s) := by
  have hexpand : Naming.expand asked ((parent.bind (·.name)).getD "") = .error fault := by
    rw [Naming.expand, hp]
    rfl
  rw [nameFor, hasked, hexpand]
  rfl

end

/-! ## What creating a frame says of its name -/

/-- What creating a frame comes to when it is to have a name: a frame that is made carries the name when it has
been taken in, and what stops it from being made would have stopped it without a name, too. -/
structure CreatesNamed (call : Caller) (type : Value) (asked : String) (parent : Option FrameId)
    (template scripts : Value) (s : Session) (name : Option String) : Prop where
  made : ∀ made, result (create call type (.str asked) parent template scripts).run s = .ok made →
    ∃ id later seen, made = some id ∧
      (after (create call type (.str asked) parent template scripts).run s).journal =
        later ++ .created id seen :: s.journal ∧ seen.nameOf id = some name
  stopped : ∀ fault, result (create call type (.str asked) parent template scripts).run s = .error fault →
    result (create call type .null parent template scripts).run s = .error fault

variable {scope : Scope} {type : Value} {parent : Option FrameId} {asked : String} {ps : List Naming.Piece}

/-- A frame is made under the name that is found for it. -/
theorem createsNamed (hcall : ∀ callback args s, Goes scope (call callback args) s)
    (hk : WidgetType.ofValue? type = some kind)
    (hp : Naming.parse (((s.host.registry.at? parent).bind (·.name)).getD "") = .ok ps)
    (asked : String) (template scripts : Value) : CreatesNamed call type asked parent template scripts s
      (properName (String.ofList (Naming.expandChars ps asked.toList))) := by
  obtain ⟨log, hrun⟩ := create_eq call template scripts hk parent s
  have hnamed := (hrun (.str asked)).trans (run_bind_of_run (nameFor_of_parse hp asked _))
  have hbare := (hrun .null).trans (run_bind_of_run (rfl : (nameFor .null _).run _ = (.ok none, _)))
  constructor
  · intro made h
    obtain ⟨id, later, seen, hmade, hj, hname⟩ := makeNamed_ok hcall ((congrArg Prod.fst hnamed).symm.trans h)
    have hafter : after (create call type (.str asked) parent template scripts).run s = _ :=
      congrArg Prod.snd hnamed
    exact ⟨id, later, seen, hmade, hafter ▸ hj, hname⟩
  · intro fault h
    exact (congrArg Prod.fst hbare).trans (makeNamed_error ((congrArg Prod.fst hnamed).symm.trans h))

/-- A frame that is made without templates and scripts gets no other name than the one that is found for it. -/
theorem CreatesNamed.expand {given : String} (hcall : ∀ callback args s, Goes scope (call callback args) s)
    (hk : WidgetType.ofValue? type = some kind) (hasked : asked.isEmpty = false)
    (h : CreatesNamed call type asked parent .null .null s (properName given)) :
    ∃ ps, Naming.parse (((s.host.registry.at? parent).bind (·.name)).getD "") = .ok ps ∧
      Naming.expandChars ps asked.toList = given.toList := by
  obtain ⟨log, hrun⟩ := create_eq call .null .null hk parent s
  have hbare := (hrun .null).trans (run_bind_of_run (rfl : (nameFor .null _).run _ = (.ok none, _)))
  have hfine {fault : Fault} :
      result (create call type (.str asked) parent .null .null).run s ≠ .error fault := fun hfail =>
    makeNamed_plain _ _ ((congrArg Prod.fst hbare).symm.trans (h.stopped _ hfail))
  cases hp : Naming.parse (((s.host.registry.at? parent).bind (·.name)).getD "") with
  | error fault =>
    have hfail := congrArg Prod.fst (nameFor_of_error hp hasked { s with log })
    exact absurd ((congrArg Prod.fst (hrun (.str asked))).trans (bind_error_iff.2 (.inl hfail))) hfine
  | ok ps =>
    refine ⟨ps, rfl, ?_⟩
    cases hmade : result (create call type (.str asked) parent .null .null).run s with
    | error fault => exact absurd hmade hfine
    | ok made =>
      -- the moment at which the frame is noted is the same, whichever name it is said to have
      obtain ⟨id, later, seen, rfl, hj, hname⟩ := h.made made hmade
      obtain ⟨id', later', seen', heq, hj', hname'⟩ :=
        (createsNamed hcall hk hp asked .null .null).made _ hmade
      obtain ⟨-, hcreated⟩ := List.append_inj' (hj.symm.trans hj') rfl
      cases hcreated
      have := properName_injective (Option.some.inj (hname.symm.trans hname'))
      rw [this, String.toList_ofList]

/-- **The name of the parent is put in for `$parent` exactly when it reads as itself.** Whatever name is asked
for, with whatever templates and scripts: the frame gets that name with the parent's name in the place of every
`$parent`, and nothing in the parent's name stops it from being made. Should the parent's name not read as
itself, there is a name for which that fails. A parent that is anonymous or not there has the empty name. -/
theorem creates_named_iff {script : Script}
    (hscript : ∀ callback count args, ∀ c ∈ (script callback count args).steps, c.fits true = true)
    (hk : WidgetType.ofValue? type = some kind) (depth : Nat) (parent : Option FrameId) (s : Session) :
    let above := ((s.host.registry.at? parent).bind (·.name)).getD ""
    Naming.Verbatim above.toList ↔ ∀ asked template scripts, ∃ given : String,
      Naming.Replaced above.toList asked.toList given.toList ∧
        CreatesNamed (runCallback script depth) type asked parent template scripts s (properName given) := by
  intro above
  have hcall : ∀ callback args s, Goes true (runCallback script depth callback args) s :=
    runCallback_goes_of_fits hscript depth
  constructor
  · intro h asked template scripts
    refine ⟨String.ofList (Naming.expandChars (above.toList.map .char) asked.toList), ?_, ?_⟩
    · rw [String.toList_ofList]
      exact Naming.expandChars_eq_iff.1 rfl
    · exact createsNamed hcall hk (Naming.parse_of_verbatim h) asked template scripts
  · intro h
    -- two words that differ come out the same
    have filled (w : String) (hw : Naming.IsToken w.toList) (hne : w.isEmpty = false) :
        ∃ ps, Naming.parse above = .ok ps ∧ Naming.fill w.toList ps = above.toList := by
      obtain ⟨given, hreplaced, hcreates⟩ := h w .null .null
      obtain ⟨ps, hp, hgiven⟩ := hcreates.expand hcall hk hne
      refine ⟨ps, hp, ?_⟩
      rw [← Naming.expandChars_token hw, hgiven]
      exact hreplaced.unique (.of_token hw)
    obtain ⟨ps, hp, hlower⟩ := filled "$parent" rfl rfl
    obtain ⟨ps', hp', hupper⟩ := filled "$PARENT" rfl rfl
    cases hp.symm.trans hp'
    exact Naming.verbatim_of_fill hp hlower hupper rfl (by decide)

/-- A session with one frame, which has a name. -/
def oneNamed (name : String) : Session :=
  runRootless idle [.frame (.create (.str "Frame") (.str name) .none .null .null)]

/-- A name without a backslash. -/
theorem creates_named_iff_bag :
    (∀ callback count args, ∀ c ∈ (idle callback count args).steps, c.fits true = true) ∧
      WidgetType.ofValue? (.str "Frame") = some .frame ∧
      (Naming.Verbatim "Bag".toList ↔ ∀ asked template scripts, ∃ given : String,
        Naming.Replaced "Bag".toList asked.toList given.toList ∧
          CreatesNamed (caller idle) (.str "Frame") asked (some 1) template scripts (oneNamed "Bag")
            (properName given)) := by
  have idles : ∀ callback count args, ∀ c ∈ (idle callback count args).steps, c.fits true = true :=
    fun _ _ _ _ h => by cases h
  have habove : (((oneNamed "Bag").host.registry.at? (some 1)).bind (·.name)).getD "" = "Bag" := by
    decide +kernel
  have hk : WidgetType.ofValue? (.str "Frame") = some .frame := by decide +kernel
  have h := creates_named_iff idles hk depthLimit (some 1) (oneNamed "Bag")
  rw [habove] at h
  exact ⟨idles, hk, h⟩

/-- A name with a backslash before a letter that means nothing: a child that is to be named after its parent
is not made, though one without a name is. -/
theorem not_creates_named_escape : ¬ ∃ given : String,
    Naming.Replaced "A\\q".toList "$parentChild".toList given.toList ∧
      CreatesNamed (caller idle) (.str "Frame") "$parentChild" (some 1) .null .null (oneNamed "A\\q")
        (properName given) := by
  rintro ⟨given, -, h⟩
  have failed : (result (create (caller idle) (.str "Frame") (.str "$parentChild") (some 1) .null .null).run
      (oneNamed "A\\q")).toOption = none := by decide +kernel
  have fine : (result (create (caller idle) (.str "Frame") .null (some 1) .null .null).run
      (oneNamed "A\\q")).toOption = some (some 2) := by decide +kernel
  cases hfault : result (create (caller idle) (.str "Frame") (.str "$parentChild") (some 1) .null .null).run
      (oneNamed "A\\q") with
  | ok made =>
    rw [hfault] at failed
    cases failed
  | error fault =>
    rw [h.stopped fault hfault] at fine
    cases fine

end Session

end FrameHost
