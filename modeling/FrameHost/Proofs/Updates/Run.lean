import FrameHost.Proofs.Step.Run
import FrameHost.Proofs.Updates.Journal
import FrameHost.Proofs.Updates.Turn
import Mathlib.Data.List.Nodup

/-!
# Updates

An update comes to the frames that are visible when it begins, by rising id, and to what follows the updates
after them. A frame is passed by for its primary callback just when that callback raised an error the last time
an update ran it as that.

* `Host.chosen_of_visibleWith`: the frames that an update is to come to.
* `Stage.Updating`: what a stage has to do with the updates of its journal.
* `Updates.Kept`: **only its own primary callback mutes a frame, and it stays muted**.
* `Session.RanWithin.updatesKept`: that is so whenever the host of a run is met.
-/

namespace FrameHost

variable {scope : Scope} {σ τ : Stage} {m : Moment} {journal : List Moment} {frame : FrameId}

/-! ## The frames that an update is to come to -/

namespace ScriptTable

variable {t : ScriptTable} {handler : Handler}

theorem mem_framesWith :
    frame ∈ t.framesWith handler ↔ (t.primary? ⟨frame, handler⟩).isSome = true := by
  rw [framesWith, List.mem_mergeSort, List.mem_filterMap]
  refine Iff.trans ?_ Table.mem_keys_iff
  constructor
  · rintro ⟨slot, hslot, hframe⟩
    obtain ⟨hkey, hhandler⟩ := List.mem_filter.1 hslot
    obtain ⟨there, handler'⟩ := slot
    cases hframe
    cases eq_of_beq hhandler
    exact hkey
  · intro hkey
    exact ⟨_, List.mem_filter.2 ⟨hkey, beq_self_eq_true _⟩, rfl⟩

theorem nodup_framesWith (h : t.primaries.keys.Nodup) : (t.framesWith handler).Nodup := by
  rw [framesWith, (List.mergeSort_perm ..).nodup_iff, List.filterMap_filter]
  refine h.filterMap fun slot slot' there hslot hslot' => ?_
  obtain ⟨frame, handler'⟩ := slot
  obtain ⟨frame', handler''⟩ := slot'
  simp only [Option.mem_def, Option.ite_none_right_eq_some, beq_iff_eq] at hslot hslot'
  obtain ⟨rfl, rfl⟩ := hslot
  obtain ⟨rfl, rfl⟩ := hslot'
  rfl

theorem framesWith_rising (h : t.primaries.keys.Nodup) :
    (t.framesWith handler).Pairwise (· < ·) := by
  have sorted : (t.framesWith handler).Pairwise fun a b => decide (a ≤ b) = true := by
    refine List.pairwise_mergeSort (fun a b c hab hbc => ?_) (fun a b => ?_) _
    · exact decide_eq_true (Int.le_trans (of_decide_eq_true hab) (of_decide_eq_true hbc))
    · rw [Bool.or_eq_true, decide_eq_true_eq, decide_eq_true_eq]
      exact Int.le_total a b
  exact (sorted.and (nodup_framesWith h)).imp fun ⟨hle, hne⟩ =>
    Int.lt_iff_le_and_ne.2 ⟨of_decide_eq_true hle, hne⟩

theorem filterMap_holders {holders : List (Option FrameId)} (h : t.holders handler = .ok holders) :
    holders.filterMap id = t.framesWith handler := by
  unfold ScriptTable.holders at h
  split at h
  · split at h
    · rename_i hempty
      cases h
      exact (List.isEmpty_iff.1 hempty).symm
    · cases h
  · cases h
    rw [List.filterMap_map]
    exact List.filterMap_some

end ScriptTable

/-- The frames that are visible and have a primary callback for a handler, when updates ask for them. -/
theorem Host.chosen_of_visibleWith {host : Host} {handler : Handler} {frames : List FrameId}
    (hkeys : host.scripts.primaries.keys.Nodup)
    (hp : ∀ slot, host.scripts.primary? slot = primaryIn slot journal)
    (h : host.visibleWith handler = .ok frames) :
    Updates.Chosen handler host.registry journal frames := by
  unfold Host.visibleWith at h
  cases hholders : host.scripts.holders handler with
  | error fault => rw [hholders] at h; cases h
  | ok holders =>
    rw [hholders] at h
    cases h
    rw [ScriptTable.filterMap_holders hholders]
    refine ⟨(ScriptTable.framesWith_rising hkeys).filter _, fun frame => ?_⟩
    rw [List.mem_filter, ScriptTable.mem_framesWith, hp, and_comm]

/-! ## What is under way -/

/-- The turns that an update has still to give. -/
def Task.turns? : Task → Option (List Turn)
  | .updating rest => some rest
  | _ => none

/-- The primary callback that an update is running. -/
def Task.running? : Task → Option (FrameId × String)
  | .running frame callback => some (frame, callback)
  | _ => none

/-- Whether an update is in the middle of a task. -/
def Task.ofUpdate : Task → Bool
  | .updating _ | .running _ _ => true
  | _ => false

/-- What updates are in the middle of. -/
abbrev Stage.updateTasks (σ : Stage) : List Task := σ.tasks.filter Task.ofUpdate

/-- A primary callback that an update runs is run in the middle of that update. -/
def Seated : List Task → Prop
  | [] => True
  | .running _ _ :: tasks => tasks.filterMap Task.turns? ≠ [] ∧ Seated tasks
  | _ :: tasks => Seated tasks

theorem turns_filter (tasks : List Task) :
    (tasks.filter Task.ofUpdate).filterMap Task.turns? = tasks.filterMap Task.turns? := by
  rw [List.filterMap_filter]
  refine List.filterMap_congr fun task _ => ?_
  cases task <;> rfl

theorem Seated.idle {tasks : List Task} (h : Seated tasks) (ht : tasks.filterMap Task.turns? = []) :
    tasks.filterMap Task.running? = [] := by
  induction tasks with
  | nil => rfl
  | cons task tasks ih =>
    cases task with
    | running => exact absurd ht h.1
    | updating => cases ht
    | _ => exact ih h ht

/-! ## Stages -/

/-- What a stage has to do with the updates that its journal tells of. -/
structure Stage.Updating (scope : Scope) (σ : Stage) : Prop where
  paired : Batch.Paired Moment.updateMark? scope.updates Task.turns? σ
  keys : σ.scripts.primaries.keys.Nodup
  primary : ∀ slot, σ.scripts.primary? slot = primaryIn slot σ.journal
  muted : ∀ frame, σ.muted.get? frame = mutedIn frame σ.journal
  running : runningIn σ.journal = σ.updateTasks.filterMap Task.running?
  seated : Seated σ.updateTasks
  told : Updates.Told σ.journal

namespace Stage.Updating

theorem quiet (hσ : σ.Updating scope)
    (hj : ∃ ms, τ.journal = ms ++ σ.journal ∧ ∀ m ∈ ms, m.touchesUpdates = false)
    (hs : τ.scripts.primaries = σ.scripts.primaries) (hm : τ.muted = σ.muted)
    (ht : τ.updateTasks = σ.updateTasks) : τ.Updating scope := by
  obtain ⟨ms, hj, hms⟩ := hj
  have spared := fun m hm => Moment.spared_of_touchesUpdates (hms m hm)
  have hturns : τ.tasks.filterMap Task.turns? = σ.tasks.filterMap Task.turns? := by
    rw [← turns_filter, ← turns_filter σ.tasks]
    exact congrArg _ ht
  constructor
  case paired => exact hσ.paired.quiet hj (fun m hm => (spared m hm).1) hturns
  case keys => exact hs ▸ hσ.keys
  case primary =>
    intro slot
    rw [hj, primaryIn, lastOf_quiet fun m hm => (spared m hm).2.1 slot, ScriptTable.primary?, hs]
    exact hσ.primary slot
  case muted =>
    intro frame
    rw [hj, mutedIn, lastOf_quiet fun m hm => (spared m hm).2.2 frame, hm]
    exact hσ.muted frame
  case running =>
    rw [hj, runningIn_quiet hms, ht]
    exact hσ.running
  case seated => exact ht ▸ hσ.seated
  case told => exact hj ▸ hσ.told.append hms

/-- A primary callback is written or cleared. -/
theorem setPrimary (hσ : σ.Updating scope) (slot : Slot) (callback : Option String) :
    Stage.Updating scope
      { σ with
        scripts := σ.scripts.setPrimary slot callback
        journal := .scripted slot callback :: σ.journal } := by
  constructor
  case paired => exact hσ.paired.pass rfl rfl rfl
  case keys =>
    cases callback with
    | none => exact Table.nodup_erase hσ.keys slot
    | some callback => exact Table.nodup_insert hσ.keys slot callback
  case primary =>
    intro there
    rw [primaryIn, lastOf_cons, ScriptTable.primary?_setPrimary, Moment.written?, hσ.primary]
    simp only [beq_iff_eq]
    split <;> rfl
  case muted => exact hσ.muted
  case running => exact hσ.running
  case seated => exact hσ.seated
  case told => exact hσ.told.cons trivial

/-- Every primary callback of a frame is cleared. -/
theorem clearScripts (hσ : σ.Updating scope) (frame : Option FrameId) :
    Stage.Updating scope
      { σ with scripts := σ.scripts.clear frame, journal := .scriptsCleared frame :: σ.journal } := by
  constructor
  case paired => exact hσ.paired.pass rfl rfl rfl
  case keys => exact Table.nodup_filter hσ.keys _
  case primary =>
    intro slot
    rw [primaryIn, lastOf_cons, ScriptTable.primary?_clear, Moment.written?, hσ.primary]
    split <;> rfl
  case muted => exact hσ.muted
  case running => exact hσ.running
  case seated => exact hσ.seated
  case told => exact hσ.told.cons trivial

/-- An update begins. -/
theorem updateBegan (hσ : σ.Updating scope) {frames later : List FrameId} {seen : Host} (h : σ.Shows seen)
    (hf : seen.visibleWith .onUpdate = .ok frames) (hl : seen.visibleWith .onPostUpdate = .ok later)
    (hn : scope.updates = true ∨ σ.tasks = []) : Stage.Updating scope
    { σ with
      journal := .updateBegan frames later σ.registry :: σ.journal
      tasks := .updating (frames.map .reach ++ later.map .follow) :: σ.tasks } where
  paired := hσ.paired.begin rfl rfl hn rfl
  keys := hσ.keys
  primary := hσ.primary
  muted := hσ.muted
  running := hσ.running
  seated := hσ.seated
  told := by
    have hkeys : seen.scripts.primaries.keys.Nodup := h.scripts ▸ hσ.keys
    have hprimary (slot : Slot) : seen.scripts.primary? slot = primaryIn slot σ.journal :=
      h.scripts ▸ hσ.primary slot
    refine hσ.told.cons ⟨?_, ?_⟩
    · exact h.registry ▸ Host.chosen_of_visibleWith hkeys hprimary hf
    · exact h.registry ▸ Host.chosen_of_visibleWith hkeys hprimary hl

/-- What updates run and are in the middle of, where the innermost task is one of theirs. -/
theorem underWay (hσ : σ.Updating scope) {task : Task} {tasks : List Task} (ht : σ.tasks = task :: tasks)
    (h : task.ofUpdate = true) :
    runningIn σ.journal = (task :: tasks.filter Task.ofUpdate).filterMap Task.running? ∧
      Seated (task :: tasks.filter Task.ofUpdate) := by
  have htasks : σ.updateTasks = task :: tasks.filter Task.ofUpdate := by
    rw [Stage.updateTasks, ht, List.filter_cons_of_pos h]
  exact htasks ▸ ⟨hσ.running, hσ.seated⟩

/-- Where updates do not nest, an update that gives a turn is running no primary callback. -/
theorem runningIn_eq_nil (hσ : σ.Updating scope) {rest : List Turn} {tasks : List Task}
    (ht : σ.tasks = .updating rest :: tasks) (hflat : Batch.Flat Moment.updateMark? σ.journal) :
    runningIn σ.journal = [] := by
  obtain ⟨running, seated⟩ := hσ.underWay ht rfl
  change Seated (tasks.filter Task.ofUpdate) at seated
  have left := hσ.paired.left.length_eq
  have hle := hflat.length_underWay_le
  have hturns : (tasks.filter Task.ofUpdate).filterMap Task.turns? = [] := by
    rw [ht, List.filterMap_cons_some (rfl : Task.turns? (.updating rest) = some rest),
      List.length_cons] at left
    rw [turns_filter]
    exact List.eq_nil_of_length_eq_zero (by omega)
  exact running.trans (seated.idle hturns)

/-- An update comes to a frame and passes it by. -/
theorem passedBy (hσ : σ.Updating scope) {primary : Option String} {rest : List Turn} {tasks : List Task}
    (ht : σ.tasks = .updating (.reach frame :: rest) :: tasks)
    (hp : σ.scripts.primary? ⟨frame, .onUpdate⟩ = primary)
    (hm : ∀ callback, primary = some callback → σ.muted.get? frame = some callback) :
    Stage.Updating scope
      { σ with
        journal := .reached frame primary false (σ.registry.describe (some frame)) :: σ.journal
        tasks := .updating rest :: tasks } := by
  obtain ⟨running, seated⟩ := hσ.underWay ht rfl
  constructor
  case paired => exact hσ.paired.take rfl rfl (by rw [ht]; rfl) rfl
  case keys => exact hσ.keys
  case primary => exact hσ.primary
  case muted => exact hσ.muted
  case running => cases primary <;> exact running
  case seated => exact seated
  case told =>
    refine hσ.told.cons ⟨?_, ⟨fun h => (nomatch h), fun h => ?_⟩, hσ.runningIn_eq_nil ht⟩
    · exact hp.symm.trans (hσ.primary _)
    · obtain ⟨hsome, hne⟩ := h
      obtain ⟨callback, rfl⟩ := Option.isSome_iff_exists.1 hsome
      exact absurd ((hσ.muted frame).symm.trans (hm callback rfl)) hne

/-- An update comes to a frame and goes on to run its primary callback. -/
theorem reached (hσ : σ.Updating scope) {callback : String} {rest : List Turn} {tasks : List Task}
    (ht : σ.tasks = .updating (.reach frame :: rest) :: tasks)
    (hp : σ.scripts.primary? ⟨frame, .onUpdate⟩ = some callback)
    (hm : σ.muted.get? frame ≠ some callback) :
    Stage.Updating scope
      { σ with
        muted := σ.muted.erase frame
        journal := .reached frame (some callback) true (σ.registry.describe (some frame)) :: σ.journal
        tasks := .running frame callback :: .updating rest :: tasks } := by
  obtain ⟨running, seated⟩ := hσ.underWay ht rfl
  constructor
  case paired => exact hσ.paired.take rfl rfl (by rw [ht]; rfl) rfl
  case keys => exact hσ.keys
  case primary => exact hσ.primary
  case muted =>
    intro there
    rw [mutedIn, lastOf_cons, Moment.mutes?, Table.get?_erase, hσ.muted]
    simp only [beq_iff_eq]
    split <;> rfl
  case running => exact congrArg ((frame, callback) :: ·) running
  case seated => exact ⟨by simp [Task.ofUpdate, Task.turns?], seated⟩
  case told =>
    refine hσ.told.cons ⟨?_, ⟨fun _ => ⟨rfl, ?_⟩, fun _ => rfl⟩, hσ.runningIn_eq_nil ht⟩
    · exact hp.symm.trans (hσ.primary _)
    · exact hσ.muted frame ▸ hm

/-- The primary callback that an update runs comes to its end. -/
theorem updated (hσ : σ.Updating scope) {callback : String} {tasks : List Task}
    (ht : σ.tasks = .running frame callback :: tasks) :
    Stage.Updating scope { σ with journal := .updated frame callback false :: σ.journal, tasks } := by
  obtain ⟨running, seated⟩ := hσ.underWay ht rfl
  constructor
  case paired => exact hσ.paired.pass rfl rfl (by rw [ht]; rfl)
  case keys => exact hσ.keys
  case primary => exact hσ.primary
  case muted => exact hσ.muted
  case running => exact congrArg List.tail running
  case seated => exact seated.2
  case told => exact hσ.told.cons ⟨congrArg List.head? running, fun h => by cases h⟩

/-- The primary callback that an update runs raises an error, and its frame is muted for it. -/
theorem failed (hσ : σ.Updating scope) {callback : String} {during : List Moment} {tasks : List Task}
    (ht : σ.tasks = .running frame callback :: tasks) (hr : Raised frame callback during σ.journal) :
    Stage.Updating scope
      { σ with
        muted := σ.muted.insert frame callback
        journal := .updated frame callback true :: σ.journal
        tasks } := by
  obtain ⟨running, seated⟩ := hσ.underWay ht rfl
  constructor
  case paired => exact hσ.paired.pass rfl rfl (by rw [ht]; rfl)
  case keys => exact hσ.keys
  case primary => exact hσ.primary
  case muted =>
    intro there
    rw [mutedIn, lastOf_cons, Moment.mutes?, Table.get?_insert, hσ.muted]
    simp only [beq_iff_eq]
    split <;> rfl
  case running => exact congrArg List.tail running
  case seated => exact seated.2
  case told => exact hσ.told.cons ⟨congrArg List.head? running, fun _ => ⟨during, hr⟩⟩

theorem followed (hσ : σ.Updating scope) {rest : List Turn} {tasks : List Task}
    (ht : σ.tasks = .updating (.follow frame :: rest) :: tasks) :
    Stage.Updating scope
      { σ with journal := .followed frame :: σ.journal, tasks := .updating rest :: tasks } := by
  obtain ⟨running, seated⟩ := hσ.underWay ht rfl
  exact ⟨hσ.paired.take rfl rfl (by rw [ht]; rfl) rfl, hσ.keys, hσ.primary, hσ.muted, running, seated,
    hσ.told.cons trivial⟩

theorem updateEnded (hσ : σ.Updating scope) {tasks : List Task} (ht : σ.tasks = .updating [] :: tasks) :
    Stage.Updating scope { σ with journal := .updateEnded :: σ.journal, tasks } := by
  obtain ⟨running, seated⟩ := hσ.underWay ht rfl
  exact ⟨hσ.paired.finish rfl rfl (by rw [ht]; rfl) rfl, hσ.keys, hσ.primary, hσ.muted, running, seated,
    hσ.told.cons trivial⟩

end Stage.Updating

theorem Step.updating (h : Step scope σ τ) (hσ : σ.Updating scope) : τ.Updating scope := by
  have noted {m : Moment} (hj : τ.journal = m :: σ.journal) (hm : m.touchesUpdates = false)
      (hs : τ.scripts.primaries = σ.scripts.primaries) (hmuted : τ.muted = σ.muted)
      (ht : τ.updateTasks = σ.updateTasks) : τ.Updating scope :=
    hσ.quiet ⟨[m], hj, fun _ h => List.mem_singleton.1 h ▸ hm⟩ hs hmuted ht
  cases h with
  | primarySet slot callback => exact hσ.setPrimary slot callback
  | scriptsCleared frame => exact hσ.clearScripts frame
  | updateBegan h hf hl hn => exact hσ.updateBegan h hf hl hn
  | passedBy ht hp hm => exact hσ.passedBy ht hp hm
  | reached ht hp hm => exact hσ.reached ht hp hm
  | updated ht => exact hσ.updated ht
  | failed ht hr => exact hσ.failed ht hr
  | followed ht => exact hσ.followed ht
  | updateEnded ht => exact hσ.updateEnded ht
  | queueCleared => exact hσ.quiet ⟨_, rfl, fun _ hm => of_mem_moments hm fun _ => rfl⟩ rfl rfl rfl
  | timersCleared =>
    exact hσ.quiet ⟨_, rfl, fun _ hm => of_mem_clearing hm rfl fun _ => rfl⟩ rfl rfl rfl
  | erred h =>
    refine hσ.quiet ⟨_, rfl, fun _ hm => ?_⟩ rfl rfl rfl
    exact of_mem_complaint h hm (fun _ _ _ _ => rfl) (fun _ _ _ => rfl) (fun _ _ => rfl) fun _ _ => rfl
  | painted | created | listened | enrolled | enrolledAgain | called | answered | returned | invoked
  | queued | flushBegan | started | cancelled | handleCancelled | tickBegan =>
    exact noted rfl rfl rfl rfl rfl
  | told ht | flushed ht | flushEnded ht | fired ht | tickEnded ht =>
    exact noted rfl rfl rfl rfl (by rw [Stage.updateTasks, Stage.updateTasks, ht]; rfl)
  | untold ht | toldAll ht | passedOver ht | rearmed ht =>
    exact hσ.quiet ⟨[], rfl, by simp⟩ rfl rfl (by rw [Stage.updateTasks, Stage.updateTasks, ht]; rfl)
  | _ => exact hσ.quiet ⟨[], rfl, by simp⟩ rfl rfl rfl

theorem Stage.updating_fresh (clock : Clock) : Stage.Updating scope { clock } where
  paired := .fresh rfl rfl
  keys := List.nodup_nil
  primary := fun _ => rfl
  muted := fun _ => rfl
  running := rfl
  seated := trivial
  told := .nil

/-! ## Runs -/

/-- Which frames updates come to and which they pass by, given what happened and the host that it led to. -/
structure Updates.Kept (scope : Scope) (journal : List Moment) (host : Host) : Prop where
  /-- A slot holds the primary callback that was written there last. -/
  primary : ∀ slot, host.scripts.primary? slot = primaryIn slot journal
  muted : ∀ frame, host.muted.get? frame = mutedIn frame journal
  /-- An update comes to the frames that are visible and have a primary callback when it begins, by rising id,
  and after them to what follows the updates. -/
  began : ∀ frames later seen earlier, .updateBegan frames later seen :: earlier <:+ journal →
    Updates.Chosen .onUpdate seen earlier frames ∧ Updates.Chosen .onPostUpdate seen earlier later
  /-- The turns of an update are given from front to back, and all of them until it ends. -/
  turns : Batch.Sound Moment.updateMark? journal
  /-- An update that comes to a frame runs its primary callback unless the frame is muted for it. -/
  reached : ∀ frame primary runs label earlier, .reached frame primary runs label :: earlier <:+ journal →
    primary = primaryIn (updateSlot frame) earlier ∧
      (runs = true ↔ primary.isSome = true ∧ mutedIn frame earlier ≠ primary)
  /-- A frame that has a primary callback is passed by only if that callback raised an error when an update ran
  it as that. -/
  earned : ∀ frame callback label earlier, .reached frame (some callback) false label :: earlier <:+ journal →
    ∃ during before, .updated frame callback true :: before <:+ earlier ∧
      Raised frame callback during before
  /-- Once that is so, the frame is passed by whenever an update comes to it, while its slot is not written: if
  updates do not nest, and so if callbacks do not update frames. -/
  lasting : scope.updates = false ∨ Batch.Flat Moment.updateMark? journal →
    ∀ frame callback primary runs label earlier, Updates.Stuck frame callback earlier →
      .reached frame primary runs label :: earlier <:+ journal → primary = some callback ∧ runs = false
  stuck : scope.updates = false ∨ Batch.Flat Moment.updateMark? journal →
    ∀ frame callback, Updates.Stuck frame callback journal →
      host.scripts.primary? (updateSlot frame) = some callback ∧ host.muted.get? frame = some callback

theorem Stage.Updating.kept_of_shows (hσ : σ.Updating scope) {host : Host} (hs : σ.Shows host) :
    Updates.Kept scope σ.journal host where
  primary := fun slot => hs.scripts ▸ hσ.primary slot
  muted := fun frame => hs.muted ▸ hσ.muted frame
  began := fun _ _ _ _ hm => hσ.told _ _ hm
  turns := hσ.paired.sound
  reached := fun _ _ _ _ _ hm => ⟨(hσ.told _ _ hm).1, (hσ.told _ _ hm).2.1⟩
  earned := fun _ _ _ _ hm => by
    have hearlier := hσ.told.of_suffix ((List.suffix_cons ..).trans hm)
    obtain ⟨during, before, hbefore, hr⟩ := hearlier.raised (hσ.told.muted_of_passed hm)
    exact ⟨during, before, hbefore, hr⟩
  lasting := fun hflat _ _ _ _ _ _ hstuck hm =>
    hσ.told.passed_of_stuck (hflat.elim hσ.paired.flat id) hstuck hm
  stuck := fun hflat frame _ hstuck => by
    rw [hs.scripts, hs.muted, hσ.primary, hσ.muted]
    exact hσ.told.muted_of_stuck (hflat.elim hσ.paired.flat id) hstuck

namespace Session

open Act

variable {s : Session}

/-- **Only its own primary callback mutes a frame, by raising an error when an update runs it, and the frame
stays muted**: that holds whenever the host of a run is met, however callbacks are nested. Every update has ended
when the run ends; and what is noted of updates is what they do, in whatever session. -/
theorem RanWithin.updatesKept (h : s.RanWithin scope) :
    (∀ journal host, s.Past journal host → Updates.Kept scope journal host) ∧
      updatesUnderWay s.journal = [] ∧
      ∀ (call : Caller) (t : Session), t.UpdatesWork call := by
  have past (journal : List Moment) (host : Host) (hp : s.Past journal host) :
      Updates.Kept scope journal host :=
    h.past (P := Updates.Kept scope) (I := Stage.Updating scope) Stage.updating_fresh
      (fun _ _ hστ hσ => hστ.updating hσ) (fun _ _ hs hσ => hσ.kept_of_shows hs) hp
  obtain ⟨clock, hsteps⟩ := h.steps
  have final : (s.stage []).Updating scope :=
    hsteps.keep (fun _ _ hστ hσ => hστ.updating hσ) (Stage.updating_fresh clock)
  exact ⟨past, final.paired.idle rfl, updatesWork⟩

/-- The primary callback of a frame raises an error in an update and the frame is muted for it, though it is
hidden and shown again; that of another frame fires an event whose listener raises an error, as does its hook,
and it is run in every update. -/
theorem updatesKept_runRootless :
    let scope : Scope := { raw := true, updates := false }
    let s := runRootless
      (fun callback _ _ =>
        if callback = "steady" then { steps := [.event (.fire "Ping" [])] } else { raises := some "enough" })
      [.frame (.create (.str "Frame") .null .none .null .null),
        .frame (.slot (some 1) (.setScript (.str "OnUpdate") (.callback "broken"))),
        .frame (.create (.str "Frame") .null .none .null .null),
        .frame (.slot (some 2) (.setScript (.str "OnUpdate") (.callback "steady"))),
        .frame (.slot (some 2) (.hookScript (.str "OnUpdate") (.callback "broken"))),
        .frame (.act (some 2) (.registerEvent "Ping")),
        .frame (.slot (some 2) (.setScript (.str "OnEvent") (.callback "broken"))),
        .host (.update .null),
        .frame (.act (some 1) (.setShown (.bool false))),
        .host (.step (.int 1)),
        .frame (.act (some 1) (.setShown (.bool true))),
        .host (.update .null)]
    (∀ journal host, s.Past journal host → Updates.Kept scope journal host) ∧
      updatesUnderWay s.journal = [] ∧
      ∀ (call : Caller) (t : Session), t.UpdatesWork call :=
  RanWithin.updatesKept (ranWithin_runRootless (fun callback _ _ => by split <;> decide) (by decide))

end Session

end FrameHost
