import FrameHost.Proofs.Listeners.Run
import FrameHost.Proofs.Slots

/-!
# How one event is delivered

When an event is fired, the frames that listen for it at that time are gone through one after another. Callbacks
may change who listens while they run; a frame is given the event if it is registered when its turn comes, and
whoever begins to listen meanwhile waits for the next time.

* `Session.Deliveries`: frames are gone through, and some are given an event.
* `Session.deliverAll_deliveries`: **going through frames is that, and counts those that have a callback**.
* `Step.distinct`, `Session.Amid.nodup_listenersOf`: nobody listens twice.
* `Session.Amid.fire_delivers`: **what firing an event comes to, wherever a run has come**.
-/

namespace FrameHost

/-- The callbacks of a slot: the primary callback, if there is one, and then the hooks. -/
def ScriptTable.callbacksOf (t : ScriptTable) (slot : Slot) : List String :=
  (t.primary? slot).toList ++ t.hooksOf slot

namespace Session

open Act

variable {s t : Session} {script : Script} {depth : Nat} {event : String} {args : List Value} {frame : FrameId}
  {frames : List FrameId} {given : List (FrameId × List String)} {call : Caller} {scope : Scope} {α : Type}

/-! ## Slots -/

theorem runHooks_result (slot : Slot) (hooks : List String) (args : List Value) (s : Session) :
    result (runHooks call slot hooks args) s = hooks.length := by
  cases hooks <;> rfl

/-- Running a slot answers how many callbacks were in it. -/
theorem runSlot_result (slot : Slot) (args : List Value) (s : Session) :
    result (runSlot call slot args) s = (s.host.scripts.callbacksOf slot).length := by
  unfold runSlot ScriptTable.callbacksOf
  rw [result_currentHost_bind]
  dsimp only
  cases s.host.scripts.primary? slot with
  | none =>
    change 0 + result (runHooks call slot (s.host.scripts.hooksOf slot) args) _ = _
    rw [runHooks_result]
    simp
  | some callback =>
    change 1 + result (runHooks call slot (s.host.scripts.hooksOf slot) args) _ = _
    rw [runHooks_result]
    simp [Nat.add_comm]

/-! ## Deliveries -/

/-- Frames are gone through one after another, from a session to another. A frame that is registered for the
event when its turn comes is given it: the callbacks that are in its slot then are called, with its handle, the
event and what comes with it. `given` lists these frames with those callbacks. A frame that is not registered
then is passed by. -/
inductive Deliveries (call : Caller) (event : String) (args : List Value) :
    Session → List FrameId → List (FrameId × List String) → Session → Prop
  | done {s : Session} : Deliveries call event args s [] [] s
  | given {s t : Session} {frame : FrameId} {frames : List FrameId} {given : List (FrameId × List String)}
      (h : s.host.registry.isRegistered frame event = true)
      (hcalls : Calls (.handle frame :: .str event :: args)
        (s.host.scripts.callbacksOf ⟨some frame, .onEvent⟩)
        (runSlot call ⟨some frame, .onEvent⟩ (.str event :: args)) s)
      (rest : Deliveries call event args
        (after (runSlot call ⟨some frame, .onEvent⟩ (.str event :: args)) s) frames given t) :
      Deliveries call event args s (frame :: frames)
        ((frame, s.host.scripts.callbacksOf ⟨some frame, .onEvent⟩) :: given) t
  | passedBy {s t : Session} {frame : FrameId} {frames : List FrameId} {given : List (FrameId × List String)}
      (h : s.host.registry.isRegistered frame event = false)
      (rest : Deliveries call event args s frames given t) :
      Deliveries call event args s (frame :: frames) given t

/-- Nobody else is given the event, and nobody twice. -/
theorem Deliveries.sublist (h : Deliveries call event args s frames given t) :
    (given.map (·.1)).Sublist frames := by
  induction h with
  | done => exact .slnil
  | given _ _ _ ih => exact ih.cons_cons _
  | passedBy _ _ ih => exact ih.cons _

theorem deliver_of_registered (call : Caller) (args : List Value)
    (h : s.host.registry.isRegistered frame event = true) :
    result (deliver call event args frame) s =
        !(s.host.scripts.callbacksOf ⟨some frame, .onEvent⟩).isEmpty ∧
      after (deliver call event args frame) s =
        after (runSlot call ⟨some frame, .onEvent⟩ (.str event :: args)) s := by
  have hrun : deliver call event args frame = registry >>= fun r =>
      if r.isRegistered frame event then
        runSlot call ⟨some frame, .onEvent⟩ (.str event :: args) >>= fun ran => pure (decide (ran ≠ 0))
      else pure false := rfl
  rw [hrun, result_registry_bind, after_registry_bind, if_pos h]
  refine ⟨?_, rfl⟩
  change decide (result (runSlot call ⟨some frame, .onEvent⟩ (.str event :: args)) s ≠ 0) = _
  rw [runSlot_result]
  cases s.host.scripts.callbacksOf ⟨some frame, .onEvent⟩ <;> rfl

theorem deliver_of_unregistered (call : Caller) (args : List Value)
    (h : s.host.registry.isRegistered frame event = false) :
    result (deliver call event args frame) s = false ∧ after (deliver call event args frame) s = s := by
  have hrun : deliver call event args frame = registry >>= fun r =>
      if r.isRegistered frame event then
        runSlot call ⟨some frame, .onEvent⟩ (.str event :: args) >>= fun ran => pure (decide (ran ≠ 0))
      else pure false := rfl
  rw [hrun, result_registry_bind, after_registry_bind, h]
  exact ⟨rfl, rfl⟩

/-- **Going through frames gives the event to those that are registered when their turn comes, and counts those
that have a callback then.** -/
theorem deliverAll_deliveries
    (hscript : ∀ callback count args, ∀ c ∈ (script callback count args).steps, c.fits true = true)
    (depth : Nat) (event : String) (args : List Value) (frames : List FrameId) (s : Session) : ∃ given,
      Deliveries (runCallback script (depth + 1)) event args s frames given
        (after (deliverAll (runCallback script (depth + 1)) event args frames) s) ∧
      result (deliverAll (runCallback script (depth + 1)) event args frames) s =
        given.countP (!·.2.isEmpty) := by
  induction frames generalizing s with
  | nil => exact ⟨[], .done, rfl⟩
  | cons frame frames ih =>
    let call := runCallback script (depth + 1)
    have hresult : result (deliverAll call event args (frame :: frames)) s =
        (if result (deliver call event args frame) s then 1 else 0) +
          result (deliverAll call event args frames) (after (deliver call event args frame) s) := rfl
    have hafter : after (deliverAll call event args (frame :: frames)) s =
        after (deliverAll call event args frames) (after (deliver call event args frame) s) := rfl
    rw [hresult, hafter]
    cases hreg : s.host.registry.isRegistered frame event with
    | true =>
      obtain ⟨hr, ha⟩ := deliver_of_registered call args hreg
      have hframe : s.host.registry.contains frame = true := by
        obtain ⟨f, hf, -⟩ := (Option.any_eq_true ..).1 hreg
        rw [Registry.contains, Table.contains]
        exact Option.isSome_of_eq_some hf
      rw [hr, ha]
      obtain ⟨given, hgiven, hcount⟩ :=
        ih (after (runSlot call ⟨some frame, .onEvent⟩ (.str event :: args)) s)
      refine ⟨_, .given hreg (calls_slot hscript rfl hframe _) hgiven, ?_⟩
      rw [List.countP_cons, hcount, Nat.add_comm]
    | false =>
      obtain ⟨hr, ha⟩ := deliver_of_unregistered call args hreg
      rw [hr, ha]
      obtain ⟨given, hgiven, hcount⟩ := ih s
      exact ⟨given, .passedBy hreg hgiven, (Nat.zero_add _).trans hcount⟩

end Session

/-! ## Nobody listens twice -/

namespace Registry

variable {r r' : Registry} {id : FrameId}

/-- Nobody is registered twice for every event. -/
def Distinct (r : Registry) : Prop := r.allListeners.keys.Nodup

theorem Distinct.of_eq (h : r.Distinct) (heq : r'.allListeners = r.allListeners) : r'.Distinct := by
  rw [Distinct, heq]
  exact h

theorem allListeners_unregisterEvent (id : FrameId) (event : String) :
    (r.unregisterEvent id event).allListeners = r.allListeners := by
  unfold unregisterEvent
  split
  · dsimp only
    split <;> rfl
  · rfl

theorem distinct_enroll (h : r.Distinct) (id : FrameId) (f : Frame) : (r.enroll id f).Distinct := by
  have begun (whats : List (Option String)) {r : Registry} (h : r.Distinct) :
      (r.beginAll id whats).Distinct := by
    induction whats generalizing r with
    | nil => exact h
    | cons what whats ih =>
      refine ih ?_
      cases what with
      | none => exact Table.nodup_insertNew h ..
      | some event => exact h
  have seated : (r.seat id f).Distinct := h.of_eq (Silent.claimNameOf id f).allListeners
  rw [enroll_eq]
  exact begun _ seated

/-- Nobody is given an event twice. -/
theorem Distinct.nodup_listenersOf (h : r.Distinct) (event : String) : (r.listenersOf event).Nodup :=
  ((List.mergeSort_perm ..).map _).nodup_iff.2 (nodup_listenerMoments h event)

end Registry

theorem EarStep.distinct {r r' : Registry} (h : EarStep r r') (hr : r.Distinct) : r'.Distinct := by
  cases h with
  | absent => exact hr
  | listening id event =>
    unfold Registry.registerEvent
    split
    · exact hr
    · split <;> exact hr
  | deaf id event =>
    exact hr.of_eq (Registry.allListeners_unregisterEvent id event)
  | listeningToAll id =>
    unfold Registry.registerAllEvents
    split
    · exact hr
    · split
      · exact hr
      · exact Table.nodup_insert hr ..
  | deafToAll id =>
    unfold Registry.unregisterAllEvents
    split
    · exact hr
    · have deafened (events : List String) {r : Registry} (hr : r.Distinct) :
          (events.foldl (fun r event => r.unregisterEvent id event) r).Distinct := by
        induction events generalizing r with
        | nil => exact hr
        | cons event events ih => exact ih (hr.of_eq (Registry.allListeners_unregisterEvent id event))
      exact Table.nodup_erase (deafened _ hr) id

variable {scope : Scope} {σ τ : Stage}

/-- No step registers a frame twice for every event. -/
theorem Step.distinct (h : Step scope σ τ) (hσ : σ.registry.Distinct) : τ.registry.Distinct := by
  have written {r : Registry} (h : σ.registry.InPlace r) : r.Distinct := hσ.of_eq h.allListeners
  cases h with
  | framed h => exact written h.inPlace
  | keyed => exact written (.edit _ fun _ => rfl)
  | tied h => exact written h.inPlace
  | rewritten hraw h => exact written h.inPlace
  | changed h | changedInPart h => exact written h.inPlace
  | listened h => exact h.distinct hσ
  | created hg ha hf hr =>
    subst hr
    exact (Registry.distinct_enroll hσ _ _).of_eq (Registry.InPlace.link _ _).allListeners
  | enrolled f hraw hg hr | enrolledAgain hraw hf hr =>
    subst hr
    exact Registry.distinct_enroll hσ _ _
  | _ => exact hσ

namespace Session

open Act

variable {s : Session} {scope : Scope} {script : Script} {α : Type}

theorem Amid.nodup_listenersOf (h : Amid scope s) (event : String) :
    (s.host.registry.listenersOf event).Nodup := by
  obtain ⟨tasks, distinct⟩ := h.keep (I := fun σ => σ.registry.Distinct) (fun _ => List.nodup_nil)
    fun _ _ hστ hσ => hστ.distinct hσ
  exact distinct.nodup_listenersOf event

/-- **What firing an event comes to, wherever a run has come and whatever its callbacks do.** The frames that
listen for the event at the start are gone through in their order, each once; of these the ones that are
registered when their turn comes are given it, and nothing else is done but to write a line to the log. The
answer is how many of them had a callback then. The run goes on from there, so all this holds of what callbacks
fire, too. -/
theorem Amid.fire_delivers (h : Amid true s)
    (hscript : ∀ callback count args, ∀ c ∈ (script callback count args).steps, c.fits true = true)
    (depth : Nat) (event : String) (args : List Value) :
    let call := runCallback script (depth + 1)
    let listeners := s.host.registry.listenersOf event
    listeners.Nodup ∧ Amid true (after (fire call event args) s) ∧ ∃ given ended log,
      Deliveries call event args s listeners given ended ∧
      (given.map (·.1)).Sublist listeners ∧
      after (fire call event args) s = { ended with log } ∧
      result (fire call event args) s = given.countP (!·.2.isEmpty) := by
  intro call listeners
  have hcall : ∀ callback args s, Goes true (call callback args) s :=
    runCallback_goes_of_fits hscript (depth + 1)
  obtain ⟨given, hgiven, hcount⟩ := deliverAll_deliveries hscript depth event args listeners s
  have hamid := h.goes (fire_goes hcall event args s)
  exact ⟨h.nodup_listenersOf event, hamid, given, _, _, hgiven, hgiven.sublist, rfl, hcount⟩

/-- The callback `relay` makes the second frame stop to listen and a third one begin; all others do nothing. -/
def relaying : Script := fun callback _ _ =>
  if callback = "relay" then
    { steps := [.frame (.act (some 2) (.unregisterEvent "BAG_UPDATE")),
        .frame (.create (.str "Frame") .null .none .null .null),
        .frame (.act (some 3) (.registerEvent "BAG_UPDATE"))] }
  else {}

/-- Two frames that listen for an event; the first relays it. -/
def relayed : Session := runRootless relaying
  [.frame (.create (.str "Frame") .null .none .null .null),
    .frame (.create (.str "Frame") .null .none .null .null),
    .frame (.act (some 1) .registerAllEvents),
    .frame (.act (some 2) (.registerEvent "BAG_UPDATE")),
    .frame (.slot (some 1) (.setScript (.str "OnEvent") (.callback "relay"))),
    .frame (.slot (some 2) (.setScript (.str "OnEvent") (.callback "late")))]

theorem relaying_fits (callback : String) (count : Nat) (args : List Value) :
    ∀ c ∈ (relaying callback count args).steps, c.fits true = true := by
  unfold relaying
  split <;> decide

theorem fire_delivers_relayed : Amid true relayed ∧
    let listeners := relayed.host.registry.listenersOf "BAG_UPDATE"
    listeners.Nodup ∧ Amid true (after (fire (caller relaying) "BAG_UPDATE" [.int 7]) relayed) ∧
      ∃ given ended log,
      Deliveries (caller relaying) "BAG_UPDATE" [.int 7] relayed listeners given ended ∧
      (given.map (·.1)).Sublist listeners ∧
      after (fire (caller relaying) "BAG_UPDATE" [.int 7]) relayed = { ended with log } ∧
      result (fire (caller relaying) "BAG_UPDATE" [.int 7]) relayed = given.countP (!·.2.isEmpty) :=
  have amid : Amid true relayed := (ran_runRootless relaying_fits (by decide)).within.amid
  ⟨amid, amid.fire_delivers relaying_fits 399 "BAG_UPDATE" [.int 7]⟩

end Session

end FrameHost
