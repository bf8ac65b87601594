import FrameHost.Proofs.Isolation.Dispatch
import FrameHost.Action

/-!
# Frame operations and errors

Making a frame, asking it and changing it are twins for callbacks that are: what an operation tells frames
of is told to each of them, and what it answers does not depend on what callbacks raise.

* `create_twin`: making a frame.
* `withVisibility_twin`: a change of the tree and what it tells.
* `frameAction_twin`, `slotAction_twin`: the actions.
-/

namespace FrameHost.Session

open Act

variable {call call' : Caller}

/-! ## Creating frames -/

theorem sayMoved_twin (id : FrameId) (f : Frame) :
    Act.Twin Eq (sayMoved id f) (sayMoved id f) := by
  unfold sayMoved
  split
  · refine registry_twin.bind fun r => ?_
    split
    · exact say_twin ..
    · exact .pure _
  · exact .pure _

theorem enroll_twin (id : FrameId) (f : Frame) : Act.Twin Eq (enroll id f) (enroll id f) := by
  unfold enroll
  exact (sayMoved_twin id f).bind fun _ => (onRegistry_twin _).bind fun _ => say_twin ..

theorem register_twin (wanted : FrameId) (f : Frame) :
    Act.Twin Eq (register wanted f) (register wanted f) := by
  unfold register
  refine registry_twin.bind fun r => ?_
  have taken (id : FrameId) := (enroll_twin id f).bind fun _ => Act.Twin.pure id
  dsimp only
  split
  · exact drawId_twin.bind fun fresh => (say_twin ..).bind fun _ => (Act.Twin.pure _).bind taken
  · exact (Act.Twin.pure _).bind taken

theorem registerAgain_twin (id : FrameId) :
    Act.Twin Eq (registerAgain id) (registerAgain id) := by
  unfold registerAgain
  refine registry_twin.bind fun r => ?_
  split
  · exact .pure _
  · exact (enroll_twin _ _).bind fun _ => .pure _

theorem templateInfo_twin (name : String) :
    Attempt.Twin (templateInfo name) (templateInfo name) := by
  unfold templateInfo
  refine lift_currentHost_bind_twin fun h errors => ?_
  refine (Attempt.Twin.lift (onHost_twin fun _ errors => ⟨errors, rfl⟩)).bind fun _ => ?_
  exact (Attempt.Twin.lift (sayNotes_twin _ _)).bind fun _ => .attempt _

theorem applyTemplate_twin (f : Frame) (name : String) :
    Attempt.Twin (applyTemplate f name) (applyTemplate f name) := by
  unfold applyTemplate
  refine (templateInfo_twin name).bind fun info => ?_
  split
  · exact (Attempt.Twin.lift (say_twin ..)).bind fun _ => .pure _
  · exact .pure _

theorem applyTemplates_twin (f : Frame) (template : Value) :
    Attempt.Twin (applyTemplates f template) (applyTemplates f template) := by
  unfold applyTemplates
  refine lift_currentHost_bind_twin fun h errors => ?_
  dsimp only
  split
  · exact .pure _
  split
  · exact .foldlM applyTemplate_twin _ _
  · exact .throw _

theorem nameFor_twin (name : Value) (parent : Option Frame) :
    Attempt.Twin (nameFor name parent) (nameFor name parent) := by
  unfold nameFor
  split
  · split
    · exact .pure _
    · exact (Attempt.Twin.attempt _).bind fun _ => .pure _
  · split
    · exact (Attempt.Twin.attempt _).bind fun _ => .throw _
    · exact .pure _

theorem setScript_twin (frame : Option FrameId) (handler callback : Value) :
    Act.Twin Eq (setScript frame handler callback) (setScript frame handler callback) := by
  unfold setScript
  split
  · exact currentHost_bind_twin fun _ _ => (say_twin ..).bind fun _ => .pure _
  · exact (onScripts_twin _).bind fun _ => (record_twin rfl).bind fun _ => .pure _

theorem installScripts_twin (frame : FrameId) (scripts : Value) :
    Attempt.Twin (installScripts frame scripts) (installScripts frame scripts) := by
  unfold installScripts
  split
  · exact .forM (fun _ => (Attempt.Twin.lift (setScript_twin _ _ _)).bind fun _ => .pure _) _
  · split
    · exact .throw _
    · exact .pure _

/-! ## Links and anchors -/

theorem setParentKey_twin (id : FrameId) (f : Frame) (key : String) :
    Act.Twin Eq (setParentKey id f key) (setParentKey id f key) := by
  unfold setParentKey
  refine registry_twin.bind fun r => ?_
  split
  · exact .pure _
  · exact (onRegistry_twin _).bind fun _ => .pure _

theorem mayAnchor_twin (id : FrameId) (f : Frame) (relativeTo : Option FrameId) :
    Act.Twin Eq (mayAnchor id f relativeTo) (mayAnchor id f relativeTo) := by
  unfold mayAnchor
  refine registry_twin.bind fun r => ?_
  split
  · exact .pure _
  · split
    · exact (say_twin ..).bind fun _ => .pure _
    · exact .pure _

theorem setPoint_twin (id : FrameId) (f : Frame) (point : Value) (relativeTo : Option FrameId)
    (relativePoint x y : Value) :
    Attempt.Twin (setPoint id f point relativeTo relativePoint x y)
      (setPoint id f point relativeTo relativePoint x y) := by
  let write (p q : AnchorPoint) : Attempt Bool := do
    if !(← mayAnchor id f relativeTo) then return false
    let anchor : Anchor := ⟨p, relativeTo, q, ← attempt x.toFloat, ← attempt y.toFloat⟩
    if (f.anchorAt? p).any anchor.agrees then return true
    onRegistry fun r => r.edit id fun f => { f with anchors := putAnchor anchor f.anchors }
    return true
  have written (p q : AnchorPoint) : Attempt.Twin (write p q) (write p q) := by
    refine (Attempt.Twin.lift (mayAnchor_twin id f relativeTo)).bind fun free => ?_
    split
    · exact .pure _
    · refine (Attempt.Twin.attempt _).bind fun x => (Attempt.Twin.attempt _).bind fun y => ?_
      dsimp only
      split
      · exact .pure _
      · exact (Attempt.Twin.lift (onRegistry_twin _)).bind fun _ => .pure _
  have refused (reason : String) := (Attempt.Twin.lift (say_twin "FrameManager" .trace "layout"
    ("set_point ignored: " ++ reason))).bind fun _ => Attempt.Twin.pure false
  unfold setPoint
  refine lift_currentHost_bind_twin fun h errors => ?_
  have hlabel : Host.label { h with errors } = h.label := rfl
  rw [hlabel]
  split
  · exact refused _
  · cases relativeTo with
    | none => exact written _ _
    | some target =>
      dsimp only
      split
      · exact refused _
      · exact written _ _

theorem setAllPoints_twin (id : FrameId) (f : Frame) (relativeTo : Option FrameId) :
    Act.Twin Eq (setAllPoints id f relativeTo) (setAllPoints id f relativeTo) := by
  unfold setAllPoints
  refine registry_twin.bind fun r => ?_
  dsimp only
  split
  · exact .pure _
  · refine (mayAnchor_twin id f relativeTo).bind fun free => ?_
    split
    · exact .pure _
    · exact (onRegistry_twin _).bind fun _ => .pure _

theorem clearPoint_twin (id : FrameId) (f : Frame) (point : Value) :
    Act.Twin Eq (clearPoint id f point) (clearPoint id f point) := by
  unfold clearPoint
  split
  · exact .pure _
  · split
    · exact (onRegistry_twin _).bind fun _ => .pure _
    · exact .pure _

theorem shiftPoints_twin (id : FrameId) (f : Frame) (dx dy : Value) :
    Attempt.Twin (shiftPoints id f dx dy) (shiftPoints id f dx dy) := by
  unfold shiftPoints
  refine (Attempt.Twin.lift (onRegistry_twin _)).bind fun _ => ?_
  split
  · exact .pure _
  · refine (Attempt.Twin.attempt _).bind fun dx => (Attempt.Twin.attempt _).bind fun dy => ?_
    exact (Attempt.Twin.lift (onRegistry_twin _)).bind fun _ => .pure _

/-! ## Layer and level -/

theorem setStrata_twin (id : FrameId) (strata : Value) :
    Attempt.Twin (setStrata id strata) (setStrata id strata) := by
  unfold setStrata
  refine (Attempt.Twin.lift (onRegistry_twin _)).bind fun _ => ?_
  split
  · refine lift_currentHost_bind_twin fun h errors => ?_
    exact (Attempt.Twin.lift (say_twin ..)).bind fun _ => .pure _
  · exact (tryRegistry_twin _).bind fun _ => .pure _

theorem setLevel_twin (id : FrameId) (level : Value) :
    Attempt.Twin (setLevel id level) (setLevel id level) := by
  unfold setLevel
  refine (Attempt.Twin.lift (onRegistry_twin _)).bind fun _ => ?_
  exact (Attempt.Twin.attempt _).bind fun _ => (tryRegistry_twin _).bind fun _ => .pure _

/-! ## Scripts and events -/

theorem hookScript_twin (frame : Option FrameId) (handler callback : Value) :
    Act.Twin Eq (hookScript frame handler callback) (hookScript frame handler callback) := by
  unfold hookScript
  split
  · exact (onScripts_twin _).bind fun _ => .pure _
  · exact currentHost_bind_twin fun _ _ => (say_twin ..).bind fun _ => .pure _

theorem slotAction_twin (id : Option FrameId) (a : SlotAction) :
    Act.Twin Eq (slotAction id a) (slotAction id a) := by
  cases a with
  | setScript handler callback => exact (setScript_twin _ _ _).bind fun _ => .pure _
  | getScript | hasScript => exact currentHost_bind_twin fun _ _ => .pure _
  | hookScript handler callback => exact (hookScript_twin _ _ _).bind fun _ => .pure _

theorem listen_twin (frame : FrameId) (event : String) :
    Act.Twin Eq (listen frame event) (listen frame event) := by
  unfold listen
  refine registry_twin.bind fun r => ?_
  split
  · exact (retune_twin _).bind fun _ => (say_twin ..).bind fun _ => .pure _
  · exact .pure _

/-! ## Actions -/

theorem absentAction_twin (id : Option FrameId) (a : FrameAction) :
    Act.Twin Eq (absentAction id a) (absentAction id a) := by
  unfold absentAction
  split <;> first
    | exact .pure _
    | exact currentHost_bind_twin fun _ _ => (say_twin ..).bind fun _ => .pure _

variable (hcall : ∀ callback args, Act.Twin Milder (call callback args) (call' callback args))

include hcall

/-- What follows the registration of a new frame. -/
def settleFrame (call : Caller) (kind : WidgetType) (scripts : Value) (id : FrameId) :
    Attempt (Option FrameId) := do
  record (.created id (← registry))
  installScripts id scripts
  let _ ← runSlot call ⟨id, .onLoad⟩ []
  say "FrameManager" .state "registry"
    ("Created " ++ kind.name ++ " " ++ (← currentHost).label id)
  return some id

theorem settleFrame_twin (kind : WidgetType) (scripts : Value) (id : FrameId) :
    Attempt.Twin (settleFrame call kind scripts id) (settleFrame call' kind scripts id) := by
  unfold settleFrame
  refine (Attempt.Twin.lift registry_twin).bind fun r => ?_
  refine (Attempt.Twin.lift (record_twin rfl)).bind fun _ => ?_
  refine (installScripts_twin _ _).bind fun _ => ?_
  refine (Attempt.Twin.lift (runSlot_twin hcall _ _)).bind fun _ => ?_
  refine lift_currentHost_bind_twin fun h errors => ?_
  exact (Attempt.Twin.lift (say_twin ..)).bind fun _ => .pure _

/-- What is done for a frame of a known type. -/
def make (call : Caller) (kind : WidgetType) (name : Value) (parent : Option FrameId)
    (parentFrame : Option Frame) (template scripts : Value) : Attempt (Option FrameId) := do
  let name ← nameFor name parentFrame
  let wanted ← drawId
  let above := parent.bind fun id => parentFrame.map fun f => (id, f)
  let f ← applyTemplates (blankFrame kind name above) template
  let id ← register wanted f
  if let some (p, _) := above then
    onRegistry fun r => r.addChild p id
  settleFrame call kind scripts id

theorem make_twin (kind : WidgetType) (name : Value) (parent : Option FrameId)
    (parentFrame : Option Frame) (template scripts : Value) :
    Attempt.Twin (make call kind name parent parentFrame template scripts)
      (make call' kind name parent parentFrame template scripts) := by
  unfold make
  refine (nameFor_twin _ _).bind fun name => ?_
  refine (Attempt.Twin.lift drawId_twin).bind fun wanted => ?_
  refine (applyTemplates_twin _ _).bind fun f => ?_
  refine (Attempt.Twin.lift (register_twin _ _)).bind fun id => ?_
  dsimp only
  split
  · exact (Attempt.Twin.lift (onRegistry_twin _)).bind fun _ => settleFrame_twin hcall kind scripts id
  · exact settleFrame_twin hcall kind scripts id

theorem create_twin (type name : Value) (parent : Option FrameId) (template scripts : Value) :
    Attempt.Twin (create call type name parent template scripts)
      (create call' type name parent template scripts) := by
  unfold create
  split
  · refine lift_currentHost_bind_twin fun h errors => ?_
    exact (Attempt.Twin.lift (say_twin ..)).bind fun _ => .pure _
  · rename_i kind _
    refine (Attempt.Twin.lift registry_twin).bind fun r => ?_
    have made := make_twin hcall kind name parent (r.at? parent) template scripts
    dsimp only
    split
    · exact (Attempt.Twin.lift (say_twin ..)).bind fun _ => made
    · exact made

/-! ## What callbacks are told -/

theorem notify_twin (frame : FrameId) (was : Bool) :
    Act.Twin Eq (notify call frame was) (notify call' frame was) := by
  unfold notify
  refine registry_twin.bind fun r => ?_
  dsimp only
  split
  · exact (record_twin rfl).bind fun _ => (runSlot_twin hcall _ _).bind fun _ => .pure _
  · exact .pure _

/-- **Every frame whose visibility changed is told.** -/
theorem withVisibility_twin (id : FrameId) {change : Attempt Unit}
    (hchange : Attempt.Twin change change) :
    Attempt.Twin (withVisibility call id change) (withVisibility call' id change) := by
  unfold withVisibility
  refine (Attempt.Twin.lift registry_twin).bind fun r => hchange.bind fun _ => ?_
  exact .forM (fun _ => .lift (notify_twin hcall _ _)) _

theorem setParent_twin (id : FrameId) (f : Frame) (parent : Option FrameId) :
    Attempt.Twin (setParent call id f parent) (setParent call' id f parent) := by
  unfold setParent
  refine (Attempt.Twin.lift registry_twin).bind fun r => ?_
  split
  · exact (Attempt.Twin.lift (say_twin ..)).bind fun _ => .pure _
  · split
    · exact .pure _
    · exact (withVisibility_twin hcall id (tryRegistry_twin _)).bind fun _ => .pure _

theorem resize_twin (id : FrameId) (f : Frame) (width height : Float) :
    Act.Twin Eq (resize call id f width height) (resize call' id f width height) := by
  unfold resize
  split
  · exact .pure _
  · exact (onRegistry_twin _).bind fun _ => (runSlot_twin hcall _ _).bind fun _ => .pure _

theorem setSize_twin (id : FrameId) (f : Frame) (width height : Value) :
    Attempt.Twin (setSize call id f width height) (setSize call' id f width height) := by
  unfold setSize
  refine (Attempt.Twin.attempt _).bind fun width => (Attempt.Twin.attempt _).bind fun height => ?_
  exact .lift (resize_twin hcall id f width height)

theorem setShown_twin (id : FrameId) (f : Frame) (shown : Bool) :
    Attempt.Twin (setShown call id f shown) (setShown call' id f shown) := by
  unfold setShown
  split
  · exact .pure _
  · exact (withVisibility_twin hcall id (.lift (onRegistry_twin _))).bind fun _ => .pure _

theorem setAttribute_twin (id : FrameId) (name : String) (value : Value) :
    Act.Twin Eq (setAttribute call id name value) (setAttribute call' id name value) := by
  unfold setAttribute
  exact (onRegistry_twin _).bind fun _ => (runSlot_twin hcall _ _).bind fun _ => .pure _

theorem presentAction_twin (id : FrameId) (f : Frame) (a : FrameAction) :
    Attempt.Twin (presentAction call id f a) (presentAction call' id f a) := by
  cases a with
  | getName | getType | getParent | childByKey | countPoints | getPoint | isShown | getStrata
  | getLevel | getAttribute | isEventRegistered => exact .pure _
  | getChildren | getRegions | getParentKey | getWidth | getHeight | getSize | isVisible =>
    exact (Attempt.Twin.lift registry_twin).bind fun _ => .pure _
  | getRect =>
    refine lift_currentHost_bind_twin fun h errors => ?_
    exact (Attempt.Twin.attempt _).bind fun _ => .pure _
  | setParent parent =>
    refine (Attempt.Twin.lift registry_twin).bind fun r => ?_
    exact (setParent_twin hcall id f _).bind fun _ => .pure _
  | setParentKey key => exact (Attempt.Twin.lift (setParentKey_twin id f key)).bind fun _ => .pure _
  | setPoint point relativeTo relativePoint x y =>
    refine (Attempt.Twin.lift registry_twin).bind fun r => ?_
    exact (setPoint_twin id f _ _ _ _ _).bind fun _ => .pure _
  | setAllPoints relativeTo =>
    refine (Attempt.Twin.lift registry_twin).bind fun r => ?_
    exact (Attempt.Twin.lift (setAllPoints_twin id f _)).bind fun _ => .pure _
  | clearAllPoints | setFlag =>
    exact (Attempt.Twin.lift (onRegistry_twin _)).bind fun _ => .pure _
  | clearPoint point => exact (Attempt.Twin.lift (clearPoint_twin id f _)).bind fun _ => .pure _
  | shiftPoints dx dy => exact (shiftPoints_twin id f _ _).bind fun _ => .pure _
  | setSize | setWidth | setHeight => exact (setSize_twin hcall id f _ _).bind fun _ => .pure _
  | setShown shown => exact (setShown_twin hcall id f _).bind fun _ => .pure _
  | setStrata strata => exact (setStrata_twin id _).bind fun _ => .pure _
  | setLevel level => exact (setLevel_twin id _).bind fun _ => .pure _
  | setAttribute name value =>
    exact (Attempt.Twin.lift (setAttribute_twin hcall id _ _)).bind fun _ => .pure _
  | registerEvent event => exact (Attempt.Twin.lift (listen_twin id _)).bind fun _ => .pure _
  | unregisterEvent | registerAllEvents | unregisterAllEvents =>
    exact (Attempt.Twin.lift (retune_twin _)).bind fun _ => .pure _

/-- **Asking or changing a frame answers the same**, whichever of the callbacks it runs raise errors. -/
theorem frameAction_twin (id : Option FrameId) (a : FrameAction) :
    Attempt.Twin (frameAction call id a) (frameAction call' id a) := by
  unfold frameAction
  refine (Attempt.Twin.lift registry_twin).bind fun r => ?_
  split
  · exact presentAction_twin hcall _ _ a
  · exact .lift (absentAction_twin _ _)

theorem handleAction_twin (id : FrameId) (a : FrameAction) :
    Attempt.Twin (handleAction call id a) (handleAction call' id a) := by
  unfold handleAction
  refine (frameAction_twin hcall _ _).bind fun reply => ?_
  split
  · exact lift_currentHost_bind_twin fun _ _ => .pure _
  · exact .pure _

end FrameHost.Session
