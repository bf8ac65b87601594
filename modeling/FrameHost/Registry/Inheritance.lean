import FrameHost.Registry.Hierarchy

/-!
# Layer and level

A frame is drawn in the layer of its parent and one level above it, unless its own layer or level has
been fixed. A change at one frame is carried down to its descendants, parents before children.
-/

namespace FrameHost.Registry

variable (r : Registry)

/-- A frame takes layer and level from its parent where it has none of its own. -/
def settle (id : FrameId) : Registry :=
  match r.at? (r.parentOf id) with
  | none => r
  | some p => r.update id fun f =>
    { f with
      strata := if f.strataFixed then f.strata else p.strata
      level := if f.levelFixed then f.level else p.level + 1 }

/-- Frames settle one after another; an id that belongs to no frame ends this with a fault. -/
def settleAll : Registry → List FrameId → Registry × Option Fault
  | r, [] => (r, none)
  | r, id :: ids => if r.contains id then settleAll (r.settle id) ids else (r, some .missingPart)

def settleDescendants (id : FrameId) : Registry × Option Fault := r.settleAll (r.descendants id)

/-- A frame that has a parent settles, and its descendants after it. -/
def settleTree (id : FrameId) : Registry × Option Fault :=
  match r.at? (r.parentOf id) with
  | none => (r, none)
  | some _ => (r.settle id).settleDescendants id

def fixStrata (id : FrameId) (strata : String) : Registry × Option Fault :=
  (r.edit id fun f => { f with strata, strataFixed := true }).settleDescendants id

def fixLevel (id : FrameId) (level : Int) : Registry × Option Fault :=
  (r.edit id fun f => { f with level := max 0 level, levelFixed := true }).settleDescendants id

/-- Moves a frame under a new parent, or out of the tree. -/
def moveTo (id : FrameId) (parent : Option FrameId) : Registry × Option Fault :=
  let r := match r.parentOf id with
    | some old => r.removeChild old id
    | none => r
  let r := r.setParentField id parent
  match parent with
  | none => (r, none)
  | some p => (r.addChild p id).settleTree id

end FrameHost.Registry
