import FrameHost.Registry.Basic
import FrameHost.Walk

/-!
# Parents and children

The tree is kept twice: every frame names its parent, and every frame lists its children. The walks
here follow either side and end on every graph, also on one with loops or with ids that belong to no
frame.

* `Registry.chain`: the chain of parents, each id once.
* `Registry.descendants`: what the lists of children reach, nearest first, each id once.
* `Registry.isVisible`: shown, with every ancestor shown.
-/

namespace FrameHost.Registry

variable (r : Registry)

def parentOf (id : FrameId) : Option FrameId := (r.get? id).bind (·.parent)

def childrenOf (id : FrameId) : List FrameId := ((r.get? id).map (·.children)).getD []

/-! ## Walks -/

/-- The chain of parents from an id on, nearest first, up to where it ends or comes to an id that has
been seen. -/
def chain (seen : List FrameId) (start : Option FrameId) : List FrameId :=
  Walk.explore (fun a => (r.parentOf a).toList) r.ids start.toList seen

/-- The chain of parents above a frame, nearest first, up to where it ends or comes back to an id
already on it. -/
def ancestors (id : FrameId) : List FrameId := r.chain [] (r.parentOf id)

/-- Whether `ancestor` lies on the chain of parents above a frame. -/
def isAncestor (ancestor id : FrameId) : Bool := (r.ancestors id).contains ancestor

/-- How many ids lie on the chain of parents above a frame. The frame itself counts as seen, so that a
chain which comes back to it ends there. -/
def depth (id : FrameId) : Nat := (r.chain [id] (r.parentOf id)).length

/-- Whether a frame is shown and so is every frame above it. -/
def isVisible (id : FrameId) : Bool :=
  match r.get? id with
  | none => false
  | some f => f.visible && (r.ancestors id).all fun a => (r.get? a).all (·.visible)

/-- What the lists of children reach from a frame, nearest first, without the frame itself. -/
def descendants (id : FrameId) : List FrameId :=
  Walk.explore r.childrenOf r.ids (r.childrenOf id) [id]

/-- The children that pass a test on their type; an id that belongs to no frame counts as no region. -/
def childrenWhere (region : Bool) (id : FrameId) : List FrameId :=
  (r.childrenOf id).filter fun c => ((r.get? c).any (·.type.isRegion)) == region

/-! ## Links -/

/-- Lists a child under a parent, at the end and once. -/
def addChild (parent child : FrameId) : Registry :=
  r.edit parent fun p =>
    { p with children := if child ∈ p.children then p.children else p.children ++ [child] }

/-- Takes a child off a parent's list, with the names it was reached under. -/
def removeChild (parent child : FrameId) : Registry :=
  r.edit parent fun p =>
    { p with children := p.children.erase child, keys := p.keys.filter fun _ c => c ≠ child }

def setParentField (id : FrameId) (parent : Option FrameId) : Registry :=
  r.update id fun f => { f with parent }

end FrameHost.Registry
