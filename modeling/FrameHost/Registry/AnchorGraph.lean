import FrameHost.Registry.Basic
import FrameHost.Walk

/-!
# The graph of anchors

A frame depends on the frames that its anchors are tied to; an anchor without a frame of its own is
tied to the parent. No anchor may be written that makes a frame depend on itself.
-/

namespace FrameHost.Registry

variable (r : Registry)

def anchorTargets (id : FrameId) : List FrameId := ((r.get? id).map Frame.anchorTargets).getD []

/-- What a frame depends on through anchors, itself first. -/
def dependencies (id : FrameId) : List FrameId := Walk.explore r.anchorTargets r.ids [id] []

/-- Whether tying a frame to `candidate` would make it depend on itself. -/
def wouldLoop (id candidate : FrameId) : Bool :=
  id == candidate || (r.dependencies candidate).any fun a => (r.anchorTargets a).contains id

end FrameHost.Registry
