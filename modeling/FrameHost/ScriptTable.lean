import FrameHost.Handler
import FrameHost.Table

/-!
# Script slots

A frame has a slot for every handler. A slot holds at most one primary callback, which the last write
decides, and a list of hooks, which only grows.

Slots are kept by id alone: there need not be a frame of that id, and no id at all stands for slots of its
own, which belong to no frame.
-/

namespace FrameHost

/-- The slot of a frame for a handler; without a frame it belongs to none. -/
structure Slot where
  frame : Option FrameId
  handler : Handler
  deriving DecidableEq, Inhabited, Repr

/-- Every script slot of a host. -/
structure ScriptTable where
  primaries : Table Slot String := {}
  hooks : Table Slot (List String) := {}
  deriving DecidableEq, Inhabited, Repr

namespace ScriptTable

variable (t : ScriptTable)

def primary? (slot : Slot) : Option String := t.primaries.get? slot

/-- The hooks of a slot, oldest first. -/
def hooksOf (slot : Slot) : List String := (t.hooks.get? slot).getD []

/-- Writes the primary callback of a slot, or clears it. -/
def setPrimary (slot : Slot) : Option String → ScriptTable
  | some callback => { t with primaries := t.primaries.insert slot callback }
  | none => { t with primaries := t.primaries.erase slot }

def addHook (slot : Slot) (callback : String) : ScriptTable :=
  { t with hooks := t.hooks.insert slot (t.hooksOf slot ++ [callback]) }

/-- Clears every primary callback of a frame. -/
def clear (frame : Option FrameId) : ScriptTable :=
  { t with primaries := t.primaries.filter fun slot _ => slot.frame ≠ frame }

/-- The frames with a primary callback for a handler, by rising id. -/
def framesWith (handler : Handler) : List FrameId :=
  ((t.primaries.keys.filter (·.handler == handler)).filterMap (·.frame)).mergeSort
    fun a b => decide (a ≤ b)

/-- The frames with a primary callback for a handler, by rising id. A slot that belongs to no frame has no
place among them: it is a fault beside others, and stands for no frame when it is alone. -/
def holders (handler : Handler) : Except Fault (List (Option FrameId)) :=
  if t.primaries.contains ⟨none, handler⟩ then
    if (t.framesWith handler).isEmpty then .ok [none] else .error .wrongKind
  else .ok ((t.framesWith handler).map some)

/-- The slots of a frame that hold anything, with what they hold. -/
def slotsOf (frame : FrameId) : List (Handler × Option String × List String) :=
  Handler.all.filterMap fun h =>
    let primary := t.primary? ⟨frame, h⟩
    let hooks := t.hooksOf ⟨frame, h⟩
    if primary.isNone && hooks.isEmpty then none else some (h, primary, hooks)

theorem primary?_setPrimary (slot slot' : Slot) (callback : Option String) :
    (t.setPrimary slot callback).primary? slot' =
      if slot' == slot then callback else t.primary? slot' := by
  cases callback with
  | none => exact Table.get?_erase ..
  | some c => exact Table.get?_insert ..

theorem primary?_clear (frame : Option FrameId) (slot : Slot) :
    (t.clear frame).primary? slot = if slot.frame = frame then none else t.primary? slot := by
  refine (Table.get?_filter t.primaries (fun slot => decide (slot.frame ≠ frame)) slot).trans ?_
  by_cases h : slot.frame = frame <;> simp [h, primary?]

theorem hooksOf_addHook (slot slot' : Slot) (callback : String) :
    (t.addHook slot callback).hooksOf slot' =
      if slot' = slot then t.hooksOf slot ++ [callback] else t.hooksOf slot' := by
  unfold addHook hooksOf
  rw [Table.get?_insert]
  by_cases h : slot' = slot <;> simp [h]

@[simp] theorem hooksOf_setPrimary (slot slot' : Slot) (callback : Option String) :
    (t.setPrimary slot callback).hooksOf slot' = t.hooksOf slot' := by
  cases callback <;> rfl

end ScriptTable

end FrameHost
