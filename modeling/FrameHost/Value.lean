import FrameHost.Fault
import FrameHost.Number.Decimal

/-!
# Host values

The values that scripts, configuration files and callers hand to the host: the plain ones of a data
file, and the references to things that live in the host (callbacks, opaque host objects, frame
handles, tagged attribute values).

* `Value.isTrue`: which values count as true.
* `Value.toFloat`, `Value.toInt`: what converts to a number, and which fault says that it does not.
* `Value.number`: the weaker conversion that arithmetic makes, which takes no text.
-/

namespace FrameHost

/-- Names a frame for as long as the host lives. -/
abbrev FrameId := Int

inductive Key
  | null
  | bool (b : Bool)
  | int (n : Int)
  | float (x : Float)
  | str (s : String)
  deriving DecidableEq, Inhabited, Repr

/-- The kinds of a tagged attribute value. -/
inductive AttributeKind
  | string
  | number
  | boolean
  | nil
  /-- A host object that is never looked into. -/
  | object
  deriving DecidableEq, Inhabited, Repr

def AttributeKind.name : AttributeKind → String
  | .string => "string"
  | .number => "number"
  | .boolean => "boolean"
  | .nil => "nil"
  | .object => "opaque"

inductive Value
  | null
  | bool (b : Bool)
  | int (n : Int)
  | float (x : Float)
  | str (s : String)
  | list (items : List Value)
  | map (entries : List (Key × Value))
  /-- A callback, by its name: two values of one name are one callback. -/
  | callback (name : String)
  /-- A host object, by its label. -/
  | object (label : String)
  /-- The handle of a frame. -/
  | handle (frame : FrameId)
  /-- A value already tagged as an attribute. -/
  | attribute (kind : AttributeKind) (payload : Value)
  deriving Inhabited, Repr

/-- The entries of a mapping, in the order of their first insertion. -/
abbrev Entries := List (Key × Value)

namespace Key

/-- The number that a key is, as a double would compare: truth values count as zero and one. -/
def whole? : Key → Option Int
  | .bool b => some (if b then 1 else 0)
  | .int n => some n
  | .float x => match Binary.ofFloat x with
    | .finite negative m e =>
      if Binary.roundNat m e = Binary.truncateNat m e ∧
          (0 ≤ e ∨ m % (1 <<< (-e).toNat) = 0) then
        some (Binary.withSign negative (Binary.truncateNat m e)) else none
    | _ => none
  | _ => none

/-- Whether two keys are one key of a mapping: numbers are compared by value. -/
def same (a b : Key) : Bool :=
  match a.whole?, b.whole? with
  | some m, some n => m == n
  | _, _ => a == b

def toValue : Key → Value
  | .null => .null
  | .bool b => .bool b
  | .int n => .int n
  | .float x => .float x
  | .str s => .str s

end Key

namespace Entries

/-- The value under a key. -/
def get? : Entries → Key → Option Value
  | [], _ => none
  | (k, v) :: es, key => if k.same key then some v else get? es key

def field? (es : Entries) (name : String) : Option Value := get? es (.str name)

/-- Writes a value under a key, in place when the key is there. -/
def put : Entries → Key → Value → Entries
  | [], key, v => [(key, v)]
  | (k, w) :: es, key, v => if k.same key then (k, v) :: es else (k, w) :: put es key v

end Entries

namespace Value

/-- Null, false, zero and everything empty count as false; all else counts as true. -/
def isTrue : Value → Bool
  | .null => false
  | .bool b => b
  | .int n => n != 0
  | .float x => !(x == 0.0)
  | .str s => !s.isEmpty
  | .list items => !items.isEmpty
  | .map entries => !entries.isEmpty
  | .callback _ | .object _ | .handle _ | .attribute _ _ => true

/-- Whether a value can be called. -/
def callback? : Value → Option String
  | .callback name => some name
  | _ => none

/-- A whole number as a double. -/
def ofWhole (n : Int) : Except Fault Float :=
  match Decimal.ofInt? n with
  | some x => .ok x
  | none => .error .beyondDouble

/-- The number that a value is in arithmetic. -/
def number : Value → Except Fault Float
  | .float x => .ok x
  | .int n => ofWhole n
  | .bool b => .ok (if b then 1.0 else 0.0)
  | _ => .error .wrongKind

/-- The double that a value converts to: a number, or a text that reads as one. -/
def toFloat : Value → Except Fault Float
  | .str s => match Decimal.readFloat? s with
    | some x => .ok x
    | none => .error (.notANumber s)
  | v => v.number

/-- The whole part of a double. -/
def truncate (x : Float) : Except Fault Int :=
  match Binary.ofFloat x with
  | .nan => .error .nanToWhole
  | .infinite _ => .error .infinityToWhole
  | .finite negative m e => .ok (Binary.withSign negative (Binary.truncateNat m e))

/-- The whole number nearest to a double, a half going to the even one. -/
def round (x : Float) : Except Fault Int :=
  match Binary.ofFloat x with
  | .nan => .error .nanToWhole
  | .infinite _ => .error .infinityToWhole
  | .finite negative m e => .ok (Binary.withSign negative (Binary.roundNat m e))

/-- The whole number that a value converts to: the whole part of a number, or a text that reads as a
whole number. -/
def toInt : Value → Except Fault Int
  | .int n => .ok n
  | .bool b => .ok (if b then 1 else 0)
  | .float x => truncate x
  | .str s => match Decimal.readInt? s with
    | some n => .ok n
    | none => .error (.notWhole s)
  | _ => .error .wrongKind

/-- A value as a key of a mapping; lists and mappings are none. -/
def key? : Value → Option Key
  | .null => some .null
  | .bool b => some (.bool b)
  | .int n => some (.int n)
  | .float x => some (.float x)
  | .str s => some (.str s)
  | _ => none

def entries? : Value → Option Entries
  | .map entries => some entries
  | _ => none

/-- The value under a text key of a mapping; null when the key is missing. -/
def field (v : Value) (name : String) : Except Fault Value :=
  match v with
  | .map entries => .ok ((Entries.field? entries name).getD .null)
  | _ => .error .missingPart

def texts (xs : List String) : Value := .list (xs.map .str)

def wholes (xs : List Int) : Value := .list (xs.map .int)

/-- A frame id, or null. -/
def ofId? : Option FrameId → Value
  | some id => .int id
  | none => .null

def ofText? : Option String → Value
  | some s => .str s
  | none => .null

end Value

end FrameHost
