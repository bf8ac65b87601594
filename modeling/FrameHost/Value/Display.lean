import FrameHost.Value

/-!
# Values in messages

How a value is shown inside a message: `Value.display` quotes texts, `Value.text` leaves a text by
itself as it is. Frame handles are shown by a label that only the host knows, so both take a function
for it.
-/

namespace FrameHost

def showInt (n : Int) : String :=
  if n < 0 then "-" ++ toString n.natAbs else toString n.natAbs

/-- A frame id, or `None`. -/
def showId : Option FrameId → String
  | some id => showInt id
  | none => "None"

def showBool (b : Bool) : String := if b then "True" else "False"

/-- A key as it is shown inside a mapping. -/
def Key.display : Key → String
  | .null => "None"
  | .bool b => showBool b
  | .int n => showInt n
  | .float x => Decimal.write x
  | .str s => Text.quote s

def AttributeKind.member : AttributeKind → String
  | .string => "STRING"
  | .number => "NUMBER"
  | .boolean => "BOOLEAN"
  | .nil => "NIL"
  | .object => "OPAQUE"

namespace Value

mutual

/-- A value as it is shown inside a message. -/
def display (label : FrameId → String) : Value → String
  | .null => "None"
  | .bool b => showBool b
  | .int n => showInt n
  | .float x => Decimal.write x
  | .str s => Text.quote s
  | .list items => "[" ++ ", ".intercalate (displayItems label items) ++ "]"
  | .map entries => "\x7b" ++ ", ".intercalate (displayEntries label entries) ++ "\x7d"
  | .callback name => "<callback " ++ name ++ ">"
  | .object name => "<object " ++ name ++ ">"
  | .handle id => "FrameHandle(" ++ label id ++ ")"
  | .attribute kind payload =>
    "AttributeValue(kind=<ValueKind." ++ kind.member ++ ": " ++ Text.quote kind.name ++ ">, payload=" ++
      display label payload ++ ")"

def displayItems (label : FrameId → String) : List Value → List String
  | [] => []
  | v :: vs => display label v :: displayItems label vs

def displayEntries (label : FrameId → String) : List (Key × Value) → List String
  | [] => []
  | (k, v) :: es => (k.display ++ ": " ++ display label v) :: displayEntries label es

end

/-- A value as a text: a text is itself, all else is shown. -/
def text (label : FrameId → String) : Value → String
  | .str s => s
  | v => v.display label

/-- The kind of a value, in the words of a message about calling it. -/
def kindName : Value → String
  | .null => "NoneType"
  | .bool _ => "bool"
  | .int _ => "int"
  | .float _ => "float"
  | .str _ => "str"
  | .list _ => "list"
  | .map _ => "dict"
  | .callback _ => "function"
  | .object _ => "object"
  | .handle _ => "FrameHandle"
  | .attribute _ _ => "AttributeValue"

end Value

end FrameHost
