import FrameHost.Text.Quoted

/-!
# Faults

What makes an operation fail instead of answering. A fault names its cause; `Fault.message` words
those whose wording is part of the output.
-/

namespace FrameHost

/-- Why an operation failed. -/
inductive Fault
  /-- A text that should be a number is none. -/
  | notANumber (text : String)
  /-- A text that should be a whole number is none. -/
  | notWhole (text : String)
  /-- NaN has no whole part. -/
  | nanToWhole
  /-- An infinity has no whole part. -/
  | infinityToWhole
  /-- A whole number is beyond the doubles. -/
  | beyondDouble
  /-- A value is of a kind that the operation has no use for. -/
  | wrongKind
  /-- A value lacks the part that was asked of it. -/
  | missingPart
  /-- A replacement text refers to a group that has no such name. -/
  | unknownGroup
  /-- A replacement text has a bad escape. -/
  | badEscape
  /-- The bytes of a file are no text. -/
  | notText
  /-- A configuration file is missing or cannot be read. -/
  | unreadable (filename : String)
  deriving DecidableEq, Repr

namespace Fault

/-- The wording of a fault, where it has one. -/
def message : Fault → Option String
  | .notANumber text => some ("could not convert string to float: " ++ Text.quote text)
  | .notWhole text => some ("invalid literal for int() with base 10: " ++ Text.quote text)
  | .nanToWhole => some "cannot convert float NaN to integer"
  | .infinityToWhole => some "cannot convert float infinity to integer"
  | .beyondDouble => some "int too large to convert to float"
  | .unreadable filename => some ("Config not found or unreadable: " ++ filename)
  | .wrongKind | .missingPart | .unknownGroup | .badEscape | .notText => none

end Fault

end FrameHost
