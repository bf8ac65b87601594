import FrameHost.Fault
import FrameHost.Number.Decimal

/-!
# Names of new frames

The name asked for a new frame may hold `$parent`, in any letter case, which stands for the name of its
parent. The parent's name is not put in as it is: it is a replacement text, in which a backslash starts
an escape. `\n` and its like stand for control characters, octal digits for the character of that code,
`\g<0>` for the `$parent` that is being replaced; an escaped letter without a meaning and a reference to
any other group are faults, whether the name holds `$parent` or not.

* `Naming.parse`: reads a replacement text.
* `Naming.expand`: puts it in for every `$parent`, from the left.
-/

namespace FrameHost.Naming

/-! ## Replacement texts -/

/-- A part of a replacement text. -/
inductive Piece
  /-- A character that stands for itself. -/
  | char (c : Char)
  /-- The text that is being replaced. -/
  | matched
  deriving DecidableEq, Repr

/-- A replacement text cut at its backslashes. -/
inductive Mark
  | plain (c : Char)
  | escaped (c : Char)
  /-- A backslash with nothing after it. -/
  | lone
  deriving DecidableEq, Repr

/-- Cuts a replacement text at its backslashes. -/
def marks : List Char → List Mark
  | [] => []
  | ['\\'] => [.lone]
  | '\\' :: c :: cs => .escaped c :: marks cs
  | c :: cs => .plain c :: marks cs

/-- The name of a group up to the closing bracket, and what follows it. -/
def groupName? (name : List Char) : List Mark → Option (List Char × List Mark)
  | [] => none
  | .plain '>' :: ms => some (name.reverse, ms)
  | .plain c :: ms => groupName? (c :: name) ms
  | .escaped c :: ms => groupName? (c :: '\\' :: name) ms
  | .lone :: _ => none

/-- Whether a character may stand in an identifier. Outside ASCII every character may. -/
def isIdentifierChar (c : Char) : Bool := c.isAlphanum || c == '_' || 0x80 ≤ c.toNat

def isIdentifier : List Char → Bool
  | [] => false
  | c :: cs => isIdentifierChar c && (Decimal.digit? c).isNone && cs.all isIdentifierChar

/-- What a reference to a named group stands for: there is only group zero, the whole match. -/
def group (name : List Char) (rest : List Mark) : Except Fault Piece :=
  if rest = [.lone] then .error .badEscape
  else if isIdentifier name then .error .unknownGroup
  else if Decimal.readInt? (String.ofList name) = some 0 then .ok .matched
  else .error .badEscape

def octal? (c : Char) : Option Nat :=
  if '0' ≤ c ∧ c ≤ '7' then some (c.toNat - '0'.toNat) else none

/-- Up to `count` octal digits after `value`. -/
def octalRun (value : Nat) : (count : Nat) → List Mark → Nat × List Mark
  | count + 1, .plain c :: ms =>
    match octal? c with
    | some d => octalRun (value * 8 + d) count ms
    | none => (value, .plain c :: ms)
  | _, ms => (value, ms)

theorem length_octalRun (value count : Nat) (ms : List Mark) :
    (octalRun value count ms).2.length ≤ ms.length := by
  fun_induction octalRun value count ms with
  | case1 _ _ _ _ _ _ ih => exact Nat.le_succ_of_le ih
  | case2 => exact Nat.le_refl _
  | case3 => exact Nat.le_refl _

/-- The control character that an escaped letter stands for. -/
def control? : Char → Option Char
  | 'a' => some '\x07'
  | 'b' => some '\x08'
  | 'f' => some '\x0c'
  | 'n' => some '\n'
  | 'r' => some '\r'
  | 't' => some '\t'
  | 'v' => some '\x0b'
  | '\\' => some '\\'
  | _ => none

/-- What an escaped character other than a digit or `g` stands for. -/
def escape (c : Char) : Except Fault (List Piece) :=
  match control? c with
  | some d => .ok [.char d]
  | none => if c.isAlpha then .error .badEscape else .ok [.char '\\', .char c]

/-- Three octal digits that stand for a character; fewer digits refer to a group that is not there. -/
def octalChar (c : Char) : List Mark → Except Fault (Piece × List Mark)
  | .plain d :: .plain e :: ms =>
    match octal? c, octal? d, octal? e with
    | some x, some y, some z =>
      let n := (x * 8 + y) * 8 + z
      if n ≤ 0xff then .ok (.char (Char.ofNat n), ms) else .error .badEscape
    | _, _, _ => .error .badEscape
  | _ => .error .badEscape

theorem length_octalChar {c : Char} {ms rest : List Mark} {p : Piece}
    (h : octalChar c ms = .ok (p, rest)) : rest.length ≤ ms.length := by
  unfold octalChar at h
  split at h
  · split at h
    · simp only at h
      split at h
      · injection h with h
        injection h with _ h
        subst h
        simp only [List.length_cons]
        omega
      · cases h
    · cases h
  · cases h

theorem length_groupName? {name n : List Char} {ms rest : List Mark}
    (h : groupName? name ms = some (n, rest)) : rest.length ≤ ms.length := by
  fun_induction groupName? name ms with
  | case1 => cases h
  | case2 =>
    injection h with h
    injection h with _ h
    subst h
    exact Nat.le_succ _
  | case3 _ _ _ _ ih => exact Nat.le_succ_of_le (ih h)
  | case4 _ _ _ ih => exact Nat.le_succ_of_le (ih h)
  | case5 => cases h

def parseMarks : List Mark → Except Fault (List Piece)
  | [] => .ok []
  | .lone :: _ => .error .badEscape
  | .plain c :: ms => do .ok (.char c :: (← parseMarks ms))
  | .escaped 'g' :: .plain '<' :: ms =>
    match _h : groupName? [] ms with
    | none => .error .badEscape
    | some (name, rest) => do
      let p ← group name rest
      .ok (p :: (← parseMarks rest))
  | .escaped c :: ms =>
    if c = 'g' then .error .badEscape
    else if c = '0' then
      let run := octalRun 0 2 ms
      do .ok (.char (Char.ofNat (run.1 % 0x100)) :: (← parseMarks run.2))
    else if c.isDigit then
      match _h : octalChar c ms with
      | .error e => .error e
      | .ok (p, rest) => do .ok (p :: (← parseMarks rest))
    else do
      let ps ← escape c
      .ok (ps ++ (← parseMarks ms))
termination_by ms => ms.length
decreasing_by
  · exact Nat.lt_succ_self _
  · have := length_groupName? _h
    simp only [List.length_cons]
    omega
  · exact Nat.lt_succ_of_le (length_octalRun 0 2 ms)
  · exact Nat.lt_succ_of_le (length_octalChar _h)
  · exact Nat.lt_succ_self _

/-- Reads a parent's name as a replacement text. A name without a backslash stands for itself. -/
def parse (name : String) : Except Fault (List Piece) := parseMarks (marks name.toList)

/-- What a replacement text becomes for the text it replaces. -/
def fill (matched : List Char) (ps : List Piece) : List Char :=
  ps.flatMap fun
    | .char c => [c]
    | .matched => matched

/-! ## Names -/

/-- The word that stands for the name of the parent. -/
def token : List Char := "$parent".toList

/-- Whether a text starts with the word. -/
def startsWithToken (cs : List Char) : Bool := (cs.take token.length).map Char.toLower == token

/-- Puts a replacement in for every word, from the left. -/
def expandChars (replacement : List Piece) : List Char → List Char
  | [] => []
  | c :: cs =>
    if startsWithToken (c :: cs) then
      fill ((c :: cs).take token.length) replacement ++
        expandChars replacement (cs.drop (token.length - 1))
    else c :: expandChars replacement cs
termination_by cs => cs.length
decreasing_by
  · simp only [List.length_drop, List.length_cons]
    omega
  · exact Nat.lt_succ_self _

/-- The name of a new frame: the name asked for, with the parent's name put in. -/
def expand (name parentName : String) : Except Fault String := do
  let replacement ← parse parentName
  .ok (String.ofList (expandChars replacement name.toList))

end FrameHost.Naming
