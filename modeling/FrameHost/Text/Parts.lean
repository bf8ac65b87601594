/-!
# Texts in parts

Cutting a text at every occurrence of a character, and lists of texts in the order of their code points.
-/

namespace FrameHost.Text

/-- Cuts a text at every occurrence of a character: one more part than there are occurrences. -/
def cutAt (mark : Char) : List Char → List (List Char)
  | [] => [[]]
  | c :: cs =>
    if c = mark then [] :: cutAt mark cs
    else match cutAt mark cs with
      | [] => [[c]]
      | part :: parts => (c :: part) :: parts

theorem cutAt_ne_nil (mark : Char) (cs : List Char) : cutAt mark cs ≠ [] := by
  cases cs with
  | nil => simp [cutAt]
  | cons c cs =>
    unfold cutAt
    split
    · simp
    · split <;> simp

/-- Texts in the order of their code points. -/
def sorted (xs : List String) : List String := xs.mergeSort fun a b => decide (a ≤ b)

end FrameHost.Text
