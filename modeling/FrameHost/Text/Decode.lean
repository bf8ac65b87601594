/-!
# Texts in files

A file is text if its bytes are UTF-8. Its lines may end in a carriage return, a line feed, or both.
-/

namespace FrameHost.Text

/-- Every line end as a line feed. -/
def unifyLineEnds : List Char → List Char
  | [] => []
  | '\r' :: '\n' :: cs => '\n' :: unifyLineEnds cs
  | '\r' :: cs => '\n' :: unifyLineEnds cs
  | c :: cs => c :: unifyLineEnds cs

/-- The text of a file. -/
def decode (content : ByteArray) : Option String :=
  (String.fromUTF8? content).map fun s => String.ofList (unifyLineEnds s.toList)

end FrameHost.Text
