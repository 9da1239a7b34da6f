/-!
# Ends of lines

Lines end with a line feed, a carriage return, or both. Texts are read with the first of these in
place of the others.
-/

namespace BusTraits.Text

/-- A text in which every line ends with a line feed. -/
def normalizeLineEnds : List Char → List Char
  | '\r' :: '\n' :: rest => '\n' :: normalizeLineEnds rest
  | '\r' :: rest => '\n' :: normalizeLineEnds rest
  | c :: rest => c :: normalizeLineEnds rest
  | [] => []

end BusTraits.Text
