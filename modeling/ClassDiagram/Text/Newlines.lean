import ClassDiagram.Text.Basic

/-!
# Line endings of files

A file may end its lines with a line feed, a carriage return or both. Read as text, each of them is
one line feed.
-/

namespace ClassDiagram.Text

/-- A text in which every carriage return with the line feed after it, and every other carriage
return, is a line feed. -/
def normalizeNewlines : Text → Text
  | [] => []
  | '\r' :: '\n' :: rest => '\n' :: normalizeNewlines rest
  | '\r' :: rest => '\n' :: normalizeNewlines rest
  | c :: rest => c :: normalizeNewlines rest

end ClassDiagram.Text
