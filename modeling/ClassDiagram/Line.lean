import ClassDiagram.Text.Blank
import ClassDiagram.Text.Case
import ClassDiagram.Text.Word

/-!
# Lines of a diagram

What a line is follows from tests on the line alone. The first test that succeeds gives its kind:
root declaration, closing of a class, opening of a class. Whether a line states a relation is asked
apart from its kind.
-/

namespace ClassDiagram

/-- The kinds of lines. -/
inductive LineKind where
  | sectionMarker
  | classClose
  | classOpen
  | other
  deriving DecidableEq, Repr

namespace Line

/-- The root keyword that a diagram has unless another one is set. -/
def defaultMarker : Text :=
  "classdiagram".toList

/-- Whether a line holds the root keyword as a whole word, in any case. -/
def isSectionMarker (marker line : Text) : Bool :=
  Text.containsWhole (Text.lower marker) (Text.lower line)

/-- Whether a line closes a class: it has a closing brace. -/
def isClassClose (line : Text) : Bool :=
  line.contains '}'

/-- Whether a line opens a class: it has the word `class`, in any case. -/
def isClassOpen (line : Text) : Bool :=
  Text.containsWhole "class".toList (Text.lower line)

/-- Whether a line states a relation: it has two hyphens in a row. -/
def isRelation (line : Text) : Bool :=
  Text.mentions "--".toList line

/-- The kind of a line. -/
def classify (marker line : Text) : LineKind :=
  if isSectionMarker marker line then .sectionMarker
  else if isClassClose line then .classClose
  else if isClassOpen line then .classOpen
  else .other

end Line

end ClassDiagram
