import ClassDiagram.Text.Basic
import ClassDiagram.Text.WordRanges

/-!
# Words

A text falls into runs: maximal stretches of word characters and the gaps between them. A whole word
of a text is an occurrence that has a word boundary at both ends, a boundary being a place where one
neighbour is a word character and the other is not, or is missing.
-/

namespace ClassDiagram.Text

/-- Whether a character may stand in a word. -/
def isWordChar (c : Char) : Bool :=
  wordRanges.holds c.toNat

/-- A longest stretch of word characters, or of other characters. -/
inductive Run where
  | word (text : Text)
  | gap (text : Text)
  deriving DecidableEq, Repr

namespace Run

/-- The characters of a run. -/
def text : Run → Text
  | word t => t
  | gap t => t

/-- A character before runs: it joins the first one if that is of its kind. -/
def cons (c : Char) (runs : List Run) : List Run :=
  if isWordChar c then
    match runs with
    | word t :: rest => word (c :: t) :: rest
    | rest => word [c] :: rest
  else
    match runs with
    | gap t :: rest => gap (c :: t) :: rest
    | rest => gap [c] :: rest

end Run

/-- The runs of a text, in order. -/
def runs (text : Text) : List Run :=
  text.foldr Run.cons []

/-- The characters of runs put together. -/
def ofRuns (runs : List Run) : Text :=
  runs.flatMap Run.text

/-- Runs lose no character. -/
theorem ofRuns_runs (text : Text) : ofRuns (runs text) = text := by
  induction text with
  | nil => rfl
  | cons c rest ih =>
      have step : ofRuns (Run.cons c (runs rest)) = c :: ofRuns (runs rest) := by
        unfold Run.cons
        split <;> split <;> simp_all [ofRuns, Run.text]
      rw [ih] at step
      exact step

/-- Whether a missing or present neighbour is a word character. -/
def inWord : Option Char → Bool
  | none => false
  | some c => isWordChar c

/-- Whether the place between two neighbours is the edge of a word. -/
def isBoundary (before after : Option Char) : Bool :=
  inWord before != inWord after

/-- Whether `part` begins `text` with a word boundary at both of its ends. -/
def startsWhole (part : Text) (before : Option Char) (text : Text) : Bool :=
  match dropStart? part text with
  | none => false
  | some rest =>
      isBoundary before text.head? &&
        isBoundary (part.getLast? <|> before) rest.head?

/-- Whether `part` stands in a text, of which `before` is the preceding character, with a word
boundary at both of its ends. -/
def containsWholeAfter (part : Text) (before : Option Char) : Text → Bool
  | [] => startsWhole part before []
  | c :: rest =>
      startsWhole part before (c :: rest) || containsWholeAfter part (some c) rest

/-- Whether `part` stands in a text with a word boundary at both of its ends. -/
def containsWhole (part text : Text) : Bool :=
  containsWholeAfter part none text

end ClassDiagram.Text
