import ClassDiagram.Text.Blank
import ClassDiagram.Text.Case
import ClassDiagram.Text.Word

/-!
# Headers of classes

A header names a class by a word before an opening brace, with or without white space between them.
A line may name several classes, or none. What follows its last opening brace is the first part of
the body.
-/

namespace ClassDiagram.Line

/-- Whether a gap leads from the word before it to an opening brace. -/
def opensBody (gap : Text) : Bool :=
  (gap.dropWhile Text.isBlank).head? = some '\x7b'

/-- The words before opening braces, in upper case. -/
def classNamesOfRuns : List Text.Run → List Text
  | [] => []
  | .gap _ :: rest => classNamesOfRuns rest
  | .word _ :: [] => []
  | .word name :: next :: rest =>
      if opensBody next.text then Text.upper name :: classNamesOfRuns (next :: rest)
      else classNamesOfRuns (next :: rest)

/-- The names of the classes that a line opens, in upper case and in order. -/
def classNames (line : Text) : List Text :=
  classNamesOfRuns (Text.runs line)

/-- The parts up to and after the last opening brace, if there is one. -/
def splitLastBrace : Text → Option (Text × Text)
  | [] => none
  | c :: rest =>
      match splitLastBrace rest with
      | some (header, body) => some (c :: header, body)
      | none => if c = '\x7b' then some (['\x7b'], rest) else none

/-- The header of a line and the body on the same line. Without an opening brace there is none. -/
def splitHeader (line : Text) : Text × Text :=
  (splitLastBrace line).getD (line, [])

end ClassDiagram.Line
