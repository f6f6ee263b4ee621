import ClassDiagram.Text.Word

/-!
# Members on a line

A member is written as a type and a name: two words with nothing but spaces and tabs between them.
The first such pair counts, whatever stands around it. A parameter list after the name makes it an
operation; the list has to end on the line where it begins, and its contents are not read.
-/

namespace ClassDiagram.Line

/-- A type and a name as they stand on a line. -/
structure Member where
  typeToken : Text
  name : Text
  isOperation : Bool
  deriving DecidableEq, Repr

/-- Whether a character may stand between a type and a name. -/
def isSpaceOrTab (c : Char) : Bool :=
  c = ' ' || c = '\t'

/-- Whether a parameter list follows: an opening parenthesis, and a closing one before the next line
break. -/
def startsParameters (text : Text) : Bool :=
  match text.dropWhile isSpaceOrTab with
  | '(' :: rest => (rest.takeWhile (· ≠ '\n')).contains ')'
  | _ => false

/-- The first pair of words with only spaces and tabs between them. -/
def memberOfRuns? : List Text.Run → Option Member
  | [] => none
  | .word type :: .gap gap :: .word name :: rest =>
      if gap.all isSpaceOrTab then some ⟨type, name, startsParameters (Text.ofRuns rest)⟩
      else memberOfRuns? (.gap gap :: .word name :: rest)
  | _ :: rest => memberOfRuns? rest

/-- The member that a text declares. -/
def member? (segment : Text) : Option Member :=
  memberOfRuns? (Text.runs segment)

end ClassDiagram.Line
