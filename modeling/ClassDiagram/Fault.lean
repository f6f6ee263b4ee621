import ClassDiagram.Text.Blank
import ClassDiagram.Text.Quoted

/-!
# What can be wrong with a diagram

A diagram is refused for a relation line: for one of its cardinalities or because it has too few
words. The number of the line goes with the fault if it is known. Apart from these faults stands the
loss of a class that was just put into the mapping, which would be a defect of the library.
-/

namespace ClassDiagram

/-- What is wrong with a line. -/
inductive Fault where
  /-- A token that spells no cardinality. -/
  | unknownCardinality (token : Text)
  /-- A relation line with fewer than five words. -/
  | malformedRelation (line : Text)
  /-- Any other fault, in words. -/
  | other (description : Text)
  deriving DecidableEq, Repr

/-- The words for a fault. -/
def Fault.description : Fault → Text
  | .unknownCardinality token => "Entity relation error, no such relation ".toList ++ token
  | .malformedRelation line =>
      "Malformed relation, expected 'Left \"card\" -- \"card\" Right': ".toList
        ++ Text.quoted (Text.trim line)
  | .other description => description

/-- A fault and the number of its line. -/
structure LineFault where
  fault : Fault
  line : Option Int
  deriving DecidableEq, Repr

/-- The words for a fault, after the number of its line. -/
def LineFault.message (e : LineFault) : Text :=
  match e.line with
  | some n => "line ".toList ++ Text.ofInt n ++ ": ".toList ++ e.fault.description
  | none => e.fault.description

/-- A key that the mapping of classes should have and has not. -/
structure MissingClass where
  key : Text
  deriving DecidableEq, Repr

/-- The words for a missing class. -/
def MissingClass.message (e : MissingClass) : Text :=
  "Internal error: inconsistent class mapping, missing key ".toList ++ Text.quoted e.key

/-- Why a diagram has no classes. -/
inductive DiagramError where
  | refused (e : LineFault)
  | missingClass (e : MissingClass)
  deriving DecidableEq, Repr

/-- The words for an error. -/
def DiagramError.message : DiagramError → Text
  | .refused e => e.message
  | .missingClass e => e.message

end ClassDiagram
