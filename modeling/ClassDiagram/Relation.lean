import ClassDiagram.Cardinality
import ClassDiagram.Class
import ClassDiagram.Fault

/-!
# Relations

A relation line has five words: a class, its cardinality, a label, the cardinality of the other
side and the other class, as in `Customer "1" -- "N" Order`. Words are read in upper case and
without double quotes; what follows the fifth word is not read. A relation with a many side puts an
attribute into the class that refers to the other one.
-/

namespace ClassDiagram

/-- Two classes and how many objects of each take part. -/
structure Relation where
  left : Text
  leftCardinality : Cardinality
  label : Text
  rightCardinality : Cardinality
  right : Text
  deriving DecidableEq, Repr

namespace Relation

/-- A word of a relation line in the form in which it is read. -/
def normalizeWord (word : Text) : Text :=
  (Text.upper word).filter (· ≠ '"')

/-- The cardinality of a token, or the fault that there is none. -/
def requireCardinality (number : Option Int) (token : Text) : Except LineFault Cardinality :=
  match Cardinality.ofToken? token with
  | some cardinality => .ok cardinality
  | none => .error ⟨.unknownCardinality token, number⟩

/-- Reads a relation line. The left cardinality is looked at before the right one. -/
def read (number : Option Int) (line : Text) : Except LineFault Relation :=
  match (Text.fields line).map normalizeWord with
  | left :: leftToken :: label :: rightToken :: right :: _ => do
      let leftCardinality ← requireCardinality number leftToken
      let rightCardinality ← requireCardinality number rightToken
      .ok ⟨left, leftCardinality, label, rightCardinality, right⟩
  | _ => .error ⟨.malformedRelation line, number⟩

/-- The attribute that a relation adds and the class that gets it. With one side many, the class of
that side refers to the other; with both, the left class refers to the right one. -/
def injected (suffix : Text) (r : Relation) : Option (Text × Attribute) :=
  match r.leftCardinality.isMany, r.rightCardinality.isMany with
  | false, true => some (r.right, ⟨.foreignKey r.left, r.left ++ suffix⟩)
  | true, false => some (r.left, ⟨.foreignKey r.right, r.right ++ suffix⟩)
  | true, true => some (r.left, ⟨.manyToMany r.right, r.right ++ suffix⟩)
  | false, false => none

end Relation

namespace ClassMap

/-- The classes with one more, without members, if there is none of that name. -/
def ensure (classes : ClassMap) (name : Text) : ClassMap :=
  if classes.contains name then classes else classes.insert name (Class.empty name)

/-- The class under a key that has to be there. -/
def require (classes : ClassMap) (key : Text) : Except MissingClass Class :=
  match classes.get? key with
  | some c => .ok c
  | none => .error ⟨key⟩

/-- The classes after a relation, and the class that got an attribute if one did. Both classes of
the relation are created if they are missing. -/
def relate (suffix : Text) (classes : ClassMap) (r : Relation) :
    Except MissingClass (ClassMap × Option Class) :=
  let both := ensure (ensure classes r.left) r.right
  match r.injected suffix with
  | none => .ok (both, none)
  | some (key, field) => do
      let target ← require both key
      let extended := target.addAttribute field
      .ok (both.insert key extended, some extended)

end ClassMap

end ClassDiagram
