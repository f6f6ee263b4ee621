import ClassDiagram.DataType
import ClassDiagram.OrderedMap

/-!
# Classes

A class has a name and lists its attributes and its operations in the order of their declaration.
The classes of a diagram form a map keyed by name.
-/

namespace ClassDiagram

/-- A field of a class. -/
structure Attribute where
  dataType : DataType
  name : Text
  deriving DecidableEq, Repr

/-- An operation of a class. A diagram's parameter lists are not kept. -/
structure Operation where
  returnType : DataType
  name : Text
  params : List Attribute
  deriving DecidableEq, Repr

/-- A class with its members in the order of declaration. -/
structure Class where
  name : Text
  attributes : List Attribute
  operations : List Operation
  deriving DecidableEq, Repr

namespace Class

/-- The class without a name and without members. -/
def blank : Class :=
  ⟨[], [], []⟩

instance : Inhabited Class := ⟨blank⟩

/-- A class without members; its name is written in upper case. -/
def empty (name : Text) : Class :=
  ⟨Text.upper name, [], []⟩

/-- The class with one more attribute. -/
def addAttribute (c : Class) (field : Attribute) : Class :=
  { c with attributes := c.attributes ++ [field] }

/-- The class with one more operation. -/
def addOperation (c : Class) (operation : Operation) : Class :=
  { c with operations := c.operations ++ [operation] }

/-- The class with the members of another one after its own. -/
def absorb (c other : Class) : Class :=
  { c with
    attributes := c.attributes ++ other.attributes
    operations := c.operations ++ other.operations }

end Class

/-- The classes of a diagram by name. -/
abbrev ClassMap := OrderedMap Class

end ClassDiagram
