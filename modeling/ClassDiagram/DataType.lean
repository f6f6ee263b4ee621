import ClassDiagram.Text.Blank
import ClassDiagram.Text.Case

/-!
# Types of members

A member has one of seven primitive types or refers to a class, as a foreign key or as one side of a
many-to-many relation. A type is written as a word: seven words, in any case, name the primitive
types, and every other word refers to the class of that name in lower case.
-/

namespace ClassDiagram

/-- Primitive kinds and the two kinds that refer to a class. -/
inductive DataKind where
  | string
  | float
  | integer
  | bool
  | datetime
  | double
  | char
  | foreignKey
  | manyToMany
  deriving DecidableEq, Repr

namespace DataKind

/-- Every kind, in the order in which they are listed to a reader. -/
def all : List DataKind :=
  [string, float, integer, bool, datetime, double, char, foreignKey, manyToMany]

/-- The name under which a kind is written out. -/
def name : DataKind → Text
  | string => "STRING".toList
  | float => "FLOAT".toList
  | integer => "INTEGER".toList
  | bool => "BOOL".toList
  | datetime => "DATETIME".toList
  | double => "DOUBLE".toList
  | char => "CHAR".toList
  | foreignKey => "FOREIGN_KEY".toList
  | manyToMany => "MANY_TO_MANY".toList

/-- Whether a kind refers to a class. -/
def isRelation (kind : DataKind) : Bool :=
  kind = foreignKey || kind = manyToMany

/-- The words for primitive types in a diagram. -/
def primitiveWords : List (Text × DataKind) :=
  [("string".toList, string), ("float".toList, float), ("int".toList, integer),
   ("bool".toList, bool), ("datetime".toList, datetime), ("double".toList, double),
   ("char".toList, char)]

end DataKind

/-- The type of a member. The target is the name of the class that a relation kind refers to. -/
structure DataType where
  kind : DataKind
  target : Option Text
  deriving DecidableEq, Repr

namespace DataType

/-- A type that refers to no class. -/
def primitive (kind : DataKind) : DataType :=
  ⟨kind, none⟩

/-- A reference to one object of a class. -/
def foreignKey (target : Text) : DataType :=
  ⟨.foreignKey, some target⟩

/-- A reference to many objects of a class. -/
def manyToMany (target : Text) : DataType :=
  ⟨.manyToMany, some target⟩

/-- The type that a word stands for. -/
def ofToken (token : Text) : DataType :=
  let word := Text.lower (Text.trim token)
  match DataKind.primitiveWords.lookup word with
  | some kind => primitive kind
  | none => foreignKey word

/-- Whether the type refers to a class. -/
def isRelation (type : DataType) : Bool :=
  type.kind.isRelation

/-- The type as it is shown: its kind, with the target in parentheses if there is one. -/
def toText (type : DataType) : Text :=
  match type.target with
  | some target => type.kind.name ++ ['('] ++ target ++ [')']
  | none => type.kind.name

end DataType

end ClassDiagram
