import ClassDiagram.Text.Blank

/-!
# Cardinalities

Each side of a relation says how many objects take part: none, one or many. Nine spellings are
known. The optional single reference `0..1` counts as a side with many.
-/

namespace ClassDiagram

/-- How many objects take part. -/
inductive Count where
  | zero
  | one
  | many
  deriving DecidableEq, Repr

namespace Count

/-- Every count, in the order in which they are listed to a reader. -/
def all : List Count := [zero, one, many]

/-- The name under which a count is written out. -/
def name : Count → Text
  | zero => "ZERO".toList
  | one => "ONE".toList
  | many => "MANY".toList

end Count

/-- What more is known of a side with many objects. -/
inductive ManyKind where
  | unknown
  | zeroToMany
  | oneToMany
  | zeroToOne
  deriving DecidableEq, Repr

namespace ManyKind

/-- Every kind, in the order in which they are listed to a reader. -/
def all : List ManyKind := [unknown, zeroToMany, oneToMany, zeroToOne]

/-- The name under which a kind is written out. -/
def name : ManyKind → Text
  | unknown => "UNKNOWN".toList
  | zeroToMany => "ZERO_TO_MANY".toList
  | oneToMany => "ONE_TO_MANY".toList
  | zeroToOne => "ZERO_TO_ONE".toList

end ManyKind

/-- One side of a relation. -/
structure Cardinality where
  count : Count
  manyKind : Option ManyKind
  deriving DecidableEq, Repr

namespace Cardinality

/-- A side without objects. -/
def zero : Cardinality := ⟨.zero, none⟩

/-- A side with one object. -/
def one : Cardinality := ⟨.one, none⟩

/-- A side with many objects. -/
def many (kind : ManyKind) : Cardinality := ⟨.many, some kind⟩

/-- Whether many objects may take part. -/
def isMany (c : Cardinality) : Bool :=
  c.count = .many

/-- The spellings of cardinalities. -/
def spellings : List (Text × Cardinality) :=
  [("0".toList, zero), ("1".toList, one),
   ("N".toList, many .unknown), ("M".toList, many .unknown),
   ("0..N".toList, many .zeroToMany), ("0..M".toList, many .zeroToMany),
   ("1..N".toList, many .oneToMany), ("1..M".toList, many .oneToMany),
   ("0..1".toList, many .zeroToOne)]

/-- The cardinality that a token spells; white space around it does not matter, case does. -/
def ofToken? (token : Text) : Option Cardinality :=
  spellings.lookup (Text.trim token)

end Cardinality

end ClassDiagram
