import ClassDiagram.Json.Value
import ClassDiagram.Schema.Issue

/-!
# Checks of JSON values

A check takes a JSON value to a value of the library or to its issues. Texts are not made out of
numbers; truth values may be given as numbers or as one of twelve words. Fields that a record does
not have are ignored.
-/

namespace ClassDiagram.Check

variable {α : Type}

/-- A text. -/
def text : Json → Checked Text
  | .string t => .ok t
  | _ => .fail .notText

/-- A text or nothing. -/
def optional (check : Json → Checked α) : Json → Checked (Option α)
  | .null => .ok none
  | value => (check value).map some

/-- The words for truth values, in lower case. -/
def boolWords : List (Text × Bool) :=
  [("0".toList, false), ("off".toList, false), ("f".toList, false), ("false".toList, false),
   ("n".toList, false), ("no".toList, false),
   ("1".toList, true), ("on".toList, true), ("t".toList, true), ("true".toList, true),
   ("y".toList, true), ("yes".toList, true)]

/-- The truth value that an integer stands for. Others than zero and one are unclear. -/
def boolOfInteger (i : Int) : Checked Bool :=
  if i = 0 then .ok false else if i = 1 then .ok true else .fail .unclearBool

/-- A truth value. Integers of at most 64 bits and texts may stand for one; so may a number with a
fraction or an exponent that is an integer of this size, the least one left out. -/
def bool : Json → Checked Bool
  | .bool b => .ok b
  | .number (.integer i) =>
      if -0x8000000000000000 ≤ i ∧ i < 0x8000000000000000 then boolOfInteger i else .fail .notBool
  | .number (.float x) =>
      match x.integer? with
      | some i => if -0x8000000000000000 < i ∧ i < 0x8000000000000000 then boolOfInteger i
          else .fail .notBool
      | none => .fail .notBool
  | .string t =>
      match boolWords.lookup (t.map Char.toLower) with
      | some b => .ok b
      | none => .fail .unclearBool
  | _ => .fail .notBool

/-- One of several values, given by name. -/
def oneOf (all : List α) (name : α → Text) (value : Json) : Checked α :=
  let refused : Checked α := .fail (.notOneOf (all.map name))
  match value with
  | .string t =>
      match all.find? fun a => name a = t with
      | some a => .ok a
      | none => refused
  | _ => refused

/-- The checks of a list's items, placed by their index. -/
def itemsFrom (check : Json → Checked α) (index : Nat) : List Json → List (Checked α)
  | [] => []
  | item :: rest => (check item).inside (.item index) :: itemsFrom check (index + 1) rest

/-- A list of values. -/
def list (check : Json → Checked α) : Json → Checked (List α)
  | .array items => .all (itemsFrom check 0 items)
  | _ => .fail .notList

/-- The fields of a record, under the issue that there is for anything but an object. -/
def fields (otherwise : IssueKind) : Json → Checked (List (Text × Json))
  | .object fields => .ok fields
  | _ => .fail otherwise

/-- A field that has to be there. -/
def required (name : Text) (check : Json → Checked α) (fields : List (Text × Json)) : Checked α :=
  Checked.inside (.field name) <|
    match fields.lookup name with
    | some value => check value
    | none => .fail .missing

/-- A field that has a value if it is not there. -/
def defaulted (name : Text) (default : α) (check : Json → Checked α) (fields : List (Text × Json)) :
    Checked α :=
  match fields.lookup name with
  | some value => (check value).inside (.field name)
  | none => .ok default

end ClassDiagram.Check
