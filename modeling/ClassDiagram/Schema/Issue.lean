import ClassDiagram.Text.Basic

/-!
# Issues with given data

Data from outside is checked as a whole: every issue is reported with its place, and only data
without issues is accepted.
-/

namespace ClassDiagram

/-- One step from a value to a part of it. -/
inductive Place where
  | field (name : Text)
  | item (index : Nat)
  deriving DecidableEq, Repr

/-- What is wrong with a value. -/
inductive IssueKind where
  | missing
  | notText
  | notUnicode
  | notList
  | emptyText
  | notBool
  | unclearBool
  | frozen
  | notOneOf (allowed : List Text)
  | notRecord (name : Text)
  | notObject
  | notJson
  deriving DecidableEq, Repr

/-- What is wrong and where. -/
structure Issue where
  kind : IssueKind
  place : List Place
  deriving DecidableEq, Repr

namespace Issue

/-- Names in quotes with commas between them, and an `or` before the last one. -/
def alternatives : List Text → Text
  | [] => []
  | [name] => ['\''] ++ name ++ ['\'']
  | [name, last] => ['\''] ++ name ++ "' or '".toList ++ last ++ ['\'']
  | name :: rest => ['\''] ++ name ++ "', ".toList ++ alternatives rest

/-- The short name of an issue. -/
def code (issue : Issue) : Text :=
  match issue.kind with
  | .missing => "missing".toList
  | .notText => "string_type".toList
  | .notUnicode => "string_unicode".toList
  | .notList => "list_type".toList
  | .emptyText => "string_too_short".toList
  | .notBool => "bool_type".toList
  | .unclearBool => "bool_parsing".toList
  | .frozen => "frozen_instance".toList
  | .notOneOf _ => "enum".toList
  | .notRecord _ => "model_type".toList
  | .notObject => "model_type".toList
  | .notJson => "json_invalid".toList

/-- The words for an issue. Of a text that is not JSON no more is said than that. -/
def message? (issue : Issue) : Option Text :=
  match issue.kind with
  | .missing => some "Field required".toList
  | .notText => some "Input should be a valid string".toList
  | .notUnicode =>
      some ("Input should be a valid string, unable to parse raw data as a unicode string".toList)
  | .notList => some "Input should be a valid list".toList
  | .emptyText => some "String should have at least 1 character".toList
  | .notBool => some "Input should be a valid boolean".toList
  | .unclearBool => some "Input should be a valid boolean, unable to interpret input".toList
  | .frozen => some "Instance is frozen".toList
  | .notOneOf allowed => some ("Input should be ".toList ++ alternatives allowed)
  | .notRecord name =>
      some ("Input should be a valid dictionary or instance of ".toList ++ name)
  | .notObject => some "Input should be an object".toList
  | .notJson => none

end Issue

/-- A value, or the issues of the data it should come from. -/
abbrev Checked (α : Type) := Except (List Issue) α

namespace Checked

variable {α β : Type}

/-- One issue with the whole value. -/
def fail (kind : IssueKind) : Checked α :=
  .error [⟨kind, []⟩]

/-- A check of a part, with its issues placed in the whole. -/
def inside (place : Place) : Checked α → Checked α
  | .ok value => .ok value
  | .error issues => .error (issues.map fun issue => { issue with place := place :: issue.place })

/-- Both values, or the issues of both checks. -/
def both : Checked α → Checked β → Checked (α × β)
  | .ok a, .ok b => .ok (a, b)
  | .ok _, .error issues => .error issues
  | .error issues, .ok _ => .error issues
  | .error first, .error second => .error (first ++ second)

/-- All values, or the issues of all checks. -/
def all : List (Checked α) → Checked (List α)
  | [] => .ok []
  | check :: rest => (both check (all rest)).map fun (value, values) => value :: values

end Checked

end ClassDiagram
