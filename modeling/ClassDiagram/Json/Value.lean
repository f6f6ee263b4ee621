import ClassDiagram.Json.Binary64

/-!
# JSON values

An object lists its fields in order and has no name twice. Integers are exact; a number that is
written with a fraction or an exponent is a binary floating point number.
-/

namespace ClassDiagram

/-- A number of a JSON text. -/
inductive Number where
  | integer (value : Int)
  | float (value : Binary64)
  deriving DecidableEq, Repr

/-- A JSON value. -/
inductive Json where
  | null
  | bool (value : Bool)
  | number (value : Number)
  | string (value : Text)
  | array (items : List Json)
  | object (fields : List (Text × Json))
  deriving Inhabited

namespace Json

/-- Fields with one more: a name that is there keeps its place and takes the new value. -/
def setField (name : Text) (value : Json) : List (Text × Json) → List (Text × Json)
  | [] => [(name, value)]
  | (other, old) :: rest =>
      if other = name then (name, value) :: rest else (other, old) :: setField name value rest

/-- The object of fields read one after another. -/
def ofFields (fields : List (Text × Json)) : Json :=
  .object (fields.foldl (fun kept field => setField field.1 field.2 kept) [])

/-- The value of a field of an object. -/
def field? (name : Text) : Json → Option Json
  | .object fields => fields.lookup name
  | _ => none

/-- A text, or nothing. -/
def ofText? : Option Text → Json
  | some text => .string text
  | none => .null

end Json

end ClassDiagram
