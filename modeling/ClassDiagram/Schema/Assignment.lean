import ClassDiagram.Schema.Records

/-!
# Records by name

The six records can be checked by their names. A checked record is a value: of the six only a class
may have a field changed afterwards, and the new value of the field is not checked.
-/

namespace ClassDiagram

/-- The records of the library. -/
inductive RecordKind where
  | dataType
  | fieldDef
  | operationDef
  | classDef
  | cardinality
  | relation
  deriving DecidableEq, Repr

namespace RecordKind

/-- All records. -/
def all : List RecordKind :=
  [dataType, fieldDef, operationDef, classDef, cardinality, relation]

/-- The name of a record. -/
def name : RecordKind → Text
  | dataType => "DataType".toList
  | fieldDef => "AttributeDef".toList
  | operationDef => "FunctionDef".toList
  | classDef => "ClassDef".toList
  | cardinality => "RelationEndpoint".toList
  | relation => "RelationDecl".toList

/-- The record of a name. -/
def ofName? (text : Text) : Option RecordKind :=
  all.find? fun kind => kind.name = text

/-- Checks data for a record and writes the result with all fields. -/
def complete (kind : RecordKind) (value : Json) : Checked Json :=
  match kind with
  | dataType => (DataType.ofJson value).map DataType.toJson
  | fieldDef => (Attribute.ofJson value).map Attribute.toJson
  | operationDef => (Operation.ofJson value).map Operation.toJson
  | classDef => (Class.ofJson value).map Class.toJson
  | cardinality => (Cardinality.ofJson value).map Cardinality.toJson
  | relation => (Relation.ofJson value).map Relation.toJson

end RecordKind

/-- Why a field was not changed. -/
inductive AssignmentError where
  | frozen (name : Text)
  | unknownField (record name : Text)
  deriving DecidableEq, Repr

namespace AssignmentError

/-- The words for a field that a record does not have. -/
def unknownFieldMessage (record name : Text) : Text :=
  ['"'] ++ record ++ "\" object has no field \"".toList ++ name ++ ['"']

end AssignmentError

/-- A complete record after a new value was assigned to a field. -/
def RecordKind.assign (kind : RecordKind) (record : Json) (field : Text) (value : Json) :
    Except AssignmentError Json :=
  if kind ≠ classDef then .error (.frozen field)
  else
    match record with
    | .object fields =>
        if (fields.lookup field).isSome then .ok (.object (Json.setField field value fields))
        else .error (.unknownField kind.name field)
    | other => .ok other

end ClassDiagram
