import ClassDiagram.Relation
import ClassDiagram.Schema.Check

/-!
# Classes and relations as JSON

Each type has its record: an object with the fields of the type in a fixed order. Checking a record
gives back the value that was written, and reports every issue of other data. A record may say more
than a diagram can: a primitive type with a target, or a kind of many for a side with one object.
-/

namespace ClassDiagram

namespace DataType

/-- The record of a type. -/
def toJson (type : DataType) : Json :=
  .object [("kind".toList, .string type.kind.name), ("target".toList, .ofText? type.target)]

/-- The type of a record. -/
def ofJson (value : Json) : Checked DataType := do
  let fields ← Check.fields (.notRecord "DataType".toList) value
  let (kind, target) ← Checked.both
    (Check.required "kind".toList (Check.oneOf DataKind.all DataKind.name) fields)
    (Check.defaulted "target".toList none (Check.optional Check.text) fields)
  .ok ⟨kind, target⟩

end DataType

namespace Attribute

/-- The record of an attribute. -/
def toJson (a : Attribute) : Json :=
  .object [("data_type".toList, a.dataType.toJson), ("name".toList, .string a.name)]

/-- The attribute of a record. -/
def ofJson (value : Json) : Checked Attribute := do
  let fields ← Check.fields (.notRecord "AttributeDef".toList) value
  let (type, name) ← Checked.both
    (Check.required "data_type".toList DataType.ofJson fields)
    (Check.required "name".toList Check.text fields)
  .ok ⟨type, name⟩

end Attribute

namespace Operation

/-- The record of an operation. -/
def toJson (o : Operation) : Json :=
  .object
    [("return_type".toList, o.returnType.toJson), ("name".toList, .string o.name),
     ("params".toList, .array (o.params.map Attribute.toJson))]

/-- The operation of a record. -/
def ofJson (value : Json) : Checked Operation := do
  let fields ← Check.fields (.notRecord "FunctionDef".toList) value
  let (type, name, params) ← Checked.both
    (Check.required "return_type".toList DataType.ofJson fields)
    (Checked.both
      (Check.required "name".toList Check.text fields)
      (Check.defaulted "params".toList [] (Check.list Attribute.ofJson) fields))
  .ok ⟨type, name, params⟩

end Operation

namespace Class

/-- The record of a class. -/
def toJson (c : Class) : Json :=
  .object
    [("name".toList, .string c.name),
     ("attributes".toList, .array (c.attributes.map Attribute.toJson)),
     ("functions".toList, .array (c.operations.map Operation.toJson))]

/-- The class of a record. -/
def ofJson (value : Json) : Checked Class := do
  let fields ← Check.fields (.notRecord "ClassDef".toList) value
  let (name, attributes, operations) ← Checked.both
    (Check.required "name".toList Check.text fields)
    (Checked.both
      (Check.defaulted "attributes".toList [] (Check.list Attribute.ofJson) fields)
      (Check.defaulted "functions".toList [] (Check.list Operation.ofJson) fields))
  .ok ⟨name, attributes, operations⟩

end Class

namespace ClassMap

/-- Classes as an object, keyed by name and in their order. -/
def toJson (classes : ClassMap) : Json :=
  .object (classes.entries.map fun (key, c) => (key, c.toJson))

end ClassMap

namespace Cardinality

/-- The record of a side of a relation. -/
def toJson (c : Cardinality) : Json :=
  .object
    [("kind".toList, .string c.count.name),
     ("many_kind".toList, .ofText? (c.manyKind.map ManyKind.name))]

/-- The side of a relation of a record. -/
def ofJson (value : Json) : Checked Cardinality := do
  let fields ← Check.fields (.notRecord "RelationEndpoint".toList) value
  let (count, manyKind) ← Checked.both
    (Check.required "kind".toList (Check.oneOf Count.all Count.name) fields)
    (Check.defaulted "many_kind".toList none
      (Check.optional (Check.oneOf ManyKind.all ManyKind.name)) fields)
  .ok ⟨count, manyKind⟩

end Cardinality

namespace Relation

/-- The label of a relation whose record has none. -/
def defaultLabel : Text :=
  "--".toList

/-- The record of a relation. -/
def toJson (r : Relation) : Json :=
  .object
    [("left".toList, .string r.left), ("left_cardinality".toList, r.leftCardinality.toJson),
     ("label".toList, .string r.label), ("right_cardinality".toList, r.rightCardinality.toJson),
     ("right".toList, .string r.right)]

/-- The relation of a record. -/
def ofJson (value : Json) : Checked Relation := do
  let fields ← Check.fields (.notRecord "RelationDecl".toList) value
  let (left, leftCardinality, label, rightCardinality, right) ← Checked.both
    (Check.required "left".toList Check.text fields)
    (Checked.both
      (Check.required "left_cardinality".toList Cardinality.ofJson fields)
      (Checked.both
        (Check.defaulted "label".toList defaultLabel Check.text fields)
        (Checked.both
          (Check.required "right_cardinality".toList Cardinality.ofJson fields)
          (Check.required "right".toList Check.text fields))))
  .ok ⟨left, leftCardinality, label, rightCardinality, right⟩

end Relation

end ClassDiagram
