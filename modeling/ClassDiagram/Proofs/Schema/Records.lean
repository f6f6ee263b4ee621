import ClassDiagram.Class
import ClassDiagram.Proofs.Json.RoundTrip
import ClassDiagram.Proofs.Text.Raw
import ClassDiagram.Schema.Records

/-!
# Records keep what they are made of

Checking the record of a type, a member or a class gives back the very same one. The object of a
whole mapping is a value that is read back as it was written, so nothing of a mapping is lost on its
way through a text, and different mappings are written differently.
-/

namespace ClassDiagram

namespace Checked

variable {α β : Type}

theorem inside_eq_ok_iff {place : Place} {check : Checked α} {a : α} :
    check.inside place = .ok a ↔ check = .ok a := by
  cases check <;> simp [inside]

theorem both_eq_ok_iff {first : Checked α} {second : Checked β} {a : α} {b : β} :
    both first second = .ok (a, b) ↔ first = .ok a ∧ second = .ok b := by
  cases first <;> cases second <;> simp [both]

theorem bind_eq_ok_iff {check : Checked α} {next : α → Checked β} {b : β} :
    (check >>= next) = .ok b ↔ ∃ a, check = .ok a ∧ next a = .ok b := by
  cases check <;> simp [bind, Except.bind]

end Checked

namespace Check

variable {α : Type} {check : Json → Checked α} {fields : List (Text × Json)} {name : Text}
  {value : Json} {a : α}

theorem required_eq_ok (found : fields.lookup name = some value) (valid : check value = .ok a) :
    required name check fields = .ok a := by
  simp only [required, found, valid, Checked.inside]

theorem defaulted_eq_ok (default : α) (found : fields.lookup name = some value)
    (valid : check value = .ok a) : defaulted name default check fields = .ok a := by
  simp only [defaulted, found, valid, Checked.inside]

theorem text_eq_ok_iff {t : Text} : text value = .ok t ↔ value = .string t := by
  cases value <;> simp [text, Checked.fail]

theorem fields_eq_ok_iff {otherwise : IssueKind} :
    Check.fields otherwise value = .ok fields ↔ value = .object fields := by
  cases value <;> simp [Check.fields, Checked.fail]

/-- A field is accepted if its value is, or if it is left out. -/
theorem defaulted_eq_ok_iff {default : α} :
    defaulted name default check fields = .ok a ↔
      (∃ value, fields.lookup name = some value ∧ check value = .ok a) ∨
        (fields.lookup name = none ∧ default = a) := by
  unfold defaulted
  cases found : fields.lookup name with
  | none => simp
  | some value => simp [Checked.inside_eq_ok_iff]

/-- A list of records is a list of what they are the records of. -/
theorem list_map_eq_ok {record : α → Json} (valid : ∀ a, check (record a) = .ok a) (as : List α) :
    list check (.array (as.map record)) = .ok as := by
  have items : ∀ index, Checked.all (itemsFrom check index (as.map record)) = .ok as := by
    induction as with
    | nil => exact fun index => rfl
    | cons a rest ih =>
        intro index
        rw [List.map_cons, itemsFrom, valid, Checked.all, ih (index + 1)]
        rfl
  exact items 0

end Check

theorem DataType.ofJson_toJson (type : DataType) : ofJson type.toJson = .ok type := by
  obtain ⟨kind, target⟩ := type
  cases kind <;> cases target <;> rfl

theorem Attribute.ofJson_toJson (a : Attribute) : ofJson a.toJson = .ok a := by
  let fields : List (Text × Json) :=
    [("data_type".toList, a.dataType.toJson), ("name".toList, .string a.name)]
  have type : Check.required "data_type".toList DataType.ofJson fields = .ok a.dataType :=
    Check.required_eq_ok rfl a.dataType.ofJson_toJson
  have name : Check.required "name".toList Check.text fields = .ok a.name :=
    Check.required_eq_ok rfl rfl
  change (Checked.both (Check.required _ _ fields) (Check.required _ _ fields) >>= _) = _
  rw [type, name]
  rfl

theorem Operation.ofJson_toJson (o : Operation) : ofJson o.toJson = .ok o := by
  let fields : List (Text × Json) :=
    [("return_type".toList, o.returnType.toJson), ("name".toList, .string o.name),
      ("params".toList, .array (o.params.map Attribute.toJson))]
  have type : Check.required "return_type".toList DataType.ofJson fields = .ok o.returnType :=
    Check.required_eq_ok rfl o.returnType.ofJson_toJson
  have name : Check.required "name".toList Check.text fields = .ok o.name :=
    Check.required_eq_ok rfl rfl
  have params : Check.defaulted "params".toList [] (Check.list Attribute.ofJson) fields
      = .ok o.params :=
    Check.defaulted_eq_ok [] rfl (Check.list_map_eq_ok Attribute.ofJson_toJson o.params)
  change (Checked.both (Check.required _ _ fields)
    (Checked.both (Check.required _ _ fields) (Check.defaulted _ _ _ fields)) >>= _) = _
  rw [type, name, params]
  rfl

theorem Class.ofJson_toJson (c : Class) : ofJson c.toJson = .ok c := by
  let fields : List (Text × Json) :=
    [("name".toList, .string c.name),
      ("attributes".toList, .array (c.attributes.map Attribute.toJson)),
      ("functions".toList, .array (c.operations.map Operation.toJson))]
  have name : Check.required "name".toList Check.text fields = .ok c.name :=
    Check.required_eq_ok rfl rfl
  have attributes : Check.defaulted "attributes".toList [] (Check.list Attribute.ofJson) fields
      = .ok c.attributes :=
    Check.defaulted_eq_ok [] rfl (Check.list_map_eq_ok Attribute.ofJson_toJson c.attributes)
  have operations : Check.defaulted "functions".toList [] (Check.list Operation.ofJson) fields
      = .ok c.operations :=
    Check.defaulted_eq_ok [] rfl (Check.list_map_eq_ok Operation.ofJson_toJson c.operations)
  change (Checked.both (Check.required _ _ fields)
    (Checked.both (Check.defaulted _ _ _ fields) (Check.defaulted _ _ _ fields)) >>= _) = _
  rw [name, attributes, operations]
  rfl

section Room

open Json (Fits)

theorem DataType.fits_toJson (type : DataType) (room : Nat) : Fits (room + 1) type.toJson := by
  obtain ⟨kind, target⟩ := type
  cases target <;> simp [toJson, Fits, Json.ofText?]

theorem Attribute.fits_toJson (a : Attribute) (room : Nat) : Fits (room + 2) a.toJson := by
  simp [toJson, Fits, a.dataType.fits_toJson room]

theorem Operation.fits_toJson (o : Operation) (room : Nat) : Fits (room + 4) o.toJson := by
  simp [toJson, Fits, o.returnType.fits_toJson (room + 2), Attribute.fits_toJson]

theorem Class.fits_toJson (c : Class) (room : Nat) : Fits (room + 6) c.toJson := by
  simp [toJson, Fits, Attribute.fits_toJson _ (room + 2), Operation.fits_toJson]

end Room

namespace ClassMap

/-- The object of a mapping has every class once, nested seven containers deep at most. -/
theorem fits_toJson (classes : ClassMap) : Json.Fits Json.maxDepth classes.toJson := by
  have names : (classes.entries.map fun entry => (entry.1, entry.2.toJson)).map Prod.fst
      = classes.entries.map Prod.fst := by
    rw [List.map_map]
    rfl
  refine ⟨names ▸ classes.nodup, fun field member => ?_⟩
  obtain ⟨entry, _, rfl⟩ := List.mem_map.mp member
  exact entry.2.fits_toJson 193

/-- The classes that the fields of an object are records of, under their names. -/
def ofFields? (fields : List (Text × Json)) : Option (List (Text × Class)) :=
  fields.mapM fun field => (Class.ofJson field.2).toOption.map (field.1, ·)

/-- The classes that a JSON text keeps. -/
def ofText? (text : Text) : Option (List (Text × Class)) :=
  match Json.read? text with
  | some (.object fields) => ofFields? fields
  | _ => none

theorem ofFields?_map_toJson (entries : List (Text × Class)) :
    ofFields? (entries.map fun entry => (entry.1, entry.2.toJson)) = some entries := by
  unfold ofFields?
  induction entries with
  | nil => rfl
  | cons entry rest ih =>
      rw [List.map_cons, List.mapM_cons, ih, Class.ofJson_toJson]
      rfl

/-- A text that is read as the object of a mapping keeps its classes in their order. -/
theorem ofText?_of_read? {classes : ClassMap} {text : Text}
    (read : Json.read? text = some classes.toJson) : ofText? text = some classes.entries := by
  unfold ofText?
  rw [read]
  exact ofFields?_map_toJson classes.entries

theorem toJson_injective {classes others : ClassMap} (same : classes.toJson = others.toJson) :
    classes = others := by
  have fields := Json.object.inj same
  apply OrderedMap.ext
  apply Option.some.inj
  rw [← ofFields?_map_toJson classes.entries, ← ofFields?_map_toJson others.entries]
  exact congrArg ofFields? fields

/-- The JSON text of classes begins no JSON text of others, whatever white space follows. -/
theorem eq_of_prefix_write {classes others : ClassMap} {space : Text}
    (spaces : ∀ c ∈ space, Json.isSpace c = true)
    (begins : classes.toJson.write ++ space <+: others.toJson.write ++ space) :
    others = classes := by
  have read : Json.read? (others.toJson.write ++ space) = some others.toJson :=
    Json.read?_write_append others.fits_toJson spaces
  exact toJson_injective
    (Json.eq_of_prefix_write classes.fits_toJson ((List.prefix_append _ space).trans begins) read)

/-- Classes whose JSON texts have no stray byte are the same under both stand-ins. -/
theorem same_of_restore {classes : StandIn → ClassMap} {space text : Text}
    (spaces : ∀ c ∈ space, Json.isSpace c = true)
    (plain : RawText.restore (fun standIn => (classes standIn).toJson.write ++ space)
      = .ofText text) : classes .second = classes .first := by
  rcases RawText.prefix_of_restore plain with begins | begins
  · exact eq_of_prefix_write spaces begins
  · exact (eq_of_prefix_write spaces begins).symm

end ClassMap

end ClassDiagram
