import ClassDiagram.Proofs.Naming

/-!
# Relations one after another

What a sequence of relations makes of a mapping can be written down at once: the classes that were
there stay in their places, the missing ones follow in the order in which the relations first name
them, and behind its own attributes each class has one for every relation that has it as its target.
-/

namespace ClassDiagram

/-- The entries of a map are known by its keys in their order and their values. -/
theorem OrderedMap.entries_eq {α : Type} {m : OrderedMap α} {entries : List (Text × α)}
    (keys : m.keys = entries.map Prod.fst)
    (values : ∀ entry ∈ entries, m.get? entry.1 = some entry.2) : m.entries = entries := by
  have length : m.entries.length = entries.length := by
    simpa [OrderedMap.keys] using congrArg List.length keys
  apply List.ext_getElem length
  intro i here there
  have first : m.entries[i].1 = entries[i].1 := by
    have same : m.keys[i]? = (entries.map Prod.fst)[i]? := by rw [keys]
    simpa [OrderedMap.keys, here, there] using same
  have second : m.get? m.entries[i].1 = some m.entries[i].2 :=
    get?_eq_some_iff.mpr (List.getElem_mem here)
  rw [first, values _ (List.getElem_mem there), Option.some.injEq] at second
  exact Prod.ext first second.symm

/-- Names that are added one after another follow the keys in the order of their first mention. -/
theorem Outline.foldl_addKey (names keys : List Text) :
    names.foldl addKey keys = keys ++ (names.filter fun name => !keys.contains name).eraseDups := by
  induction names generalizing keys with
  | nil => simp
  | cons name rest ih =>
      rw [List.foldl_cons, ih, addKey]
      by_cases known : keys.contains name = true
      · rw [if_pos known, List.filter_cons_of_neg (by simpa using known)]
      · have others : (rest.filter fun other => !(keys ++ [name]).contains other)
            = (rest.filter fun other => !keys.contains other).filter
                fun other => !other == name := by
          rw [List.filter_filter]
          apply List.filter_congr
          intro other _
          by_cases same : other = name <;> simp [same]
        rw [if_neg known, List.filter_cons_of_pos (by simpa using known), List.eraseDups_cons,
          others, List.append_assoc, List.singleton_append]

namespace Relation

variable {suffix key : Text} {r : Relation} {field : Attribute}

/-- The names that a relation mentions, the left one first. -/
def endpoints (r : Relation) : List Text :=
  [r.left, r.right]

/-- Which class gets which attribute from a relation. -/
inductive Adds (suffix : Text) (r : Relation) : Text → Attribute → Prop where
  | toRight (one : r.leftCardinality.isMany = false) (many : r.rightCardinality.isMany = true) :
      Adds suffix r r.right ⟨.foreignKey r.left, r.left ++ suffix⟩
  | toLeft (many : r.leftCardinality.isMany = true) (one : r.rightCardinality.isMany = false) :
      Adds suffix r r.left ⟨.foreignKey r.right, r.right ++ suffix⟩
  | both (left : r.leftCardinality.isMany = true) (right : r.rightCardinality.isMany = true) :
      Adds suffix r r.left ⟨.manyToMany r.right, r.right ++ suffix⟩

theorem injected_eq_some_iff : r.injected suffix = some (key, field) ↔ r.Adds suffix key field := by
  unfold injected
  constructor
  · intro found
    split at found
    · rename_i one many
      cases found
      exact .toRight one many
    · rename_i many one
      cases found
      exact .toLeft many one
    · rename_i left right
      cases found
      exact .both left right
    · cases found
  · intro adds
    cases adds with
    | toRight one many => rw [one, many]
    | toLeft many one => rw [many, one]
    | both left right => rw [left, right]

theorem injected_eq_none_iff :
    r.injected suffix = none ↔
      r.leftCardinality.isMany = false ∧ r.rightCardinality.isMany = false := by
  unfold injected
  cases r.leftCardinality.isMany <;> cases r.rightCardinality.isMany <;> simp

theorem fieldFor?_eq_some_iff :
    r.fieldFor? suffix key = some field ↔ r.Adds suffix key field := by
  rw [← injected_eq_some_iff]
  unfold fieldFor?
  cases r.injected suffix with
  | none => simp
  | some pair =>
      obtain ⟨target, added⟩ := pair
      by_cases same : key = target
      · simp [same]
      · simp [same, Ne.symm same]

end Relation

namespace ClassMap

/-- The names that relations bring into a mapping, in the order of their first mention. -/
def newNames (classes : ClassMap) (relations : List Relation) : List Text :=
  ((relations.flatMap Relation.endpoints).filter fun name => !classes.keys.contains name).eraseDups

theorem mem_newNames {classes : ClassMap} {relations : List Relation} {name : Text} :
    name ∈ newNames classes relations ↔
      name ∉ classes.keys ∧ ∃ r ∈ relations, r.Names name := by
  simp [newNames, Relation.endpoints, Relation.Names, and_comm]

theorem keys_relatedAll (suffix : Text) (classes : ClassMap) (relations : List Relation) :
    (relatedAll suffix classes relations).keys = classes.keys ++ newNames classes relations := by
  rw [newNames, ← Outline.foldl_addKey, relatedAll]
  induction relations generalizing classes with
  | nil => rfl
  | cons r rest ih =>
      rw [List.foldl_cons, ih, keys_related, List.flatMap_cons, List.foldl_append]
      rfl

/-- A relation returns the class that it gives an attribute to as it then stands in the mapping. -/
theorem relate_eq (suffix : Text) (classes : ClassMap) (r : Relation) :
    relate suffix classes r = .ok (related suffix classes r,
      (r.injected suffix).bind fun target => (related suffix classes r).get? target.1) := by
  unfold relate related
  cases injected : r.injected suffix with
  | none => rfl
  | some pair =>
      obtain ⟨key, field⟩ := pair
      obtain ⟨c, found⟩ := OrderedMap.mem_keys_iff.mp (mem_keys_of_injected classes injected)
      simp [require, found, bind, Except.bind, OrderedMap.get?_insert]

/-- The mapping after relations, entry by entry. -/
theorem entries_relatedAll (suffix : Text) (classes : ClassMap) (relations : List Relation) :
    (relatedAll suffix classes relations).entries
      = (classes.entries.map fun entry => (entry.1,
            entry.2.addAttributes (relations.filterMap (Relation.fieldFor? suffix entry.1))))
        ++ (newNames classes relations).map fun name => (name,
            ⟨Text.upper name, relations.filterMap (Relation.fieldFor? suffix name), []⟩) := by
  apply OrderedMap.entries_eq
  · rw [keys_relatedAll]
    simp [OrderedMap.keys, Function.comp_def]
  · intro entry member
    rcases List.mem_append.mp member with old | new
    · obtain ⟨⟨key, c⟩, stood, rfl⟩ := List.mem_map.mp old
      rw [get?_relatedAll, OrderedMap.get?_eq_some_iff.mpr stood]
      rfl
    · obtain ⟨name, brought, rfl⟩ := List.mem_map.mp new
      obtain ⟨absent, named⟩ := mem_newNames.mp brought
      rw [get?_relatedAll, OrderedMap.get?_eq_none_iff.mpr absent, if_pos named]
      rfl

/-- Relations can be applied one after another to any mapping, and what they make of it has a closed
form. Classes that were there keep their place, their name and their operations. Classes that the
relations name and that were not there follow in the order of their first mention, under the name as
it was written, and have that name in upper case and no operations. The attributes of a class are
those that it had and then, in the order of the relations, one for each relation that adds one to
it. After any of them a relation returns the class that it gives its attribute to, as it then stands
in the mapping, and none if neither side is many. -/
theorem relateAll_closed_form (suffix : Text) (classes : ClassMap) (relations : List Relation) :
    (∃ after, relateAll suffix classes relations = .ok after ∧
      after.entries
        = (classes.entries.map fun entry => (entry.1,
              entry.2.addAttributes (relations.filterMap (Relation.fieldFor? suffix entry.1))))
          ++ (newNames classes relations).map fun name => (name,
              ⟨Text.upper name, relations.filterMap (Relation.fieldFor? suffix name), []⟩)) ∧
    (∀ (r : Relation) key field, r.fieldFor? suffix key = some field ↔ r.Adds suffix key field) ∧
    ∀ (before : List Relation) (r : Relation),
      ∃ earlier after target, relateAll suffix classes before = .ok earlier ∧
        relate suffix earlier r = .ok (after, target) ∧
        relateAll suffix classes (before ++ [r]) = .ok after ∧
        (∀ key field, r.Adds suffix key field → ∃ c, target = some c ∧ after.get? key = some c) ∧
        (target = none ↔ r.leftCardinality.isMany = false ∧ r.rightCardinality.isMany = false) := by
  refine ⟨⟨_, relateAll_eq_ok suffix classes relations,
    entries_relatedAll suffix classes relations⟩,
    fun r key field => Relation.fieldFor?_eq_some_iff, ?_⟩
  intro before r
  have next : relatedAll suffix classes (before ++ [r])
      = related suffix (relatedAll suffix classes before) r := by
    rw [relatedAll, List.foldl_append]
    rfl
  have present : ∀ {key field}, r.injected suffix = some (key, field) →
      ∃ c, (related suffix (relatedAll suffix classes before) r).get? key = some c := by
    intro key field injected
    apply OrderedMap.mem_keys_iff.mp
    exact mem_keys_related.mpr (Or.inr (Relation.key_of_injected injected))
  refine ⟨_, _, _, relateAll_eq_ok suffix classes before, relate_eq suffix _ r, ?_, ?_, ?_⟩
  · rw [relateAll_eq_ok, next]
  · intro key field adds
    have injected := Relation.injected_eq_some_iff.mpr adds
    obtain ⟨c, found⟩ := present injected
    exact ⟨c, by rw [injected]; exact found, found⟩
  · have nothing : r.injected suffix = none ↔ _ := Relation.injected_eq_none_iff
    rw [← nothing]
    cases injected : r.injected suffix with
    | none => simp
    | some pair =>
        obtain ⟨c, found⟩ := present injected
        simp [found]

end ClassMap

end ClassDiagram
