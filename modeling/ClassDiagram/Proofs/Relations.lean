import ClassDiagram.Relation
import ClassDiagram.Proofs.Text.UpperCase

/-!
# Reading and applying relations

The outcome of reading a relation line depends on the number of the line only in what a fault
reports. The words of a relation are in upper case. A relation can always be applied: both classes
are there when the attribute is added, so the mapping never lacks a class. What relations one after
another make of a class follows from those among them that name it.
-/

namespace ClassDiagram

namespace Relation

theorem requireCardinality_eq_ok_iff {number : Option Int} {token : Text} {c : Cardinality} :
    requireCardinality number token = .ok c ↔ Cardinality.ofToken? token = some c := by
  unfold requireCardinality
  split <;> simp_all

/-- What is read from a line that is not refused: its first five words, the second and fourth of
which spell cardinalities. -/
theorem read_eq_ok_iff {number : Option Int} {line : Text} {r : Relation} :
    read number line = .ok r ↔
      ∃ left leftToken label rightToken right rest leftCardinality rightCardinality,
        (Text.fields line).map normalizeWord
            = left :: leftToken :: label :: rightToken :: right :: rest ∧
          Cardinality.ofToken? leftToken = some leftCardinality ∧
          Cardinality.ofToken? rightToken = some rightCardinality ∧
          r = ⟨left, leftCardinality, label, rightCardinality, right⟩ := by
  constructor
  · intro accepted
    unfold read at accepted
    split at accepted
    · rename_i left leftToken label rightToken right rest words
      cases first : requireCardinality number leftToken with
      | error e => simp [first, bind, Except.bind] at accepted
      | ok leftCardinality =>
          cases second : requireCardinality number rightToken with
          | error e => simp [first, second, bind, Except.bind] at accepted
          | ok rightCardinality =>
              simp only [first, second, bind, Except.bind, Except.ok.injEq] at accepted
              exact ⟨left, leftToken, label, rightToken, right, rest, leftCardinality,
                rightCardinality, words, requireCardinality_eq_ok_iff.mp first,
                requireCardinality_eq_ok_iff.mp second, accepted.symm⟩
    · simp at accepted
  · rintro ⟨left, leftToken, label, rightToken, right, rest, leftCardinality, rightCardinality,
      words, first, second, rfl⟩
    have firstRead : requireCardinality number leftToken = .ok leftCardinality :=
      requireCardinality_eq_ok_iff.mpr first
    have secondRead : requireCardinality number rightToken = .ok rightCardinality :=
      requireCardinality_eq_ok_iff.mpr second
    simp [read, words, firstRead, secondRead, bind, Except.bind]

/-- Whether a line is accepted, and as what, does not depend on its number. -/
theorem read_eq_ok_of_read {number : Option Int} (other : Option Int) {line : Text} {r : Relation}
    (accepted : read number line = .ok r) : read other line = .ok r :=
  read_eq_ok_iff.mpr (read_eq_ok_iff.mp accepted)

/-- The number of a line goes into its fault and nowhere else. -/
theorem read_renumber (number other : Option Int) (line : Text) :
    read other line = (read number line).mapError fun e => { e with line := other } := by
  have token : ∀ token, requireCardinality other token
      = (requireCardinality number token).mapError fun e => { e with line := other } := by
    intro token
    unfold requireCardinality
    split <;> rfl
  unfold read
  split
  · rename_i left leftToken label rightToken right rest words
    rw [token leftToken, token rightToken]
    cases requireCardinality number leftToken with
    | error e => rfl
    | ok leftCardinality => cases requireCardinality number rightToken <;> rfl
  · rfl

/-- A fault has the number of its line. -/
theorem line_of_read_eq_error {number : Option Int} {line : Text} {e : LineFault}
    (refused : read number line = .error e) : e.line = number := by
  have same := read_renumber number number line
  rw [refused] at same
  exact congrArg LineFault.line (Except.error.inj same)

theorem upper_normalizeWord (word : Text) : Text.upper (normalizeWord word) = normalizeWord word :=
  Text.upper_filter_upper _ word

/-- The names and the label of a relation are words in the form in which they are read. -/
theorem words_of_read {number : Option Int} {line : Text} {r : Relation}
    (accepted : read number line = .ok r) :
    ∀ word ∈ [r.left, r.label, r.right], ∃ field, normalizeWord field = word := by
  obtain ⟨left, leftToken, label, rightToken, right, rest, leftCardinality, rightCardinality,
    words, -, -, rfl⟩ := read_eq_ok_iff.mp accepted
  intro word member
  have among : word ∈ (Text.fields line).map normalizeWord := by
    rw [words]
    simp only [List.mem_cons, List.not_mem_nil, or_false] at member
    rcases member with rfl | rfl | rfl <;> simp
  obtain ⟨field, -, normal⟩ := List.mem_map.mp among
  exact ⟨field, normal⟩

/-- The names of a relation are in upper case. -/
structure Capital (r : Relation) : Prop where
  left : Text.upper r.left = r.left
  right : Text.upper r.right = r.right

theorem capital_of_read {number : Option Int} {line : Text} {r : Relation}
    (accepted : read number line = .ok r) : r.Capital := by
  have normal : ∀ word ∈ [r.left, r.label, r.right], Text.upper word = word := by
    intro word member
    obtain ⟨field, rfl⟩ := words_of_read accepted word member
    exact upper_normalizeWord field
  exact ⟨normal r.left (by simp), normal r.right (by simp)⟩

/-- The class that gets an attribute is one of the two that the relation names. -/
theorem key_of_injected {suffix : Text} {r : Relation} {key : Text} {field : Attribute}
    (found : r.injected suffix = some (key, field)) : key = r.left ∨ key = r.right := by
  unfold injected at found
  split at found <;> simp_all

/-- Whether a relation is one of a class with that name. -/
def Names (r : Relation) (key : Text) : Prop :=
  key = r.left ∨ key = r.right

instance (r : Relation) (key : Text) : Decidable (r.Names key) :=
  inferInstanceAs (Decidable (_ ∨ _))

/-- The attribute that a relation adds to the class with a name, if it adds one to that class. -/
def fieldFor? (suffix key : Text) (r : Relation) : Option Attribute :=
  match r.injected suffix with
  | some (target, field) => if key = target then some field else none
  | none => none

/-- A relation adds nothing to classes that it does not name. -/
theorem fieldFor?_eq_none {suffix key : Text} {r : Relation} (unnamed : ¬ r.Names key) :
    r.fieldFor? suffix key = none := by
  unfold fieldFor?
  split
  · rename_i target field injected
    refine if_neg fun same => unnamed ?_
    rw [same]
    exact key_of_injected injected
  · rfl

end Relation

/-- The class with more attributes after its own. -/
def Class.addAttributes (c : Class) (fields : List Attribute) : Class :=
  { c with attributes := c.attributes ++ fields }

@[simp] theorem Class.addAttributes_nil (c : Class) : c.addAttributes [] = c := by
  simp [addAttributes]

@[simp] theorem Class.addAttributes_addAttributes (c : Class) (first second : List Attribute) :
    (c.addAttributes first).addAttributes second = c.addAttributes (first ++ second) := by
  simp [addAttributes]

namespace ClassMap

/-- The classes after a relation. -/
def related (suffix : Text) (classes : ClassMap) (r : Relation) : ClassMap :=
  let both := ensure (ensure classes r.left) r.right
  match r.injected suffix with
  | none => both
  | some (key, field) =>
      match both.get? key with
      | none => both
      | some target => both.insert key (target.addAttribute field)

/-- A class that is there stays, and the missing one comes without members. -/
theorem get?_ensure (classes : ClassMap) (name key : Text) :
    (ensure classes name).get? key =
      (classes.get? key <|> if key = name then some (Class.empty name) else none) := by
  unfold ensure
  split
  · rename_i present
    by_cases same : key = name
    · obtain ⟨c, found⟩ := OrderedMap.mem_keys_iff.mp (OrderedMap.contains_iff.mp present)
      simp [same, found]
    · simp [same]
  · rename_i absent
    have missing : classes.get? name = none :=
      OrderedMap.get?_eq_none_iff.mpr fun present => absent (OrderedMap.contains_iff.mpr present)
    rw [OrderedMap.get?_insert]
    by_cases same : key = name
    · simp [same, missing]
    · simp [same]

theorem mem_keys_ensure {classes : ClassMap} {name key : Text} :
    key ∈ (ensure classes name).keys ↔ key ∈ classes.keys ∨ key = name := by
  simp only [OrderedMap.mem_keys_iff, get?_ensure]
  cases classes.get? key with
  | none => by_cases same : key = name <;> simp [same]
  | some c => simp

/-- The class that gets the attribute of a relation is there. -/
theorem mem_keys_of_injected {suffix : Text} (classes : ClassMap) {r : Relation} {key : Text}
    {field : Attribute} (found : r.injected suffix = some (key, field)) :
    key ∈ (ensure (ensure classes r.left) r.right).keys := by
  rw [mem_keys_ensure, mem_keys_ensure]
  rcases Relation.key_of_injected found with same | same
  · exact Or.inl (Or.inr same)
  · exact Or.inr same

/-- Applying a relation never misses a class. -/
theorem relate_eq_ok (suffix : Text) (classes : ClassMap) (r : Relation) :
    ∃ target, relate suffix classes r = .ok (related suffix classes r, target) := by
  unfold relate related
  cases injected : r.injected suffix with
  | none => exact ⟨none, rfl⟩
  | some pair =>
      obtain ⟨key, field⟩ := pair
      obtain ⟨c, found⟩ := OrderedMap.mem_keys_iff.mp (mem_keys_of_injected classes injected)
      exact ⟨some (c.addAttribute field), by simp [require, found, bind, Except.bind]⟩

/-- After a relation a class is what it was, or without members if the relation brought it in, but
for the attribute that the relation adds to its target. -/
theorem get?_related (suffix : Text) (classes : ClassMap) (r : Relation) (key : Text) :
    (related suffix classes r).get? key =
      ((ensure (ensure classes r.left) r.right).get? key).map fun c =>
        match r.injected suffix with
        | some (target, field) => if key = target then c.addAttribute field else c
        | none => c := by
  unfold related
  cases injected : r.injected suffix with
  | none => simp
  | some pair =>
      obtain ⟨target, field⟩ := pair
      obtain ⟨c, found⟩ := OrderedMap.mem_keys_iff.mp (mem_keys_of_injected classes injected)
      simp only [found, OrderedMap.get?_insert]
      by_cases same : key = target
      · simp [same, found]
      · simp [same]

theorem mem_keys_related {suffix : Text} {classes : ClassMap} {r : Relation} {key : Text} :
    key ∈ (related suffix classes r).keys ↔
      key ∈ classes.keys ∨ key = r.left ∨ key = r.right := by
  have same : key ∈ (related suffix classes r).keys ↔
      key ∈ (ensure (ensure classes r.left) r.right).keys := by
    rw [OrderedMap.mem_keys_iff, OrderedMap.mem_keys_iff, get?_related]
    cases OrderedMap.get? (ensure (ensure classes r.left) r.right) key <;> simp
  rw [same, mem_keys_ensure, mem_keys_ensure, or_assoc]

/-- The classes after relations one after another, unless one of them misses a class. -/
def relateAll (suffix : Text) (classes : ClassMap) (relations : List Relation) :
    Except MissingClass ClassMap :=
  relations.foldlM (fun classes r => (relate suffix classes r).map Prod.fst) classes

/-- The classes after relations one after another. -/
def relatedAll (suffix : Text) (classes : ClassMap) (relations : List Relation) : ClassMap :=
  relations.foldl (related suffix) classes

/-- No relation of a sequence misses a class. -/
theorem relateAll_eq_ok (suffix : Text) (classes : ClassMap) (relations : List Relation) :
    relateAll suffix classes relations = .ok (relatedAll suffix classes relations) := by
  unfold relateAll relatedAll
  induction relations generalizing classes with
  | nil => rfl
  | cons r rest ih =>
      obtain ⟨target, applied⟩ := relate_eq_ok suffix classes r
      rw [List.foldlM_cons, applied]
      exact ih (related suffix classes r)

/-- What a relation does to the class with a name: it brings it in if it names it, and adds its
attribute if it is the target. -/
theorem get?_related_eq (suffix : Text) (classes : ClassMap) (r : Relation) (key : Text) :
    (related suffix classes r).get? key
      = (classes.get? key <|> if r.Names key then some (Class.empty key) else none).map
          fun c => c.addAttributes (r.fieldFor? suffix key).toList := by
  have both : (ensure (ensure classes r.left) r.right).get? key
      = (classes.get? key <|> if r.Names key then some (Class.empty key) else none) := by
    rw [get?_ensure, get?_ensure]
    cases classes.get? key with
    | some c => rfl
    | none =>
        unfold Relation.Names
        by_cases left : key = r.left
        · simp [left]
        · by_cases right : key = r.right
          · simp [left, ← right]
          · simp [left, right]
  rw [get?_related, both]
  refine congrArg (Option.map · _) (funext fun c => ?_)
  unfold Relation.fieldFor?
  cases r.injected suffix with
  | none => exact c.addAttributes_nil.symm
  | some pair =>
      dsimp only
      split <;> simp [Class.addAttribute, Class.addAttributes]

/-- After relations a class has the attributes that it had before and then, in the order of the
relations, those that they add to it. A class that was not there is there without other members if
one of the relations names it. -/
theorem get?_relatedAll (suffix : Text) (classes : ClassMap) (relations : List Relation)
    (key : Text) :
    (relatedAll suffix classes relations).get? key
      = (classes.get? key <|>
          if ∃ r ∈ relations, r.Names key then some (Class.empty key) else none).map
            fun c => c.addAttributes (relations.filterMap (Relation.fieldFor? suffix key)) := by
  unfold relatedAll
  induction relations generalizing classes with
  | nil => simp
  | cons r rest ih =>
      rw [List.foldl_cons, ih, get?_related_eq]
      cases classes.get? key with
      | some c => cases field : r.fieldFor? suffix key <;> simp [field]
      | none =>
          by_cases named : r.Names key
          · cases field : r.fieldFor? suffix key <;> simp [named, field]
          · have nothing : r.fieldFor? suffix key = none := Relation.fieldFor?_eq_none named
            simp [named, nothing]

end ClassMap

end ClassDiagram
