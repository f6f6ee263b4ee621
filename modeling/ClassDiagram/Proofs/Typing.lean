import ClassDiagram.Proofs.HeldMembers
import ClassDiagram.Proofs.Written.RelationLines

/-!
# Types of members

Types get into the classes by two ways: a member is declared with a word for its type, and a
relation refers to one of its classes. Neither makes a reference without a target or a primitive
type with one, and only a relation makes a reference to many objects. Since relations are never
taken back, such a reference is accounted for by a recorded relation in every state of a session.
-/

namespace ClassDiagram

/-- A type has a target exactly if it refers to a class. -/
def DataType.IsWellFormed (type : DataType) : Prop :=
  type.target.isSome = true ↔ type.kind = .foreignKey ∨ type.kind = .manyToMany

/-- The type of an attribute is well formed. If it refers to many objects, then a relation with many
objects on both sides has the class that it refers to on its right, and gives it its name. -/
structure Attribute.IsTyped (suffix : Text) (relations : List Relation) (a : Attribute) : Prop where
  wellFormed : a.dataType.IsWellFormed
  related : a.dataType.kind = .manyToMany → ∃ r ∈ relations,
    r.leftCardinality.count = .many ∧ r.rightCardinality.count = .many ∧
      a.dataType.target = some r.right ∧ a.name = r.right ++ suffix

/-- An operation returns a primitive value or one object, and its parameters are not kept. -/
structure Operation.IsTyped (o : Operation) : Prop where
  wellFormed : o.returnType.IsWellFormed
  single : o.returnType.kind ≠ .manyToMany
  params : o.params = []

/-- Only of a side with many objects more is known. -/
def Cardinality.IsWellFormed (c : Cardinality) : Prop :=
  c.manyKind.isSome = true ↔ c.count = .many

instance (c : Cardinality) : Decidable c.IsWellFormed :=
  inferInstanceAs (Decidable (_ ↔ _))

/-- Both sides of a relation are well formed, and its names and its label are in upper case and
without double quotes. -/
structure Relation.IsWellFormed (r : Relation) : Prop where
  left : r.leftCardinality.IsWellFormed
  right : r.rightCardinality.IsWellFormed
  words : ∀ word ∈ [r.left, r.label, r.right], '"' ∉ word ∧ Text.upper word = word

namespace DataType

theorem isWellFormed_primitive {kind : DataKind} (plain : kind.isRelation = false) :
    (primitive kind).IsWellFormed := by
  cases kind <;> simp_all [IsWellFormed, primitive, DataKind.isRelation]

theorem isWellFormed_foreignKey (target : Text) : (foreignKey target).IsWellFormed := by
  simp [IsWellFormed, foreignKey]

theorem isWellFormed_manyToMany (target : Text) : (manyToMany target).IsWellFormed := by
  simp [IsWellFormed, manyToMany]

/-- A word stands for a primitive type or refers to one object of a class. -/
theorem ofToken_cases (token : Text) :
    (∃ kind, kind.isRelation = false ∧ ofToken token = primitive kind) ∨
      ∃ target, ofToken token = foreignKey target := by
  have plain : ∀ entry ∈ DataKind.primitiveWords, entry.2.isRelation = false := by decide
  unfold ofToken
  dsimp only
  split
  · rename_i kind found
    obtain ⟨before, after, entries, -⟩ := List.lookup_eq_some_iff.mp found
    have listed : (Text.lower (Text.trim token), kind) ∈ DataKind.primitiveWords := by
      rw [entries]
      exact List.mem_append_right before List.mem_cons_self
    exact Or.inl ⟨kind, plain _ listed, rfl⟩
  · exact Or.inr ⟨_, rfl⟩

theorem isWellFormed_ofToken (token : Text) : (ofToken token).IsWellFormed := by
  rcases ofToken_cases token with ⟨kind, plain, same⟩ | ⟨target, same⟩
  · rw [same]
    exact isWellFormed_primitive plain
  · rw [same]
    exact isWellFormed_foreignKey target

theorem ofToken_ne_manyToMany (token : Text) : (ofToken token).kind ≠ .manyToMany := by
  intro many
  rcases ofToken_cases token with ⟨kind, plain, same⟩ | ⟨target, same⟩
  · rw [same] at many
    change kind = .manyToMany at many
    rw [many] at plain
    cases plain
  · rw [same] at many
    cases many

end DataType

theorem Cardinality.isWellFormed_of_ofToken? {token : Text} {c : Cardinality}
    (spelled : ofToken? token = some c) : c.IsWellFormed := by
  have every : ∀ entry ∈ spellings, entry.2.IsWellFormed := by decide
  exact every _ (OrderedMap.get?_eq_some_iff (m := spellingMap).mp spelled)

namespace Relation

theorem isWellFormed_of_read {number : Option Int} {line : Text} {r : Relation}
    (accepted : read number line = .ok r) : r.IsWellFormed where
  left := by
    obtain ⟨_, _, _, _, _, _, _, _, -, first, -, rfl⟩ := read_eq_ok_iff.mp accepted
    exact Cardinality.isWellFormed_of_ofToken? first
  right := by
    obtain ⟨_, _, _, _, _, _, _, _, -, -, second, rfl⟩ := read_eq_ok_iff.mp accepted
    exact Cardinality.isWellFormed_of_ofToken? second
  words := by
    intro word member
    obtain ⟨field, rfl⟩ := words_of_read accepted word member
    refine ⟨fun quoted => ?_, upper_normalizeWord field⟩
    have kept := (List.mem_filter.mp quoted).2
    simp at kept

end Relation

namespace Event

variable {settings : Settings} {suffix : Text} {relations : List Relation}

/-- A declared member is typed, whatever relations there are. -/
theorem makesOnly_declared (settings : Settings) (suffix : Text) (relations : List Relation)
    (member : Line.Member) :
    (declared member).MakesOnly settings (Attribute.IsTyped suffix relations)
      Operation.IsTyped where
  attributes a made := by
    simp only [attribute?] at made
    split at made
    · cases made
    · cases made
      refine ⟨DataType.isWellFormed_ofToken member.typeToken, fun many => ?_⟩
      exact absurd many (DataType.ofToken_ne_manyToMany member.typeToken)
  operations o made := by
    simp only [operation?] at made
    split at made
    · cases made
      exact ⟨DataType.isWellFormed_ofToken member.typeToken,
        DataType.ofToken_ne_manyToMany member.typeToken, rfl⟩
    · cases made

/-- The attribute of a recorded relation is typed. -/
theorem makesOnly_injected {r : Relation} (recorded : r ∈ relations) {e : Event}
    (made : r.event? suffix = some e) :
    e.MakesOnly settings (Attribute.IsTyped suffix relations) Operation.IsTyped := by
  obtain ⟨⟨target, field⟩, injected, rfl⟩ := Option.map_eq_some_iff.mp made
  refine ⟨?_, fun o made => by cases made⟩
  rintro a ⟨⟩
  rcases Relation.injected_eq_some_iff.mp injected with ⟨one, many⟩ | ⟨many, one⟩ | ⟨left, right⟩
  · exact ⟨DataType.isWellFormed_foreignKey r.left, fun many => by cases many⟩
  · exact ⟨DataType.isWellFormed_foreignKey r.right, fun many => by cases many⟩
  · refine ⟨DataType.isWellFormed_manyToMany r.right, fun _ => ?_⟩
    exact ⟨r, recorded, by simpa [Cardinality.isMany] using left,
      by simpa [Cardinality.isMany] using right, rfl, rfl⟩

end Event

theorem Attribute.IsTyped.mono {suffix : Text} {relations more : List Relation} {a : Attribute}
    (typed : a.IsTyped suffix relations) (recorded : ∀ r ∈ relations, r ∈ more) :
    a.IsTyped suffix more where
  wellFormed := typed.wellFormed
  related many := by
    obtain ⟨r, member, same⟩ := typed.related many
    exact ⟨r, recorded r member, same⟩

namespace Builder

variable {settings : Settings} {b : Builder}

/-- Every member that a builder holds is typed by its recorded relations, which are well formed. -/
structure IsTyped (settings : Settings) (b : Builder) : Prop where
  members : b.HasOnly (Attribute.IsTyped settings.foreignKeySuffix b.relations) Operation.IsTyped
  relations : ∀ r ∈ b.relations, r.IsWellFormed

theorem isTyped_start (settings : Settings) : start.IsTyped settings where
  members := hasOnly_start
  relations := List.forall_mem_nil Relation.IsWellFormed

/-- What was typed stays so because relations are only added, and the relation of a step is recorded
when its attribute is added. -/
theorem isTyped_step {s : Step} (typed : b.IsTyped settings)
    (wellFormed : ∀ r, s.relation? = some r → r.IsWellFormed) :
    (step settings b s).IsTyped settings where
  members := by
    rw [relations_step]
    refine hasOnly_step (typed.members.mono fun a held => ?_) fun e made => ?_
    · exact held.mono fun r recorded => List.mem_append_left _ recorded
    · cases s with
      | declare member =>
          cases made
          exact Event.makesOnly_declared settings _ _ member
      | relate r => exact Event.makesOnly_injected (by simp [Step.relation?]) made
      | enter name => cases made
      | ready => cases made
      | close => cases made
  relations := by
    rw [relations_step]
    refine List.forall_mem_append.mpr ⟨typed.relations, fun r stated => ?_⟩
    exact wellFormed r (Option.mem_toList.mp stated)

theorem isTyped_run {steps : List Step}
    (wellFormed : ∀ s ∈ steps, ∀ r, s.relation? = some r → r.IsWellFormed)
    (typed : b.IsTyped settings) : (run settings b steps).IsTyped settings :=
  run_keeps (fun _ s member typed => isTyped_step typed (wellFormed s member)) typed

theorem isTyped_feed (typed : b.IsTyped settings) (number : Option Int) (line : Text) :
    (feed settings number line b).builder.IsTyped settings := by
  rw [feed_eq_run]
  refine isTyped_run (fun s member r stated => ?_) typed
  rcases Line.mem_steps member with ⟨name, -, rfl⟩ | rfl | ⟨m, -, rfl⟩ | rfl | ⟨r', read, rfl⟩
  · cases stated
  · cases stated
  · cases stated
  · cases stated
  · cases stated
    exact Relation.isWellFormed_of_read (Line.relation?_eq_some_iff.mp read).2

theorem isTyped_finish (typed : b.IsTyped settings) : (finish settings b).IsTyped settings where
  members := by
    rw [relations_finish]
    exact hasOnly_finish typed.members
  relations := by
    rw [relations_finish]
    exact typed.relations

theorem isTyped_session (settings : Settings) (calls : List Call) :
    (session settings calls).IsTyped settings :=
  session_keeps (isTyped_start settings) (fun _ number line typed => isTyped_feed typed number line)
    (fun _ => isTyped_finish) calls

end Builder

/-- After every session the members of all classes, the open one included, are typed. A type has a
target exactly if it refers to a class, no operation has parameters or returns many objects, and an
attribute that refers to many objects refers to the right side of a recorded relation that has many
objects on both sides, and is named after it. Every recorded relation says more of its sides with
many objects and of no others, and its names and its label are in upper case and without double
quotes. -/
theorem session_is_typed (settings : Settings) (calls : List Call) :
    (∀ c : Class, (c = (Builder.session settings calls).openClass ∨
        ∃ key, (Builder.session settings calls).classes.get? key = some c) →
      c.HasOnly
        (Attribute.IsTyped settings.foreignKeySuffix (Builder.session settings calls).relations)
        Operation.IsTyped) ∧
      ∀ r ∈ (Builder.session settings calls).relations, r.IsWellFormed := by
  have typed := Builder.isTyped_session settings calls
  refine ⟨?_, typed.relations⟩
  rintro c (rfl | ⟨key, found⟩)
  · exact typed.members.openClass
  · exact typed.members.filed key c found

/-- A relation of a class that is open again, and the end of input. -/
def relatedWhileOpen : List Call :=
  [.feed none "class A \x7b int x \x7d".toList, .feed none "class A \x7b".toList,
    .feed none "A \"n\" -- \"0..1\" ß".toList, .finish]

/-- The class that goes back at the end of input has its own attribute and that of the relation. -/
theorem session_is_typed_reopened :
    ∃ c r, (Builder.session {} relatedWhileOpen).classes.get? "A".toList = some c ∧
      c.attributes
          = [⟨.primitive .integer, "x".toList⟩, ⟨.manyToMany "SS".toList, "SS_fk".toList⟩] ∧
        c.HasOnly (Attribute.IsTyped "_fk".toList (Builder.session {} relatedWhileOpen).relations)
          Operation.IsTyped ∧
          r ∈ (Builder.session {} relatedWhileOpen).relations ∧ r.IsWellFormed := by
  obtain ⟨members, relations⟩ := session_is_typed {} relatedWhileOpen
  have found : (Builder.session {} relatedWhileOpen).classes.get? "A".toList
      = some ⟨"A".toList, [⟨.primitive .integer, "x".toList⟩,
          ⟨.manyToMany "SS".toList, "SS_fk".toList⟩], []⟩ := by
    decide +kernel
  have recorded : Relation.mk "A".toList (.many .unknown) "--".toList (.many .zeroToOne) "SS".toList
      ∈ (Builder.session {} relatedWhileOpen).relations := by
    decide +kernel
  exact ⟨_, _, found, rfl, members _ (Or.inr ⟨_, found⟩), recorded, relations _ recorded⟩

end ClassDiagram
