import ClassDiagram.Proofs.Members
import ClassDiagram.Proofs.Provenance
import ClassDiagram.Proofs.Text.Brackets

/-!
# Where brackets come from

The names that headers give, and the names and types of members that lines declare, are made of
words, so they hold no opening bracket. The words of a relation may be any text without white space.
An opening bracket in a class is therefore in its name, if a relation names it, or in an attribute
that a relation adds to it.
-/

namespace ClassDiagram

/-- The type and the name of a member are words. -/
theorem Line.isWord_of_member? {segment : Text} {m : Member} (found : member? segment = some m) :
    Text.IsWord m.typeToken ∧ Text.IsWord m.name := by
  obtain ⟨before, gap, after, first, -⟩ := (finds_member? segment).eq_some_iff.mp found
  exact ⟨first.type, first.name⟩

theorem Line.bracket_not_mem_classNames {line name : Text} (named : name ∈ classNames line) :
    '[' ∉ name := by
  obtain ⟨word, inside, rfl⟩ := mem_classNamesOfRuns named
  have isWord : Text.IsWord word := Text.isPure_of_mem_runs _ inside
  intro made
  exact isWord.bracket_not_mem (Text.bracket_mem_of_mem_upper made)

theorem Settings.bracket_not_mem_memberName (settings : Settings) {name : Text}
    (plain : '[' ∉ name) : '[' ∉ settings.memberName name := by
  unfold memberName
  split
  · exact plain
  · intro made
    exact plain (Text.bracket_mem_of_mem_lower made)

namespace DataType

/-- A bracket in a type as it is shown is one in the name of the class that it refers to. -/
theorem bracket_mem_toText {type : DataType} (shown : '[' ∈ type.toText) :
    ∃ target, type.target = some target ∧ '[' ∈ target := by
  have plain : '[' ∉ type.kind.name := by
    cases type.kind <;> decide
  unfold toText at shown
  split at shown
  · rename_i target referred
    simp only [List.mem_append, List.mem_singleton, plain, false_or] at shown
    rcases shown with (opening | inside) | closing
    · cases opening
    · exact ⟨target, referred, inside⟩
    · cases closing
  · exact absurd shown plain

theorem bracket_not_mem_ofToken {token : Text} (plain : '[' ∉ token) :
    '[' ∉ (ofToken token).toText := by
  intro shown
  obtain ⟨target, referred, inside⟩ := bracket_mem_toText shown
  unfold ofToken at referred
  dsimp only at referred
  split at referred
  · cases referred
  · rw [← Option.some.inj referred] at inside
    exact plain (Text.mem_of_mem_trim (Text.bracket_mem_of_mem_lower inside))

end DataType

/-- Whether an opening bracket is shown of an attribute. -/
def Attribute.HasBracket (a : Attribute) : Prop :=
  '[' ∈ a.name ∨ '[' ∈ a.dataType.toText

/-- Whether an opening bracket is shown of an operation. -/
def Operation.HasBracket (o : Operation) : Prop :=
  '[' ∈ o.name ∨ '[' ∈ o.returnType.toText

/-- A bracket in the attribute that a relation adds is one in a name of the relation or in what is
put behind it. -/
theorem Relation.bracket_of_injected {suffix : Text} {r : Relation} {target : Text}
    {field : Attribute} (injected : r.injected suffix = some (target, field))
    (bracket : field.HasBracket) : '[' ∈ r.left ∨ '[' ∈ r.right ∨ '[' ∈ suffix := by
  have shown : ∀ name, field.name = name ++ suffix → field.dataType.target = some name →
      '[' ∈ name ∨ '[' ∈ suffix := by
    intro name named referred
    rcases bracket with inside | inside
    · rw [named] at inside
      exact List.mem_append.mp inside
    · obtain ⟨other, same, inside⟩ := DataType.bracket_mem_toText inside
      rw [referred, Option.some.injEq] at same
      exact Or.inl (same ▸ inside)
  unfold Relation.injected at injected
  split at injected
  · cases injected
    exact (shown r.left rfl rfl).imp_right Or.inr
  · cases injected
    exact Or.inr (shown r.right rfl rfl)
  · cases injected
    exact Or.inr (shown r.right rfl rfl)
  · cases injected

/-- A declared member has no bracket, so an attribute that has one is a relation's. -/
theorem Step.bracket_of_event? {settings : Settings} {line : Text} {s : Step} {e : Event}
    (member : s ∈ Line.steps settings.sectionMarker line)
    (made : s.event? settings.foreignKeySuffix = some e) :
    (∀ o, e.operation? settings = some o → ¬ o.HasBracket) ∧
      ∀ a, e.attribute? settings = some a → a.HasBracket →
        ∃ r target, s = .relate r ∧ r.injected settings.foreignKeySuffix = some (target, a) := by
  rcases Line.mem_steps member with ⟨name, -, rfl⟩ | rfl | ⟨m, declared, rfl⟩ | rfl | ⟨r, -, rfl⟩
  · cases made
  · cases made
  · obtain rfl := Option.some.inj made
    obtain ⟨typeWord, nameWord⟩ := Line.isWord_of_member? declared
    have plain : ¬ ('[' ∈ settings.memberName m.name ∨
        '[' ∈ (DataType.ofToken m.typeToken).toText) :=
      not_or.mpr ⟨settings.bracket_not_mem_memberName nameWord.bracket_not_mem,
        DataType.bracket_not_mem_ofToken typeWord.bracket_not_mem⟩
    constructor
    · intro o operation
      rw [Event.operation?] at operation
      split at operation
      · obtain rfl := Option.some.inj operation
        exact plain
      · cases operation
    · intro a stored bracket
      rw [Event.attribute?] at stored
      split at stored
      · cases stored
      · obtain rfl := Option.some.inj stored
        exact absurd bracket plain
  · cases made
  · obtain ⟨⟨target, field⟩, injected, rfl⟩ := Option.map_eq_some_iff.mp made
    constructor
    · intro o operation
      cases operation
    · intro a stored _
      obtain rfl := Option.some.inj stored
      exact ⟨r, target, rfl, injected⟩

namespace Builder

variable {settings : Settings} {text : Text}

/-- The key of a class is a name that some step states. -/
theorem exists_names_of_mem_keys (accepted : (start.readText settings text).error = none)
    {key : Text} (present : key ∈ (start.readText settings text).builder.classes.keys) :
    ∃ s ∈ stepsOf settings (documentLines text), key ∈ s.names := by
  have proper : ∀ s ∈ stepsOf settings (documentLines text), s.IsProper := stepsOf_isProper _
  rw [readText_eq_run accepted] at present
  have holds := holds_of_mem_keys_finish (isNamed_run proper isNamed_start) present
  rcases holds_run proper isNamed_start holds with never | stated
  · simp [Holds, start, savedName, Class.blank] at never
  · exact stated

/-- The relations of a text are those that its steps state. -/
theorem relate_mem_stepsOf (accepted : (start.readText settings text).error = none)
    {r : Relation} (stated : .relate r ∈ stepsOf settings (documentLines text)) :
    r ∈ (start.readText settings text).builder.relations := by
  rw [readText_eq_run accepted, relations_finish, relations_run]
  exact List.mem_append_right _ (List.mem_filterMap.mpr ⟨_, stated, rfl⟩)

end Builder

/-- Events come from the steps of lines. -/
theorem mem_documentEvents {settings : Settings} {text : Text} {e : Event} :
    e ∈ documentEvents settings text ↔
      ∃ line ∈ documentLines text, ∃ s ∈ Line.steps settings.sectionMarker line,
        s.event? settings.foreignKeySuffix = some e := by
  simp only [documentEvents, List.mem_flatMap, ← Line.filterMap_steps, List.mem_filterMap]

/-- Brackets in the classes of a diagram come from relations: a key with a bracket is the name of a
class in some relation, an attribute with a bracket is what some relation adds, and there are no
operations with a bracket. -/
theorem brackets_come_from_relations {settings : Settings} {text : Text}
    (accepted : (Builder.start.readText settings text).error = none) {key : Text} {c : Class}
    (found : (Builder.start.readText settings text).builder.classes.get? key = some c) :
    ('[' ∈ key → ∃ r ∈ (Builder.start.readText settings text).builder.relations, r.Names key) ∧
      (∀ a ∈ c.attributes, a.HasBracket →
        ∃ r ∈ (Builder.start.readText settings text).builder.relations, ∃ target,
          r.injected settings.foreignKeySuffix = some (target, a)) ∧
      ∀ o ∈ c.operations, ¬ o.HasBracket := by
  have made := (Ledger.files_ofText accepted).filed key c found
  have known : ∀ e ∈ (Ledger.ofText settings text).eventsAt (· = .filed key),
      e ∈ documentEvents settings text := by
    intro e inside
    rw [← Ledger.events_ofText]
    obtain ⟨entry, listed, rfl⟩ := List.mem_map.mp inside
    exact List.mem_map.mpr ⟨entry, (List.mem_filter.mp listed).1, rfl⟩
  refine ⟨?_, ?_, ?_⟩
  · intro bracket
    obtain ⟨s, member, stated⟩ :=
      Builder.exists_names_of_mem_keys accepted (OrderedMap.mem_keys_of_get? found)
    obtain ⟨line, -, here⟩ := List.mem_flatMap.mp member
    rcases Line.mem_steps here with ⟨name, named, rfl⟩ | rfl | ⟨m, -, rfl⟩ | rfl | ⟨r, -, rfl⟩
    · rw [List.mem_singleton.mp stated] at bracket
      exact absurd bracket (Line.bracket_not_mem_classNames named)
    · cases stated
    · cases stated
    · cases stated
    · exact ⟨r, Builder.relate_mem_stepsOf accepted member,
        by simpa [Step.names, Relation.Names] using stated⟩
  · intro a inside bracket
    rw [made.attributes] at inside
    obtain ⟨e, listed, stored⟩ := List.mem_filterMap.mp inside
    obtain ⟨line, among, s, here, event⟩ := mem_documentEvents.mp (known e listed)
    obtain ⟨r, target, rfl, injected⟩ := (Step.bracket_of_event? here event).2 a stored bracket
    exact ⟨r, Builder.relate_mem_stepsOf accepted (List.mem_flatMap.mpr ⟨line, among, here⟩),
      target, injected⟩
  · intro o inside
    rw [made.operations] at inside
    obtain ⟨e, listed, operation⟩ := List.mem_filterMap.mp inside
    obtain ⟨line, -, s, here, event⟩ := mem_documentEvents.mp (known e listed)
    exact (Step.bracket_of_event? here event).1 o operation

end ClassDiagram
