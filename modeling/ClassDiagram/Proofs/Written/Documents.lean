import ClassDiagram.Proofs.Names
import ClassDiagram.Proofs.Written.Lines

/-!
# Documents as they are written

A document is a sequence of blocks and of relation lines between them. It is read as its items
applied one after another: a block takes its class out of the mapping, adds its members and puts it
back at the end, and a relation is applied to the mapping as it is.
-/

namespace ClassDiagram

/-- A part of a document. -/
inductive Item where
  /-- A class with member lines. -/
  | block (name : Text) (members : List MemberLine)
  /-- A line that states a relation. -/
  | relation (line : Text)
  deriving DecidableEq

namespace Item

/-- The lines of an item. -/
def lines : Item → List Text
  | .block name members => Line.header name :: members.map MemberLine.text ++ [Line.brace]
  | .relation line => [line]

/-- A block is well formed if its name is a word, its header opens a class and its member lines are
well formed; a relation line if it is a line, states a relation that can be read and is nothing
else. -/
def IsWellFormed (settings : Settings) : Item → Prop
  | .block name members =>
      Text.IsWord name ∧ Line.classify settings.sectionMarker (Line.header name) = .classOpen ∧
        ∀ m ∈ members, m.IsWellFormed settings
  | .relation line =>
      '\n' ∉ line ∧ Line.isRelation line = true ∧
        Line.classify settings.sectionMarker line = .other ∧
          ∃ r, Relation.read none line = .ok r

instance (settings : Settings) : (item : Item) → Decidable (item.IsWellFormed settings)
  | .block _ _ => inferInstanceAs (Decidable (_ ∧ _ ∧ _))
  | .relation line =>
      have : Decidable (∃ r, Relation.read none line = .ok r) :=
        match Relation.read none line with
        | .ok r => isTrue ⟨r, rfl⟩
        | .error _ => isFalse (by simp)
      inferInstanceAs (Decidable (_ ∧ _ ∧ _ ∧ _))

/-- What an item does to the classes. A block takes out the class of its name, or begins with one
without members, and puts it in at the end; a relation is applied. -/
def apply (settings : Settings) (classes : ClassMap) : Item → ClassMap
  | .block name members =>
      let key := Text.upper name
      let taken := (classes.get? key).getD (Class.empty name)
      (classes.erase key).insert key (members.foldl (MemberLine.addTo settings) taken)
  | .relation line =>
      match Relation.read none line with
      | .error _ => classes
      | .ok r =>
          match ClassMap.relate settings.foreignKeySuffix classes r with
          | .error _ => classes
          | .ok (after, _) => after

variable {settings : Settings}

theorem forall_mem_lines_block {name : Text} {members : List MemberLine} {p : Text → Prop} :
    (∀ line ∈ (block name members).lines, p line) ↔
      p (Line.header name) ∧ (∀ m ∈ members, p m.text) ∧ p Line.brace := by
  rw [lines, List.cons_append, List.forall_mem_cons, List.forall_mem_append, List.forall_mem_map,
    List.forall_mem_singleton]

/-- The lines of an item are lines. -/
theorem newline_not_mem {item : Item} (wellFormed : item.IsWellFormed settings) :
    ∀ line ∈ item.lines, '\n' ∉ line := by
  cases item with
  | block name members =>
      obtain ⟨word, -, members⟩ := wellFormed
      exact forall_mem_lines_block.mpr ⟨Line.newline_not_mem_header word,
        fun m inside => Line.newline_not_mem_member (members m inside), by decide⟩
  | relation line => exact List.forall_mem_singleton.mpr wellFormed.1

/-- No line of an item is refused. -/
theorem isAccepted {item : Item} (wellFormed : item.IsWellFormed settings) :
    ∀ line ∈ item.lines, Line.IsAccepted settings.sectionMarker (Line.withoutReturns line) := by
  cases item with
  | block name members =>
      obtain ⟨word, -, members⟩ := wellFormed
      refine forall_mem_lines_block.mpr
        ⟨Or.inr (Or.inl ?_), fun m inside => Or.inr (Or.inl ?_), Or.inr (Or.inl (by decide))⟩
      · rw [Line.withoutReturns_header]
        exact Line.isRelation_header word
      · rw [Line.withoutReturns_member (members m inside).name]
        exact (members m inside).unrelated
  | relation line =>
      obtain ⟨-, stated, kind, r, accepted⟩ := wellFormed
      have relation := (Line.relation_withoutReturns kind stated accepted).2
      exact List.forall_mem_singleton.mpr
        (Or.inr (Or.inr ⟨r, (Line.relation?_eq_some_iff.mp relation).2⟩))

/-- The steps of a block. -/
theorem stepsOf_block {name : Text} {members : List MemberLine}
    (wellFormed : (block name members).IsWellFormed settings) :
    Builder.stepsOf settings ((block name members).lines.map Line.withoutReturns)
      = .enter (Text.upper name) :: .ready :: members.map (fun m => .declare m.member)
          ++ [.close] := by
  obtain ⟨word, kind, members⟩ := wellFormed
  have declared : ∀ members : List MemberLine, (∀ m ∈ members, m.IsWellFormed settings) →
      Builder.stepsOf settings ((members.map MemberLine.text).map Line.withoutReturns)
        = members.map fun m => Step.declare m.member := by
    intro members wellFormed
    induction members with
    | nil => rfl
    | cons m rest ih =>
        obtain ⟨first, others⟩ := List.forall_mem_cons.mp wellFormed
        rw [List.map_cons, List.map_cons, Builder.stepsOf, List.flatMap_cons, ← Builder.stepsOf,
          ih others, Line.withoutReturns_member first.name, Line.steps_member first]
        rfl
  rw [lines, List.cons_append, List.map_cons, List.map_append, Builder.stepsOf, List.flatMap_cons,
    ← Builder.stepsOf, Builder.stepsOf_append, declared _ members, Line.withoutReturns_header,
    Line.steps_header word kind]
  simp [Builder.stepsOf, Line.withoutReturns_brace, Line.steps_brace]

theorem name_foldl_addTo (members : List MemberLine) (c : Class) :
    (members.foldl (MemberLine.addTo settings) c).name = c.name := by
  induction members generalizing c with
  | nil => rfl
  | cons m rest ih => rw [List.foldl_cons, ih, ← MemberLine.declare_member, Class.name_declare]

/-- Members go into the class that is open. -/
theorem run_declare (classes : ClassMap) (relations : List Relation) (c : Class)
    (saved : Option Saved) (members : List MemberLine) :
    Builder.run settings ⟨classes, relations, some ⟨c, saved⟩⟩
        (members.map fun m => .declare m.member)
      = ⟨classes, relations, some ⟨members.foldl (MemberLine.addTo settings) c, saved⟩⟩ := by
  induction members generalizing c with
  | nil => rfl
  | cons m rest ih =>
      rw [List.map_cons, Builder.run_cons, Builder.step, ih, MemberLine.declare_member]
      rfl

/-- A block that begins while no class is open does what its members do to its class. -/
theorem run_block {classes : ClassMap} {relations : List Relation} {name : Text}
    {members : List MemberLine} (named : Builder.IsNamed ⟨classes, relations, none⟩)
    (word : Text.IsWord name) :
    Builder.run settings ⟨classes, relations, none⟩
        (.enter (Text.upper name) :: .ready :: members.map (fun m => .declare m.member)
          ++ [.close])
      = ⟨(block name members).apply settings classes, relations, none⟩ := by
  let key := Text.upper name
  let taken := (classes.get? key).getD (Class.empty name)
  have opens : ∃ saved, Builder.run settings ⟨classes, relations, none⟩ [.enter key, .ready]
      = ⟨classes.erase key, relations, some ⟨taken, saved⟩⟩ := by
    cases found : classes.get? key with
    | some c =>
        refine ⟨some (.copy c), ?_⟩
        simp [Builder.step, Builder.openName, found, taken]
    | none =>
        refine ⟨none, ?_⟩
        have absent := OrderedMap.get?_eq_none_iff.mp found
        simp only [Builder.run_cons, Builder.run_nil, Builder.step, Builder.openName, found,
          OrderedMap.erase_eq_self absent, taken]
        rfl
  have name : taken.name = key := by
    cases found : classes.get? key with
    | some c => simpa [taken, found] using named.keyed key c found
    | none => simp [taken, found, Class.empty, key]
  have nonempty : key ≠ [] := fun empty => word.1 (Text.upper_eq_nil_iff.mp empty)
  obtain ⟨saved, opens⟩ := opens
  have split : Step.enter key :: .ready :: members.map (fun m => Step.declare m.member) ++ [.close]
      = [.enter key, .ready] ++ members.map (fun m => .declare m.member) ++ [.close] := rfl
  have kept : (members.foldl (MemberLine.addTo settings) taken).name = key := by
    rw [name_foldl_addTo, name]
  rw [split, Builder.run_append, Builder.run_append, opens, run_declare]
  simp [Builder.step, Builder.close, kept, nonempty, apply, key, taken]

/-- A relation line that stands while no class is open only applies its relation. -/
theorem run_relation {classes : ClassMap} {relations : List Relation} {line : Text} {r : Relation}
    (accepted : Relation.read none line = .ok r) (declared : List Line.Member) :
    Builder.run settings ⟨classes, relations, none⟩ (declared.map .declare ++ [.relate r])
      = ⟨(relation line).apply settings classes, relations ++ [r], none⟩ := by
  have idle : Builder.run settings ⟨classes, relations, none⟩ (declared.map .declare)
      = ⟨classes, relations, none⟩ := by
    induction declared with
    | nil => rfl
    | cons m rest ih => exact ih
  obtain ⟨target, related⟩ := ClassMap.relate_eq_ok settings.foreignKeySuffix classes r
  rw [Builder.run_append, idle]
  simp [Builder.step, apply, accepted, related]

/-- An item is read as a whole: it leaves no class open and does what it does to the classes. -/
theorem run_stepsOf {item : Item} (wellFormed : item.IsWellFormed settings) {classes : ClassMap}
    {relations : List Relation} (named : Builder.IsNamed ⟨classes, relations, none⟩) :
    ∃ stated, Builder.run settings ⟨classes, relations, none⟩
        (Builder.stepsOf settings (item.lines.map Line.withoutReturns))
      = ⟨item.apply settings classes, relations ++ stated, none⟩ := by
  cases item with
  | block name members =>
      refine ⟨[], ?_⟩
      rw [stepsOf_block wellFormed, run_block named wellFormed.1, List.append_nil]
  | relation line =>
      obtain ⟨-, stated, kind, r, accepted⟩ := wellFormed
      refine ⟨[r], ?_⟩
      rw [lines, List.map_singleton, Builder.stepsOf, List.flatMap_singleton,
        Line.steps_relation kind stated accepted]
      exact run_relation accepted _

/-- Items are read one after another. -/
theorem run_items {items : List Item} (wellFormed : ∀ item ∈ items, item.IsWellFormed settings)
    {classes : ClassMap} {relations : List Relation}
    (named : Builder.IsNamed ⟨classes, relations, none⟩) :
    ∃ stated, Builder.run settings ⟨classes, relations, none⟩
        (Builder.stepsOf settings ((items.flatMap lines).map Line.withoutReturns))
      = ⟨items.foldl (apply settings) classes, relations ++ stated, none⟩ := by
  induction items generalizing classes relations with
  | nil => exact ⟨[], by simp [Builder.stepsOf]⟩
  | cons item rest ih =>
      obtain ⟨first, others⟩ := List.forall_mem_cons.mp wellFormed
      obtain ⟨stated, after⟩ := run_stepsOf first named
      have namedAfter :
          Builder.IsNamed ⟨item.apply settings classes, relations ++ stated, none⟩ := by
        rw [← after]
        exact Builder.isNamed_run (Builder.stepsOf_isProper _) named
      obtain ⟨more, done⟩ := ih others namedAfter
      refine ⟨stated ++ more, ?_⟩
      rw [List.flatMap_cons, List.map_append, Builder.stepsOf_append, Builder.run_append, after,
        done, List.foldl_cons, List.append_assoc]

end Item

/-- The lines that are read from joined lines are those lines, and one empty line if there are
none. -/
theorem documentLines_joinWith {lines : List Text} (apart : ∀ line ∈ lines, '\n' ∉ line) :
    documentLines (Text.joinWith ['\n'] lines)
      = if lines = [] then [[]] else lines.map Line.withoutReturns := by
  split
  · rename_i nothing
    rw [nothing]
    rfl
  · rename_i something
    rw [documentLines, Text.lines, Text.splitOn_joinWith something apart]
    rfl

/-- A document that is written as well-formed items has the classes that its items lead to, applied
one after another from the first to the last. -/
theorem parse_joinWith_lines (settings : Settings) (items : List Item)
    (wellFormed : ∀ item ∈ items, item.IsWellFormed settings) :
    parse settings (Text.joinWith ['\n'] (items.flatMap Item.lines))
      = .ok (items.foldl (Item.apply settings) .empty) := by
  have apart : ∀ line ∈ items.flatMap Item.lines, '\n' ∉ line := by
    intro line member
    obtain ⟨item, inside, here⟩ := List.mem_flatMap.mp member
    exact Item.newline_not_mem (wellFormed item inside) line here
  have lines := documentLines_joinWith apart
  have accepted : (Builder.start.readText settings
      (Text.joinWith ['\n'] (items.flatMap Item.lines))).error = none := by
    rw [Builder.readText_accepted_iff, lines]
    split
    · exact List.forall_mem_singleton.mpr (Or.inr (Or.inl rfl))
    · rw [List.forall_mem_map]
      intro line member
      obtain ⟨item, inside, here⟩ := List.mem_flatMap.mp member
      exact Item.isAccepted (wellFormed item inside) line here
  have steps : Builder.stepsOf settings
      (documentLines (Text.joinWith ['\n'] (items.flatMap Item.lines)))
        = Builder.stepsOf settings ((items.flatMap Item.lines).map Line.withoutReturns) := by
    rw [lines]
    split
    · rename_i nothing
      simp [nothing, Builder.stepsOf, Line.steps_nil]
    · rfl
  obtain ⟨stated, done⟩ := Item.run_items wellFormed Builder.isNamed_start
  rw [parse_eq_ok_iff]
  refine ⟨accepted, ?_⟩
  rw [Builder.readText_eq_run accepted, steps]
  change (Builder.finish settings (Builder.run settings ⟨.empty, [], none⟩ _)).classes = _
  rw [done]
  rfl

/-- A class that a relation brings in, and two blocks of it. -/
def reopenedItems : List Item :=
  [.relation "Order \"N\" -- \"1\" Customer".toList,
    .block "Order".toList
      [⟨"\t".toList, "int".toList, "number".toList, none⟩,
        ⟨[], "bool".toList, "ship".toList, some "class_of, (when".toList⟩],
    .block "Customer".toList [],
    .block "ORDER".toList [⟨"  ".toList, "Customer".toList, "payer".toList, none⟩]]

theorem parse_joinWith_lines_reopened :
    (∀ item ∈ reopenedItems, item.IsWellFormed {}) ∧
      parse {} (Text.joinWith ['\n'] (reopenedItems.flatMap Item.lines))
        = .ok (reopenedItems.foldl (Item.apply {}) .empty) :=
  have wellFormed : ∀ item ∈ reopenedItems, item.IsWellFormed {} := by decide +kernel
  ⟨wellFormed, parse_joinWith_lines {} reopenedItems wellFormed⟩

end ClassDiagram
