import ClassDiagram.Proofs.Refusals
import ClassDiagram.Proofs.Sessions
import ClassDiagram.Proofs.Written.Lines

/-!
# Blocks that are dropped

A class that is open at the end of input is dropped unless the settings ask to keep it. While it is
open its members go to the open class alone and its relations to the mapping alone, from which the
class is missing if it was there before; at the end the copy of it goes back. What is left are the
relations of the block, as if no class had been opened.
-/

namespace ClassDiagram

/-- Whether a step lets the open class be: no class leaves the mapping for it, and it does not go
there. -/
def Step.IsInner : Step → Prop
  | .enter _ => False
  | .close => False
  | _ => True

namespace Line

variable {marker line : Text}

/-- After the names of a header come steps that let the open class be. -/
theorem steps_of_classOpen (kind : classify marker line = .classOpen) :
    ∃ inner, (∀ s ∈ inner, s.IsInner) ∧
      steps marker line = (classNames line).map .enter ++ inner := by
  obtain ⟨unmarked, unclosed, opens⟩ := classify_eq_classOpen kind
  refine ⟨[.ready] ++ (member? (memberSegment line)).toList.map .declare
    ++ (relation? line).toList.map .relate, ?_, ?_⟩
  · intro s member
    simp only [List.mem_append, List.mem_singleton, List.mem_map] at member
    rcases member with (rfl | ⟨m, -, rfl⟩) | ⟨r, -, rfl⟩ <;> trivial
  · simp [steps, openedNames, unmarked, unclosed, opens, beforeClose_eq_self unclosed]

/-- A line that neither opens nor closes a class lets the open class be. -/
theorem isInner_of_mem_steps (kind : classify marker line = .sectionMarker ∨
    classify marker line = .other) {s : Step} (member : s ∈ steps marker line) : s.IsInner := by
  rcases kind with skipped | other
  · have marked := classify_eq_sectionMarker_iff.mp skipped
    simp [steps, marked] at member
  · obtain ⟨unmarked, unclosed, unopened⟩ := classify_eq_other_iff.mp other
    rw [steps, openedNames, beforeClose_eq_self unclosed] at member
    simp only [unmarked, unclosed, unopened, Bool.false_eq_true, if_false, List.map_nil,
      List.nil_append, List.append_nil, List.mem_append, List.mem_map] at member
    rcases member with ⟨m, -, rfl⟩ | ⟨r, -, rfl⟩ <;> trivial

end Line

/-- Relations meet no class that was taken out of the mapping. What they make in its place, put
behind it, is what they would have added to it. -/
theorem ClassMap.absorb_relatedAll_erase (suffix : Text) (classes : ClassMap)
    (relations : List Relation) (name : Text) (c : Class) :
    ((relatedAll suffix (OrderedMap.erase classes name) relations).get? name).elim c c.absorb
      = c.addAttributes (relations.filterMap (Relation.fieldFor? suffix name)) := by
  rw [get?_relatedAll, OrderedMap.get?_erase, if_pos rfl]
  by_cases named : ∃ r ∈ relations, r.Names name
  · simp [named, Class.absorb, Class.addAttributes, Class.empty]
  · have nothing : relations.filterMap (Relation.fieldFor? suffix name) = [] :=
      List.filterMap_eq_nil_iff.mpr fun r member =>
        Relation.fieldFor?_eq_none fun names => named ⟨r, member, names⟩
    simp [named, nothing]

namespace Builder

variable {settings : Settings} {b : Builder}

/-- What is kept of the open class. -/
def saved? (b : Builder) : Option Saved :=
  b.opened.bind OpenClass.saved

theorem saved?_step {s : Step} (inner : s.IsInner) : (step settings b s).saved? = b.saved? := by
  obtain ⟨classes, relations, opened⟩ := b
  cases s with
  | enter name => exact inner.elim
  | ready => cases opened <;> rfl
  | declare m => cases opened <;> rfl
  | close => exact inner.elim
  | relate r => rfl

theorem saved?_run {steps : List Step} (inner : ∀ s ∈ steps, s.IsInner) :
    (run settings b steps).saved? = b.saved? :=
  run_keeps (p := fun reached => reached.saved? = b.saved?)
    (fun _ s member same => (saved?_step (inner s member)).trans same) rfl

/-- Of the steps that let the open class be, only relations work on the mapping. -/
theorem classes_run {steps : List Step} (inner : ∀ s ∈ steps, s.IsInner) :
    (run settings b steps).classes
      = ClassMap.relatedAll settings.foreignKeySuffix b.classes
          (steps.filterMap Step.relation?) := by
  induction steps generalizing b with
  | nil => rfl
  | cons s rest ih =>
      obtain ⟨here, others⟩ := List.forall_mem_cons.mp inner
      rw [run_cons, ih others]
      cases s with
      | enter name => exact here.elim
      | ready => rfl
      | declare m =>
          rw [List.filterMap_cons_none rfl]
          cases opened : b.opened <;> simp [step, opened]
      | close => exact here.elim
      | relate r => rfl

/-- At the end of a block of a new class its relations are left. -/
theorem classes_finish_of_new {inner : List Step} (unflushed : settings.flushUnterminated = false)
    (unsaved : b.saved? = none) (quiet : ∀ s ∈ inner, s.IsInner) :
    (finish settings (run settings b inner)).classes
      = ClassMap.relatedAll settings.foreignKeySuffix b.classes
          (inner.filterMap Step.relation?) := by
  have unnamed : (run settings b inner).savedName = none := by
    have still : (run settings b inner).saved? = none := by rw [saved?_run quiet, unsaved]
    rw [savedName]
    cases opened : (run settings b inner).opened with
    | none => rfl
    | some o =>
        rw [saved?, opened] at still
        exact congrArg (Option.map Saved.name) still
  rw [finish_of_unsaved unflushed unnamed, classes_run quiet]

/-- At the end of a block of a class that was known the copy of it goes back, in front of what the
relations of the block made in its place. -/
theorem classes_finish_of_known {inner : List Step} {c : Class}
    (unflushed : settings.flushUnterminated = false) (copied : b.saved? = some (.copy c))
    (quiet : ∀ s ∈ inner, s.IsInner) :
    (finish settings (run settings b inner)).classes
      = (ClassMap.relatedAll settings.foreignKeySuffix b.classes
          (inner.filterMap Step.relation?)).insert c.name
            (((ClassMap.relatedAll settings.foreignKeySuffix b.classes
              (inner.filterMap Step.relation?)).get? c.name).elim c c.absorb) := by
  have still : (run settings b inner).saved? = some (.copy c) := by rw [saved?_run quiet, copied]
  obtain ⟨o, opened, saved⟩ := Option.bind_eq_some_iff.mp still
  rw [classes_finish_of_copy unflushed opened saved, classes_run quiet]

/-- The classes that a dropped block leaves, class by class, are those that its relations alone make
of the classes before it. -/
theorem get?_finish_of_dropped {names : List Text} {inner : List Step}
    (unflushed : settings.flushUnterminated = false) (idle : b.opened = none)
    (keyed : b.classes.IsKeyed) (single : names.length ≤ 1) (quiet : ∀ s ∈ inner, s.IsInner)
    (key : Text) :
    (finish settings (run settings b (names.map .enter ++ inner))).classes.get? key
      = (ClassMap.relatedAll settings.foreignKeySuffix b.classes
          (inner.filterMap Step.relation?)).get? key := by
  rw [run_append, run_enter]
  cases names with
  | nil =>
      have unsaved : b.saved? = none := by
        rw [saved?, idle]
        rfl
      rw [List.foldl_nil, classes_finish_of_new unflushed unsaved quiet]
  | cons name others =>
      obtain rfl : others = [] := List.length_eq_zero_iff.mp (by simpa using single)
      rw [List.foldl_cons, List.foldl_nil]
      cases known : b.classes.get? name with
      | none =>
          have opened : b.openName name
              = { b with opened := some ⟨{ Class.blank with name := name }, none⟩ } := by
            simp [openName, known, idle, OpenClass.blank]
          have unsaved : (b.openName name).saved? = none := by
            rw [opened]
            rfl
          rw [classes_finish_of_new unflushed unsaved quiet, opened]
      | some c =>
          have opened : b.openName name
              = { b with classes := b.classes.erase name, opened := some ⟨c, some (.copy c)⟩ } := by
            simp [openName, known]
          have copied : (b.openName name).saved? = some (.copy c) := by
            rw [opened]
            rfl
          rw [classes_finish_of_known unflushed copied quiet, opened, keyed name c known,
            OrderedMap.get?_insert]
          -- Only the class of the block left the mapping: the relations meet every other class as
          -- they would have met it without the block.
          by_cases same : key = name
          · rw [if_pos same, same, ClassMap.absorb_relatedAll_erase, ClassMap.get?_relatedAll,
              known]
            rfl
          · rw [if_neg same, ClassMap.get?_relatedAll, ClassMap.get?_relatedAll,
              OrderedMap.get?_erase, if_neg same]

/-- If the relations of lines can all be read, then these are what the steps of the lines state. -/
theorem filterMap_relation?_stepsOf {lines : List (Option Int × Text)} {relations : List Relation}
    (stated : (lines.filter fun l => Line.statesRelation settings.sectionMarker l.2).map
      (fun l => Relation.read l.1 l.2) = relations.map .ok) :
    (stepsOf settings (lines.map Prod.snd)).filterMap Step.relation? = relations := by
  induction lines generalizing relations with
  | nil =>
      rw [List.map_eq_nil_iff.mp stated.symm]
      rfl
  | cons l rest ih =>
      rw [List.map_cons, stepsOf, List.flatMap_cons, List.filterMap_append,
        Line.filterMap_relation?_steps, ← stepsOf]
      cases states : Line.statesRelation settings.sectionMarker l.2 with
      | false =>
          rw [List.filter_cons_of_neg (by simp [states])] at stated
          rw [ih stated]
          unfold Line.statesRelation at states
          cases marked : Line.isSectionMarker settings.sectionMarker l.2 <;>
            simp_all [Line.relation?]
      | true =>
          rw [List.filter_cons_of_pos (by simp [states]), List.map_cons] at stated
          obtain ⟨r, others, rfl, read, later⟩ := List.map_eq_cons_iff.mp stated.symm
          have relation : Line.relation? l.2 = some r := by
            unfold Line.statesRelation at states
            exact Line.relation?_eq_some_iff.mpr
              ⟨by simp_all, Relation.read_eq_ok_of_read none read.symm⟩
          have unmarked : Line.isSectionMarker settings.sectionMarker l.2 = false := by
            unfold Line.statesRelation at states
            simp_all
          rw [ih later.symm, relation, unmarked]
          rfl

end Builder

/-- The calls that read lines one after another, each with its number if it is known. -/
def Call.feeds (lines : List (Option Int × Text)) : List Call :=
  lines.map fun l => .feed l.1 l.2

namespace Builder

variable {settings : Settings}

theorem foldl_perform_feeds (lines : List (Option Int × Text)) (b : Builder) :
    (Call.feeds lines).foldl (perform settings) b
      = run settings b (stepsOf settings (lines.map Prod.snd)) := by
  unfold Call.feeds
  induction lines generalizing b with
  | nil => rfl
  | cons l rest ih =>
      have first : perform settings b (.feed l.1 l.2)
          = run settings b (Line.steps settings.sectionMarker l.2) := feed_eq_run
      rw [List.map_cons, List.foldl_cons, ih, first, ← run_append]
      rfl

/-- A block that is not closed leaves its relations and nothing else. Its header may follow any
session that leaves no class open, and names at most one class. Once input ends, every class is what
the relations of the block, applied in their order, make of the classes before the header. So a
class that was new is there exactly if one of them names it, and one that was known has the members
that it had and after them the attributes that they add to it. -/
theorem dropped_block_leaves_relations {calls : List Call} {header : Option Int × Text}
    {body : List (Option Int × Text)} {relations : List Relation}
    (unflushed : settings.flushUnterminated = false)
    (idle : (session settings calls).opened = none)
    (opens : Line.classify settings.sectionMarker header.2 = .classOpen)
    (single : (Line.classNames header.2).length ≤ 1)
    (within : ∀ l ∈ body, Line.classify settings.sectionMarker l.2 = .sectionMarker ∨
      Line.classify settings.sectionMarker l.2 = .other)
    (stated : ((header :: body).filter fun l =>
      Line.statesRelation settings.sectionMarker l.2).map (fun l => Relation.read l.1 l.2)
        = relations.map .ok) :
    let before := (session settings calls).classes
    let after := (session settings (calls ++ Call.feeds (header :: body) ++ [.finish])).classes
    (∃ related, ClassMap.relateAll settings.foreignKeySuffix before relations = .ok related ∧
        ∀ key, after.get? key = related.get? key) ∧
      ∀ name ∈ Line.classNames header.2,
        (before.get? name = none →
          (name ∈ after.keys ↔ ∃ r ∈ relations, r.Names name)) ∧
        ∀ c, before.get? name = some c →
          after.get? name = some (c.addAttributes
            (relations.filterMap (Relation.fieldFor? settings.foreignKeySuffix name))) := by
  intro before after
  obtain ⟨first, begun, split⟩ := Line.steps_of_classOpen opens
  have steps : stepsOf settings ((header :: body).map Prod.snd)
      = (Line.classNames header.2).map .enter
        ++ (first ++ stepsOf settings (body.map Prod.snd)) := by
    rw [List.map_cons, stepsOf, List.flatMap_cons, split, List.append_assoc]
    rfl
  have quiet : ∀ s ∈ first ++ stepsOf settings (body.map Prod.snd), s.IsInner := by
    intro s member
    rcases List.mem_append.mp member with member | member
    · exact begun s member
    · obtain ⟨line, inside, here⟩ := List.mem_flatMap.mp member
      obtain ⟨l, among, rfl⟩ := List.mem_map.mp inside
      exact Line.isInner_of_mem_steps (within l among) here
  have same : (first ++ stepsOf settings (body.map Prod.snd)).filterMap Step.relation?
      = relations := by
    have all := filterMap_relation?_stepsOf stated
    rwa [steps, List.filterMap_append, Step.filterMap_relation?_enter, List.nil_append] at all
  have reached : after = (finish settings (run settings (session settings calls)
      (stepsOf settings ((header :: body).map Prod.snd)))).classes := by
    rw [← foldl_perform_feeds]
    simp only [after, session, List.foldl_append, List.foldl_cons, List.foldl_nil, perform]
  have each : ∀ key, after.get? key
      = (ClassMap.relatedAll settings.foreignKeySuffix before relations).get? key := by
    intro key
    rw [reached, steps, ← same]
    exact get?_finish_of_dropped unflushed idle (isTidy_session settings calls).keyed single quiet
      key
  refine ⟨⟨_, ClassMap.relateAll_eq_ok _ _ _, each⟩, ?_⟩
  intro name _
  constructor
  · intro absent
    rw [OrderedMap.mem_keys_iff]
    simp only [each, ClassMap.get?_relatedAll, absent]
    by_cases named : ∃ r ∈ relations, r.Names name <;> simp [named]
  · intro c known
    rw [each, ClassMap.get?_relatedAll, known]
    rfl

/-- Lines after which a class with one attribute is known. -/
def knownLines : List (Option Int × Text) :=
  [(none, "class A \x7b".toList), (none, "int x".toList), (none, "\x7d".toList)]

/-- A second block of that class, with a member, the root keyword and a relation. -/
def reopeningLines : List (Option Int × Text) :=
  [(none, "class A \x7b".toList), (none, "bool y".toList), (none, "classDiagram".toList),
    (none, "B \"1\" -- \"N\" A".toList)]

theorem dropped_block_leaves_relations_reopened :
    (session {} (Call.feeds knownLines)).classes.get? "A".toList
        = some ⟨"A".toList, [⟨.primitive .integer, "x".toList⟩], []⟩ ∧
      (session {} (Call.feeds knownLines)).opened = none ∧
      (session {} (Call.feeds knownLines ++ Call.feeds reopeningLines ++ [.finish])).classes.get?
          "A".toList
        = some ⟨"A".toList,
            [⟨.primitive .integer, "x".toList⟩, ⟨.foreignKey "B".toList, "B_fk".toList⟩], []⟩ := by
  have known : (session {} (Call.feeds knownLines)).classes.get? "A".toList
      = some ⟨"A".toList, [⟨.primitive .integer, "x".toList⟩], []⟩ := by decide +kernel
  have idle : (session {} (Call.feeds knownLines)).opened = none := by decide +kernel
  have left := @dropped_block_leaves_relations {} (Call.feeds knownLines)
    (none, "class A \x7b".toList) reopeningLines.tail
    [⟨"B".toList, .one, "--".toList, .many .unknown, "A".toList⟩] rfl idle (by decide +kernel)
    (by decide +kernel) (by decide +kernel) (by decide +kernel)
  exact ⟨known, idle, (left.2 "A".toList (by decide +kernel)).2 _ known⟩

end Builder

end ClassDiagram
