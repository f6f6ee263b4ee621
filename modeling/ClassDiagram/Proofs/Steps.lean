import ClassDiagram.Document
import ClassDiagram.Proofs.Relations
import Mathlib.Data.List.TakeWhile

/-!
# Lines as sequences of steps

What a line does to a builder falls into steps of five kinds, and which steps these are follows from
the line and the root keyword alone. Reading lines that are not refused is running their steps one
after another, so a property of all runs is a property that each step preserves.
-/

namespace ClassDiagram

/-- One thing that a line does to a builder. -/
inductive Step where
  /-- A header names a class. -/
  | enter (name : Text)
  /-- The names of a header are over; from here on some class is open. -/
  | ready
  /-- A member is declared. -/
  | declare (member : Line.Member)
  /-- A closing brace. -/
  | close
  /-- A relation is stated. -/
  | relate (relation : Relation)
  deriving DecidableEq

/-- The relation that a step states. -/
def Step.relation? : Step → Option Relation
  | .relate relation => some relation
  | _ => none

namespace Line

/-- What stands on a line before its first closing brace. -/
def beforeClose (line : Text) : Text :=
  line.takeWhile (· ≠ '\x7d')

/-- The part of a line that may declare a member: of what stands before a closing brace, the body
after a header, or all of it if it is no header. -/
def memberSegment (line : Text) : Text :=
  if isClassOpen (beforeClose line) then (splitHeader (beforeClose line)).2 else beforeClose line

/-- The names of the classes that a line opens, which stand before a closing brace. -/
def openedNames (line : Text) : List Text :=
  if isClassOpen (beforeClose line) then classNames (beforeClose line) else []

/-- The relation that a line states. -/
def relation? (line : Text) : Option Relation :=
  if isRelation line then (Relation.read none line).toOption else none

/-- The steps of a line, none for a line with the root keyword. -/
def steps (marker line : Text) : List Step :=
  if isSectionMarker marker line then []
  else
    (openedNames line).map .enter
      ++ (if isClassOpen (beforeClose line) then [.ready] else [])
      ++ (member? (memberSegment line)).toList.map .declare
      ++ (if isClassClose line then [.close] else [])
      ++ (relation? line).toList.map .relate

/-- Whether a line is not refused: it has the root keyword, or states no relation, or one that can
be read. -/
def IsAccepted (marker line : Text) : Prop :=
  isSectionMarker marker line = true ∨ isRelation line = false ∨
    ∃ relation, Relation.read none line = .ok relation

/-- Whether a line is refused for a fault: it has no root keyword, and states a relation that cannot
be read for that reason. -/
def IsRefused (marker : Text) (number : Option Int) (line : Text) (fault : LineFault) : Prop :=
  isSectionMarker marker line = false ∧ isRelation line = true ∧
    Relation.read number line = .error fault

theorem classify_eq_classOpen {marker line : Text} (kind : classify marker line = .classOpen) :
    isSectionMarker marker line = false ∧ isClassClose line = false ∧ isClassOpen line = true := by
  unfold classify at kind
  split at kind
  · cases kind
  · split at kind
    · cases kind
    · split at kind
      · simp_all
      · cases kind

theorem classify_eq_sectionMarker_iff {marker line : Text} :
    classify marker line = .sectionMarker ↔ isSectionMarker marker line = true := by
  unfold classify
  cases isSectionMarker marker line <;> cases isClassClose line <;> cases isClassOpen line <;>
    simp

theorem classify_eq_other_iff {marker line : Text} :
    classify marker line = .other ↔
      isSectionMarker marker line = false ∧ isClassClose line = false ∧
        isClassOpen line = false := by
  unfold classify
  cases isSectionMarker marker line <;> cases isClassClose line <;> cases isClassOpen line <;>
    simp

theorem beforeClose_eq_self {line : Text} (unclosed : isClassClose line = false) :
    beforeClose line = line := by
  rw [beforeClose, List.takeWhile_eq_self_iff]
  intro c member
  have different : c ≠ '\x7d' := by
    rintro rfl
    rw [isClassClose, List.contains_iff_mem.mpr member] at unclosed
    cases unclosed
  simpa using different

theorem relation?_eq_some_iff {line : Text} {r : Relation} :
    relation? line = some r ↔ isRelation line = true ∧ Relation.read none line = .ok r := by
  unfold relation?
  split
  · cases read : Relation.read none line <;> simp_all [Except.toOption]
  · simp_all

/-- A line is accepted or refused, whatever its number. -/
theorem not_isRefused_iff {marker line : Text} (number : Option Int) :
    (∀ fault, ¬ IsRefused marker number line fault) ↔ IsAccepted marker line := by
  unfold IsRefused IsAccepted
  cases isSectionMarker marker line with
  | true => simp
  | false =>
      cases isRelation line with
      | false => simp
      | true =>
          cases read : Relation.read number line with
          | ok relation =>
              have unnumbered := Relation.read_eq_ok_of_read none read
              simp [unnumbered]
          | error fault =>
              have unread : ¬ ∃ relation, Relation.read none line = .ok relation := by
                rintro ⟨relation, accepted⟩
                rw [Relation.read_eq_ok_of_read number accepted] at read
                cases read
              simp [unread]

end Line

/-- The class with one more member, under the name and type that the settings give it. -/
def Class.declare (settings : Settings) (member : Line.Member) (c : Class) : Class :=
  if member.isOperation then
    c.addOperation ⟨DataType.ofToken member.typeToken, settings.memberName member.name, []⟩
  else c.addAttribute ⟨DataType.ofToken member.typeToken, settings.memberName member.name⟩

@[simp] theorem Class.name_declare (settings : Settings) (member : Line.Member) (c : Class) :
    (c.declare settings member).name = c.name := by
  unfold Class.declare
  split <;> rfl

namespace Builder

/-- The effect of a step. -/
def step (settings : Settings) (b : Builder) : Step → Builder
  | .enter name => b.openName name
  | .ready => { b with opened := some (b.opened.getD OpenClass.blank) }
  | .declare member =>
      match b.opened with
      | none => b
      | some o => { b with opened := some { o with current := o.current.declare settings member } }
  | .close => b.close
  | .relate relation =>
      { b with
        classes := ClassMap.related settings.foreignKeySuffix b.classes relation
        relations := b.relations ++ [relation] }

/-- The effect of steps one after another. -/
def run (settings : Settings) (b : Builder) (steps : List Step) : Builder :=
  steps.foldl (step settings) b

variable {settings : Settings} {number : Option Int} {line : Text} {b : Builder}

@[simp] theorem run_nil : run settings b [] = b :=
  rfl

@[simp] theorem run_cons (s : Step) (rest : List Step) :
    run settings b (s :: rest) = run settings (step settings b s) rest :=
  rfl

@[simp] theorem run_append (first second : List Step) :
    run settings b (first ++ second) = run settings (run settings b first) second :=
  List.foldl_append

@[simp] theorem opened_close : b.close.opened = none := by
  obtain ⟨classes, relations, _ | o⟩ := b <;> rfl

/-- What each of some steps keeps, a run of them keeps. -/
theorem run_keeps {p : Builder → Prop} {steps : List Step}
    (keeps : ∀ b, ∀ s ∈ steps, p b → p (step settings b s)) (holds : p b) :
    p (run settings b steps) :=
  List.foldlRecOn steps (step settings) holds fun b held s member => keeps b s member held

theorem run_enter (names : List Text) :
    run settings b (names.map .enter) = names.foldl openName b := by
  rw [run, List.foldl_map]
  rfl

theorem collect_eq_run (segment : Text) (b : Builder) :
    collect settings segment b
      = run settings b ((Line.member? segment).toList.map .declare) := by
  unfold collect
  cases opened : b.opened <;> cases Line.member? segment <;>
    simp [step, opened, Class.declare]

theorem openHeader_eq_run (b : Builder) :
    openHeader settings line b
      = run settings b ((Line.classNames line).map .enter ++ [.ready]
          ++ (Line.member? (Line.splitHeader line).2).toList.map .declare) := by
  rw [run_append, run_append, run_enter, ← collect_eq_run]
  rfl

/-- The effect of a line on the open class is that of its steps but the last. -/
theorem feedClass_eq_run (read : Line.isSectionMarker settings.sectionMarker line = false) :
    run settings (feedClass settings line b) ((Line.relation? line).toList.map .relate)
      = run settings b (Line.steps settings.sectionMarker line) := by
  unfold feedClass Line.classify Line.steps
  simp only [read, Bool.false_eq_true, if_false]
  rw [run_append]
  congr 1
  unfold Line.openedNames Line.memberSegment
  by_cases closes : Line.isClassClose line = true
  · rw [if_pos closes]
    change (if Line.isClassOpen (Line.beforeClose line) then
      openHeader settings (Line.beforeClose line) b
      else collect settings (Line.beforeClose line) b).close = _
    by_cases opens : Line.isClassOpen (Line.beforeClose line) = true
    · simp [closes, opens, openHeader_eq_run, step]
    · simp [closes, opens, collect_eq_run, step]
  · rw [Line.beforeClose_eq_self (by simpa using closes), if_neg closes]
    by_cases opens : Line.isClassOpen line = true
    · simp [closes, opens, openHeader_eq_run]
    · simp [closes, opens, collect_eq_run]

/-- A relation line is refused for the fault of its relation, whatever the builder. -/
theorem feedRelation_error_iff {e : DiagramError} :
    (feedRelation settings number line b).error = some e ↔
      Line.isRelation line = true ∧
        ∃ fault, Relation.read number line = .error fault ∧ e = .refused fault := by
  unfold feedRelation
  split
  · rename_i stated
    split
    · rename_i fault refused
      simp [stated, refused, eq_comm]
    · rename_i relation accepted
      obtain ⟨target, related⟩ :=
        ClassMap.relate_eq_ok settings.foreignKeySuffix b.classes relation
      simp [related, accepted]
  · rename_i unstated
    simp [unstated]

/-- To read the relation of a line is to run its step. A line that is refused has no such step. -/
theorem feedRelation_eq_run :
    (feedRelation settings number line b).builder
      = run settings b ((Line.relation? line).toList.map .relate) := by
  unfold feedRelation
  split
  · rename_i stated
    split
    · rename_i fault refused
      have unread : Line.relation? line = none := by
        rw [Option.eq_none_iff_forall_ne_some]
        intro relation read
        rw [Relation.read_eq_ok_of_read number (Line.relation?_eq_some_iff.mp read).2] at refused
        cases refused
      rw [unread]
      rfl
    · rename_i relation accepted
      obtain ⟨target, related⟩ :=
        ClassMap.relate_eq_ok settings.foreignKeySuffix b.classes relation
      have read : Line.relation? line = some relation :=
        Line.relation?_eq_some_iff.mpr ⟨stated, Relation.read_eq_ok_of_read none accepted⟩
      simp [read, related, step]
  · rename_i unstated
    simp [Line.relation?, unstated]

/-- A line is refused whatever the builder, and only for the fault of its relation. -/
theorem feed_error_iff {e : DiagramError} :
    (feed settings number line b).error = some e ↔
      ∃ fault, Line.IsRefused settings.sectionMarker number line fault ∧ e = .refused fault := by
  unfold feed Line.IsRefused
  split
  · simp [*]
  · simp [feedRelation_error_iff, and_assoc, *]

/-- A line is not refused exactly if it is accepted, whatever the builder and its number. -/
theorem feed_accepted_iff :
    (feed settings number line b).error = none ↔
      Line.IsAccepted settings.sectionMarker line := by
  rw [← Line.not_isRefused_iff number, Option.eq_none_iff_forall_ne_some]
  constructor
  · intro unrefused fault refused
    exact unrefused _ (feed_error_iff.mpr ⟨fault, refused, rfl⟩)
  · intro unrefused e error
    obtain ⟨fault, refused, -⟩ := feed_error_iff.mp error
    exact unrefused fault refused

/-- To read a line is to run its steps, also if the line is refused for its relation. -/
theorem feed_eq_run :
    (feed settings number line b).builder
      = run settings b (Line.steps settings.sectionMarker line) := by
  unfold feed
  split
  · simp [Line.steps, *]
  · rename_i read
    rw [← feedClass_eq_run (by simpa using read)]
    exact feedRelation_eq_run

/-- An accepted line of which the steps change nothing leaves the builder as it is. -/
theorem feed_eq_self (accepted : Line.IsAccepted settings.sectionMarker line)
    (same : run settings b (Line.steps settings.sectionMarker line) = b) :
    feed settings number line b = ⟨b, none⟩ := by
  have unrefused : (feed settings number line b).error = none := feed_accepted_iff.mpr accepted
  calc feed settings number line b
      = ⟨(feed settings number line b).builder, (feed settings number line b).error⟩ := rfl
    _ = ⟨b, none⟩ := by rw [feed_eq_run, same, unrefused]

/-- A step adds the relation that it states. -/
theorem relations_step (s : Step) :
    (step settings b s).relations = b.relations ++ s.relation?.toList := by
  cases s with
  | enter name =>
      simp only [step, openName]
      split <;> simp [Step.relation?]
  | ready => simp [step, Step.relation?]
  | declare member =>
      simp only [step]
      split <;> simp [Step.relation?]
  | close =>
      simp only [step, close]
      split <;> simp [Step.relation?]
  | relate r => rfl

/-- The relations of a run are those that its steps state, in their order. -/
theorem relations_run (steps : List Step) :
    (run settings b steps).relations = b.relations ++ steps.filterMap Step.relation? := by
  induction steps generalizing b with
  | nil => simp
  | cons s rest ih =>
      rw [run_cons, ih, relations_step]
      cases stated : Step.relation? s <;> simp [stated]

/-- The steps of lines. -/
def stepsOf (settings : Settings) (lines : List Text) : List Step :=
  lines.flatMap (Line.steps settings.sectionMarker)

@[simp] theorem stepsOf_append (before after : List Text) :
    stepsOf settings (before ++ after) = stepsOf settings before ++ stepsOf settings after :=
  List.flatMap_append

/-- Lines are refused whatever the builder and the number of the first one. -/
theorem feedLines_accepted_iff (lines : List Text) (number : Int) (b : Builder) :
    (feedLines settings number lines b).error = none ↔
      ∀ line ∈ lines, Line.IsAccepted settings.sectionMarker line := by
  induction lines generalizing number b with
  | nil => simp [feedLines]
  | cons line rest ih =>
      simp only [feedLines]
      have first : (feed settings (some number) line b).error = none ↔ _ := feed_accepted_iff
      cases error : (feed settings (some number) line b).error with
      | some e =>
          have refused : ¬ Line.IsAccepted settings.sectionMarker line := by
            rw [← first, error]
            simp
          simp [error, refused]
      | none => simp [ih, first.mp error]

/-- To read lines that are not refused is to run their steps. -/
theorem feedLines_eq_run (lines : List Text) (number : Int) (b : Builder)
    (accepted : (feedLines settings number lines b).error = none) :
    (feedLines settings number lines b).builder = run settings b (stepsOf settings lines) := by
  induction lines generalizing number b with
  | nil => rfl
  | cons line rest ih =>
      rw [stepsOf, List.flatMap_cons, run_append]
      cases error : (feed settings (some number) line b).error with
      | some e => simp [feedLines, error] at accepted
      | none =>
          simp only [feedLines, error] at accepted ⊢
          rw [ih _ _ accepted, feed_eq_run]
          rfl

/-- A diagram is not refused exactly if none of its lines is, and then the builder is the one that
the steps of the lines lead to, at the end of input. -/
theorem readText_accepted_iff (text : Text) (b : Builder) :
    (readText settings text b).error = none ↔
      ∀ line ∈ documentLines text, Line.IsAccepted settings.sectionMarker line := by
  rw [← feedLines_accepted_iff (documentLines text) 1 b]
  unfold readText
  cases error : (feedLines settings 1 (documentLines text) b).error <;> simp [error]

theorem readText_eq_run {text : Text} {b : Builder}
    (accepted : (readText settings text b).error = none) :
    (readText settings text b).builder
      = finish settings (run settings b (stepsOf settings (documentLines text))) := by
  have lines := (feedLines_accepted_iff (documentLines text) 1 b).mpr
    ((readText_accepted_iff text b).mp accepted)
  rw [← feedLines_eq_run _ 1 _ lines]
  simp only [readText, lines]

end Builder

/-- A diagram has classes exactly if it is not refused. -/
theorem parse_eq_ok_iff {settings : Settings} {text : Text} {classes : ClassMap} :
    parse settings text = .ok classes ↔
      (Builder.start.readText settings text).error = none ∧
        (Builder.start.readText settings text).builder.classes = classes := by
  unfold parse
  cases error : (Builder.start.readText settings text).error <;> simp [error]

end ClassDiagram
