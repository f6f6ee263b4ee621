import ClassDiagram.Proofs.Headers
import ClassDiagram.Proofs.Members

/-!
# Lines as they are written

A block is written as a header, a line for each member and a closing brace. Each of these lines is
one step of the reading, the header two, and a relation line is one step but for a member that it
may seem to declare.
-/

namespace ClassDiagram

namespace Line

/-- The header of a block. -/
def header (name : Text) : Text :=
  ['c', 'l', 'a', 's', 's', ' '] ++ name ++ [' ', '\x7b']

/-- The last line of a block. -/
def brace : Text :=
  ['\x7d']

end Line

/-- A line that declares a member, with or without a parameter list. -/
structure MemberLine where
  indent : Text
  typeToken : Text
  name : Text
  params : Option Text
  deriving DecidableEq

namespace MemberLine

/-- The parameter list with its parentheses, if there is one. -/
def suffix (m : MemberLine) : Text :=
  m.params.elim [] fun params => '(' :: params ++ [')']

/-- The line as it is written. -/
def text (m : MemberLine) : Text :=
  m.indent ++ m.typeToken ++ ' ' :: m.name ++ m.suffix

/-- The member that the line declares. -/
def member (m : MemberLine) : Line.Member :=
  ⟨m.typeToken, m.name, m.params.isSome⟩

/-- A class with the member of a line. -/
def addTo (settings : Settings) (c : Class) (m : MemberLine) : Class :=
  match m.params with
  | some _ => c.addOperation ⟨DataType.ofToken m.typeToken, settings.memberName m.name, []⟩
  | none => c.addAttribute ⟨DataType.ofToken m.typeToken, settings.memberName m.name⟩

/-- A member line is well formed if its type and name are words, if what stands around them leaves
them on one line, and if it is not taken for anything else. -/
structure IsWellFormed (settings : Settings) (m : MemberLine) : Prop where
  indent : ∀ c ∈ m.indent, Line.isSpaceOrTab c = true
  typeToken : Text.IsWord m.typeToken
  name : Text.IsWord m.name
  params : ∀ params ∈ m.params, '\n' ∉ params
  kind : Line.classify settings.sectionMarker m.text = .other
  unrelated : Line.isRelation m.text = false

instance (settings : Settings) (m : MemberLine) : Decidable (m.IsWellFormed settings) :=
  decidable_of_iff
    (m.indent.all Line.isSpaceOrTab = true ∧ Text.IsWord m.typeToken ∧ Text.IsWord m.name ∧
      (∀ params ∈ m.params, '\n' ∉ params) ∧
        Line.classify settings.sectionMarker m.text = .other ∧ Line.isRelation m.text = false)
    ⟨fun ⟨indent, typeToken, name, params, kind, unrelated⟩ =>
        ⟨List.all_eq_true.mp indent, typeToken, name, params, kind, unrelated⟩,
      fun ⟨indent, typeToken, name, params, kind, unrelated⟩ =>
        ⟨List.all_eq_true.mpr indent, typeToken, name, params, kind, unrelated⟩⟩

theorem declare_member (settings : Settings) (c : Class) (m : MemberLine) :
    c.declare settings m.member = m.addTo settings c := by
  unfold Class.declare addTo member
  cases m.params <;> rfl

end MemberLine

namespace Line

variable {marker name : Text}

/-- Two words with a space between them are two runs of three. -/
theorem runs_pair {first second rest : Text} (isFirst : Text.IsWord first)
    (isSecond : Text.IsWord second) (edge : Text.inWord rest.head? = false) :
    Text.runs (first ++ ' ' :: second ++ rest)
      = .word first :: .gap [' '] :: .word second :: Text.runs rest := by
  have space : Text.isWordChar ' ' = false := not_word_of_isSpaceOrTab rfl
  have whole : first ++ ' ' :: second ++ rest = first ++ ([' '] ++ (second ++ rest)) := by simp
  have apart : Text.inWord ([' '] ++ (second ++ rest)).head? = false := space
  rw [whole, Text.runs_word_append isFirst apart,
    Text.runs_gap_append ⟨by simp, by simpa using space⟩ (isSecond.isWordChar_of_head? rest),
    Text.runs_word_append isSecond edge]

theorem classNames_header (word : Text.IsWord name) :
    classNames (header name) = [Text.upper name] := by
  have keyword : Text.IsWord ['c', 'l', 'a', 's', 's'] := by decide
  have whole : header name = ['c', 'l', 'a', 's', 's'] ++ ' ' :: name ++ [' ', '\x7b'] := rfl
  rw [classNames, whole, runs_pair keyword word (by decide)]
  rfl

theorem splitHeader_header : splitHeader (header name) = (header name, []) := by
  have ends : header name = ['c', 'l', 'a', 's', 's', ' '] ++ name ++ [' '] ++ ['\x7b'] := by
    simp [header]
  rw [ends, splitHeader, splitLastBrace_append List.not_mem_nil]
  rfl

/-- No word character is a hyphen, so a header states no relation. -/
theorem isRelation_header (word : Text.IsWord name) : isRelation (header name) = false := by
  rw [Bool.eq_false_iff]
  intro stated
  have hyphen : '-' ∈ header name :=
    (Text.mentions_iff.mp stated).subset (by simp)
  have inName : '-' ∈ name := by simpa [header] using hyphen
  have inside := word.2 '-' inName
  revert inside
  decide

/-- A header is two steps. -/
theorem steps_header (word : Text.IsWord name) (kind : classify marker (header name) = .classOpen) :
    steps marker (header name) = [.enter (Text.upper name), .ready] := by
  obtain ⟨unmarked, unclosed, opens⟩ := classify_eq_classOpen kind
  have unrelated : relation? (header name) = none := by
    rw [relation?, if_neg (by simp [isRelation_header word])]
  simp [steps, openedNames, memberSegment, beforeClose_eq_self unclosed, unmarked, unclosed, opens,
    classNames_header word, splitHeader_header, unrelated, member?, memberOfRuns?]

/-- A closing brace is one step. -/
theorem steps_brace : steps marker brace = [.close] := by
  have unmarked : isSectionMarker marker brace = false :=
    Text.containsWhole_of_no_words _ (List.forall_mem_singleton.mpr (by decide))
  have alone : steps marker brace = if isSectionMarker marker brace = true then []
      else [.close] := by
    unfold steps
    congr 1
  rw [alone, unmarked]
  rfl

/-- An empty line is no step. -/
theorem steps_nil : steps marker [] = [] := by
  unfold steps
  split <;> rfl

/-- What follows the name of a member does not go on with the name. -/
theorem inWord_suffix (m : MemberLine) : Text.inWord m.suffix.head? = false := by
  unfold MemberLine.suffix
  cases m.params with
  | none => rfl
  | some params =>
      have parenthesis : Text.isWordChar '(' = false := by decide
      exact parenthesis

/-- A parameter list is recognised as one whatever stands in it. -/
theorem startsParameters_suffix {m : MemberLine} (params : ∀ params ∈ m.params, '\n' ∉ params) :
    startsParameters m.suffix = m.params.isSome := by
  unfold MemberLine.suffix
  cases given : m.params with
  | none => rfl
  | some list =>
      have follows : HasParameters ('(' :: list ++ [')']) :=
        ⟨[], list, [], rfl, by simp, params list given⟩
      exact startsParameters_iff.mpr follows

/-- The first pair of words on a member line is the type and the name. -/
theorem member?_text {settings : Settings} {m : MemberLine} (wellFormed : m.IsWellFormed settings) :
    member? m.text = some m.member := by
  have whole : m.text = m.indent ++ (m.typeToken ++ ([' '] ++ (m.name ++ m.suffix))) := by
    simp [MemberLine.text]
  have pair : IsPair (m.typeToken ++ ([' '] ++ (m.name ++ m.suffix))) [] m.typeToken [' '] m.name
      m.suffix :=
    { whole := rfl
      type := wellFormed.typeToken
      gap := ⟨List.cons_ne_nil _ _, List.forall_mem_singleton.mpr rfl⟩
      name := wellFormed.name
      left := rfl
      right := inWord_suffix m }
  rw [whole, member?_spaces_append wellFormed.indent, member?_of_begins pair,
    startsParameters_suffix wellFormed.params, MemberLine.member]

/-- A member line is one step. -/
theorem steps_member {settings : Settings} {m : MemberLine} (wellFormed : m.IsWellFormed settings) :
    steps settings.sectionMarker m.text = [.declare m.member] := by
  obtain ⟨unmarked, unclosed, unopened⟩ := classify_eq_other_iff.mp wellFormed.kind
  have unrelated : relation? m.text = none := by
    rw [relation?, if_neg (by simp [wellFormed.unrelated])]
  simp [steps, openedNames, memberSegment, beforeClose_eq_self unclosed, unmarked, unclosed,
    unopened, member?_text wellFormed, unrelated]

/-- The line as the reader has it: without the carriage returns at its end. -/
def withoutReturns (line : Text) : Text :=
  Text.dropEndWhile (· = '\r') line

/-- A line goes on after what the reader has of it with carriage returns alone. -/
theorem exists_withoutReturns_append (line : Text) :
    ∃ returns, line = withoutReturns line ++ returns ∧ ∀ c ∈ returns, c = '\r' := by
  obtain ⟨ending, whole, all⟩ := Text.exists_dropEndWhile_append (· = '\r') line
  exact ⟨ending, whole, fun c member => of_decide_eq_true (all c member)⟩

/-- Whether a line has a word in lower case does not depend on carriage returns at its end. -/
theorem containsWhole_lower_withoutReturns (part line : Text) :
    Text.containsWhole part (Text.lower (withoutReturns line))
      = Text.containsWhole part (Text.lower line) := by
  obtain ⟨returns, whole, all⟩ := exists_withoutReturns_append line
  have outside : ∀ c ∈ returns, Text.isWordChar c = false := by
    intro c member
    rw [all c member]
    decide
  have caseless : ∀ c ∈ returns, Text.IsCaseless c := by
    intro c member
    rw [all c member]
    decide
  conv => rhs; rw [whole]
  rw [Text.lower_append_right caseless, Text.containsWhole_append_right outside]

theorem isSectionMarker_withoutReturns (marker line : Text) :
    isSectionMarker marker (withoutReturns line) = isSectionMarker marker line :=
  containsWhole_lower_withoutReturns _ line

theorem isClassOpen_withoutReturns (line : Text) :
    isClassOpen (withoutReturns line) = isClassOpen line :=
  containsWhole_lower_withoutReturns _ line

/-- A line has no closing brace among its carriage returns. -/
theorem isClassClose_withoutReturns (line : Text) :
    isClassClose (withoutReturns line) = isClassClose line := by
  obtain ⟨returns, whole, all⟩ := exists_withoutReturns_append line
  have absent : returns.contains '\x7d' = false := by
    rw [Bool.eq_false_iff, ne_eq, List.contains_iff_mem]
    intro inside
    exact absurd (all _ inside) (by decide)
  conv => rhs; rw [whole]
  rw [isClassClose, isClassClose, List.contains_append, absent, Bool.or_false]

theorem isRelation_withoutReturns (line : Text) :
    isRelation (withoutReturns line) = isRelation line := by
  obtain ⟨returns, whole, all⟩ := exists_withoutReturns_append line
  rw [Bool.eq_iff_iff]
  constructor
  · intro stated
    rw [whole]
    exact Text.mentions_iff.mpr
      ((Text.mentions_iff.mp stated).trans (List.prefix_append _ _).isInfix)
  · intro stated
    rw [whole] at stated
    refine Text.mentions_of_append ?_ (by decide) stated
    intro c hyphen inside
    rw [all c inside] at hyphen
    exact absurd hyphen (by decide)

/-- Carriage returns at the end of a line without a member make none. -/
theorem member?_withoutReturns {line : Text} (none : member? line = none) :
    member? (withoutReturns line) = .none := by
  obtain ⟨returns, whole, all⟩ := exists_withoutReturns_append line
  have outside : ∀ c ∈ returns, Text.isWordChar c = false := by
    intro c member
    rw [all c member]
    decide
  rw [(finds_member? line).eq_none_iff] at none
  rw [(finds_member? (withoutReturns line)).eq_none_iff]
  intro before type gap name after pair
  apply none before type gap name (after ++ returns)
  rw [whole]
  exact pair.append_right outside

/-- Carriage returns at the end of a relation line change nothing. -/
theorem relation_withoutReturns {line : Text} {r : Relation}
    (kind : classify marker line = .other) (stated : isRelation line = true)
    (accepted : Relation.read none line = .ok r) :
    classify marker (withoutReturns line) = .other ∧
      relation? (withoutReturns line) = some r := by
  obtain ⟨returns, whole, all⟩ := exists_withoutReturns_append line
  have blank : ∀ c ∈ returns, Text.isBlank c = true := by
    intro c member
    rw [all c member]
    decide
  constructor
  · rw [classify_eq_other_iff] at kind ⊢
    rwa [isSectionMarker_withoutReturns, isClassClose_withoutReturns, isClassOpen_withoutReturns]
  · rw [relation?_eq_some_iff, isRelation_withoutReturns]
    refine ⟨stated, ?_⟩
    rw [whole] at accepted
    rw [Relation.read_eq_ok_iff] at accepted ⊢
    rwa [Text.fields_append blank] at accepted

/-- A relation line is one step, after a member that it may seem to declare. -/
theorem steps_relation {line : Text} {r : Relation} (kind : classify marker line = .other)
    (stated : isRelation line = true) (accepted : Relation.read none line = .ok r) :
    steps marker (withoutReturns line)
      = (member? (withoutReturns line)).toList.map .declare ++ [.relate r] := by
  obtain ⟨kind, relation⟩ := relation_withoutReturns kind stated accepted
  obtain ⟨unmarked, unclosed, unopened⟩ := classify_eq_other_iff.mp kind
  simp [steps, openedNames, memberSegment, beforeClose_eq_self unclosed, unmarked, unclosed,
    unopened, relation]

/-- A line that does not end in a carriage return is read as it is. -/
theorem withoutReturns_concat {line : Text} {c : Char} (ends : line.getLast? = some c)
    (other : c ≠ '\r') : withoutReturns line = line := by
  obtain ⟨start, rfl⟩ := List.getLast?_eq_some_iff.mp ends
  exact Text.dropEndWhile_concat (by simpa using other) start

theorem withoutReturns_header : withoutReturns (header name) = header name :=
  withoutReturns_concat (c := '\x7b') (by simp [header, List.getLast?_cons]) (by decide)

theorem withoutReturns_brace : withoutReturns brace = brace := by
  decide

/-- A member line ends in a word or in a parenthesis. -/
theorem withoutReturns_member {m : MemberLine} (word : Text.IsWord m.name) :
    withoutReturns m.text = m.text := by
  cases given : m.params with
  | some params =>
      exact withoutReturns_concat (c := ')')
        (by simp [MemberLine.text, MemberLine.suffix, given, List.getLast?_cons]) (by decide)
  | none =>
      obtain ⟨c, ends⟩ := Option.isSome_iff_exists.mp (List.getLast?_isSome.mpr word.1)
      refine withoutReturns_concat (c := c)
        (by simp [MemberLine.text, MemberLine.suffix, given, List.getLast?_cons, ends]) ?_
      rintro rfl
      have inside := word.2 '\r' (List.mem_of_getLast? ends)
      revert inside
      decide

theorem newline_not_mem_word {word : Text} (isWord : Text.IsWord word) : '\n' ∉ word := by
  intro member
  have inside := isWord.2 '\n' member
  revert inside
  decide

theorem newline_not_mem_header (word : Text.IsWord name) : '\n' ∉ header name := by
  simp [header, newline_not_mem_word word]

theorem newline_not_mem_member {settings : Settings} {m : MemberLine}
    (wellFormed : m.IsWellFormed settings) : '\n' ∉ m.text := by
  obtain ⟨indent, typeToken, name, params, -, -⟩ := wellFormed
  have inIndent : '\n' ∉ m.indent := fun member => by simpa [isSpaceOrTab] using indent '\n' member
  have inSuffix : '\n' ∉ m.suffix := by
    unfold MemberLine.suffix
    cases given : m.params with
    | none => simp
    | some list => simpa using params list given
  simp [MemberLine.text, inIndent, newline_not_mem_word typeToken, newline_not_mem_word name,
    inSuffix]

end Line

end ClassDiagram
