import ClassDiagram.Proofs.IgnoredLines
import ClassDiagram.Proofs.Insertions
import ClassDiagram.Proofs.Sessions

/-!
# Comments

A diagram has no comments of its own: percent signs in front of a text say nothing, and the text
after them is read as if it stood alone. So a comment is ignored exactly if its text is. One without
braces, hyphens, headers and pairs of words always is.
-/

namespace ClassDiagram

namespace Line

/-- Whether two lines have the same tests, names and member, so that only a relation can make a
difference between them. -/
structure Alike (marker line other : Text) : Prop where
  marked : isSectionMarker marker line = isSectionMarker marker other
  related : isRelation line = isRelation other
  closes : isClassClose line = isClassClose other
  opens : isClassOpen (beforeClose line) = isClassOpen (beforeClose other)
  names : openedNames line = openedNames other
  member : member? (memberSegment line) = member? (memberSegment other)

namespace Alike

variable {marker line other third : Text}

theorem refl (marker line : Text) : Alike marker line line :=
  ⟨rfl, rfl, rfl, rfl, rfl, rfl⟩

theorem symm (alike : Alike marker line other) : Alike marker other line where
  marked := alike.marked.symm
  related := alike.related.symm
  closes := alike.closes.symm
  opens := alike.opens.symm
  names := alike.names.symm
  member := alike.member.symm

theorem trans (first : Alike marker line other) (second : Alike marker other third) :
    Alike marker line third where
  marked := first.marked.trans second.marked
  related := first.related.trans second.related
  closes := first.closes.trans second.closes
  opens := first.opens.trans second.opens
  names := first.names.trans second.names
  member := first.member.trans second.member

theorem ignores {b : Builder} (alike : Alike marker line other) (ignored : b.Ignores marker line) :
    b.Ignores marker other := by
  obtain ⟨marked, related, closes, opens, names, member⟩ := alike
  rcases ignored with skipped | ⟨unrelated, ignored⟩
  · exact Or.inl (marked ▸ skipped)
  refine Or.inr ⟨related ▸ unrelated, ?_⟩
  cases opened : b.opened with
  | none =>
      rw [opened] at ignored
      rcases ignored with unopened | ⟨closed, nameless | ⟨name, named, last, others, undeclared⟩⟩
      · exact Or.inl (opens ▸ unopened)
      · exact Or.inr ⟨closes ▸ closed, Or.inl (names ▸ nameless)⟩
      · exact Or.inr ⟨closes ▸ closed, Or.inr ⟨name, names ▸ named, last, names ▸ others,
          member ▸ undeclared⟩⟩
  | some o =>
      rw [opened] at ignored
      obtain ⟨unclosed, undeclared, unknown, last⟩ := ignored
      exact ⟨closes ▸ unclosed, member ▸ undeclared, names ▸ unknown, names ▸ last⟩

end Alike

/-- Whether a character says nothing in front of a line: it is in no word, has no case and is no
brace and no hyphen. -/
structure IsMute (c : Char) : Prop where
  outside : Text.isWordChar c = false
  caseless : Text.IsCaseless c
  noBrace : c ≠ '\x7b' ∧ c ≠ '\x7d'
  noHyphen : c ≠ '-'

instance (c : Char) : Decidable (IsMute c) :=
  decidable_of_iff (Text.isWordChar c = false ∧ Text.IsCaseless c ∧ (c ≠ '\x7b' ∧ c ≠ '\x7d') ∧
      c ≠ '-')
    ⟨fun ⟨outside, caseless, noBrace, noHyphen⟩ => ⟨outside, caseless, noBrace, noHyphen⟩,
      fun ⟨outside, caseless, noBrace, noHyphen⟩ => ⟨outside, caseless, noBrace, noHyphen⟩⟩

namespace IsMute

variable {c : Char} (mute : IsMute c)
include mute

theorem containsWhole_lower_cons (part line : Text) :
    Text.containsWhole part (Text.lower (c :: line))
      = Text.containsWhole part (Text.lower line) := by
  have caseless : ∀ d ∈ [c], Text.IsCaseless d := List.forall_mem_singleton.mpr mute.caseless
  have outside : ∀ d ∈ [c], Text.isWordChar d = false := List.forall_mem_singleton.mpr mute.outside
  rw [← List.singleton_append, Text.lower_append_left caseless,
    Text.containsWhole_append_left outside]

theorem beforeClose_cons (line : Text) : beforeClose (c :: line) = c :: beforeClose line :=
  List.takeWhile_cons_of_pos (decide_eq_true mute.noBrace.2)

theorem isRelation_cons (line : Text) : isRelation (c :: line) = isRelation line := by
  have other : '-' ≠ c := Ne.symm mute.noHyphen
  simp [isRelation, Text.mentions, Text.dropStart?, other]

/-- The body of a header is the same behind the character. -/
theorem splitHeader_cons (line : Text) : (splitHeader (c :: line)).2 = (splitHeader line).2 := by
  unfold splitHeader
  rw [splitLastBrace]
  cases splitLastBrace line with
  | some parts => rfl
  | none => simp [mute.noBrace.1]

theorem alike_cons (marker line : Text) : Alike marker (c :: line) line := by
  have opens : isClassOpen (beforeClose (c :: line)) = isClassOpen (beforeClose line) := by
    rw [mute.beforeClose_cons]
    exact mute.containsWhole_lower_cons _ _
  refine ⟨mute.containsWhole_lower_cons _ _, mute.isRelation_cons line, ?_, opens, ?_, ?_⟩
  · simp [isClassClose, Ne.symm mute.noBrace.2]
  · rw [openedNames, openedNames, opens, mute.beforeClose_cons, classNames_cons mute.outside]
  · rw [memberSegment, memberSegment, opens, mute.beforeClose_cons, mute.splitHeader_cons]
    split
    · rfl
    · exact member?_cons mute.outside

end IsMute

/-- A comment: spaces and tabs, two percent signs and any text. -/
def comment (indent text : Text) : Text :=
  indent ++ '%' :: '%' :: text

theorem isMute_of_isSpaceOrTab {c : Char} (space : isSpaceOrTab c = true) : IsMute c := by
  unfold isSpaceOrTab at space
  rw [Bool.or_eq_true, decide_eq_true_eq, decide_eq_true_eq] at space
  rcases space with rfl | rfl <;> decide +kernel

/-- A comment is like its text. -/
theorem alike_comment {indent : Text} (blank : ∀ c ∈ indent, isSpaceOrTab c = true)
    (marker text : Text) : Alike marker (comment indent text) text := by
  have percent : IsMute '%' := by decide +kernel
  induction indent with
  | nil => exact (percent.alike_cons marker _).trans (percent.alike_cons marker text)
  | cons c indent ih =>
      obtain ⟨first, others⟩ := List.forall_mem_cons.mp blank
      exact ((isMute_of_isSpaceOrTab first).alike_cons marker _).trans (ih others)

end Line

/-- A text that changes nothing wherever it stands is ignored by every builder. -/
theorem Line.IsInert.ignores {marker line : Text} (inert : IsInert marker line) (b : Builder) :
    b.Ignores marker line := by
  rcases inert with marked | ⟨unclosed, unrelated, unopened, undeclared⟩
  · exact Or.inl marked
  have nameless : openedNames line = [] := by
    simp [openedNames, beforeClose_eq_self unclosed, unopened]
  have memberless : member? (memberSegment line) = none := by
    simp [memberSegment, beforeClose_eq_self unclosed, unopened, undeclared]
  refine Or.inr ⟨unrelated, ?_⟩
  cases b.opened with
  | none => exact Or.inl (by rwa [beforeClose_eq_self unclosed])
  | some o => exact ⟨unclosed, memberless, by simp [nameless], by simp [nameless]⟩

/-- Whatever was done before, a comment is not refused and makes no difference to the classes, the
relations, the open class and whether one is open exactly if its text is ignored: if the text has
the root keyword, or if it states no relation and either opens no class that it does not put back,
while none is open, or lets the open class be. Then the builder stays as it is altogether. -/
theorem comment_is_ignored_iff (settings : Settings) (calls : List Call) {indent : Text}
    (blank : ∀ c ∈ indent, Line.isSpaceOrTab c = true) (text : Text) (number : Option Int) :
    (((Builder.feed settings number (Line.comment indent text)
          (Builder.session settings calls)).error = none ∧
        (Builder.feed settings number (Line.comment indent text)
          (Builder.session settings calls)).builder.LooksLike (Builder.session settings calls)) ↔
      (Builder.session settings calls).Ignores settings.sectionMarker text) ∧
    ((Builder.session settings calls).Ignores settings.sectionMarker text →
      Builder.feed settings number (Line.comment indent text) (Builder.session settings calls)
        = ⟨Builder.session settings calls, none⟩) := by
  have keyed := (Builder.isTidy_session settings calls).keyed
  have alike := Line.alike_comment blank settings.sectionMarker text
  constructor
  · rw [Builder.looksLike_feed_iff keyed]
    exact ⟨alike.ignores, alike.symm.ignores⟩
  · intro ignored
    exact Builder.feed_of_ignores keyed (alike.symm.ignores ignored) number

/-- A builder inside a class. -/
def openedCalls : List Call :=
  [.feed none "class A \x7b".toList]

/-- A comment of one word changes nothing inside a class. -/
theorem comment_of_one_word_is_ignored :
    Builder.feed {} none (Line.comment "\t".toList " comment".toList)
        (Builder.session {} openedCalls)
      = ⟨Builder.session {} openedCalls, none⟩ := by
  have blank : ∀ c ∈ "\t".toList, Line.isSpaceOrTab c = true := List.all_eq_true.mp rfl
  have inert : Line.IsInert Line.defaultMarker " comment".toList := by decide +kernel
  exact (comment_is_ignored_iff {} openedCalls blank " comment".toList none).2 (inert.ignores _)

/-- A comment of two words declares an attribute inside a class. -/
theorem comment_of_two_words_is_declared :
    (Builder.session {} openedCalls).openClass = ⟨"A".toList, [], []⟩ ∧
      (Builder.feed {} none (Line.comment [] " two words".toList)
          (Builder.session {} openedCalls)).builder.openClass
        = ⟨"A".toList, [⟨.foreignKey "two".toList, "words".toList⟩], []⟩ := by
  decide +kernel

end ClassDiagram
