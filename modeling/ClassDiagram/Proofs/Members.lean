import ClassDiagram.Line.Member
import ClassDiagram.Proofs.Text.Lines
import ClassDiagram.Proofs.Text.Pattern

/-!
# Where a member is found

The member of a text is its leftmost pair of whole words with only spaces and tabs between them. A
search with a pattern finds the same one: although the pattern may fit a part of a word, a word that
is cut short is followed by one of its own characters, where the pattern does not go on, so neither
of the words is ever cut and no pair is passed over.
-/

namespace ClassDiagram.Line

/-- A space or a tab is no word character. -/
theorem not_word_of_isSpaceOrTab {c : Char} (space : isSpaceOrTab c = true) :
    Text.isWordChar c = false := by
  unfold isSpaceOrTab at space
  rw [Bool.or_eq_true, decide_eq_true_eq, decide_eq_true_eq] at space
  rcases space with rfl | rfl <;> decide +kernel

theorem not_isSpaceOrTab_of_word {c : Char} (inside : Text.isWordChar c = true) :
    isSpaceOrTab c = false := by
  by_contra space
  rw [Bool.not_eq_false] at space
  rw [not_word_of_isSpaceOrTab space] at inside
  cases inside

/-- A place in a text where a type and a name stand: two whole words with spaces and tabs between
them. -/
structure IsPair (segment before type gap name after : Text) : Prop where
  whole : segment = before ++ (type ++ (gap ++ (name ++ after)))
  type : Text.IsWord type
  gap : gap ≠ [] ∧ ∀ c ∈ gap, isSpaceOrTab c = true
  name : Text.IsWord name
  left : Text.inWord before.getLast? = false
  right : Text.inWord after.head? = false

/-- The leftmost place where a type and a name stand. -/
structure IsFirstPair (segment before type gap name after : Text) : Prop
    extends IsPair segment before type gap name after where
  first : ∀ before' type' gap' name' after',
    IsPair segment before' type' gap' name' after' → before.length ≤ before'.length

/-- Whether a parameter list follows: after spaces and tabs an opening parenthesis and on the same
line a closing one. -/
def HasParameters (text : Text) : Prop :=
  ∃ spaces params rest, text = spaces ++ '(' :: (params ++ ')' :: rest) ∧
    (∀ c ∈ spaces, isSpaceOrTab c = true) ∧ '\n' ∉ params

/-- A parameter list that begins at once. -/
def BeginsParameters (text : Text) : Prop :=
  ∃ params rest, text = '(' :: (params ++ ')' :: rest) ∧ '\n' ∉ params

theorem startsParameters_iff_begins {text : Text} :
    startsParameters text = true ↔ BeginsParameters (text.dropWhile isSpaceOrTab) := by
  unfold startsParameters BeginsParameters
  constructor
  · intro starts
    split at starts
    · rename_i rest opens
      obtain ⟨params, more, split⟩ := List.append_of_mem (List.contains_iff_mem.mp starts)
      have whole : rest = params ++ ')' :: more ++ rest.dropWhile (· ≠ '\n') := by
        rw [← split, List.takeWhile_append_dropWhile]
      refine ⟨params, more ++ rest.dropWhile (· ≠ '\n'), ?_, ?_⟩
      · rw [opens, List.cons.injEq]
        refine ⟨rfl, whole.trans ?_⟩
        rw [List.append_assoc, List.cons_append]
      · intro newline
        have inside : '\n' ∈ rest.takeWhile (· ≠ '\n') := by
          rw [split]
          exact List.mem_append_left _ newline
        simpa using List.mem_takeWhile_imp inside
    · cases starts
  · rintro ⟨params, rest, whole, line⟩
    rw [whole]
    show ((params ++ ')' :: rest).takeWhile (· ≠ '\n')).contains ')' = true
    rw [List.takeWhile_append_of_pos (Text.decide_ne_of_not_mem line)]
    simp

theorem startsParameters_iff {text : Text} : startsParameters text = true ↔ HasParameters text := by
  rw [startsParameters_iff_begins]
  constructor
  · rintro ⟨params, rest, whole, line⟩
    refine ⟨text.takeWhile isSpaceOrTab, params, rest, ?_, fun c => List.mem_takeWhile_imp, line⟩
    rw [← whole, List.takeWhile_append_dropWhile]
  · rintro ⟨spaces, params, rest, rfl, blank, line⟩
    refine ⟨params, rest, ?_, line⟩
    rw [List.dropWhile_append_of_pos blank]
    rfl

section Pairs

variable {segment start rest before type gap name after word : Text}

theorem IsPair.isGap (pair : IsPair segment before type gap name after) : Text.IsGap gap :=
  ⟨pair.gap.1, fun c member => not_word_of_isSpaceOrTab (pair.gap.2 c member)⟩

/-- A type ends where the spaces begin. -/
theorem IsPair.edge (pair : IsPair segment before type gap name after) :
    Text.inWord (gap ++ (name ++ after)).head? = false := by
  obtain ⟨nonempty, outside⟩ := pair.isGap
  cases gap with
  | nil => exact absurd rfl nonempty
  | cons c more => exact outside c List.mem_cons_self

/-- A pair is told by where it stands. -/
theorem IsPair.eq_of_length {before' type' gap' name' after' : Text}
    (pair : IsPair segment before type gap name after)
    (other : IsPair segment before' type' gap' name' after')
    (place : before.length = before'.length) :
    type = type' ∧ name = name' ∧ after = after' := by
  obtain ⟨-, fromType⟩ := List.append_inj (pair.whole.symm.trans other.whole) place
  obtain ⟨sameType, fromGap⟩ := pair.type.append_inj other.type pair.edge other.edge fromType
  obtain ⟨-, fromName⟩ := pair.isGap.append_inj other.isGap
    (pair.name.isWordChar_of_head? after) (other.name.isWordChar_of_head? after') fromGap
  obtain ⟨sameName, sameAfter⟩ := pair.name.append_inj other.name pair.right other.right fromName
  exact ⟨sameType, sameName, sameAfter⟩

/-- A pair stays one behind a text, if no word goes from the one into the other. -/
theorem IsPair.append (pair : IsPair rest before type gap name after)
    (apart : Text.inWord start.getLast? = false ∨ Text.inWord rest.head? = false) :
    IsPair (start ++ rest) (start ++ before) type gap name after := by
  refine ⟨?_, pair.type, pair.gap, pair.name, ?_, pair.right⟩
  · rw [pair.whole, List.append_assoc]
  · rcases List.eq_nil_or_concat before with rfl | ⟨front, c, rfl⟩
    · -- The pair begins the rest, so the rest begins with a word character.
      rw [List.append_nil]
      refine apart.resolve_right ?_
      rw [pair.whole, List.nil_append, pair.type.inWord_head?]
      decide
    · have left := pair.left
      simpa [List.getLast?_append] using left

/-- A pair stays one in front of an ending without words. -/
theorem IsPair.append_right {ending : Text}
    (pair : IsPair segment before type gap name after)
    (outside : ∀ c ∈ ending, Text.isWordChar c = false) :
    IsPair (segment ++ ending) before type gap name (after ++ ending) := by
  refine ⟨?_, pair.type, pair.gap, pair.name, pair.left, ?_⟩
  · rw [pair.whole]
    simp only [List.append_assoc]
  · rw [Text.inWord_head?_append outside]
    exact pair.right

/-- Every pair of a text with something in front of it is a pair of the text. -/
def IsPassed (start rest : Text) : Prop :=
  ∀ before type gap name after, IsPair (start ++ rest) before type gap name after →
    ∃ later, before = start ++ later ∧ IsPair rest later type gap name after

/-- A pair that does not begin in what stands in front begins behind it. -/
theorem IsPair.of_append (pair : IsPair (start ++ rest) (start ++ before) type gap name after) :
    IsPair rest before type gap name after := by
  refine ⟨?_, pair.type, pair.gap, pair.name, ?_, pair.right⟩
  · have whole := pair.whole
    rw [List.append_assoc] at whole
    exact List.append_cancel_left whole
  · rcases List.eq_nil_or_concat before with rfl | ⟨front, c, rfl⟩
    · rfl
    · have left := pair.left
      simpa [List.getLast?_append] using left

theorem isPassed_gap {c : Char} (outside : Text.isWordChar c = false) : IsPassed [c] rest := by
  intro before type gap name after pair
  cases before with
  | nil =>
      have begins := pair.type.inWord_head? (gap ++ (name ++ after))
      rw [← List.nil_append (type ++ _), ← pair.whole] at begins
      rw [show Text.isWordChar c = true from begins] at outside
      cases outside
  | cons d later =>
      obtain ⟨rfl, -⟩ := List.cons.inj pair.whole
      exact ⟨later, rfl, pair.of_append⟩

/-- A whole word that begins no pair is passed over, since no pair begins within a word. -/
theorem isPassed_word (isWord : Text.IsWord word) (edge : Text.inWord rest.head? = false)
    (apart : ∀ gap name after, ¬IsPair (word ++ rest) [] word gap name after) :
    IsPassed word rest := by
  intro before type gap name after pair
  rcases List.append_eq_append_iff.mp pair.whole with ⟨later, rfl, -⟩ | ⟨ending, cut, -⟩
  · exact ⟨later, rfl, pair.of_append⟩
  · exfalso
    rcases List.eq_nil_or_concat before with rfl | ⟨front, c, rfl⟩
    · obtain ⟨rfl, -⟩ := isWord.append_inj pair.type edge pair.edge pair.whole
      exact apart gap name after pair
    · have inside : Text.isWordChar c = true := by
        apply isWord.2
        rw [cut]
        simp
      have left : Text.isWordChar c = false := by simpa [Text.inWord] using pair.left
      rw [inside] at left
      cases left

/-- What is found in a text: nothing if there is no pair, and otherwise the leftmost one. -/
inductive Finds (segment : Text) : Option Member → Prop where
  | nothing (no : ∀ before type gap name after, ¬IsPair segment before type gap name after) :
      Finds segment none
  | pair {before type gap name after : Text}
      (first : IsFirstPair segment before type gap name after) :
      Finds segment (some ⟨type, name, startsParameters after⟩)

/-- The same is found behind what is passed over. -/
theorem Finds.append {member : Option Member} (found : Finds rest member)
    (passed : IsPassed start rest)
    (apart : Text.inWord start.getLast? = false ∨ Text.inWord rest.head? = false) :
    Finds (start ++ rest) member := by
  cases found with
  | nothing no =>
      apply Finds.nothing
      intro before type gap name after pair
      obtain ⟨later, -, within⟩ := passed _ _ _ _ _ pair
      exact no _ _ _ _ _ within
  | pair first =>
      refine Finds.pair ⟨first.toIsPair.append apart, ?_⟩
      intro before type gap name after pair
      obtain ⟨later, rfl, within⟩ := passed _ _ _ _ _ pair
      have shortest := first.first _ _ _ _ _ within
      rw [List.length_append, List.length_append]
      omega

/-- A pair at the beginning is the leftmost one. -/
theorem Finds.of_begins (pair : IsPair segment [] type gap name after) :
    Finds segment (some ⟨type, name, startsParameters after⟩) :=
  .pair ⟨pair, fun _ _ _ _ _ _ => Nat.zero_le _⟩

end Pairs

section Reading

variable {segment rest type gap name after word : Text}

/-- A character outside of words is passed over. -/
theorem member?_cons {c : Char} (outside : Text.isWordChar c = false) :
    member? (c :: rest) = member? rest := by
  unfold member?
  rw [Text.runs_cons]
  cases Text.runs rest with
  | nil => rw [Text.Run.cons_nil_of_gap outside]; rfl
  | cons run more =>
      cases run with
      | word t => rw [Text.Run.cons_gap_word outside]; rfl
      | gap t => rw [Text.Run.cons_gap outside]; rfl

/-- Spaces and tabs are passed over. -/
theorem member?_spaces_append {spaces : Text} (blank : ∀ c ∈ spaces, isSpaceOrTab c = true) :
    member? (spaces ++ rest) = member? rest := by
  induction spaces with
  | nil => rfl
  | cons c spaces ih =>
      obtain ⟨first, others⟩ := List.forall_mem_cons.mp blank
      rw [List.cons_append, member?_cons (not_word_of_isSpaceOrTab first), ih others]

/-- A pair at the beginning is the member. -/
theorem member?_of_begins (pair : IsPair segment [] type gap name after) :
    member? segment = some ⟨type, name, startsParameters after⟩ := by
  have all : gap.all isSpaceOrTab = true := List.all_eq_true.mpr pair.gap.2
  rw [member?, pair.whole, List.nil_append, Text.runs_word_append pair.type pair.edge,
    Text.runs_gap_append pair.isGap (pair.name.isWordChar_of_head? after),
    Text.runs_word_append pair.name pair.right, memberOfRuns?, if_pos all, Text.ofRuns_runs]

/-- Behind a word that begins no pair, the gap before the next word is not of spaces and tabs. -/
theorem not_spaces_of_runs {more : List Text.Run} (isWord : Text.IsWord word)
    (apart : ∀ gap name after, ¬IsPair (word ++ rest) [] word gap name after)
    (runs : Text.runs rest = .gap gap :: .word name :: more) :
    ¬∀ c ∈ gap, isSpaceOrTab c = true := by
  intro spaces
  have pure : ∀ run ∈ Text.runs rest, run.IsPure := Text.isPure_of_mem_runs
  rw [runs] at pure
  have isGap : Text.IsGap gap := pure (.gap gap) (by simp)
  have isName : Text.IsWord name := pure (.word name) (by simp)
  have whole : rest = gap ++ (name ++ Text.ofRuns more) := by
    rw [← Text.ofRuns_runs rest, runs]
    rfl
  obtain ⟨first, after, split, isFirst, right⟩ :=
    Text.exists_word_append (isName.inWord_head? (Text.ofRuns more))
  rw [split] at whole
  exact apart gap first after
    ⟨by rw [whole]; rfl, isWord, ⟨isGap.1, spaces⟩, isFirst, rfl, right⟩

/-- A whole word that begins no pair is passed over. -/
theorem member?_word_append (isWord : Text.IsWord word) (edge : Text.inWord rest.head? = false)
    (apart : ∀ gap name after, ¬IsPair (word ++ rest) [] word gap name after) :
    member? (word ++ rest) = member? rest := by
  rw [member?, Text.runs_word_append isWord edge, member?]
  cases runs : Text.runs rest with
  | nil => rfl
  | cons run more =>
      cases run with
      | word t => rfl
      | gap gap =>
          cases more with
          | nil => rfl
          | cons run more =>
              cases run with
              | gap t => rfl
              | word first =>
                  have mixed : ¬gap.all isSpaceOrTab = true := by
                    rw [List.all_eq_true]
                    exact not_spaces_of_runs isWord apart runs
                  rw [memberOfRuns?, if_neg mixed]

end Reading

section Searching

open Pattern

/-- A word, kept. -/
def wordPattern : Pattern :=
  .group (.atLeastOne Text.isWordChar)

/-- A parameter list, up to the last parenthesis of the line that closes one. -/
def parametersPattern : Pattern :=
  .seq (.one (· = '(')) (.seq (.many (· ≠ '\n')) (.one (· = ')')))

/-- What is searched after a name: a parameter list behind spaces and tabs, if there is one. -/
def suffixPattern : Pattern :=
  .seq (.many isSpaceOrTab) (.maybe (.group parametersPattern))

/-- A member as it is searched: two words with spaces and tabs between them, and what is searched
after a name. -/
def memberPattern : Pattern :=
  .seq wordPattern (.seq (.atLeastOne isSpaceOrTab) (.seq wordPattern suffixPattern))

/-- The member that the groups of a fit tell. -/
def Member.ofGroups? : List (Option Text) → Option Member
  | [some type, some name, params] => some ⟨type, name, params.isSome⟩
  | _ => none

variable {segment text rest type gap name after word : Text}

/-- The first way to fit a word takes the whole word, and every other way leaves a word
character. -/
theorem fits_wordPattern_append (isWord : Text.IsWord word)
    (edge : Text.inWord rest.head? = false) :
    ∃ others, wordPattern.fits (word ++ rest) = ⟨word, [some word], rest⟩ :: others ∧
      ∀ other ∈ others, Text.inWord other.rest.head? = true := by
  have stops : ∀ c, rest.head? = some c → Text.isWordChar c = false := by
    intro c next
    rw [next] at edge
    exact edge
  obtain ⟨others, ways, leave⟩ := fits_atLeastOne_append isWord.1 isWord.2 stops
  refine ⟨others.map fun m => { m with groups := some m.text :: m.groups }, ?_, ?_⟩
  · rw [wordPattern, fits, ways]
    rfl
  · intro other member
    obtain ⟨m, among, rfl⟩ := List.mem_map.mp member
    obtain ⟨c, next, inside⟩ := leave m among
    show Text.inWord m.rest.head? = true
    rw [next]
    exact inside

theorem fits_wordPattern_eq_nil (edge : Text.inWord text.head? = false) :
    wordPattern.fits text = [] := by
  have outside : ∀ c, text.head? = some c → Text.isWordChar c = false := by
    intro c first
    rw [first] at edge
    exact edge
  rw [wordPattern, fits, fits_atLeastOne_eq_nil outside]
  rfl

/-- What begins no word is passed over by a search for a word and something behind it. -/
theorem search_append_left {start : Text} (outside : ∀ c ∈ start, Text.isWordChar c = false)
    (next : Pattern) (rest : Text) :
    (Pattern.seq wordPattern next).search (start ++ rest)
      = (Pattern.seq wordPattern next).search rest := by
  apply search_append_of_fails
  intro ending inside nonempty
  apply fits_seq_eq_nil
  apply fits_wordPattern_eq_nil
  cases ending with
  | nil => exact absurd rfl nonempty
  | cons c more => exact outside c (inside.mem List.mem_cons_self)

/-- A word is passed over if what is searched behind it does not fit there. Neither a shorter end of
the word fits nor a part of it, since nothing that is searched fits inside of a word. -/
theorem search_word_append {next : Pattern} (isWord : Text.IsWord word)
    (edge : Text.inWord rest.head? = false)
    (inside : ∀ text, Text.inWord text.head? = true → next.fits text = [])
    (fails : next.fits rest = []) :
    (Pattern.seq wordPattern next).search (word ++ rest)
      = (Pattern.seq wordPattern next).search rest := by
  apply search_append_of_fails
  intro ending suffix nonempty
  have isEnding : Text.IsWord ending :=
    ⟨nonempty, fun c member => isWord.2 c (suffix.mem member)⟩
  obtain ⟨others, ways, leave⟩ := fits_wordPattern_append isEnding edge
  rw [fits_seq_of_firm ways fun other member => inside other.rest (leave other member), fails]
  rfl

/-- Spaces are not searched for where a word character stands. -/
theorem fits_spaces_eq_nil (inside : Text.inWord text.head? = true) (next : Pattern) :
    (Pattern.seq (.atLeastOne isSpaceOrTab) next).fits text = [] := by
  apply fits_seq_eq_nil
  apply fits_atLeastOne_eq_nil
  intro c first
  rw [first] at inside
  exact not_isSpaceOrTab_of_word inside

/-- Behind a word that begins no pair there are no spaces, or no word behind them. -/
theorem fits_afterType_eq_nil (isWord : Text.IsWord word)
    (apart : ∀ gap name after, ¬IsPair (word ++ rest) [] word gap name after) :
    (Pattern.seq (.atLeastOne isSpaceOrTab) (.seq wordPattern suffixPattern)).fits rest = [] := by
  obtain ⟨gap, more, rfl, spaces, stops⟩ : ∃ gap more, rest = gap ++ more ∧
      (∀ c ∈ gap, isSpaceOrTab c = true) ∧ ∀ c, more.head? = some c → isSpaceOrTab c = false := by
    exact ⟨rest.takeWhile isSpaceOrTab, rest.dropWhile isSpaceOrTab,
      List.takeWhile_append_dropWhile.symm, fun c => List.mem_takeWhile_imp,
      fun c => not_of_head?_dropWhile⟩
  by_cases empty : gap = []
  · subst empty
    exact fits_seq_eq_nil (fits_atLeastOne_eq_nil stops)
  · obtain ⟨others, ways, leave⟩ := fits_atLeastOne_append empty spaces stops
    have fails : ∀ other ∈ others,
        (Pattern.seq wordPattern suffixPattern).fits other.rest = [] := by
      intro other member
      obtain ⟨c, first, space⟩ := leave other member
      apply fits_seq_eq_nil
      apply fits_wordPattern_eq_nil
      rw [first]
      exact not_word_of_isSpaceOrTab space
    have nothing : (Pattern.seq wordPattern suffixPattern).fits more = [] := by
      cases begins : Text.inWord more.head? with
      | false => exact fits_seq_eq_nil (fits_wordPattern_eq_nil begins)
      | true =>
          obtain ⟨name, after, rfl, isName, right⟩ := Text.exists_word_append begins
          exact absurd ⟨rfl, isWord, ⟨empty, spaces⟩, isName, rfl, right⟩ (apart gap name after)
    rw [fits_seq_of_firm ways fails, nothing]
    rfl

/-- A word that begins no pair is passed over. -/
theorem search_memberPattern_word_append (isWord : Text.IsWord word)
    (edge : Text.inWord rest.head? = false)
    (apart : ∀ gap name after, ¬IsPair (word ++ rest) [] word gap name after) :
    memberPattern.search (word ++ rest) = memberPattern.search rest := by
  apply search_word_append isWord edge
  · intro text begins
    exact fits_spaces_eq_nil begins _
  · exact fits_afterType_eq_nil isWord apart

theorem exists_mem_fits_parametersPattern_iff :
    (∃ m, m ∈ parametersPattern.fits text) ↔ BeginsParameters text := by
  constructor
  · rintro ⟨m, fit⟩
    obtain ⟨opening, fitOpening, later, fitLater, -⟩ := mem_fits_seq_iff.mp fit
    obtain ⟨c, rest, rfl, isOpening, rfl⟩ := mem_fits_one_iff.mp fitOpening
    obtain ⟨line, fitLine, closing, fitClosing, -⟩ := mem_fits_seq_iff.mp fitLater
    obtain ⟨params, more, whole, within, rfl⟩ := mem_fits_many_iff.mp fitLine
    obtain ⟨d, after, split, isClosing, -⟩ := mem_fits_one_iff.mp fitClosing
    obtain rfl : c = '(' := of_decide_eq_true isOpening
    obtain rfl : d = ')' := of_decide_eq_true isClosing
    refine ⟨params, after, ?_, fun newline => by simpa using within _ newline⟩
    rw [← split, ← whole]
  · rintro ⟨params, rest, rfl, line⟩
    have within := Text.decide_ne_of_not_mem line
    have closing : (⟨[')'], [], rest⟩ : Fit) ∈ (Pattern.one (· = ')')).fits (')' :: rest) :=
      mem_fits_one_iff.mpr ⟨')', rest, rfl, rfl, rfl⟩
    have inner := mem_fits_many_iff.mpr ⟨params, ')' :: rest, rfl, within, rfl⟩
    have later := mem_fits_seq_iff.mpr ⟨_, inner, _, closing, rfl⟩
    have opening : (⟨['('], [], params ++ ')' :: rest⟩ : Fit) ∈
        (Pattern.one (· = '(')).fits ('(' :: (params ++ ')' :: rest)) :=
      mem_fits_one_iff.mpr ⟨'(', _, rfl, rfl, rfl⟩
    exact ⟨_, mem_fits_seq_iff.mpr ⟨_, opening, _, later, rfl⟩⟩

/-- What is searched after a name always fits, and its group has a text exactly if a parameter list
follows: the list is only left out if there is no way to fit it. -/
theorem exists_fits_suffixPattern (text : Text) :
    ∃ m params, (suffixPattern.fits text).head? = some m ∧ m.groups = [params] ∧
      params.isSome = startsParameters text := by
  have spaces : ((Pattern.many isSpaceOrTab).fits text).head? = some _ := head?_fits_many
  cases list : parametersPattern.fits (text.dropWhile isSpaceOrTab) with
  | nil =>
      have absent : startsParameters text = false := by
        rw [Bool.eq_false_iff]
        intro starts
        obtain ⟨m, fit⟩ :=
          exists_mem_fits_parametersPattern_iff.mpr (startsParameters_iff_begins.mp starts)
        rw [list] at fit
        cases fit
      have left : ((Pattern.maybe (.group parametersPattern)).fits
          (text.dropWhile isSpaceOrTab)).head?
            = some ⟨[], [none], text.dropWhile isSpaceOrTab⟩ := by
        rw [fits, fits, list]
        rfl
      exact ⟨_, none, head?_fits_seq spaces left, rfl, absent.symm⟩
  | cons m more =>
      have fit : m ∈ parametersPattern.fits (text.dropWhile isSpaceOrTab) := by
        rw [list]
        exact List.mem_cons_self
      have present : startsParameters text = true :=
        startsParameters_iff_begins.mpr (exists_mem_fits_parametersPattern_iff.mp ⟨m, fit⟩)
      have alone : m.groups = [] := List.length_eq_zero_iff.mp (length_groups_of_mem_fits fit)
      have taken : ((Pattern.maybe (.group parametersPattern)).fits
          (text.dropWhile isSpaceOrTab)).head? = some ⟨m.text, [some m.text], m.rest⟩ := by
        rw [fits, fits, list, List.map_cons, alone]
        rfl
      exact ⟨_, some m.text, head?_fits_seq spaces taken, rfl, present.symm⟩

/-- A pair at the beginning fits, and the first way to fit it tells the whole words. -/
theorem search_memberPattern_of_begins (pair : IsPair segment [] type gap name after) :
    (memberPattern.search segment).map (fun m => Member.ofGroups? m.groups)
      = some (some ⟨type, name, startsParameters after⟩) := by
  have stops : ∀ c, (name ++ after).head? = some c → isSpaceOrTab c = false := by
    intro c first
    exact not_isSpaceOrTab_of_word (pair.name.isWordChar_of_head? after c first)
  obtain ⟨_, typeWays, -⟩ := fits_wordPattern_append pair.type pair.edge
  obtain ⟨_, gapWays, -⟩ := fits_atLeastOne_append pair.gap.1 pair.gap.2 stops
  obtain ⟨_, nameWays, -⟩ := fits_wordPattern_append pair.name pair.right
  obtain ⟨m, params, suffixWay, groups, present⟩ := exists_fits_suffixPattern after
  have nameWay := head?_fits_seq (List.head?_eq_some_iff.mpr ⟨_, nameWays⟩) suffixWay
  have gapWay := head?_fits_seq (List.head?_eq_some_iff.mpr ⟨_, gapWays⟩) nameWay
  have way := head?_fits_seq (List.head?_eq_some_iff.mpr ⟨_, typeWays⟩) gapWay
  rw [← List.nil_append (type ++ _), ← pair.whole] at way
  have searched : memberPattern.search segment = some _ := search_of_head? way
  rw [searched, Option.map_some]
  simp only [Fit.append, List.nil_append, List.cons_append, groups, Member.ofGroups?, present]

end Searching

/-- Going through a text from the left up to its first pair. -/
theorem pair_induction {motive : Text → Prop} (nil : motive [])
    (gap : ∀ c rest, Text.isWordChar c = false → motive rest → motive (c :: rest))
    (word : ∀ word rest, Text.IsWord word → Text.inWord rest.head? = false →
      (∀ gap name after, ¬IsPair (word ++ rest) [] word gap name after) → motive rest →
        motive (word ++ rest))
    (pair : ∀ segment type gap name after, IsPair segment [] type gap name after → motive segment)
    (segment : Text) : motive segment := by
  induction segment using Text.word_induction with
  | nil => exact nil
  | gap c rest outside ih => exact gap c rest outside ih
  | word first rest isWord edge ih =>
      by_cases begins : ∃ gap name after, IsPair (first ++ rest) [] first gap name after
      · obtain ⟨gap, name, after, isPair⟩ := begins
        exact pair _ _ _ _ _ isPair
      · exact word first rest isWord edge
          (fun gap name after isPair => begins ⟨gap, name, after, isPair⟩) ih

/-- The reading finds what there is to be found. -/
theorem finds_member? (segment : Text) : Finds segment (member? segment) := by
  induction segment using pair_induction with
  | nil =>
      apply Finds.nothing
      intro before type gap name after pair
      have whole := pair.whole
      simp only [List.nil_eq, List.append_eq_nil_iff] at whole
      exact pair.type.1 whole.2.1
  | gap c rest outside found =>
      rw [member?_cons outside]
      exact found.append (isPassed_gap outside) (.inl outside)
  | word word rest isWord edge apart found =>
      rw [member?_word_append isWord edge apart]
      exact found.append (isPassed_word isWord edge apart) (.inr edge)
  | pair segment type gap name after pair =>
      rw [member?_of_begins pair]
      exact Finds.of_begins pair

/-- A search with the pattern tells the same. -/
theorem search_memberPattern (segment : Text) :
    (memberPattern.search segment).map (fun m => Member.ofGroups? m.groups)
      = (member? segment).map some := by
  induction segment using pair_induction with
  | nil => rfl
  | gap c rest outside ih =>
      have same : memberPattern.search (c :: rest) = memberPattern.search rest :=
        search_append_left (List.forall_mem_singleton.mpr outside) _ rest
      rw [same, member?_cons outside, ih]
  | word word rest isWord edge apart ih =>
      rw [search_memberPattern_word_append isWord edge apart,
        member?_word_append isWord edge apart, ih]
  | pair segment type gap name after pair =>
      rw [search_memberPattern_of_begins pair, member?_of_begins pair]
      rfl

theorem Finds.eq_none_iff {segment : Text} {found : Option Member} (finds : Finds segment found) :
    found = none ↔ ∀ before type gap name after, ¬IsPair segment before type gap name after := by
  cases finds with
  | nothing no =>
      constructor
      · intro _
        exact no
      · intro _
        rfl
  | pair first =>
      constructor
      · intro nothing
        cases nothing
      · intro no
        exact absurd first.toIsPair (no _ _ _ _ _)

theorem Finds.eq_some_iff {segment : Text} {found : Option Member} {member : Member}
    (finds : Finds segment found) :
    found = some member ↔ ∃ before gap after,
      IsFirstPair segment before member.typeToken gap member.name after ∧
        (member.isOperation = true ↔ HasParameters after) := by
  cases finds with
  | nothing no =>
      constructor
      · intro found
        cases found
      · rintro ⟨before, gap, after, other, -⟩
        exact absurd other.toIsPair (no _ _ _ _ _)
  | @pair before type gap name after first =>
      constructor
      · rintro ⟨⟩
        exact ⟨before, gap, after, first, startsParameters_iff⟩
      · rintro ⟨before', gap', after', other, operation⟩
        have place : before.length = before'.length :=
          Nat.le_antisymm (first.first _ _ _ _ _ other.toIsPair)
            (other.first _ _ _ _ _ first.toIsPair)
        obtain ⟨sameType, sameName, sameAfter⟩ := first.toIsPair.eq_of_length other.toIsPair place
        have sameKind : startsParameters after = member.isOperation := by
          rw [Bool.eq_iff_iff, startsParameters_iff, operation, sameAfter]
        rw [sameType, sameName, sameKind]

/-- The member of a text is its leftmost pair of whole words with only spaces and tabs between them,
an operation exactly if a parameter list follows; there is none exactly if there is no such pair. A
search with the pattern, which may cut words and leave out parts, comes to the same. -/
theorem member?_finds_first_pair (segment : Text) :
    (member? segment = none ↔ ∀ before type gap name after,
      ¬IsPair segment before type gap name after) ∧
    (∀ member, member? segment = some member ↔ ∃ before gap after,
      IsFirstPair segment before member.typeToken gap member.name after ∧
        (member.isOperation = true ↔ HasParameters after)) ∧
    (memberPattern.search segment).map (fun m => Member.ofGroups? m.groups)
      = (member? segment).map some :=
  ⟨(finds_member? segment).eq_none_iff, fun _ => (finds_member? segment).eq_some_iff,
    search_memberPattern segment⟩

end ClassDiagram.Line
