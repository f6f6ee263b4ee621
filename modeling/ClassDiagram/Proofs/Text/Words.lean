import ClassDiagram.Proofs.Text.Runs
import ClassDiagram.Text.Case
import Mathlib.Data.List.DropRight

/-!
# Whole words of a text

A word stands in a text as a whole word exactly if the text has it between two neighbours that do
not continue it. What a text says in lower case before a character without case does not depend on
what follows that character.
-/

namespace ClassDiagram.Text

theorem dropStart?_eq_some_iff {part text rest : Text} :
    dropStart? part text = some rest ↔ text = part ++ rest := by
  induction part generalizing text with
  | nil => simp [dropStart?]
  | cons s part ih =>
      cases text with
      | nil => simp [dropStart?]
      | cons c text =>
          rw [dropStart?, List.cons_append, List.cons.injEq]
          split
          · rename_i same
            rw [ih, same, eq_self, true_and]
          · rename_i different
            simp [Ne.symm different]

theorem startsWhole_iff {part text : Text} {before : Option Char} :
    startsWhole part before text = true ↔
      ∃ rest, text = part ++ rest ∧ isBoundary before text.head? = true ∧
        isBoundary (part.getLast? <|> before) rest.head? = true := by
  unfold startsWhole
  constructor
  · intro starts
    split at starts
    · cases starts
    · rename_i rest found
      exact ⟨rest, dropStart?_eq_some_iff.mp found, by simpa using starts⟩
  · rintro ⟨rest, whole, edges⟩
    rw [dropStart?_eq_some_iff.mpr whole]
    simpa using edges

/-- The character before a place: the last one of a text, or the one before the text. -/
private theorem getLast?_cons_or (c : Char) (text : Text) (before : Option Char) :
    ((c :: text).getLast? <|> before) = (text.getLast? <|> some c) := by
  cases text with
  | nil => rfl
  | cons d rest =>
      rw [List.getLast?_cons_cons]
      cases last : (d :: rest).getLast? with
      | none => simp at last
      | some e => rfl

/-- A part stands whole in a text exactly if there is a boundary at both of its ends. -/
theorem containsWholeAfter_iff {part text : Text} {before : Option Char} :
    containsWholeAfter part before text = true ↔
      ∃ start rest, text = start ++ part ++ rest ∧
        isBoundary (start.getLast? <|> before) (part ++ rest).head? = true ∧
        isBoundary (part.getLast? <|> start.getLast? <|> before) rest.head? = true := by
  induction text generalizing before with
  | nil =>
      rw [containsWholeAfter, startsWhole_iff]
      constructor
      · rintro ⟨rest, whole, left, right⟩
        rw [whole] at left
        exact ⟨[], rest, whole, left, right⟩
      · rintro ⟨start, rest, whole, left, right⟩
        obtain ⟨rfl, rfl, rfl⟩ : start = [] ∧ part = [] ∧ rest = [] := by simpa using whole
        exact ⟨[], rfl, left, right⟩
  | cons c text ih =>
      rw [containsWholeAfter, Bool.or_eq_true, startsWhole_iff, ih]
      constructor
      · rintro (⟨rest, whole, left, right⟩ | ⟨start, rest, rfl, left, right⟩)
        · rw [whole] at left
          exact ⟨[], rest, whole, left, right⟩
        · refine ⟨c :: start, rest, rfl, ?_, ?_⟩
          · rwa [getLast?_cons_or]
          · rwa [getLast?_cons_or]
      · rintro ⟨start, rest, whole, left, right⟩
        cases start with
        | nil =>
            rw [List.nil_append] at whole
            exact Or.inl ⟨rest, whole, by rwa [whole], right⟩
        | cons d start =>
            obtain ⟨rfl, rfl⟩ := List.cons.inj whole
            rw [getLast?_cons_or] at left right
            exact Or.inr ⟨start, rest, rfl, left, right⟩

theorem IsWord.exists_getLast? {word : Text} (isWord : IsWord word) :
    ∃ c, word.getLast? = some c ∧ isWordChar c = true := by
  obtain ⟨c, ends⟩ := Option.isSome_iff_exists.mp (List.getLast?_isSome.mpr isWord.1)
  exact ⟨c, ends, isWord.2 c (List.mem_of_getLast? ends)⟩

/-- A word stands whole in a text exactly where no neighbour continues it. -/
theorem containsWhole_iff {word text : Text} (isWord : IsWord word) :
    containsWhole word text = true ↔
      ∃ before after, text = before ++ word ++ after ∧ inWord before.getLast? = false ∧
        inWord after.head? = false := by
  -- The ends of the word are inside of it, so only its neighbours decide.
  have left : ∀ start rest : Text,
      isBoundary (start.getLast? <|> none) (word ++ rest).head? = true ↔
        inWord start.getLast? = false := by
    intro start rest
    rw [isBoundary, isWord.inWord_head? rest]
    cases start.getLast? <;> simp [inWord]
  have right : ∀ (before : Option Char) (rest : Text),
      isBoundary (word.getLast? <|> before) rest.head? = true ↔ inWord rest.head? = false := by
    intro before rest
    obtain ⟨c, ends, isWordChar⟩ := isWord.exists_getLast?
    have inside : inWord (word.getLast? <|> before) = true := by
      rw [ends]
      exact isWordChar
    rw [isBoundary, inside]
    simp
  rw [containsWhole, containsWholeAfter_iff]
  simp only [left, right]

theorem inWord_getLast?_cons {c : Char} (outside : isWordChar c = false) (text : Text) :
    inWord (c :: text).getLast? = inWord text.getLast? := by
  cases text with
  | nil => exact outside
  | cons d rest => rw [List.getLast?_cons_cons]

/-- What is left at the end is to stay. -/
theorem not_of_getLast?_rdropWhile {p : Char → Bool} {text : Text} {c : Char}
    (ends : (text.rdropWhile p).getLast? = some c) : p c = false := by
  have nonempty : text.rdropWhile p ≠ [] := by
    intro nothing
    rw [nothing] at ends
    cases ends
  have stays := List.rdropWhile_last_not p text nonempty
  rw [List.getLast?_eq_some_getLast nonempty] at ends
  rw [Option.some.inj ends] at stays
  exact Bool.eq_false_iff.mpr stays

/-- A text that does not end in a word, read from the left: something follows every word. -/
inductive EndsOutside : Text → Prop where
  | nil : EndsOutside []
  | gap {c : Char} {rest : Text} (outside : isWordChar c = false) (tail : EndsOutside rest) :
      EndsOutside (c :: rest)
  | word {word rest : Text} (isWord : IsWord word) (edge : inWord rest.head? = false)
      (nonempty : rest ≠ []) (tail : EndsOutside rest) : EndsOutside (word ++ rest)

theorem endsOutside_of_getLast? {text : Text} (ends : inWord text.getLast? = false) :
    EndsOutside text := by
  induction text using word_induction with
  | nil => exact .nil
  | gap c rest outside ih =>
      rw [inWord_getLast?_cons outside] at ends
      exact .gap outside (ih ends)
  | word first rest isWord edge ih =>
      by_cases last : rest = []
      · obtain ⟨c, final, inside⟩ := isWord.exists_getLast?
        simp [last, final, inWord, inside] at ends
      · rw [List.getLast?_append_of_ne_nil first last] at ends
        exact .word isWord edge last (ih ends)

/-- A text that ends in a word character ends in a whole word. -/
theorem exists_append_word {text : Text} (ends : inWord text.getLast? = true) :
    ∃ start, text = start ++ text.rtakeWhile isWordChar ∧ IsWord (text.rtakeWhile isWordChar) ∧
      EndsOutside start := by
  refine ⟨text.rdropWhile isWordChar, List.rdropWhile_append_rtakeWhile.symm,
    ⟨?_, fun c => List.mem_rtakeWhile_imp⟩, ?_⟩
  · rcases List.eq_nil_or_concat text with rfl | ⟨start, c, rfl⟩
    · cases ends
    · rw [List.concat_eq_append, List.getLast?_concat] at ends
      rw [List.concat_eq_append, List.rtakeWhile_concat_pos isWordChar start c ends]
      exact List.append_ne_nil_of_right_ne_nil _ (List.cons_ne_nil c [])
  · apply endsOutside_of_getLast?
    cases last : (text.rdropWhile isWordChar).getLast? with
    | none => rfl
    | some c => exact not_of_getLast?_rdropWhile last

/-- A word between two neighbours that do not continue it is a run of the text. -/
theorem word_mem_runs_append {word before after : Text} (isWord : IsWord word)
    (left : EndsOutside before) (right : inWord after.head? = false) :
    .word word ∈ runs (before ++ (word ++ after)) := by
  induction left with
  | nil =>
      rw [List.nil_append, runs_word_append isWord right]
      exact List.mem_cons_self
  | gap outside tail ih =>
      rw [List.cons_append, runs_cons, Run.word_mem_cons_iff outside]
      exact ih
  | @word first rest isFirst edge nonempty tail ih =>
      have apart : inWord (rest ++ (word ++ after)).head? = false := by
        rwa [List.head?_append_of_ne_nil rest nonempty]
      rw [List.append_assoc, runs_word_append isFirst apart]
      exact List.mem_cons_of_mem _ ih

/-- The words of a text are its occurrences of words that no neighbour continues. -/
theorem word_mem_runs_iff {word text : Text} :
    .word word ∈ runs text ↔
      IsWord word ∧ ∃ before after, text = before ++ word ++ after ∧
        inWord before.getLast? = false ∧ inWord after.head? = false := by
  constructor
  · intro member
    have isWord : IsWord word := isPure_of_mem_runs (.word word) member
    refine ⟨isWord, ?_⟩
    induction text using word_induction with
    | nil => cases member
    | gap c rest outside ih =>
        rw [runs_cons, Run.word_mem_cons_iff outside] at member
        obtain ⟨before, after, rfl, left, right⟩ := ih member
        exact ⟨c :: before, after, rfl, by rwa [inWord_getLast?_cons outside], right⟩
    | word first rest isFirst edge ih =>
        rw [runs_word_append isFirst edge] at member
        rcases List.mem_cons.mp member with same | later
        · cases same
          exact ⟨[], rest, rfl, rfl, edge⟩
        · obtain ⟨before, after, rfl, left, right⟩ := ih later
          -- Otherwise the word would continue the first one.
          have nonempty : before ≠ [] := by
            rintro rfl
            rw [List.nil_append, isWord.inWord_head?] at edge
            cases edge
          exact ⟨first ++ before, after, by simp,
            by rwa [List.getLast?_append_of_ne_nil first nonempty], right⟩
  · rintro ⟨isWord, before, after, rfl, left, right⟩
    rw [List.append_assoc]
    exact word_mem_runs_append isWord (endsOutside_of_getLast? left) right

/-- A word stands whole in a text exactly if it is one of the words of the text. -/
theorem containsWhole_iff_mem_runs {word text : Text} (isWord : IsWord word) :
    containsWhole word text = true ↔ .word word ∈ runs text := by
  rw [containsWhole_iff isWord, word_mem_runs_iff]
  exact (and_iff_right isWord).symm

/-- A word that stands whole in a text which does not end in a word stands whole in every longer
one. -/
theorem containsWhole_append_of_edge {word text : Text} (isWord : IsWord word)
    (edge : inWord text.getLast? = false) (rest : Text)
    (contained : containsWhole word text = true) : containsWhole word (text ++ rest) = true := by
  rw [containsWhole_iff isWord] at contained ⊢
  obtain ⟨before, after, rfl, left, right⟩ := contained
  refine ⟨before, after ++ rest, by simp, left, ?_⟩
  cases after with
  | cons c more => exact right
  | nil =>
      -- Otherwise the text would end in the word.
      obtain ⟨c, ends, inside⟩ := isWord.exists_getLast?
      simp [ends, inWord, inside] at edge

section Uncased

variable {c : Char}

theorem startsCased_append_cons (kept : isCaseIgnorable c = false) (text rest : Text) :
    startsCased (text ++ c :: rest) = startsCased (text ++ [c]) := by
  induction text with
  | nil => simp [startsCased, kept]
  | cons d text ih =>
      unfold startsCased at ih ⊢
      by_cases ignored : isCaseIgnorable d = true
      · simpa only [List.cons_append, List.dropWhile_cons_of_pos ignored] using ih
      · simp [ignored]

/-- A character without case that case mapping does not skip cuts a text in two: what stands before
it is lowered without a look at what follows. -/
theorem exists_lower_append_cons (kept : isCaseIgnorable c = false) (uncased : isCased c = false)
    (text : Text) :
    ∃ start, ∀ rest, lower (text ++ c :: rest) = start ++ (lowerChar c ++ lower rest) := by
  have other : c ≠ 'Σ' := by
    rintro rfl
    revert uncased
    decide +kernel
  have after : ∀ afterCased, ∃ start, ∀ rest,
      lowerAfter afterCased (text ++ c :: rest) = start ++ (lowerChar c ++ lower rest) := by
    induction text with
    | nil =>
        intro afterCased
        exact ⟨[], fun rest => by simp [lowerAfter, kept, uncased, other, lower]⟩
    | cons d text ih =>
        intro afterCased
        obtain ⟨start, same⟩ := ih (if isCaseIgnorable d then afterCased else isCased d)
        let lowered :=
          if d = 'Σ' then [if afterCased && !startsCased (text ++ [c]) then 'ς' else 'σ']
          else lowerChar d
        refine ⟨lowered ++ start, fun rest => ?_⟩
        rw [List.cons_append, lowerAfter, same, startsCased_append_cons kept text rest,
          List.append_assoc]
  exact after false

end Uncased

end ClassDiagram.Text
