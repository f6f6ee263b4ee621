import ClassDiagram.Text.Word
import Mathlib.Data.List.TakeWhile

/-!
# Runs of words and gaps

A run of word characters is a word of the text in front of anything that does not begin with a word
character, and likewise for gaps. So the runs of a text that is written as words and gaps are those
words and gaps, and conversely no run is empty or mixed.
-/

namespace ClassDiagram.Text

/-- A word by itself: some characters, all of them word characters. -/
def IsWord (text : Text) : Prop :=
  text ≠ [] ∧ ∀ c ∈ text, isWordChar c = true

instance (text : Text) : Decidable (IsWord text) :=
  decidable_of_iff (text ≠ [] ∧ text.all isWordChar = true) (and_congr_right' List.all_eq_true)

/-- A gap by itself: some characters, none of them a word character. -/
def IsGap (text : Text) : Prop :=
  text ≠ [] ∧ ∀ c ∈ text, isWordChar c = false

/-- A text that begins with a word begins with a word character. -/
theorem IsWord.isWordChar_of_head? {word : Text} (isWord : IsWord word) (rest : Text) :
    ∀ c, (word ++ rest).head? = some c → isWordChar c = true := by
  obtain ⟨nonempty, inside⟩ := isWord
  cases word with
  | nil => exact absurd rfl nonempty
  | cons d more =>
      rintro c ⟨⟩
      exact inside d List.mem_cons_self

theorem IsWord.inWord_head? {word : Text} (isWord : IsWord word) (rest : Text) :
    inWord (word ++ rest).head? = true := by
  have begins := isWord.isWordChar_of_head? rest
  obtain ⟨nonempty, -⟩ := isWord
  cases word with
  | nil => exact absurd rfl nonempty
  | cons c more => exact begins c rfl

namespace Run

/-- A run is of one kind throughout. -/
def IsPure : Run → Prop
  | word t => IsWord t
  | gap t => IsGap t

theorem cons_word {c : Char} (inside : isWordChar c = true) (t : Text) (rest : List Run) :
    cons c (word t :: rest) = word (c :: t) :: rest := by
  simp [cons, inside]

theorem cons_gap {c : Char} (outside : isWordChar c = false) (t : Text) (rest : List Run) :
    cons c (gap t :: rest) = gap (c :: t) :: rest := by
  simp [cons, outside]

theorem cons_nil_of_word {c : Char} (inside : isWordChar c = true) : cons c [] = [word [c]] := by
  simp [cons, inside]

theorem cons_nil_of_gap {c : Char} (outside : isWordChar c = false) : cons c [] = [gap [c]] := by
  simp [cons, outside]

theorem cons_word_gap {c : Char} (inside : isWordChar c = true) (t : Text) (rest : List Run) :
    cons c (gap t :: rest) = word [c] :: gap t :: rest := by
  simp [cons, inside]

theorem cons_gap_word {c : Char} (outside : isWordChar c = false) (t : Text) (rest : List Run) :
    cons c (word t :: rest) = gap [c] :: word t :: rest := by
  simp [cons, outside]

/-- A word character opens a run of its own unless a word follows. -/
theorem cons_of_not_word {c : Char} {rest : List Run} (inside : isWordChar c = true)
    (apart : ∀ t more, rest ≠ word t :: more) : cons c rest = word [c] :: rest := by
  unfold cons
  rw [if_pos inside]
  split
  · rename_i t more
    exact absurd rfl (apart t more)
  · rfl

/-- A character outside of words opens a run of its own unless a gap follows. -/
theorem cons_of_not_gap {c : Char} {rest : List Run} (outside : isWordChar c = false)
    (apart : ∀ t more, rest ≠ gap t :: more) : cons c rest = gap [c] :: rest := by
  unfold cons
  rw [if_neg (by simp [outside])]
  split
  · rename_i t more
    exact absurd rfl (apart t more)
  · rfl

/-- A character outside of words makes no word and ends none. -/
theorem word_mem_cons_iff {c : Char} (outside : isWordChar c = false) {t : Text}
    {runs : List Run} : word t ∈ cons c runs ↔ word t ∈ runs := by
  cases runs with
  | nil => simp [cons_nil_of_gap outside]
  | cons run rest =>
      cases run with
      | word first => simp [cons_gap_word outside]
      | gap first => simp [cons_gap outside]

theorem isPure_cons {c : Char} {rest : List Run} (pure : ∀ run ∈ rest, run.IsPure) :
    ∀ run ∈ cons c rest, run.IsPure := by
  unfold cons
  split
  · rename_i inside
    split
    · obtain ⟨first, others⟩ := List.forall_mem_cons.mp pure
      exact List.forall_mem_cons.mpr
        ⟨⟨List.cons_ne_nil _ _, List.forall_mem_cons.mpr ⟨inside, first.2⟩⟩, others⟩
    · exact List.forall_mem_cons.mpr
        ⟨⟨List.cons_ne_nil _ _, List.forall_mem_singleton.mpr inside⟩, pure⟩
  · rename_i outside
    rw [Bool.not_eq_true] at outside
    split
    · obtain ⟨first, others⟩ := List.forall_mem_cons.mp pure
      exact List.forall_mem_cons.mpr
        ⟨⟨List.cons_ne_nil _ _, List.forall_mem_cons.mpr ⟨outside, first.2⟩⟩, others⟩
    · exact List.forall_mem_cons.mpr
        ⟨⟨List.cons_ne_nil _ _, List.forall_mem_singleton.mpr outside⟩, pure⟩

end Run

@[simp] theorem runs_nil : runs [] = [] :=
  rfl

theorem runs_cons (c : Char) (rest : Text) : runs (c :: rest) = Run.cons c (runs rest) :=
  rfl

/-- No run of a text is empty or mixed. -/
theorem isPure_of_mem_runs {text : Text} : ∀ run ∈ runs text, run.IsPure := by
  induction text with
  | nil => simp
  | cons c rest ih => exact Run.isPure_cons ih

/-- A text that does not begin with a word character does not begin with a word. -/
theorem runs_ne_word {text : Text} (edge : inWord text.head? = false) (t : Text)
    (rest : List Run) : runs text ≠ .word t :: rest := by
  intro runs
  have first : IsWord t := isPure_of_mem_runs (.word t) (by rw [runs]; exact List.mem_cons_self)
  have whole := ofRuns_runs text
  rw [runs] at whole
  cases t with
  | nil => exact first.1 rfl
  | cons c t =>
      rw [← whole] at edge
      simp [ofRuns, Run.text, inWord, first.2 c List.mem_cons_self] at edge

/-- A text that is empty or begins with a word character does not begin with a gap. -/
theorem runs_ne_gap {text : Text} (edge : ∀ c, text.head? = some c → isWordChar c = true)
    (t : Text) (rest : List Run) : runs text ≠ .gap t :: rest := by
  intro runs
  have first : IsGap t := isPure_of_mem_runs (.gap t) (by rw [runs]; exact List.mem_cons_self)
  have whole := ofRuns_runs text
  rw [runs] at whole
  cases t with
  | nil => exact first.1 rfl
  | cons c t =>
      have inside := edge c (by rw [← whole]; rfl)
      rw [first.2 c List.mem_cons_self] at inside
      cases inside

/-- A word in front of what does not continue it is the first run. -/
theorem runs_word_append {word rest : Text} (isWord : IsWord word)
    (edge : inWord rest.head? = false) : runs (word ++ rest) = .word word :: runs rest := by
  obtain ⟨nonempty, inside⟩ := isWord
  induction word with
  | nil => exact absurd rfl nonempty
  | cons c tail ih =>
      have first := inside c List.mem_cons_self
      rw [List.cons_append, runs_cons]
      by_cases single : tail = []
      · subst single
        exact Run.cons_of_not_word first (runs_ne_word edge)
      · rw [ih single fun d member => inside d (List.mem_cons_of_mem _ member)]
        exact Run.cons_word first _ _

/-- A gap in front of what does not continue it is the first run. -/
theorem runs_gap_append {gap rest : Text} (isGap : IsGap gap)
    (edge : ∀ c, rest.head? = some c → isWordChar c = true) :
    runs (gap ++ rest) = .gap gap :: runs rest := by
  obtain ⟨nonempty, outside⟩ := isGap
  induction gap with
  | nil => exact absurd rfl nonempty
  | cons c tail ih =>
      have first := outside c List.mem_cons_self
      rw [List.cons_append, runs_cons]
      by_cases single : tail = []
      · subst single
        exact Run.cons_of_not_gap first (runs_ne_gap edge)
      · rw [ih single fun d member => outside d (List.mem_cons_of_mem _ member)]
        exact Run.cons_gap first _ _

/-- The whole word at the beginning of a text is one word only. -/
theorem IsWord.append_inj {word other rest more : Text} (isWord : IsWord word)
    (isOther : IsWord other) (edge : inWord rest.head? = false)
    (otherEdge : inWord more.head? = false) (same : word ++ rest = other ++ more) :
    word = other ∧ rest = more := by
  have runs := congrArg Text.runs same
  rw [runs_word_append isWord edge, runs_word_append isOther otherEdge] at runs
  obtain ⟨first, -⟩ := List.cons.inj runs
  cases first
  exact ⟨rfl, List.append_cancel_left same⟩

/-- The whole gap at the beginning of a text is one gap only. -/
theorem IsGap.append_inj {gap other rest more : Text} (isGap : IsGap gap) (isOther : IsGap other)
    (edge : ∀ c, rest.head? = some c → isWordChar c = true)
    (otherEdge : ∀ c, more.head? = some c → isWordChar c = true)
    (same : gap ++ rest = other ++ more) : gap = other ∧ rest = more := by
  have runs := congrArg Text.runs same
  rw [runs_gap_append isGap edge, runs_gap_append isOther otherEdge] at runs
  obtain ⟨first, -⟩ := List.cons.inj runs
  cases first
  exact ⟨rfl, List.append_cancel_left same⟩

/-- A text that begins with a word character begins with a whole word. -/
theorem exists_word_append {text : Text} (begins : inWord text.head? = true) :
    ∃ word rest, text = word ++ rest ∧ IsWord word ∧ inWord rest.head? = false := by
  refine ⟨text.takeWhile isWordChar, text.dropWhile isWordChar,
    List.takeWhile_append_dropWhile.symm,
    ⟨?_, fun c member => (List.mem_takeWhile_imp member)⟩, ?_⟩
  · cases text with
    | nil => cases begins
    | cons c rest => simp [show isWordChar c = true from begins]
  · have stops := List.head?_dropWhile_not isWordChar text
    cases first : (text.dropWhile isWordChar).head? with
    | none => rfl
    | some c => simpa [first, inWord] using stops

/-- A text that begins with another character begins with a whole gap. -/
theorem exists_gap_append {text : Text} (nonempty : text ≠ [])
    (begins : inWord text.head? = false) :
    ∃ gap rest, text = gap ++ rest ∧ IsGap gap ∧
      ∀ c, rest.head? = some c → isWordChar c = true := by
  refine ⟨text.takeWhile (!isWordChar ·), text.dropWhile (!isWordChar ·),
    List.takeWhile_append_dropWhile.symm, ⟨?_, fun c member => ?_⟩, fun c first => ?_⟩
  · cases text with
    | nil => exact absurd rfl nonempty
    | cons c rest => simp [show isWordChar c = false from begins]
  · simpa using List.mem_takeWhile_imp member
  · have stops := List.head?_dropWhile_not (!isWordChar ·) text
    simpa [first] using stops

/-- Reading a text from the left: past a character outside of words, or past a whole word. -/
theorem word_induction {motive : Text → Prop} (nil : motive [])
    (gap : ∀ c rest, isWordChar c = false → motive rest → motive (c :: rest))
    (word : ∀ word rest, IsWord word → inWord rest.head? = false → motive rest →
      motive (word ++ rest)) (text : Text) : motive text := by
  induction length : text.length using Nat.strong_induction_on generalizing text with
  | _ n ih =>
      cases text with
      | nil => exact nil
      | cons c tail =>
          cases inside : isWordChar c with
          | false => exact gap c tail inside (ih _ (by simp [← length]) tail rfl)
          | true =>
              have begins : inWord (c :: tail).head? = true := inside
              obtain ⟨first, rest, whole, isWord, edge⟩ := exists_word_append begins
              have shorter : rest.length < n := by
                have positive := List.length_pos_iff.mpr isWord.1
                rw [← length, whole, List.length_append]
                omega
              rw [whole]
              exact word first rest isWord edge (ih _ shorter rest rfl)

/-- Runs of a text and of a longer one that goes on with no word character: they are the same, but
for a gap at the end that may have become longer. -/
inductive Run.Prefixed : List Run → List Run → Prop where
  | done {rest : List Run} (apart : ∀ t more, rest ≠ .word t :: more) : Prefixed [] rest
  | longer (g h : Text) (rest : List Run) : Prefixed [.gap g] (.gap (g ++ h) :: rest)
  | same (run : Run) {rest longer : List Run} (tail : Prefixed rest longer) :
      Prefixed (run :: rest) (run :: longer)

/-- A character that joins the first run of the one joins the first run of the other. -/
theorem Run.Prefixed.cons (c : Char) {runs longer : List Run} (before : Prefixed runs longer) :
    Prefixed (Run.cons c runs) (Run.cons c longer) := by
  cases inside : isWordChar c with
  | true =>
      cases before with
      | done apart =>
          rw [Run.cons_nil_of_word inside, Run.cons_of_not_word inside apart]
          exact .same _ (.done apart)
      | longer g h rest =>
          rw [Run.cons_word_gap inside, Run.cons_word_gap inside]
          exact .same _ (.longer g h rest)
      | same run tail =>
          cases run with
          | word t =>
              rw [Run.cons_word inside, Run.cons_word inside]
              exact .same _ tail
          | gap t =>
              rw [Run.cons_word_gap inside, Run.cons_word_gap inside]
              exact .same _ (.same _ tail)
  | false =>
      cases before with
      | done apart =>
          rw [Run.cons_nil_of_gap inside]
          cases longer with
          | nil =>
              rw [Run.cons_nil_of_gap inside]
              exact .longer [c] [] []
          | cons run rest =>
              cases run with
              | word t => exact absurd rfl (apart t rest)
              | gap t =>
                  rw [Run.cons_gap inside]
                  exact .longer [c] t rest
      | longer g h rest =>
          rw [Run.cons_gap inside, Run.cons_gap inside]
          exact .longer (c :: g) h rest
      | same run tail =>
          cases run with
          | word t =>
              rw [Run.cons_gap_word inside, Run.cons_gap_word inside]
              exact .same _ (.same _ tail)
          | gap t =>
              rw [Run.cons_gap inside, Run.cons_gap inside]
              exact .same _ tail

theorem runs_prefixed (text : Text) {rest : Text} (edge : inWord rest.head? = false) :
    Run.Prefixed (runs text) (runs (text ++ rest)) := by
  induction text with
  | nil => exact .done (runs_ne_word edge)
  | cons c text ih => exact ih.cons c

end ClassDiagram.Text
