import ClassDiagram.Proofs.Text.Words
import ClassDiagram.Text.Blank

/-!
# Lines and their endings

Lines that are joined are the lines that are read, but for carriage returns at their ends. What is
asked of a line does not depend on characters of that kind at its end.
-/

namespace ClassDiagram.Text

/-- A text in which a character does not stand goes on up to its end. -/
theorem decide_ne_of_not_mem {text : Text} {d : Char} (absent : d ∉ text) :
    ∀ c ∈ text, decide (c ≠ d) = true := by
  intro c member
  apply decide_eq_true
  rintro rfl
  exact absent member

/-- A separator ends one list of pieces and begins another. -/
theorem splitOn_append_cons (separator : Char) (first second : Text) :
    splitOn separator (first ++ separator :: second)
      = splitOn separator first ++ splitOn separator second := by
  induction first with
  | nil => simp [splitOn]
  | cons c rest ih =>
      simp only [List.cons_append, splitOn, ih]
      split
      · rfl
      · cases pieces : splitOn separator rest with
        | nil => exact absurd pieces (splitOn_ne_nil separator rest)
        | cons piece more => rfl

/-- Splitting undoes joining if the separator stands in none of the pieces. -/
theorem splitOn_joinWith {separator : Char} {pieces : List Text} (nonempty : pieces ≠ [])
    (apart : ∀ piece ∈ pieces, separator ∉ piece) :
    splitOn separator (joinWith [separator] pieces) = pieces := by
  have piece_alone : ∀ piece : Text, separator ∉ piece → splitOn separator piece = [piece] := by
    intro piece outside
    induction piece with
    | nil => rfl
    | cons c piece ih =>
        rw [List.mem_cons, not_or] at outside
        simp [splitOn, Ne.symm outside.1, ih outside.2]
  induction pieces with
  | nil => exact absurd rfl nonempty
  | cons piece rest ih =>
      obtain ⟨first, others⟩ := List.forall_mem_cons.mp apart
      cases rest with
      | nil => exact piece_alone piece first
      | cons next more =>
          rw [joinWith, List.append_assoc, List.singleton_append, splitOn_append_cons,
            piece_alone piece first, ih (List.cons_ne_nil _ _) others, List.singleton_append]

/-- The pieces of a text are made of its characters other than the separator. -/
theorem mem_of_mem_splitOn {separator : Char} {text piece : Text}
    (member : piece ∈ splitOn separator text) {c : Char} (inside : c ∈ piece) :
    c ∈ text ∧ c ≠ separator := by
  induction text generalizing piece with
  | nil =>
      rw [splitOn, List.mem_singleton] at member
      simp [member] at inside
  | cons d rest ih =>
      rw [splitOn] at member
      split at member
      · rcases List.mem_cons.mp member with rfl | later
        · cases inside
        · exact (ih later inside).imp_left (List.mem_cons_of_mem d)
      · rename_i other
        cases pieces : splitOn separator rest with
        | nil => exact absurd pieces (splitOn_ne_nil separator rest)
        | cons first more =>
            simp only [pieces] at member
            rcases List.mem_cons.mp member with rfl | later
            · rcases List.mem_cons.mp inside with rfl | inside
              · exact ⟨List.mem_cons_self, other⟩
              · have here : first ∈ splitOn separator rest := pieces ▸ List.mem_cons_self
                exact (ih here inside).imp_left (List.mem_cons_of_mem d)
            · have here : piece ∈ splitOn separator rest := pieces ▸ List.mem_cons_of_mem _ later
              exact (ih here inside).imp_left (List.mem_cons_of_mem d)

section Endings

variable {p : Char → Bool}

theorem dropEndWhile_eq_rdropWhile (p : Char → Bool) (text : Text) :
    dropEndWhile p text = text.rdropWhile p := by
  induction text with
  | nil => rfl
  | cons c rest ih =>
      rw [dropEndWhile, ih]
      unfold List.rdropWhile
      rw [List.reverse_cons, List.dropWhile_append]
      cases left : List.dropWhile p rest.reverse with
      | nil => by_cases taken : p c = true <;> simp [taken]
      | cons d more => simp

/-- What is taken away at the end of a text satisfies `p`. -/
theorem exists_dropEndWhile_append (p : Char → Bool) (text : Text) :
    ∃ ending, text = dropEndWhile p text ++ ending ∧ ∀ c ∈ ending, p c = true := by
  rw [dropEndWhile_eq_rdropWhile]
  exact ⟨text.rtakeWhile p, List.rdropWhile_append_rtakeWhile.symm,
    fun c => List.mem_rtakeWhile_imp⟩

/-- Nothing is taken away at the end of a text whose last character is to stay. -/
theorem dropEndWhile_concat {c : Char} (stays : p c = false) (text : Text) :
    dropEndWhile p (text ++ [c]) = text ++ [c] := by
  rw [dropEndWhile_eq_rdropWhile]
  exact List.rdropWhile_concat_neg p text c (by simp [stays])

end Endings

section Outside

variable {start ending : Text}

/-- An ending without word characters changes neither the start of a text nor what is a boundary. -/
theorem inWord_head?_append (outside : ∀ c ∈ ending, isWordChar c = false) (text : Text) :
    inWord (text ++ ending).head? = inWord text.head? := by
  cases text with
  | cons c rest => rfl
  | nil =>
      cases ending with
      | nil => rfl
      | cons c rest => exact outside c List.mem_cons_self

theorem inWord_getLast?_or (part : Text) {before other : Option Char}
    (same : inWord before = inWord other) :
    inWord (part.getLast? <|> before) = inWord (part.getLast? <|> other) := by
  cases part.getLast? with
  | none => exact same
  | some c => rfl

/-- Of the character before a text it only matters whether it is a word character. -/
theorem containsWholeAfter_congr {part text : Text} {before other : Option Char}
    (same : inWord before = inWord other) :
    containsWholeAfter part before text = containsWholeAfter part other text := by
  rw [Bool.eq_iff_iff, containsWholeAfter_iff, containsWholeAfter_iff]
  refine exists_congr fun front => exists_congr fun rest => ?_
  rw [isBoundary, isBoundary, isBoundary, isBoundary, inWord_getLast?_or front same,
    inWord_getLast?_or part (inWord_getLast?_or front same)]

/-- A part stands whole in a text behind something without words exactly if it does in the text. -/
theorem containsWhole_append_left (outside : ∀ c ∈ start, isWordChar c = false)
    (part text : Text) : containsWhole part (start ++ text) = containsWhole part text := by
  have after : ∀ before, inWord before = false →
      containsWholeAfter part before (start ++ text) = containsWholeAfter part none text := by
    induction start with
    | nil => exact fun before apart => containsWholeAfter_congr apart
    | cons c start ih =>
        intro before apart
        obtain ⟨first, others⟩ := List.forall_mem_cons.mp outside
        have unbound : startsWhole part before (c :: (start ++ text)) = false := by
          rw [Bool.eq_false_iff]
          intro starts
          obtain ⟨rest, -, left, -⟩ := startsWhole_iff.mp starts
          rw [isBoundary, apart, List.head?_cons, inWord, first] at left
          cases left
        rw [List.cons_append, containsWholeAfter, unbound, Bool.false_or]
        exact ih others (some c) first
  exact after none rfl

/-- A part stands whole in a text with an ending without words exactly if it does in the text. -/
theorem containsWhole_append_right (outside : ∀ c ∈ ending, isWordChar c = false)
    (part text : Text) : containsWhole part (text ++ ending) = containsWhole part text := by
  rw [Bool.eq_iff_iff, containsWhole, containsWhole, containsWholeAfter_iff,
    containsWholeAfter_iff]
  constructor
  · rintro ⟨start, rest, whole, left, right⟩
    have split : ∃ more, text = start ++ part ++ more ∧ rest = more ++ ending := by
      rcases List.append_eq_append_iff.mp whole with ⟨gap, cut, ends⟩ | ⟨more, inside, ends⟩
      · rcases List.eq_nil_or_concat gap with rfl | ⟨front, c, rfl⟩
        · exact ⟨[], by simpa using cut.symm, by simpa using ends.symm⟩
        · -- A part that ends in the ending has no boundary there.
          exfalso
          have last : isWordChar c = false := outside c (by simp [ends])
          have before : (part.getLast? <|> start.getLast? <|> none) = some c := by
            have same := congrArg List.getLast? cut
            rw [List.getLast?_append, List.concat_eq_append, ← List.append_assoc,
              List.getLast?_concat] at same
            simpa using same
          have after : inWord rest.head? = false := by
            cases first : rest.head? with
            | none => rfl
            | some d => exact outside d (by simp [ends, List.mem_of_head? first])
          rw [isBoundary, before, after, inWord, last] at right
          cases right
      · exact ⟨more, inside, ends⟩
    obtain ⟨more, rfl, rfl⟩ := split
    refine ⟨start, more, rfl, ?_, ?_⟩
    · rwa [isBoundary, ← List.append_assoc, inWord_head?_append outside] at left
    · rwa [isBoundary, inWord_head?_append outside] at right
  · rintro ⟨start, rest, rfl, left, right⟩
    refine ⟨start, rest ++ ending, List.append_assoc _ _ _, ?_, ?_⟩
    · rwa [isBoundary, ← List.append_assoc, inWord_head?_append outside]
    · rwa [isBoundary, inWord_head?_append outside]

/-- In a text without words there is no boundary. -/
theorem containsWhole_of_no_words (part : Text) (outside : ∀ c ∈ ending, isWordChar c = false) :
    containsWhole part ending = false := by
  have nothing := containsWhole_append_left outside part []
  rw [List.append_nil] at nothing
  rw [nothing]
  cases part <;> rfl

/-- A text stands whole in itself exactly if it begins and ends with a word character. -/
theorem containsWhole_self_iff {text : Text} :
    containsWhole text text = true ↔
      inWord text.head? = true ∧ inWord text.getLast? = true := by
  have edges : ∀ a b, isBoundary a b = true ↔ inWord a ≠ inWord b := by
    intro a b
    rw [isBoundary, bne_iff_ne]
  rw [containsWhole, containsWholeAfter_iff]
  constructor
  · rintro ⟨start, rest, whole, left, right⟩
    have lengths := congrArg List.length whole
    simp only [List.length_append] at lengths
    obtain rfl : start = [] := List.length_eq_zero_iff.mp (by omega)
    obtain rfl : rest = [] := List.length_eq_zero_iff.mp (by omega)
    rw [edges, List.append_nil] at left
    rw [edges] at right
    refine ⟨by simpa [inWord] using left, ?_⟩
    cases last : text.getLast? with
    | none => simp [last, inWord] at right
    | some c => simpa [last, inWord] using right
  · rintro ⟨left, right⟩
    refine ⟨[], [], by simp, ?_, ?_⟩
    · rw [edges, List.append_nil, left]
      decide
    · cases last : text.getLast? with
      | none => simp [last, inWord] at right
      | some c =>
          rw [last] at right
          rw [edges]
          simpa [inWord] using right

end Outside

theorem dropStart?_isSome_iff {part text : Text} :
    (dropStart? part text).isSome = true ↔ part <+: text := by
  rw [Option.isSome_iff_exists]
  refine exists_congr fun rest => ?_
  rw [dropStart?_eq_some_iff, eq_comm]

theorem mentions_iff {part text : Text} : mentions part text = true ↔ part <:+: text := by
  induction text with
  | nil => simp [mentions]
  | cons c rest ih =>
      rw [mentions, Bool.or_eq_true, dropStart?_isSome_iff, ih, List.infix_cons_iff]

/-- What stands in a text stands in it without an ending that shares no character with it. -/
theorem mentions_of_append {part text ending : Text} (apart : ∀ c ∈ part, c ∉ ending)
    (nonempty : part ≠ []) (mentioned : mentions part (text ++ ending) = true) :
    mentions part text = true := by
  obtain ⟨before, after, whole⟩ := mentions_iff.mp mentioned
  rw [mentions_iff]
  rcases List.append_eq_append_iff.mp whole with ⟨gap, inside, -⟩ | ⟨gap, outside, rest⟩
  · exact ⟨before, gap, inside.symm⟩
  · -- Were there a gap, the last character of the part would be in the ending.
    rcases List.eq_nil_or_concat gap with rfl | ⟨more, d, rfl⟩
    · exact ⟨before, [], by rw [outside, List.append_nil, List.append_nil]⟩
    · have last := congrArg List.getLast? outside
      obtain ⟨c, ends⟩ := Option.isSome_iff_exists.mp (List.getLast?_isSome.mpr nonempty)
      rw [List.getLast?_append, ends, List.getLast?_append] at last
      have inPart : d ∈ part := List.mem_of_getLast? (by simpa [ends] using last)
      exact absurd (by rw [rest]; simp) (apart d inPart)

/-- White space at the end is not in the fields of a text. -/
theorem fields_append {blanks : Text} (blank : ∀ c ∈ blanks, isBlank c = true) (text : Text) :
    fields (text ++ blanks) = fields text := by
  have nothing : fields blanks = [] := by
    induction blanks with
    | nil => rfl
    | cons c rest ih =>
        obtain ⟨first, others⟩ := List.forall_mem_cons.mp blank
        simp only [fields, first, if_true]
        exact ih others
  induction text with
  | nil => exact nothing
  | cons c rest ih =>
      simp only [List.cons_append, fields]
      split
      · exact ih
      · cases rest with
        | nil =>
            cases blanks with
            | nil => rfl
            | cons d more =>
                have first := blank d List.mem_cons_self
                simp [first, nothing]
        | cons d more => simp only [List.cons_append] at ih ⊢; rw [ih]

/-- Whether case mapping leaves a character as it is, and the search for cased neighbours ends at it
without finding one. -/
structure IsCaseless (c : Char) : Prop where
  lowered : lowerChar c = [c]
  uncased : isCased c = false
  kept : isCaseIgnorable c = false

instance (c : Char) : Decidable (IsCaseless c) :=
  decidable_of_iff (lowerChar c = [c] ∧ isCased c = false ∧ isCaseIgnorable c = false)
    ⟨fun ⟨lowered, uncased, kept⟩ => ⟨lowered, uncased, kept⟩,
      fun ⟨lowered, uncased, kept⟩ => ⟨lowered, uncased, kept⟩⟩

section Caseless

variable {start ending : Text}

theorem IsCaseless.ne_sigma {c : Char} (caseless : IsCaseless c) : c ≠ 'Σ' := by
  rintro rfl
  have uncased := caseless.uncased
  revert uncased
  decide +kernel

theorem IsCaseless.lowerAfter_cons {c : Char} (caseless : IsCaseless c) (afterCased : Bool)
    (rest : Text) : lowerAfter afterCased (c :: rest) = c :: lowerAfter false rest := by
  simp [lowerAfter, caseless.ne_sigma, caseless.lowered, caseless.uncased, caseless.kept]

theorem startsCased_append (caseless : ∀ c ∈ ending, IsCaseless c) (text : Text) :
    startsCased (text ++ ending) = startsCased text := by
  have nothing : startsCased ending = false := by
    cases ending with
    | nil => rfl
    | cons c rest =>
        have first := caseless c List.mem_cons_self
        simp [startsCased, first.kept, first.uncased]
  unfold startsCased at nothing ⊢
  rw [List.dropWhile_append]
  cases skipped : text.dropWhile isCaseIgnorable with
  | nil => simpa using nothing
  | cons c rest => rfl

/-- Characters without case at the end of a text play no part in its lower case. -/
theorem lower_append_right (caseless : ∀ c ∈ ending, IsCaseless c) (text : Text) :
    lower (text ++ ending) = lower text ++ ending := by
  have alone : ∀ afterCased, lowerAfter afterCased ending = ending := by
    induction ending with
    | nil => exact fun _ => rfl
    | cons c rest ih =>
        intro afterCased
        obtain ⟨first, others⟩ := List.forall_mem_cons.mp caseless
        rw [first.lowerAfter_cons, ih others]
  have after : ∀ afterCased, lowerAfter afterCased (text ++ ending)
      = lowerAfter afterCased text ++ ending := by
    induction text with
    | nil => exact alone
    | cons c rest ih =>
        intro afterCased
        simp only [List.cons_append, lowerAfter, startsCased_append caseless, ih, List.append_assoc]
  exact after false

/-- Characters without case in front of a text play no part in its lower case. -/
theorem lower_append_left (caseless : ∀ c ∈ start, IsCaseless c) (text : Text) :
    lower (start ++ text) = start ++ lower text := by
  induction start with
  | nil => rfl
  | cons c start ih =>
      obtain ⟨first, others⟩ := List.forall_mem_cons.mp caseless
      rw [List.cons_append, lower, first.lowerAfter_cons, ← lower, ih others]
      rfl

end Caseless

end ClassDiagram.Text
