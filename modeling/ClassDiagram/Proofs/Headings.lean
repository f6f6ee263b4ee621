import ClassDiagram.Proofs.Headers
import ClassDiagram.Proofs.Members
import ClassDiagram.Proofs.Text.LowerCase

/-!
# The names before the opening braces of a line

Every opening brace names a class by the word before it, if only white space stands between them.
A search with a pattern finds these words and no others: a word that is cut short at its front is
found whole at an earlier place, one that is cut short at its end is followed by one of its own
characters, and neither the white space nor the brace of a name belongs to the next one. What is
split off as a body begins after the last brace, so no name of a line reaches into it.
-/

namespace ClassDiagram.Line

variable {word rest : Text}

theorem not_blank_of_word {c : Char} (inside : Text.isWordChar c = true) :
    Text.isBlank c = false := by
  rw [Bool.eq_false_iff]
  intro blank
  rw [Text.not_word_of_isBlank blank] at inside
  cases inside

theorem ne_brace_of_word {c : Char} (inside : Text.isWordChar c = true) : c ≠ '\x7b' := by
  rintro rfl
  rw [brace_not_word] at inside
  cases inside

/-- No word goes on past white space. -/
theorem inWord_head?_blanks_append {gap : Text} (blank : Text.IsBlanks gap)
    (edge : Text.inWord rest.head? = false) : Text.inWord (gap ++ rest).head? = false := by
  cases gap with
  | nil => exact edge
  | cons c gap => exact Text.not_word_of_isBlank (blank c List.mem_cons_self)

section Reading

theorem opensBody_iff :
    opensBody rest = true ↔ ∃ gap more, rest = gap ++ '\x7b' :: more ∧ Text.IsBlanks gap := by
  rw [opensBody, decide_eq_true_eq]
  constructor
  · intro first
    obtain ⟨more, left⟩ := List.head?_eq_some_iff.mp first
    refine ⟨rest.takeWhile Text.isBlank, more, ?_, fun c => List.mem_takeWhile_imp⟩
    rw [← left, List.takeWhile_append_dropWhile]
  · rintro ⟨gap, more, rfl, blank⟩
    have visible : Text.isBlank '\x7b' = false := by decide
    rw [List.dropWhile_append_of_pos blank, List.dropWhile_cons_of_neg (by simp [visible])]
    rfl

/-- What leads to an opening brace leads to it whatever word stands behind. -/
theorem opensBody_append_of_word {gap : Text}
    (begins : ∀ c, rest.head? = some c → Text.isWordChar c = true) :
    opensBody (gap ++ rest) = opensBody gap := by
  cases left : gap.dropWhile Text.isBlank with
  | cons d more => simp [opensBody, List.dropWhile_append, left]
  | nil =>
      cases rest with
      | nil => rw [List.append_nil]
      | cons c rest =>
          have inside := begins c rfl
          simp [opensBody, List.dropWhile_append, left, not_blank_of_word inside,
            ne_brace_of_word inside]

/-- A word is a name exactly if it leads to an opening brace. -/
theorem classNames_word_append (isWord : Text.IsWord word)
    (edge : Text.inWord rest.head? = false) :
    classNames (word ++ rest)
      = if opensBody rest then Text.upper word :: classNames rest else classNames rest := by
  by_cases empty : rest = []
  · subst empty
    rw [classNames, Text.runs_word_append isWord edge]
    rfl
  · obtain ⟨gap, more, rfl, isGap, begins⟩ := Text.exists_gap_append empty edge
    rw [classNames, classNames, Text.runs_word_append isWord edge,
      Text.runs_gap_append isGap begins, opensBody_append_of_word begins]
    rfl

theorem classNames_append_left {start : Text} (outside : ∀ c ∈ start, Text.isWordChar c = false)
    (rest : Text) : classNames (start ++ rest) = classNames rest := by
  induction start with
  | nil => rfl
  | cons c start ih =>
      obtain ⟨first, others⟩ := List.forall_mem_cons.mp outside
      rw [List.cons_append, classNames_cons first, ih others]

/-- No name goes on past the beginning of a word. -/
theorem classNames_append_of_word {start : Text} (left : Text.EndsOutside start)
    (begins : ∀ c, rest.head? = some c → Text.isWordChar c = true) :
    classNames (start ++ rest) = classNames start ++ classNames rest := by
  induction left with
  | nil => rfl
  | gap outside tail ih =>
      rw [List.cons_append, classNames_cons outside, classNames_cons outside, ih]
  | @word first more isFirst edge nonempty tail ih =>
      have apart : Text.inWord (more ++ rest).head? = false := by
        rwa [List.head?_append_of_ne_nil more nonempty]
      rw [List.append_assoc, classNames_word_append isFirst apart,
        classNames_word_append isFirst edge, opensBody_append_of_word begins, ih]
      split <;> rfl

end Reading

section Braces

/-- The name that a brace gives to a class: the whole word that ends where the white space before
the brace begins, in upper case, if a word ends there. -/
def nameBefore? (before : Text) : Option Text :=
  let close := before.rdropWhile Text.isBlank
  if Text.inWord close.getLast? then some (Text.upper (close.rtakeWhile Text.isWordChar)) else none

/-- The name at a place of a line, if there is an opening brace that gives one. -/
def nameAt? (text : Text) (i : Nat) : Option Text :=
  if text[i]? = some '\x7b' then nameBefore? (text.take i) else none

section Blanks

variable {start gap : Text} (blank : Text.IsBlanks gap)
include blank

theorem classNames_blanks : classNames gap = [] := by
  apply classNames_eq_nil
  intro member
  have visible := blank '\x7b' member
  revert visible
  decide

theorem classNames_blanks_brace : classNames (gap ++ ['\x7b']) = [] := by
  have outside : ∀ c ∈ gap, Text.isWordChar c = false :=
    fun c member => Text.not_word_of_isBlank (blank c member)
  rw [classNames_append_left outside, classNames_cons brace_not_word]
  rfl

/-- Behind a word and white space a brace makes a name of the word. -/
theorem classNames_word_brace (left : Text.EndsOutside start) (isWord : Text.IsWord word) :
    classNames (start ++ (word ++ (gap ++ ['\x7b'])))
      = classNames (start ++ (word ++ gap)) ++ [Text.upper word] := by
  have edge : Text.inWord (gap ++ []).head? = false := inWord_head?_blanks_append blank rfl
  have braceEdge : Text.inWord (gap ++ ['\x7b']).head? = false :=
    inWord_head?_blanks_append blank brace_not_word
  have opens : opensBody (gap ++ ['\x7b']) = true := opensBody_iff.mpr ⟨gap, [], rfl, blank⟩
  have closed : opensBody gap = false := by
    rw [opensBody, List.dropWhile_eq_nil_iff.mpr blank]
    rfl
  have named : classNames (word ++ (gap ++ ['\x7b'])) = [Text.upper word] := by
    rw [classNames_word_append isWord braceEdge, if_pos opens, classNames_blanks_brace blank]
  have unnamed : classNames (word ++ gap) = [] := by
    rw [List.append_nil] at edge
    rw [classNames_word_append isWord edge, closed, classNames_blanks blank]
    rfl
  rw [classNames_append_of_word left (isWord.isWordChar_of_head? _), named,
    classNames_append_of_word left (isWord.isWordChar_of_head? _), unnamed, List.append_nil]

/-- Behind any other character and white space a brace makes no name. -/
theorem classNames_other_brace {d : Char} (outside : Text.isWordChar d = false)
    (visible : Text.isBlank d = false) :
    classNames (start ++ d :: (gap ++ ['\x7b'])) = classNames (start ++ d :: gap) := by
  rw [classNames_append_cons outside visible, classNames_append_cons outside visible start gap,
    classNames_blanks_brace blank, classNames_blanks blank]

end Blanks

/-- One more brace makes a name of the word before it, if there is one. -/
theorem classNames_concat_brace (line : Text) :
    classNames (line ++ ['\x7b']) = classNames line ++ (nameBefore? line).toList := by
  have blank : Text.IsBlanks (line.rtakeWhile Text.isBlank) := fun c => List.mem_rtakeWhile_imp
  have visible : ∀ c, (line.rdropWhile Text.isBlank).getLast? = some c → Text.isBlank c = false :=
    fun c => Text.not_of_getLast?_rdropWhile
  have whole : line.rdropWhile Text.isBlank ++ line.rtakeWhile Text.isBlank = line :=
    List.rdropWhile_append_rtakeWhile
  unfold nameBefore?
  generalize line.rdropWhile Text.isBlank = close at whole visible ⊢
  generalize line.rtakeWhile Text.isBlank = gap at whole blank
  subst whole
  dsimp only
  cases ends : Text.inWord close.getLast? with
  | true =>
      obtain ⟨start, split, isWord, left⟩ := Text.exists_append_word ends
      generalize close.rtakeWhile Text.isWordChar = word at split isWord ⊢
      subst split
      rw [List.append_assoc, List.append_assoc, classNames_word_brace blank left isWord,
        List.append_assoc]
      rfl
  | false =>
      simp only [Bool.false_eq_true, if_false, Option.toList_none, List.append_nil]
      rcases List.eq_nil_or_concat close with rfl | ⟨start, d, rfl⟩
      · rw [List.nil_append, classNames_blanks_brace blank, classNames_blanks blank]
      · rw [List.concat_eq_append] at ends visible ⊢
        have other : Text.isWordChar d = false := by simpa [Text.inWord] using ends
        have shown : Text.isBlank d = false := visible d List.getLast?_concat
        rw [List.append_assoc, List.append_assoc, List.append_assoc]
        exact classNames_other_brace blank other shown

theorem classNames_concat {c : Char} (other : c ≠ '\x7b') (line : Text) :
    classNames (line ++ [c]) = classNames line := by
  rcases splitHeader_cases line with ⟨unopened, -⟩ | ⟨front, body, unopened, rfl, -⟩
  · have still : '\x7b' ∉ line ++ [c] := by simp [unopened, Ne.symm other]
    rw [classNames_eq_nil still, classNames_eq_nil unopened]
  · have still : '\x7b' ∉ body ++ [c] := by simp [unopened, Ne.symm other]
    rw [List.append_assoc, List.cons_append, classNames_append_brace,
      classNames_append_brace front body, classNames_eq_nil still, classNames_eq_nil unopened]

/-- The names of a line are those that its braces give, in the order of the braces. -/
theorem classNames_eq_filterMap (line : Text) :
    classNames line = (List.range line.length).filterMap (nameAt? line) := by
  induction line using List.reverseRecOn with
  | nil => rfl
  | append_singleton line c ih =>
      have before : (List.range line.length).filterMap (nameAt? (line ++ [c]))
          = (List.range line.length).filterMap (nameAt? line) := by
        refine List.filterMap_congr fun i member => ?_
        have inside : i < line.length := List.mem_range.mp member
        rw [nameAt?, nameAt?, List.getElem?_append_left inside,
          List.take_append_of_le_length inside.le]
      have last : nameAt? (line ++ [c]) line.length
          = if c = '\x7b' then nameBefore? line else none := by
        simp [nameAt?]
      rw [List.length_append, List.length_singleton, List.range_succ, List.filterMap_append, before,
        ← ih]
      by_cases brace : c = '\x7b'
      · rw [if_pos brace] at last
        rw [List.filterMap_cons, last, brace, classNames_concat_brace]
        cases nameBefore? line <;> rfl
      · rw [if_neg brace] at last
        rw [List.filterMap_cons, last, classNames_concat brace, List.filterMap_nil, List.append_nil]

end Braces

section Searching

open Pattern

/-- What is searched after the name of a class: an opening brace behind white space. -/
def bodyPattern : Pattern :=
  .seq (.many Text.isBlank) (.one (· = '\x7b'))

/-- The name of a class as it is searched: a word, and what is searched after it. -/
def headerPattern : Pattern :=
  .seq wordPattern bodyPattern

/-- Whether a character is taken away at the ends of a name. -/
def isPadding (c : Char) : Bool :=
  c = '\x7b' || isSpaceOrTab c

/-- The name that the groups of a fit tell. -/
def nameOfGroups? : List (Option Text) → Option Text
  | [some name] => some (Text.upper ((name.dropWhile isPadding).rdropWhile isPadding))
  | _ => none

/-- A word has nothing to lose at its ends. -/
theorem nameOfGroups?_word (isWord : Text.IsWord word) :
    nameOfGroups? [some word] = some (Text.upper word) := by
  have inside : ∀ c ∈ word, isPadding c = false := by
    intro c member
    have isWordChar := isWord.2 c member
    simp [isPadding, ne_brace_of_word isWordChar, not_isSpaceOrTab_of_word isWordChar]
  have front : word.dropWhile isPadding = word := by
    cases word with
    | nil => rfl
    | cons c more => exact List.dropWhile_cons_of_neg (by simp [inside c List.mem_cons_self])
  have back : word.rdropWhile isPadding = word := by
    rw [List.rdropWhile_eq_self_iff]
    intro nonempty
    simp [inside _ (List.getLast_mem nonempty)]
  rw [nameOfGroups?, front, back]

theorem fits_bodyPattern_eq_nil (closed : opensBody rest = false) : bodyPattern.fits rest = [] := by
  rw [List.eq_nil_iff_forall_not_mem]
  intro m fit
  obtain ⟨front, fitBlanks, next, fitBrace, -⟩ := mem_fits_seq_iff.mp fit
  obtain ⟨gap, left, whole, blank, rfl⟩ := mem_fits_many_iff.mp fitBlanks
  obtain ⟨c, more, split, isBrace, -⟩ := mem_fits_one_iff.mp fitBrace
  obtain rfl : c = '\x7b' := of_decide_eq_true isBrace
  have opens : opensBody rest = true := opensBody_iff.mpr ⟨gap, more, by rw [whole, ← split], blank⟩
  rw [closed] at opens
  cases opens

/-- A text that begins with a word leads to no brace before it. -/
theorem opensBody_of_word (begins : Text.inWord rest.head? = true) : opensBody rest = false := by
  have first : ∀ c, rest.head? = some c → Text.isWordChar c = true := by
    intro c here
    rw [here] at begins
    exact begins
  show opensBody ([] ++ rest) = false
  rw [opensBody_append_of_word first]
  rfl

/-- A word that leads to no brace is passed over. -/
theorem search_headerPattern_word_append (isWord : Text.IsWord word)
    (edge : Text.inWord rest.head? = false) (closed : opensBody rest = false) :
    headerPattern.search (word ++ rest) = headerPattern.search rest := by
  apply search_word_append isWord edge
  · intro text begins
    exact fits_bodyPattern_eq_nil (opensBody_of_word begins)
  · exact fits_bodyPattern_eq_nil closed

/-- A word that leads to a brace is found whole, and the search goes on behind the brace. -/
theorem search_headerPattern_of_brace {gap more : Text} (isWord : Text.IsWord word)
    (blank : Text.IsBlanks gap) :
    headerPattern.search (word ++ (gap ++ '\x7b' :: more))
      = some ⟨word ++ (gap ++ ['\x7b']), [some word], more⟩ := by
  have edge : Text.inWord (gap ++ '\x7b' :: more).head? = false :=
    inWord_head?_blanks_append blank brace_not_word
  have stops : ∀ c, ('\x7b' :: more).head? = some c → Text.isBlank c = false := by
    rintro c ⟨⟩
    decide
  obtain ⟨_, wordWays, -⟩ := fits_wordPattern_append isWord edge
  obtain ⟨_, gapWays, -⟩ := takes_append blank stops
  have gapWay : ((Pattern.many Text.isBlank).fits (gap ++ '\x7b' :: more)).head?
      = some ⟨gap, [], '\x7b' :: more⟩ := by
    rw [fits, gapWays]
    rfl
  have braceWay : ((Pattern.one (· = '\x7b')).fits ('\x7b' :: more)).head?
      = some ⟨['\x7b'], [], more⟩ := rfl
  have bodyWay := head?_fits_seq gapWay braceWay
  exact search_of_head? (head?_fits_seq (List.head?_eq_some_iff.mpr ⟨_, wordWays⟩) bodyWay)

/-- A search for all names finds the names that are read. -/
theorem findAll_headerPattern (line : Text) :
    (headerPattern.findAll line).map (fun m => nameOfGroups? m.groups)
      = (classNames line).map some := by
  induction line using Text.word_induction with
  | nil =>
      rw [findAll_eq]
      rfl
  | gap c rest outside ih =>
      have same : headerPattern.search (c :: rest) = headerPattern.search rest :=
        search_append_left (List.forall_mem_singleton.mpr outside) _ rest
      rw [findAll_congr same, classNames_cons outside, ih]
  | word word rest isWord edge ih =>
      rw [classNames_word_append isWord edge]
      cases opens : opensBody rest with
      | false =>
          rw [findAll_congr (search_headerPattern_word_append isWord edge opens), ih]
          rfl
      | true =>
          obtain ⟨gap, more, rfl, blank⟩ := opensBody_iff.mp opens
          have outside : ∀ c ∈ gap ++ ['\x7b'], Text.isWordChar c = false :=
            List.forall_mem_append.mpr ⟨fun c member => Text.not_word_of_isBlank (blank c member),
              List.forall_mem_singleton.mpr brace_not_word⟩
          -- The white space and the brace begin no other name.
          have later : headerPattern.search (gap ++ '\x7b' :: more)
              = headerPattern.search more := by
            rw [List.append_cons]
            exact search_append_left outside _ more
          rw [findAll_congr later] at ih
          rw [findAll_eq, search_headerPattern_of_brace isWord blank, Option.elim_some,
            if_neg (List.append_ne_nil_of_left_ne_nil isWord.1 _), List.map_cons, ih,
            nameOfGroups?_word isWord]
          rfl

end Searching

/-- A line falls into its header and the body on the same line, which begins after the last opening
brace. The names of the line are those that a search for words before braces finds. They are also
those that its braces give, one brace after the other, and nothing else: the whole word, in upper
case, that ends where the white space before the brace begins, if a word ends there. So all of them
are names of the header. -/
theorem names_end_at_braces (line : Text) :
    ((splitHeader line).1 ++ (splitHeader line).2 = line ∧ '\x7b' ∉ (splitHeader line).2 ∧
        if '\x7b' ∈ line then (splitHeader line).1.getLast? = some '\x7b'
        else (splitHeader line).2 = []) ∧
      (headerPattern.findAll line).map (fun m => nameOfGroups? m.groups)
        = (classNames line).map some ∧
      classNames line = (List.range line.length).filterMap (nameAt? line) ∧
      classNames (splitHeader line).1 = classNames line := by
  refine ⟨?_, findAll_headerPattern line, classNames_eq_filterMap line, ?_⟩
  · rcases splitHeader_cases line with ⟨unopened, split⟩ | ⟨front, body, unopened, rfl, split⟩
    · rw [split, if_neg unopened]
      exact ⟨List.append_nil line, List.not_mem_nil, rfl⟩
    · rw [split, if_pos (by simp)]
      exact ⟨(List.append_cons front '\x7b' body).symm, unopened, List.getLast?_concat⟩
  · rcases splitHeader_cases line with ⟨-, split⟩ | ⟨front, body, unopened, rfl, split⟩
    · rw [split]
    · rw [split, classNames_append_brace front body, classNames_eq_nil unopened, List.append_nil]

example : classNames "a b\u2003\x7b \x7b c-\x7b d\x7b\x7be".toList = ["B".toList, "D".toList] := by
  decide +kernel

end ClassDiagram.Line
