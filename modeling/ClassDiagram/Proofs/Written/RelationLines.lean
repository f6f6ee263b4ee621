import ClassDiagram.Proofs.Relations
import ClassDiagram.Proofs.Text.Trim

/-!
# Relation lines as they are written

A relation line is five fields with white space between them, and whatever follows the fifth. A line
is read exactly if it is written like that and its second and fourth fields, in upper case and
without double quotes, spell cardinalities. Of the faults a line may have, too few fields come first
and the left cardinality comes before the right one.
-/

namespace ClassDiagram

namespace Text

/-- White space between two fields. -/
def IsSpace (text : Text) : Prop :=
  text ≠ [] ∧ IsBlanks text

end Text

/-- The parts of a relation line. -/
structure RelationLine where
  indent : Text
  left : Text
  beforeLeftToken : Text
  leftToken : Text
  beforeLabel : Text
  label : Text
  beforeRightToken : Text
  rightToken : Text
  beforeRight : Text
  right : Text
  rest : Text

namespace RelationLine

/-- The line as it is written. -/
def text (w : RelationLine) : Text :=
  w.indent ++ (w.left ++ (w.beforeLeftToken ++ (w.leftToken ++ (w.beforeLabel ++ (w.label
    ++ (w.beforeRightToken ++ (w.rightToken ++ (w.beforeRight ++ (w.right ++ w.rest)))))))))

/-- Five fields with white space between them. Before the first one there may be white space, and
after the last one anything that does not go on with it. -/
structure IsWellFormed (w : RelationLine) : Prop where
  indent : Text.IsBlanks w.indent
  left : Text.IsField w.left
  beforeLeftToken : Text.IsSpace w.beforeLeftToken
  leftToken : Text.IsField w.leftToken
  beforeLabel : Text.IsSpace w.beforeLabel
  label : Text.IsField w.label
  beforeRightToken : Text.IsSpace w.beforeRightToken
  rightToken : Text.IsField w.rightToken
  beforeRight : Text.IsSpace w.beforeRight
  right : Text.IsField w.right
  rest : Text.EndsField w.rest

/-- A well-formed line has its five fields and those of what follows them. -/
theorem IsWellFormed.fields_text {w : RelationLine} (wellFormed : w.IsWellFormed) :
    Text.fields w.text
      = w.left :: w.leftToken :: w.label :: w.rightToken :: w.right :: Text.fields w.rest := by
  have next : ∀ {field gap rest : Text}, Text.IsField field → Text.IsSpace gap →
      Text.fields (field ++ (gap ++ rest)) = field :: Text.fields rest := by
    intro field gap rest isField space
    rw [Text.fields_field_append isField (Text.endsField_append space.1 space.2 rest),
      Text.fields_blanks_append space.2]
  rw [text, Text.fields_blanks_append wellFormed.indent,
    next wellFormed.left wellFormed.beforeLeftToken,
    next wellFormed.leftToken wellFormed.beforeLabel,
    next wellFormed.label wellFormed.beforeRightToken,
    next wellFormed.rightToken wellFormed.beforeRight,
    Text.fields_field_append wellFormed.right wellFormed.rest]

/-- A line with at least five fields is written with these. -/
theorem exists_of_fields {line left leftToken label rightToken right : Text} {more : List Text}
    (fields : Text.fields line = left :: leftToken :: label :: rightToken :: right :: more) :
    ∃ w : RelationLine, w.IsWellFormed ∧ w.text = line ∧ w.left = left ∧ w.leftToken = leftToken ∧
      w.label = label ∧ w.rightToken = rightToken ∧ w.right = right := by
  have spaced := Text.spaced_iff.mpr fields
  cases spaced with
  | @field gap _ _ _ indent isLeft endsLeft tail =>
  cases tail with
  | @field gap₁ _ _ _ blank₁ isLeftToken endsLeftToken tail =>
  cases tail with
  | @field gap₂ _ _ _ blank₂ isLabel endsLabel tail =>
  cases tail with
  | @field gap₃ _ _ _ blank₃ isRightToken endsRightToken tail =>
  cases tail with
  | @field gap₄ _ rest _ blank₄ isRight endsRight tail =>
      refine ⟨⟨gap, left, gap₁, leftToken, gap₂, label, gap₃, rightToken, gap₄, right, rest⟩, ?_,
        rfl, rfl, rfl, rfl, rfl, rfl⟩
      exact {
        indent := indent
        left := isLeft
        beforeLeftToken := ⟨endsLeft.gap_ne_nil isLeftToken, blank₁⟩
        leftToken := isLeftToken
        beforeLabel := ⟨endsLeftToken.gap_ne_nil isLabel, blank₂⟩
        label := isLabel
        beforeRightToken := ⟨endsLabel.gap_ne_nil isRightToken, blank₃⟩
        rightToken := isRightToken
        beforeRight := ⟨endsRightToken.gap_ne_nil isRight, blank₄⟩
        right := isRight
        rest := endsRight }

/-- A line either has fewer than five fields or is written with five. -/
theorem few_or_exists (line : Text) :
    (Text.fields line).length < 5 ∨ ∃ w : RelationLine, w.IsWellFormed ∧ w.text = line := by
  rcases fields : Text.fields line with _ | ⟨left, _ | ⟨leftToken, _ | ⟨label, _ | ⟨rightToken,
    _ | ⟨right, more⟩⟩⟩⟩⟩
  · exact Or.inl (by simp)
  · exact Or.inl (by simp)
  · exact Or.inl (by simp)
  · exact Or.inl (by simp)
  · exact Or.inl (by simp)
  · obtain ⟨w, wellFormed, whole, -⟩ := exists_of_fields fields
    exact Or.inr ⟨w, wellFormed, whole⟩

end RelationLine

namespace Cardinality

/-- The spellings as a map. -/
def spellingMap : OrderedMap Cardinality :=
  ⟨spellings, by decide⟩

/-- A token without white space is a cardinality exactly if it is one of the spellings. -/
theorem ofToken?_eq_some_iff {token : Text} {c : Cardinality}
    (inside : ∀ d ∈ token, Text.isBlank d = false) :
    ofToken? token = some c ↔ (token, c) ∈ spellings := by
  rw [ofToken?, Text.trim_eq_self inside]
  exact OrderedMap.get?_eq_some_iff (m := spellingMap)

end Cardinality

namespace Relation

/-- A field has no white space in the form in which it is read. -/
theorem not_blank_of_mem_normalizeWord {field : Text} (isField : Text.IsField field) :
    ∀ d ∈ normalizeWord field, Text.isBlank d = false := by
  intro d member
  rw [Bool.eq_false_iff]
  intro blank
  have before := Text.blank_mem_of_mem_upper blank (List.mem_filter.mp member).1
  rw [isField.2 d before] at blank
  cases blank

/-- A field spells a cardinality exactly if it is one of the spellings in upper case and without
double quotes. -/
theorem requireCardinality_field (number : Option Int) {field : Text}
    (isField : Text.IsField field) :
    (∀ c, requireCardinality number (normalizeWord field) = .ok c ↔
        (normalizeWord field, c) ∈ Cardinality.spellings) ∧
      ∀ e, requireCardinality number (normalizeWord field) = .error e ↔
        (∀ c, (normalizeWord field, c) ∉ Cardinality.spellings) ∧
          e = ⟨.unknownCardinality (normalizeWord field), number⟩ := by
  have spelled := fun c => Cardinality.ofToken?_eq_some_iff (c := c)
    (not_blank_of_mem_normalizeWord isField)
  simp only [← spelled]
  unfold requireCardinality
  cases Cardinality.ofToken? (normalizeWord field) with
  | some c => simp
  | none => simp [eq_comm]

/-- A line with fewer than five fields is refused whatever they are. -/
theorem read_of_few {line : Text} (few : (Text.fields line).length < 5) (number : Option Int) :
    read number line = .error ⟨.malformedRelation line, number⟩ := by
  unfold read
  split
  · rename_i words
    have length := congrArg List.length words
    simp only [List.length_map, List.length_cons] at length
    omega
  · rfl

/-- A line with five fields is read from these. -/
theorem read_text {w : RelationLine} (wellFormed : w.IsWellFormed) (number : Option Int) :
    read number w.text = (do
      let leftCardinality ← requireCardinality number (normalizeWord w.leftToken)
      let rightCardinality ← requireCardinality number (normalizeWord w.rightToken)
      .ok ⟨normalizeWord w.left, leftCardinality, normalizeWord w.label, rightCardinality,
        normalizeWord w.right⟩) := by
  rw [read, wellFormed.fields_text]
  rfl

/-- A line with five fields is read exactly if the second and the fourth one spell cardinalities. -/
theorem read_text_eq_ok_iff {w : RelationLine} (wellFormed : w.IsWellFormed) (number : Option Int)
    (r : Relation) :
    read number w.text = .ok r ↔
      ∃ leftCardinality rightCardinality,
        (normalizeWord w.leftToken, leftCardinality) ∈ Cardinality.spellings ∧
          (normalizeWord w.rightToken, rightCardinality) ∈ Cardinality.spellings ∧
            r = ⟨normalizeWord w.left, leftCardinality, normalizeWord w.label, rightCardinality,
              normalizeWord w.right⟩ := by
  obtain ⟨leftOk, -⟩ := requireCardinality_field number wellFormed.leftToken
  obtain ⟨rightOk, -⟩ := requireCardinality_field number wellFormed.rightToken
  simp only [read_text wellFormed, ← leftOk, ← rightOk]
  cases requireCardinality number (normalizeWord w.leftToken) with
  | error e => simp [bind, Except.bind]
  | ok leftCardinality =>
      cases requireCardinality number (normalizeWord w.rightToken) with
      | error e => simp [bind, Except.bind]
      | ok rightCardinality => simp [bind, Except.bind, eq_comm]

/-- A line with five fields is refused for the second one, and for the fourth one only if the second
one is a spelling. -/
theorem read_text_eq_error_iff {w : RelationLine} (wellFormed : w.IsWellFormed)
    (number : Option Int) (e : LineFault) :
    read number w.text = .error e ↔
      ((∀ c, (normalizeWord w.leftToken, c) ∉ Cardinality.spellings) ∧
          e = ⟨.unknownCardinality (normalizeWord w.leftToken), number⟩) ∨
        (∃ c, (normalizeWord w.leftToken, c) ∈ Cardinality.spellings) ∧
          (∀ c, (normalizeWord w.rightToken, c) ∉ Cardinality.spellings) ∧
            e = ⟨.unknownCardinality (normalizeWord w.rightToken), number⟩ := by
  obtain ⟨leftOk, leftError⟩ := requireCardinality_field number wellFormed.leftToken
  obtain ⟨rightOk, rightError⟩ := requireCardinality_field number wellFormed.rightToken
  rw [← leftError, ← rightError, read_text wellFormed]
  simp only [← leftOk]
  cases requireCardinality number (normalizeWord w.leftToken) with
  | error e => simp [bind, Except.bind]
  | ok leftCardinality =>
      cases requireCardinality number (normalizeWord w.rightToken) with
      | error e => simp [bind, Except.bind]
      | ok rightCardinality => simp [bind, Except.bind]

/-- A relation line is read exactly if it is five fields with white space between them, and anything
after them, of which the second and the fourth spell cardinalities in upper case and without double
quotes; the other three are the names and the label in that form. Every other line is refused: for
itself if it has fewer fields, whatever they are, otherwise for its second field if that is no
spelling, otherwise for its fourth. A fault has the number of the line. -/
theorem read_accepts_written_lines (number : Option Int) (line : Text) :
    (∀ r, read number line = .ok r ↔
      ∃ w : RelationLine, w.IsWellFormed ∧ w.text = line ∧
        ∃ leftCardinality rightCardinality,
          ((Text.upper w.leftToken).filter (· ≠ '"'), leftCardinality) ∈ Cardinality.spellings ∧
            ((Text.upper w.rightToken).filter (· ≠ '"'), rightCardinality)
                ∈ Cardinality.spellings ∧
              r = ⟨(Text.upper w.left).filter (· ≠ '"'), leftCardinality,
                (Text.upper w.label).filter (· ≠ '"'), rightCardinality,
                (Text.upper w.right).filter (· ≠ '"')⟩) ∧
    ∀ e, read number line = .error e ↔
      (∃ words, Text.Spaced line words ∧ words.length < 5 ∧
          e = ⟨.malformedRelation line, number⟩) ∨
        ∃ w : RelationLine, w.IsWellFormed ∧ w.text = line ∧
          (((∀ c, ((Text.upper w.leftToken).filter (· ≠ '"'), c) ∉ Cardinality.spellings) ∧
              e = ⟨.unknownCardinality ((Text.upper w.leftToken).filter (· ≠ '"')), number⟩) ∨
            (∃ c, ((Text.upper w.leftToken).filter (· ≠ '"'), c) ∈ Cardinality.spellings) ∧
              (∀ c, ((Text.upper w.rightToken).filter (· ≠ '"'), c) ∉ Cardinality.spellings) ∧
                e = ⟨.unknownCardinality ((Text.upper w.rightToken).filter (· ≠ '"')),
                  number⟩) := by
  have enough : ∀ {w : RelationLine}, w.IsWellFormed → w.text = line →
      5 ≤ (Text.fields line).length := by
    rintro w wellFormed rfl
    simp [wellFormed.fields_text]
  simp only [Text.spaced_iff]
  rcases RelationLine.few_or_exists line with few | ⟨w, wellFormed, rfl⟩
  · have unwritten : ¬ ∃ w : RelationLine, w.IsWellFormed ∧ w.text = line := by
      rintro ⟨w, wellFormed, whole⟩
      have many := enough wellFormed whole
      omega
    rw [read_of_few few number]
    constructor
    · intro r
      constructor
      · intro accepted
        cases accepted
      · rintro ⟨w, wellFormed, whole, -⟩
        exact absurd ⟨w, wellFormed, whole⟩ unwritten
    · intro e
      constructor
      · rintro ⟨⟩
        exact Or.inl ⟨_, rfl, few, rfl⟩
      · rintro (⟨words, -, -, rfl⟩ | ⟨w, wellFormed, whole, -⟩)
        · rfl
        · exact absurd ⟨w, wellFormed, whole⟩ unwritten
  · -- What another way to write the line says is what reading it says.
    constructor
    · intro r
      constructor
      · intro accepted
        exact ⟨w, wellFormed, rfl, (read_text_eq_ok_iff wellFormed number r).mp accepted⟩
      · rintro ⟨other, otherWellFormed, whole, spelled⟩
        rw [← whole]
        exact (read_text_eq_ok_iff otherWellFormed number r).mpr spelled
    · intro e
      constructor
      · intro refused
        exact Or.inr ⟨w, wellFormed, rfl, (read_text_eq_error_iff wellFormed number e).mp refused⟩
      · rintro (⟨words, rfl, few, -⟩ | ⟨other, otherWellFormed, whole, faulty⟩)
        · have many := enough wellFormed rfl
          omega
        · rw [← whole]
          exact (read_text_eq_error_iff otherWellFormed number e).mpr faulty

end Relation

end ClassDiagram
