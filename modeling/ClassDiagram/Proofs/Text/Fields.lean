import ClassDiagram.Proofs.Text.Brackets

/-!
# Fields between white space

A text is made of fields with white space around them in one way only: two fields are apart, so none
of them could be longer, and these are the fields that are read. Upper case makes no white space of
other characters, so a field in upper case is still a field, or nothing once characters are left out.
-/

namespace ClassDiagram.Text

/-- A field by itself: some characters, none of them white space. -/
def IsField (text : Text) : Prop :=
  text ≠ [] ∧ ∀ c ∈ text, isBlank c = false

/-- White space, or nothing. -/
def IsBlanks (text : Text) : Prop :=
  ∀ c ∈ text, isBlank c = true

/-- What does not go on with a field: nothing, or what begins with white space. -/
def EndsField (text : Text) : Prop :=
  ∀ c, text.head? = some c → isBlank c = true

/-- How a text is made of fields with white space around them. -/
inductive Spaced : Text → List Text → Prop where
  | blanks {gap : Text} (blank : IsBlanks gap) : Spaced gap []
  | field {gap field rest : Text} {more : List Text} (blank : IsBlanks gap)
      (isField : IsField field) (ends : EndsField rest) (tail : Spaced rest more) :
      Spaced (gap ++ (field ++ rest)) (field :: more)

theorem endsField_nil : EndsField [] := by
  intro c head
  cases head

/-- White space ends a field, whatever follows it. -/
theorem endsField_append {gap : Text} (nonempty : gap ≠ []) (blank : IsBlanks gap) (rest : Text) :
    EndsField (gap ++ rest) := by
  intro c head
  cases gap with
  | nil => exact absurd rfl nonempty
  | cons d more =>
      rw [List.cons_append, List.head?_cons, Option.some.injEq] at head
      exact head ▸ blank d List.mem_cons_self

/-- Between two fields there is some white space. -/
theorem EndsField.gap_ne_nil {gap field rest : Text} (ends : EndsField (gap ++ (field ++ rest)))
    (isField : IsField field) : gap ≠ [] := by
  rintro rfl
  obtain ⟨nonempty, inside⟩ := isField
  cases field with
  | nil => exact nonempty rfl
  | cons c more =>
      have blank := ends c rfl
      rw [inside c List.mem_cons_self] at blank
      cases blank

theorem fields_cons_blank {c : Char} (blank : isBlank c = true) (rest : Text) :
    fields (c :: rest) = fields rest := by
  rw [fields.eq_def]
  exact if_pos blank

/-- A character that is not white space begins a field of its own in front of white space. -/
theorem fields_cons_end {c : Char} {rest : Text} (inside : isBlank c = false)
    (ends : EndsField rest) : fields (c :: rest) = [c] :: fields rest := by
  rw [fields.eq_def]
  cases rest with
  | nil => simp [inside, fields]
  | cons d rest => simp [inside, ends d rfl]

/-- A character that is not white space joins the field after it. -/
theorem fields_cons_join {c d : Char} {rest field : Text} {more : List Text}
    (inside : isBlank c = false) (next : isBlank d = false)
    (begins : fields (d :: rest) = field :: more) :
    fields (c :: d :: rest) = (c :: field) :: more := by
  rw [fields.eq_def]
  simp [inside, next, begins]

/-- White space in front of a text has no part in its fields. -/
theorem fields_blanks_append {gap : Text} (blank : IsBlanks gap) (rest : Text) :
    fields (gap ++ rest) = fields rest := by
  induction gap with
  | nil => rfl
  | cons c gap ih =>
      obtain ⟨first, others⟩ := List.forall_mem_cons.mp blank
      rw [List.cons_append, fields_cons_blank first]
      exact ih others

/-- A field in front of what does not go on with it is the first one. -/
theorem fields_field_append {field rest : Text} (isField : IsField field) (ends : EndsField rest) :
    fields (field ++ rest) = field :: fields rest := by
  obtain ⟨nonempty, inside⟩ := isField
  induction field with
  | nil => exact absurd rfl nonempty
  | cons c field ih =>
      obtain ⟨first, others⟩ := List.forall_mem_cons.mp inside
      cases field with
      | nil => exact fields_cons_end first ends
      | cons d field =>
          exact fields_cons_join first (others d List.mem_cons_self)
            (ih (List.cons_ne_nil d field) others)

theorem Spaced.fields_eq {text : Text} {words : List Text} (spaced : Spaced text words) :
    fields text = words := by
  induction spaced with
  | @blanks gap blank =>
      have nothing := fields_blanks_append blank []
      rwa [List.append_nil] at nothing
  | field blank isField ends tail ih =>
      rw [fields_blanks_append blank, fields_field_append isField ends, ih]

theorem Spaced.cons_blank {c : Char} {text : Text} {words : List Text} (blank : isBlank c = true)
    (spaced : Spaced text words) : Spaced (c :: text) words := by
  cases spaced with
  | blanks others => exact .blanks (List.forall_mem_cons.mpr ⟨blank, others⟩)
  | field others isField ends tail =>
      exact .field (List.forall_mem_cons.mpr ⟨blank, others⟩) isField ends tail

/-- A field in front of what does not go on with it, with no white space before it. -/
theorem Spaced.first {field rest : Text} {more : List Text} (isField : IsField field)
    (ends : EndsField rest) (tail : Spaced rest more) : Spaced (field ++ rest) (field :: more) := by
  have blank : IsBlanks [] := fun c member => absurd member List.not_mem_nil
  exact .field blank isField ends tail

/-- Every text is made of its fields. -/
theorem spaced_fields (text : Text) : Spaced text (fields text) := by
  induction text with
  | nil => exact .blanks (by simp [IsBlanks])
  | cons c rest ih =>
      by_cases blank : isBlank c = true
      · rw [fields_cons_blank blank]
        exact ih.cons_blank blank
      · rw [Bool.not_eq_true] at blank
        have alone : IsField [c] := ⟨List.cons_ne_nil c [], by simpa using blank⟩
        cases rest with
        | nil =>
            rw [fields_cons_end blank endsField_nil]
            exact .first alone endsField_nil ih
        | cons d rest =>
            by_cases next : isBlank d = true
            · have ends : EndsField (d :: rest) := by
                rintro e ⟨⟩
                exact next
              rw [fields_cons_end blank ends]
              exact .first alone ends ih
            · -- The next character is in the first field, which the new one joins.
              generalize whole : d :: rest = text at ih
              generalize begins : fields text = words at ih
              cases ih with
              | blanks others => exact absurd (others d (by rw [← whole]; simp)) next
              | @field gap word rest' more others isField ends tail =>
                  cases gap with
                  | cons e gap =>
                      obtain ⟨rfl, -⟩ := List.cons.inj whole
                      exact absurd (others d List.mem_cons_self) next
                  | nil =>
                      have joined : IsField (c :: word) :=
                        ⟨List.cons_ne_nil c word, List.forall_mem_cons.mpr ⟨blank, isField.2⟩⟩
                      rw [← whole] at begins ⊢
                      rw [fields_cons_join blank (by simpa using next) begins, whole]
                      exact .first joined ends tail

/-- The fields of a text are the only ones that it is made of. -/
theorem spaced_iff {text : Text} {words : List Text} : Spaced text words ↔ fields text = words :=
  ⟨Spaced.fields_eq, fun same => same ▸ spaced_fields text⟩

theorem ne_null_of_isBlank {c : Char} (blank : isBlank c = true) : c ≠ '\x00' := by
  rintro rfl
  revert blank
  decide

private theorem blank_apart :
    areApart (rangeBits blankRanges) (imageBits upperSpans upperExpansions) = true := by
  decide +kernel

/-- White space in a text in upper case was there before. -/
theorem blank_mem_of_mem_upper {text : Text} {d : Char} (blank : isBlank d = true)
    (made : d ∈ upper text) : d ∈ text := by
  obtain ⟨c, inside, image⟩ := List.mem_flatMap.mp made
  have unmade := not_testBit_of_areApart blank_apart (testBit_rangeBits blank)
  rwa [eq_of_unmade unmade (ne_null_of_isBlank blank) image]

end ClassDiagram.Text
