import ClassDiagram.Proofs.Text.Fields

/-!
# Texts without white space at their ends

A text is its trimmed form between two stretches of white space. Trimming leaves a text as it is
exactly if neither of its ends is white space, so it changes nothing the second time.
-/

namespace ClassDiagram.Text

/-- Whether a text has no white space at its ends. -/
structure IsTrimmed (text : Text) : Prop where
  first : ∀ c, text.head? = some c → isBlank c = false
  last : ∀ c, text.getLast? = some c → isBlank c = false

variable {text : Text}

theorem isBlanks_append {first second : Text} (before : IsBlanks first) (after : IsBlanks second) :
    IsBlanks (first ++ second) :=
  List.forall_mem_append.mpr ⟨before, after⟩

/-- The ends of a text are not white space once it is trimmed. -/
theorem isTrimmed_trim (text : Text) : IsTrimmed (trim text) where
  first := by
    intro c begins
    obtain ⟨ending, whole, -⟩ := exists_dropEndWhile_append isBlank (text.dropWhile isBlank)
    have stops := List.head?_dropWhile_not isBlank text
    have first : (text.dropWhile isBlank).head? = some c := by
      rw [whole, List.head?_append, ← trim, begins]
      rfl
    simpa [first] using stops
  last := by
    intro c ends
    rw [trim, dropEndWhile_eq_rdropWhile] at ends
    exact not_of_getLast?_rdropWhile ends

/-- A text without white space at its ends has none to lose. -/
theorem IsTrimmed.trim_eq (trimmed : IsTrimmed text) : trim text = text := by
  have front : text.dropWhile isBlank = text := by
    cases text with
    | nil => rfl
    | cons c rest => simp [trimmed.first c rfl]
  rw [trim, front]
  rcases List.eq_nil_or_concat text with rfl | ⟨start, c, whole⟩
  · rfl
  · rw [List.concat_eq_append] at whole
    rw [whole, dropEndWhile_concat (trimmed.last c (by simp [whole])) start]

/-- A text without white space has none at its ends. -/
theorem trim_eq_self (inside : ∀ c ∈ text, isBlank c = false) : trim text = text := by
  apply IsTrimmed.trim_eq
  constructor
  · intro c begins
    exact inside c (List.mem_of_head? begins)
  · intro c ends
    exact inside c (List.mem_of_getLast? ends)

/-- A text is its trimmed form with white space around it. -/
theorem exists_trim_append (text : Text) :
    ∃ before after, text = before ++ (trim text ++ after) ∧ IsBlanks before ∧ IsBlanks after := by
  obtain ⟨after, whole, blank⟩ := exists_dropEndWhile_append isBlank (text.dropWhile isBlank)
  refine ⟨text.takeWhile isBlank, after, ?_, fun c => List.mem_takeWhile_imp, blank⟩
  rw [trim, ← whole, List.takeWhile_append_dropWhile]

end ClassDiagram.Text
