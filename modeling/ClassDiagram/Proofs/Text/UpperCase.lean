import ClassDiagram.Proofs.Text.CaseTables

/-!
# Capitals are their own capitals

Upper-casing a text twice is upper-casing it once, and no text is lost by it.
-/

namespace ClassDiagram.Text

private theorem upper_areSettled : areSettled upperSpans upperExpansions = true := by
  decide +kernel

/-- Every character of a capital is its own capital. -/
theorem upperChar_of_mem_upperChar {c d : Char} (member : d ∈ upperChar c) : upperChar d = [d] :=
  caseImage_of_mem upper_areSettled member

theorem upperChar_ne_nil (c : Char) : upperChar c ≠ [] :=
  caseImage_ne_nil upper_areSettled c

/-- A text all of whose characters are their own capitals is in upper case. -/
theorem upper_eq_self {text : Text} (capitals : ∀ c ∈ text, upperChar c = [c]) :
    upper text = text := by
  induction text with
  | nil => rfl
  | cons c rest ih =>
      have tail := ih fun d member => capitals d (List.mem_cons_of_mem _ member)
      rw [upper, List.flatMap_cons, capitals c List.mem_cons_self, ← upper, tail]
      rfl

/-- What is kept of a text in upper case is in upper case. -/
theorem upper_filter_upper (keep : Char → Bool) (text : Text) :
    upper ((upper text).filter keep) = (upper text).filter keep := by
  apply upper_eq_self
  intro d member
  obtain ⟨c, _, image⟩ := List.mem_flatMap.mp (List.mem_filter.mp member).1
  exact upperChar_of_mem_upperChar image

theorem upper_upper (text : Text) : upper (upper text) = upper text := by
  apply upper_eq_self
  intro d member
  obtain ⟨c, _, image⟩ := List.mem_flatMap.mp member
  exact upperChar_of_mem_upperChar image

theorem upper_eq_nil_iff {text : Text} : upper text = [] ↔ text = [] := by
  cases text with
  | nil => exact ⟨fun _ => rfl, fun _ => rfl⟩
  | cons c rest =>
      simp only [upper, List.flatMap_cons, List.append_eq_nil_iff, upperChar_ne_nil, false_and,
        reduceCtorEq]

end ClassDiagram.Text
