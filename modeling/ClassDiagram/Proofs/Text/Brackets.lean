import ClassDiagram.Proofs.Text.Lines
import ClassDiagram.Proofs.Text.Runs
import ClassDiagram.Proofs.Text.UpperCase

/-!
# Texts without brackets

Case mapping makes no opening bracket of another character, which its tables tell of any code point.
Trimming adds none, and there is none in a word or a number.
-/

namespace ClassDiagram.Text

private theorem bracket_unmade :
    (imageBits upperSpans upperExpansions).testBit '['.toNat = false ∧
      (imageBits lowerSpans lowerExpansions).testBit '['.toNat = false := by
  decide +kernel

/-- A bracket in a text in upper case was there before. -/
theorem bracket_mem_of_mem_upper {text : Text} (made : '[' ∈ upper text) : '[' ∈ text := by
  obtain ⟨c, inside, image⟩ := List.mem_flatMap.mp made
  rwa [eq_of_unmade bracket_unmade.1 (by decide) image]

theorem bracket_mem_of_mem_lowerAfter {text : Text} {afterCased : Bool}
    (made : '[' ∈ lowerAfter afterCased text) : '[' ∈ text := by
  induction text generalizing afterCased with
  | nil => exact made
  | cons c rest ih =>
      rw [lowerAfter, List.mem_append] at made
      rcases made with here | later
      · split at here
        · split at here <;> exact absurd here (by decide)
        · rw [eq_of_unmade bracket_unmade.2 (by decide) here]
          exact List.mem_cons_self
      · exact List.mem_cons_of_mem _ (ih later)

/-- A bracket in a text in lower case was there before. -/
theorem bracket_mem_of_mem_lower {text : Text} (made : '[' ∈ lower text) : '[' ∈ text :=
  bracket_mem_of_mem_lowerAfter made

theorem mem_of_mem_trim {text : Text} {c : Char} (inside : c ∈ trim text) : c ∈ text := by
  obtain ⟨ending, whole, -⟩ := exists_dropEndWhile_append isBlank (text.dropWhile isBlank)
  have kept : c ∈ text.dropWhile isBlank := by
    rw [whole]
    exact List.mem_append_left _ inside
  exact (List.dropWhile_sublist _).mem kept

theorem bracket_not_mem_ofNat (n : Nat) : '[' ∉ ofNat n :=
  fun inside => absurd (Nat.isDigit_of_mem_toDigits (by decide) (by decide) inside) (by decide)

theorem IsWord.bracket_not_mem {word : Text} (isWord : IsWord word) : '[' ∉ word :=
  fun inside => absurd (isWord.2 _ inside) (by decide +kernel)

end ClassDiagram.Text
