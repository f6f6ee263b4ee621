import Mathlib.Data.List.Basic
import ClassDiagram.Proofs.Text.CaseTables
import ClassDiagram.Proofs.Text.Trim

/-!
# Lower case is kept by lowering and trimming

Lowering a text twice is lowering it once: the images in the table are lower case themselves, and no
capital sigma is left whose form could depend on its neighbours. White space has no case and is made
of nothing else, so a text without white space at its ends has none there in lower case.
-/

namespace ClassDiagram.Text

private theorem lower_areSettled : areSettled lowerSpans lowerExpansions = true := by
  decide +kernel

private theorem blank_unmade :
    areApart (rangeBits blankRanges) (imageBits lowerSpans lowerExpansions) = true := by
  decide +kernel

private theorem white_apart :
    areApart (rangeBits blankRanges) (sourceBits lowerSpans lowerExpansions) = true ∧
      areApart (rangeBits blankRanges) (rangeBits casedRanges) = true ∧
        areApart (rangeBits blankRanges) (rangeBits caseIgnorableRanges) = true ∧
          areApart (rangeBits blankRanges) (rangeBits wordRanges) = true := by
  decide +kernel

section White

variable {c : Char}

theorem isCaseless_of_isBlank (blank : isBlank c = true) : IsCaseless c := by
  obtain ⟨unchanged, uncased, kept, -⟩ := white_apart
  exact ⟨caseImage_eq_self (not_testBit_of_areApart unchanged (testBit_rangeBits blank)),
    not_holds_of_areApart uncased blank, not_holds_of_areApart kept blank⟩

theorem not_word_of_isBlank (blank : isBlank c = true) : isWordChar c = false :=
  not_holds_of_areApart white_apart.2.2.2 blank

end White

/-- What lowering makes of the first character: at least one character, each of them in lower case,
and white space only of white space. -/
theorem exists_lowerAfter_cons (afterCased : Bool) (c : Char) (rest : Text) :
    ∃ image next, lowerAfter afterCased (c :: rest) = image ++ lowerAfter next rest ∧ image ≠ [] ∧
      ∀ d ∈ image, lowerChar d = [d] ∧ (isBlank d = true → d = c) := by
  rw [lowerAfter]
  refine ⟨_, _, rfl, ?_⟩
  by_cases sigma : c = 'Σ'
  · rw [if_pos sigma]
    refine ⟨List.cons_ne_nil _ _, ?_⟩
    intro d member
    rw [List.mem_singleton] at member
    split at member
    · subst member
      exact ⟨by decide +kernel, fun blank => absurd blank (by decide +kernel)⟩
    · subst member
      exact ⟨by decide +kernel, fun blank => absurd blank (by decide +kernel)⟩
  · rw [if_neg sigma]
    refine ⟨caseImage_ne_nil lower_areSettled c, ?_⟩
    intro d member
    refine ⟨caseImage_of_mem lower_areSettled member, ?_⟩
    intro blank
    have unmade := not_testBit_of_areApart blank_unmade (testBit_rangeBits blank)
    exact eq_of_unmade unmade (ne_null_of_isBlank blank) member

theorem lowerChar_of_mem_lowerAfter {text : Text} {afterCased : Bool} {d : Char}
    (member : d ∈ lowerAfter afterCased text) : lowerChar d = [d] := by
  induction text generalizing afterCased with
  | nil => cases member
  | cons c rest ih =>
      obtain ⟨image, next, whole, -, lowered⟩ := exists_lowerAfter_cons afterCased c rest
      rw [whole, List.mem_append] at member
      rcases member with here | later
      · exact (lowered d here).1
      · exact ih later

/-- A text in lower case is lowered to itself, whatever stands before it. -/
theorem lowerAfter_eq_self {text : Text} (lowered : ∀ c ∈ text, lowerChar c = [c])
    (afterCased : Bool) : lowerAfter afterCased text = text := by
  induction text generalizing afterCased with
  | nil => rfl
  | cons c rest ih =>
      obtain ⟨first, others⟩ := List.forall_mem_cons.mp lowered
      have other : c ≠ 'Σ' := by
        rintro rfl
        revert first
        decide +kernel
      rw [lowerAfter, if_neg other, first, ih others]
      rfl

theorem lower_lower (text : Text) : lower (lower text) = lower text :=
  lowerAfter_eq_self (fun _ => lowerChar_of_mem_lowerAfter) false

theorem lowerAfter_eq_nil_iff {text : Text} {afterCased : Bool} :
    lowerAfter afterCased text = [] ↔ text = [] := by
  cases text with
  | nil => exact ⟨fun _ => rfl, fun _ => rfl⟩
  | cons c rest =>
      obtain ⟨image, next, whole, nonempty, -⟩ := exists_lowerAfter_cons afterCased c rest
      rw [whole, List.append_eq_nil_iff]
      constructor
      · intro empty
        exact absurd empty.1 nonempty
      · intro empty
        exact absurd empty (List.cons_ne_nil c rest)

/-- White space at the end of a text in lower case is the end of the text. -/
theorem getLast?_of_blank_lowerAfter {text : Text} {afterCased : Bool} {d : Char}
    (ends : (lowerAfter afterCased text).getLast? = some d) (blank : isBlank d = true) :
    text.getLast? = some d := by
  induction text generalizing afterCased with
  | nil => cases ends
  | cons c rest ih =>
      obtain ⟨image, next, whole, -, lowered⟩ := exists_lowerAfter_cons afterCased c rest
      rw [whole] at ends
      cases rest with
      | nil =>
          rw [lowerAfter, List.append_nil] at ends
          rw [(lowered d (List.mem_of_getLast? ends)).2 blank]
          rfl
      | cons e more =>
          -- What follows has an end of its own.
          have nonempty : lowerAfter next (e :: more) ≠ [] := by
            rw [ne_eq, lowerAfter_eq_nil_iff]
            exact List.cons_ne_nil e more
          rw [List.getLast?_append_of_ne_nil _ nonempty] at ends
          rw [List.getLast?_cons_cons]
          exact ih ends

/-- A trimmed text is trimmed in lower case. -/
theorem IsTrimmed.lower {text : Text} (trimmed : IsTrimmed text) : IsTrimmed (lower text) where
  first := by
    intro d begins
    cases text with
    | nil => cases begins
    | cons c rest =>
        obtain ⟨image, next, whole, nonempty, lowered⟩ := exists_lowerAfter_cons false c rest
        rw [Text.lower, whole, List.head?_append_of_ne_nil _ nonempty] at begins
        rw [Bool.eq_false_iff]
        intro blank
        have same : d = c := (lowered d (List.mem_of_head? begins)).2 blank
        rw [same, trimmed.first c rfl] at blank
        cases blank
  last := by
    intro d ends
    rw [Bool.eq_false_iff]
    intro blank
    rw [trimmed.last d (getLast?_of_blank_lowerAfter ends blank)] at blank
    cases blank

end ClassDiagram.Text
