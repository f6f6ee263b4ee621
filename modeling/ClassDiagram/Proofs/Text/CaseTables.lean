import ClassDiagram.Proofs.Text.Bits
import ClassDiagram.Text.Case

/-!
# Tables of case mappings

The code points that a case mapping changes are a set, and so are those that it makes. A mapping is
settled if the two have no code point in common: then no image is mapped any further, and the
mapping changes nothing when it is used again.
-/

namespace ClassDiagram.Text

namespace CaseSpan

/-- The code points of a span. -/
def sources (s : CaseSpan) : Nat :=
  strides s.step ((s.last - s.first) / s.step) <<< s.first

/-- The code points a span maps to. -/
def images (s : CaseSpan) : Nat :=
  strides s.step ((s.last - s.first) / s.step) <<< s.image

section Member

variable {s : CaseSpan} {n : Nat}

/-- A code point of a span is some steps after its first one. -/
theorem testBit_strides_sub (below : n ≤ s.last) (stride : (n - s.first) % s.step = 0) :
    (strides s.step ((s.last - s.first) / s.step)).testBit (n - s.first) = true := by
  have index : (n - s.first) / s.step ≤ (s.last - s.first) / s.step :=
    Nat.div_le_div_right (Nat.sub_le_sub_right below _)
  rw [← Nat.div_mul_cancel (Nat.dvd_of_mod_eq_zero stride)]
  exact testBit_strides index

theorem testBit_sources (above : s.first ≤ n) (below : n ≤ s.last)
    (stride : (n - s.first) % s.step = 0) : s.sources.testBit n = true := by
  rw [sources, Nat.testBit_shiftLeft, testBit_strides_sub below stride]
  simpa using above

theorem testBit_images (below : n ≤ s.last) (stride : (n - s.first) % s.step = 0) :
    s.images.testBit (s.image + (n - s.first)) = true := by
  rw [images, Nat.testBit_shiftLeft, Nat.add_sub_cancel_left, testBit_strides_sub below stride]
  simp

end Member

/-- A code point either stays as it is or goes to an image of one of the spans. -/
theorem apply_eq_or_testBit (spans : List CaseSpan) (n : Nat) :
    apply spans n = n ∨ ∃ s ∈ spans, s.images.testBit (apply spans n) = true := by
  induction spans with
  | nil => exact Or.inl rfl
  | cons s rest ih =>
      simp only [apply]
      split
      · exact Or.inl rfl
      · split
        · split
          · rename_i below stride
            exact Or.inr ⟨s, List.mem_cons_self, testBit_images below stride⟩
          · exact Or.inl rfl
        · rcases ih with same | ⟨t, member, image⟩
          · exact Or.inl same
          · exact Or.inr ⟨t, List.mem_cons_of_mem _ member, image⟩

/-- A code point that is in no span stays as it is. -/
theorem apply_eq_self {spans : List CaseSpan} {n : Nat}
    (outside : ∀ t ∈ spans, t.sources.testBit n ≠ true) : apply spans n = n := by
  induction spans with
  | nil => rfl
  | cons t rest ih =>
      have here := outside t List.mem_cons_self
      have later := ih fun u member => outside u (List.mem_cons_of_mem _ member)
      simp only [apply]
      split
      · rfl
      · split
        · rename_i above below
          rw [if_neg fun stride => here (testBit_sources (Nat.le_of_not_lt above) below stride)]
        · exact later

end CaseSpan

/-- An expansion is an entry of its table. -/
theorem mem_of_expansion? {table : List (Nat × List Nat)} {n : Nat} {image : List Nat}
    (found : expansion? table n = some image) : (n, image) ∈ table := by
  induction table with
  | nil => simp [expansion?] at found
  | cons entry rest ih =>
      obtain ⟨m, codes⟩ := entry
      simp only [expansion?] at found
      split at found
      · simp at found
      · split at found
        · rename_i equal
          rw [equal, Option.some.inj found]
          exact List.mem_cons_self
        · exact List.mem_cons_of_mem _ (ih found)

/-- What a case mapping makes of a character. -/
def caseImage (spans : List CaseSpan) (expansions : List (Nat × List Nat)) (c : Char) : Text :=
  match expansion? expansions c.toNat with
  | some image => image.map Char.ofNat
  | none => [Char.ofNat (CaseSpan.apply spans c.toNat)]

/-- The code points that a case mapping changes. -/
def sourceBits (spans : List CaseSpan) (expansions : List (Nat × List Nat)) : Nat :=
  unionBits (spans.map CaseSpan.sources) ||| bitsOf (expansions.map Prod.fst)

/-- The code points that a case mapping makes. -/
def imageBits (spans : List CaseSpan) (expansions : List (Nat × List Nat)) : Nat :=
  unionBits (spans.map CaseSpan.images) ||| unionBits (expansions.map fun e => bitsOf e.2)

/-- A test that a case mapping makes characters, and none that it changes. -/
def areSettled (spans : List CaseSpan) (expansions : List (Nat × List Nat)) : Bool :=
  areApart (sourceBits spans expansions) (imageBits spans expansions) &&
    areCharacters (imageBits spans expansions) && expansions.all fun e => !e.2.isEmpty

section Mapping

variable {spans : List CaseSpan} {expansions : List (Nat × List Nat)} {c d : Char} {n : Nat}

theorem testBit_sourceBits_of_span {s : CaseSpan} (span : s ∈ spans)
    (source : s.sources.testBit n = true) : (sourceBits spans expansions).testBit n = true := by
  rw [sourceBits, Nat.testBit_or, Bool.or_eq_true]
  exact Or.inl (testBit_unionBits.mpr ⟨_, List.mem_map_of_mem span, source⟩)

theorem testBit_sourceBits_of_expansion {codes : List Nat}
    (found : expansion? expansions n = some codes) :
    (sourceBits spans expansions).testBit n = true := by
  rw [sourceBits, Nat.testBit_or, Bool.or_eq_true]
  exact Or.inr (testBit_bitsOf.mpr (List.mem_map.mpr ⟨_, mem_of_expansion? found, rfl⟩))

theorem testBit_imageBits_of_span {s : CaseSpan} (span : s ∈ spans)
    (image : s.images.testBit n = true) : (imageBits spans expansions).testBit n = true := by
  rw [imageBits, Nat.testBit_or, Bool.or_eq_true]
  exact Or.inl (testBit_unionBits.mpr ⟨_, List.mem_map_of_mem span, image⟩)

theorem testBit_imageBits_of_expansion {codes : List Nat}
    (found : expansion? expansions c.toNat = some codes) (image : n ∈ codes) :
    (imageBits spans expansions).testBit n = true := by
  rw [imageBits, Nat.testBit_or, Bool.or_eq_true]
  refine Or.inr (testBit_unionBits.mpr ⟨bitsOf codes, ?_, testBit_bitsOf.mpr image⟩)
  exact List.mem_map.mpr ⟨_, mem_of_expansion? found, rfl⟩

theorem apply_eq_self_of_not_testBit (unchanged : (sourceBits spans expansions).testBit n = false) :
    CaseSpan.apply spans n = n := by
  apply CaseSpan.apply_eq_self
  intro t span source
  rw [testBit_sourceBits_of_span span source] at unchanged
  cases unchanged

theorem expansion?_eq_none_of_not_testBit
    (unchanged : (sourceBits spans expansions).testBit n = false) :
    expansion? expansions n = none := by
  cases found : expansion? expansions n with
  | none => rfl
  | some codes =>
      rw [testBit_sourceBits_of_expansion found] at unchanged
      cases unchanged

/-- A character that is not changed is its own image. -/
theorem caseImage_eq_self (unchanged : (sourceBits spans expansions).testBit c.toNat = false) :
    caseImage spans expansions c = [c] := by
  simp only [caseImage, expansion?_eq_none_of_not_testBit unchanged,
    apply_eq_self_of_not_testBit unchanged, Char.ofNat_toNat]

/-- What a mapping makes of a character is the character or among its images. -/
theorem eq_or_testBit_of_mem_caseImage (member : d ∈ caseImage spans expansions c) :
    (d = c ∧ caseImage spans expansions c = [c]) ∨
      ∃ code, (imageBits spans expansions).testBit code = true ∧ d = Char.ofNat code := by
  unfold caseImage at member
  split at member
  · rename_i codes found
    obtain ⟨code, inside, rfl⟩ := List.mem_map.mp member
    exact Or.inr ⟨code, testBit_imageBits_of_expansion found inside, rfl⟩
  · rename_i unexpanded
    rw [List.mem_singleton] at member
    rcases CaseSpan.apply_eq_or_testBit spans c.toNat with same | ⟨s, span, image⟩
    · rw [same, Char.ofNat_toNat] at member
      refine Or.inl ⟨member, ?_⟩
      simp only [caseImage, unexpanded, same, Char.ofNat_toNat]
    · exact Or.inr ⟨_, testBit_imageBits_of_span span image, member⟩

/-- No image is mapped any further. -/
theorem caseImage_ofNat (settled : areSettled spans expansions = true)
    (image : (imageBits spans expansions).testBit n = true) :
    caseImage spans expansions (Char.ofNat n) = [Char.ofNat n] := by
  simp only [areSettled, Bool.and_eq_true] at settled
  obtain ⟨⟨apart, characters⟩, -⟩ := settled
  have code : (Char.ofNat n).toNat = n := by
    rw [Char.ofNat, dif_pos (isValidChar_of_testBit characters image)]
    rfl
  apply caseImage_eq_self
  rw [code, Bool.eq_false_iff]
  intro source
  rw [not_testBit_of_areApart apart source] at image
  cases image

/-- Every character that a settled mapping makes is one that it leaves as it is. -/
theorem caseImage_of_mem (settled : areSettled spans expansions = true)
    (member : d ∈ caseImage spans expansions c) : caseImage spans expansions d = [d] := by
  rcases eq_or_testBit_of_mem_caseImage member with ⟨rfl, same⟩ | ⟨code, image, rfl⟩
  · exact same
  · exact caseImage_ofNat settled image

theorem caseImage_ne_nil (settled : areSettled spans expansions = true) (c : Char) :
    caseImage spans expansions c ≠ [] := by
  unfold caseImage
  split
  · rename_i codes found
    have nonempty := List.all_eq_true.mp (Bool.and_eq_true_iff.mp settled).2 _
      (mem_of_expansion? found)
    intro empty
    simp [List.map_eq_nil_iff.mp empty] at nonempty
  · exact List.cons_ne_nil _ _

/-- A character other than the null character has one code point. Numbers that are no code points
all stand for the null character. -/
theorem eq_toNat_of_ofNat (same : Char.ofNat n = c) (proper : c ≠ '\x00') : n = c.toNat := by
  subst same
  by_cases valid : n.isValidChar
  · rw [Char.ofNat, dif_pos valid]
    rfl
  · exact absurd (dif_neg valid) proper

/-- An image under a case mapping that is made of no other code point is the character itself. -/
theorem eq_of_unmade (unmade : (imageBits spans expansions).testBit d.toNat = false)
    (proper : d ≠ '\x00') (image : d ∈ caseImage spans expansions c) : d = c := by
  rcases eq_or_testBit_of_mem_caseImage image with ⟨same, -⟩ | ⟨code, made, same⟩
  · exact same
  · rw [← eq_toNat_of_ofNat same.symm proper, made] at unmade
    cases unmade

end Mapping

end ClassDiagram.Text
