import ClassDiagram.Text.CodeRanges

/-!
# Sets of code points as bits

A set of code points is held as the bits of one number. Whether two tables have a code point in
common is then one question about two numbers, however many ranges the tables have.
-/

namespace ClassDiagram.Text

theorem CodeRanges.exists_of_holds {ranges : CodeRanges} {n : Nat} (held : ranges.holds n = true) :
    ∃ range ∈ ranges, range.1 ≤ n ∧ n ≤ range.2 := by
  fun_induction CodeRanges.holds ranges n with
  | case1 => cases held
  | case2 => cases held
  | case3 first last rest n above below =>
      exact ⟨(first, last), List.mem_cons_self, Nat.le_of_not_lt above, below⟩
  | case4 first last rest n above beyond ih =>
      obtain ⟨range, member, within⟩ := ih held
      exact ⟨range, List.mem_cons_of_mem _ member, within⟩

/-- The set of `0`, `step`, … up to `count` times `step`. -/
def strides (step : Nat) : Nat → Nat
  | 0 => 1
  | count + 1 => 1 ||| strides step count <<< step

/-- The union of sets. -/
def unionBits (sets : List Nat) : Nat :=
  sets.foldr (· ||| ·) 0

/-- The set of the code points listed. -/
def bitsOf (codes : List Nat) : Nat :=
  unionBits (codes.map (1 <<< ·))

/-- The set of the code points of a table. -/
def rangeBits (ranges : CodeRanges) : Nat :=
  unionBits (ranges.map fun range => (1 <<< (range.2 - range.1 + 1) - 1) <<< range.1)

/-- A test that two sets have nothing in common. -/
def areApart (first second : Nat) : Bool :=
  Nat.beq (first &&& second) 0

/-- A test that a set holds code points of characters alone: none beyond the last, no surrogates. -/
def areCharacters (set : Nat) : Bool :=
  Nat.beq (set >>> 0x110000) 0 && Nat.beq ((set >>> 0xd800) % 1 <<< 0x800) 0

section Member

variable {set n : Nat}

theorem testBit_strides {step count i : Nat} (index : i ≤ count) :
    (strides step count).testBit (i * step) = true := by
  induction count generalizing i with
  | zero =>
      rw [Nat.le_zero.mp index, Nat.zero_mul, strides]
      rfl
  | succ count ih =>
      rw [strides, Nat.testBit_or, Bool.or_eq_true]
      cases i with
      | zero =>
          left
          rw [Nat.zero_mul]
          rfl
      | succ i =>
          have shorter := ih (Nat.le_of_succ_le_succ index)
          right
          rw [Nat.succ_mul, Nat.testBit_shiftLeft, Nat.add_sub_cancel, shorter]
          simp

theorem testBit_unionBits {sets : List Nat} :
    (unionBits sets).testBit n = true ↔ ∃ set ∈ sets, set.testBit n = true := by
  induction sets with
  | nil => simp [unionBits]
  | cons set rest ih =>
      rw [unionBits, List.foldr_cons, Nat.testBit_or, Bool.or_eq_true, ← unionBits, ih]
      simp

theorem testBit_bitsOf {codes : List Nat} : (bitsOf codes).testBit n = true ↔ n ∈ codes := by
  simp only [bitsOf, testBit_unionBits, List.mem_map, Nat.one_shiftLeft]
  constructor
  · rintro ⟨_, ⟨code, member, rfl⟩, held⟩
    rw [Nat.testBit_two_pow, decide_eq_true_eq] at held
    exact held ▸ member
  · intro member
    exact ⟨2 ^ n, ⟨n, member, rfl⟩, Nat.testBit_two_pow_self⟩

theorem testBit_rangeBits {ranges : CodeRanges} (held : ranges.holds n = true) :
    (rangeBits ranges).testBit n = true := by
  obtain ⟨range, member, above, below⟩ := CodeRanges.exists_of_holds held
  refine testBit_unionBits.mpr ⟨_, List.mem_map.mpr ⟨range, member, rfl⟩, ?_⟩
  rw [Nat.testBit_shiftLeft, Nat.one_shiftLeft, Nat.testBit_two_pow_sub_one, Bool.and_eq_true,
    decide_eq_true_eq, decide_eq_true_eq]
  omega

theorem not_testBit_of_areApart {first second : Nat} (apart : areApart first second = true)
    (held : first.testBit n = true) : second.testBit n = false := by
  have common := Nat.testBit_and first second n
  rwa [Nat.eq_of_beq_eq_true apart, Nat.zero_testBit, held, Bool.true_and, eq_comm] at common

theorem not_holds_of_areApart {first second : CodeRanges}
    (apart : areApart (rangeBits first) (rangeBits second) = true) (held : first.holds n = true) :
    second.holds n = false := by
  rw [Bool.eq_false_iff]
  intro shared
  have absent := not_testBit_of_areApart apart (testBit_rangeBits held)
  rw [testBit_rangeBits shared] at absent
  cases absent

theorem lt_of_shiftRight_eq_zero {bound : Nat} (empty : set >>> bound = 0)
    (held : set.testBit n = true) : n < bound := by
  refine Nat.lt_of_not_le fun beyond => ?_
  have moved : (set >>> bound).testBit (n - bound) = true := by
    rw [Nat.testBit_shiftRight, Nat.add_sub_cancel' beyond]
    exact held
  rw [empty, Nat.zero_testBit] at moved
  cases moved

theorem lt_or_le_of_mod_eq_zero {first width : Nat} (empty : (set >>> first) % 1 <<< width = 0)
    (held : set.testBit n = true) : n < first ∨ first + width ≤ n := by
  rcases Nat.lt_or_ge n first with below | above
  · exact Or.inl below
  · refine Or.inr (Nat.le_of_not_lt fun within => ?_)
    have moved : ((set >>> first) % 1 <<< width).testBit (n - first) = true := by
      rw [Nat.one_shiftLeft, Nat.testBit_mod_two_pow, Nat.testBit_shiftRight,
        Nat.add_sub_cancel' above, held, Bool.and_true, decide_eq_true_eq]
      omega
    rw [empty, Nat.zero_testBit] at moved
    cases moved

theorem isValidChar_of_testBit (characters : areCharacters set = true)
    (held : set.testBit n = true) : n.isValidChar := by
  obtain ⟨bounded, scalar⟩ := Bool.and_eq_true_iff.mp characters
  have below := lt_of_shiftRight_eq_zero (Nat.eq_of_beq_eq_true bounded) held
  rcases lt_or_le_of_mod_eq_zero (Nat.eq_of_beq_eq_true scalar) held with low | high
  · exact Or.inl low
  · exact Or.inr ⟨by omega, below⟩

end Member

end ClassDiagram.Text
