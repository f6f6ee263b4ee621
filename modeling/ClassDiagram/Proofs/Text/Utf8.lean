import ClassDiagram.Text.Utf8

/-!
# Decoding undoes encoding

A character is encoded in one to four bytes. The first byte tells how many there are, and its
pending sequence admits a range of second bytes that is as wide as it can be without encodings that
are too long, surrogates and numbers beyond the last code point. The encoding of a character is
always in that range, so the bytes of a text are read back as the text, at any position.
-/

namespace ClassDiagram.Text.Utf8

/-- The bounds that a number has as a code point. -/
theorem toNat_valid (c : Char) :
    c.toNat < 0xD800 ∨ 0xDFFF < c.toNat ∧ c.toNat < 0x110000 :=
  c.valid

theorem toNat_ofNat_of_lt {n : Nat} (small : n < 0x100) : (UInt8.ofNat n).toNat = n :=
  (UInt8.toNat_ofNat').trans (Nat.mod_eq_of_lt small)

/-- A byte from 0x80 on is no character on its own. -/
theorem not_toNat_ofNat_lt {n : Nat} (least : 0x80 ≤ n) (small : n < 0x100) :
    ¬ (UInt8.ofNat n).toNat < 0x80 := by
  rw [toNat_ofNat_of_lt small]
  exact Nat.not_lt_of_le least

namespace Pending

variable {n : Nat}

/-- The first byte of two. -/
theorem begin?_two (start : Nat) (atLeast : 0x80 ≤ n) (below : n < 0x800) :
    begin? start (UInt8.ofNat (0xC0 + n / 0x40))
      = some ⟨start, [UInt8.ofNat (0xC0 + n / 0x40)], n / 0x40, 1, 0x80, 0xBF⟩ := by
  have byte : (UInt8.ofNat (0xC0 + n / 0x40)).toNat = 0xC0 + n / 0x40 :=
    toNat_ofNat_of_lt (by omega)
  have range : 0xC2 ≤ 0xC0 + n / 0x40 ∧ 0xC0 + n / 0x40 ≤ 0xDF := by omega
  simp only [begin?, byte, range, and_self, if_true, Nat.add_sub_cancel_left]

/-- The first byte of three admits the second one. -/
theorem begin?_three (start : Nat) (atLeast : 0x800 ≤ n) (below : n < 0x10000)
    (valid : n < 0xD800 ∨ 0xDFFF < n) :
    ∃ least greatest,
      begin? start (UInt8.ofNat (0xE0 + n / 0x1000))
        = some ⟨start, [UInt8.ofNat (0xE0 + n / 0x1000)], n / 0x1000, 2, least, greatest⟩ ∧
      least ≤ 0x80 + n / 0x40 % 0x40 ∧ 0x80 + n / 0x40 % 0x40 ≤ greatest := by
  have byte : (UInt8.ofNat (0xE0 + n / 0x1000)).toNat = 0xE0 + n / 0x1000 :=
    toNat_ofNat_of_lt (by omega)
  have long : ¬ (0xC2 ≤ 0xE0 + n / 0x1000 ∧ 0xE0 + n / 0x1000 ≤ 0xDF) := by omega
  simp only [begin?, byte, long, if_false, Nat.add_sub_cancel_left]
  by_cases first : 0xE0 + n / 0x1000 = 0xE0
  · rw [if_pos first]
    exact ⟨_, _, rfl, by omega, by omega⟩
  · rw [if_neg first]
    by_cases surrogate : 0xE0 + n / 0x1000 = 0xED
    · rw [if_pos surrogate]
      exact ⟨_, _, rfl, by omega, by omega⟩
    · rw [if_neg surrogate, if_pos (by omega)]
      exact ⟨_, _, rfl, by omega, by omega⟩

/-- The first byte of four admits the second one. -/
theorem begin?_four (start : Nat) (atLeast : 0x10000 ≤ n) (below : n < 0x110000) :
    ∃ least greatest,
      begin? start (UInt8.ofNat (0xF0 + n / 0x40000))
        = some ⟨start, [UInt8.ofNat (0xF0 + n / 0x40000)], n / 0x40000, 3, least, greatest⟩ ∧
      least ≤ 0x80 + n / 0x1000 % 0x40 ∧ 0x80 + n / 0x1000 % 0x40 ≤ greatest := by
  have byte : (UInt8.ofNat (0xF0 + n / 0x40000)).toNat = 0xF0 + n / 0x40000 :=
    toNat_ofNat_of_lt (by omega)
  have two : ¬ (0xC2 ≤ 0xF0 + n / 0x40000 ∧ 0xF0 + n / 0x40000 ≤ 0xDF) := by omega
  have three : ¬ (0xE1 ≤ 0xF0 + n / 0x40000 ∧ 0xF0 + n / 0x40000 ≤ 0xEF) := by omega
  simp only [begin?, byte, two, three, if_false, Nat.add_sub_cancel_left]
  rw [if_neg (by omega), if_neg (by omega)]
  by_cases first : 0xF0 + n / 0x40000 = 0xF0
  · rw [if_pos first]
    exact ⟨_, _, rfl, by omega, by omega⟩
  · rw [if_neg first]
    by_cases last : 0xF0 + n / 0x40000 = 0xF4
    · rw [if_pos last]
      exact ⟨_, _, rfl, by omega, by omega⟩
    · rw [if_neg last, if_pos (by omega)]
      exact ⟨_, _, rfl, by omega, by omega⟩

end Pending

section Bytes

variable {position start value missing least greatest low : Nat} {bytes rest : List UInt8}

theorem decodeFrom_begin {byte : UInt8} {p : Pending} (long : ¬ byte.toNat < 0x80)
    (begun : Pending.begin? position byte = some p) :
    decodeFrom position none (byte :: rest) = decodeFrom (position + 1) (some p) rest := by
  simp only [decodeFrom, long, if_false, begun]

/-- The last byte of a sequence completes its character. -/
theorem decodeFrom_complete (low_lt : low < 0x40) (least_le : least ≤ 0x80 + low)
    (le_greatest : 0x80 + low ≤ greatest) :
    decodeFrom position (some ⟨start, bytes, value, 1, least, greatest⟩)
        (UInt8.ofNat (0x80 + low) :: rest)
      = (decodeFrom (position + 1) none rest).map (Char.ofNat (value * 0x40 + low) :: ·) := by
  have byte : (UInt8.ofNat (0x80 + low)).toNat = 0x80 + low := toNat_ofNat_of_lt (by omega)
  simp only [decodeFrom, byte, least_le, le_greatest, and_self, if_true, Nat.le_refl,
    Nat.add_sub_cancel_left]

/-- A byte before the last one adds six bits. -/
theorem decodeFrom_continue (low_lt : low < 0x40) (least_le : least ≤ 0x80 + low)
    (le_greatest : 0x80 + low ≤ greatest) (more : 1 < missing) :
    decodeFrom position (some ⟨start, bytes, value, missing, least, greatest⟩)
        (UInt8.ofNat (0x80 + low) :: rest)
      = decodeFrom (position + 1)
          (some ⟨start, bytes ++ [UInt8.ofNat (0x80 + low)], value * 0x40 + low, missing - 1,
            0x80, 0xBF⟩) rest := by
  have byte : (UInt8.ofNat (0x80 + low)).toNat = 0x80 + low := toNat_ofNat_of_lt (by omega)
  have unfinished : ¬ missing ≤ 1 := by omega
  simp only [decodeFrom, byte, least_le, le_greatest, and_self, if_true, unfinished, if_false,
    Nat.add_sub_cancel_left]

end Bytes

/-- The bytes of a character are read as that character. -/
theorem decodeFrom_encodeChar (position : Nat) (c : Char) (rest : List UInt8) :
    ∃ next, decodeFrom position none (encodeChar c ++ rest)
      = (decodeFrom next none rest).map (c :: ·) := by
  have valid := toNat_valid c
  have same : Char.ofNat c.toNat = c := Char.ofNat_toNat c
  unfold encodeChar
  generalize c.toNat = n at valid same
  dsimp only
  by_cases one : n < 0x80
  · have byte : (UInt8.ofNat n).toNat = n := toNat_ofNat_of_lt (by omega)
    rw [if_pos one]
    refine ⟨position + 1, ?_⟩
    simp only [List.cons_append, List.nil_append, decodeFrom, byte, one, if_true, same]
  · rw [if_neg one]
    by_cases two : n < 0x800
    · have first := Pending.begin?_two position (Nat.le_of_not_lt one) two
      have long : ¬ (UInt8.ofNat (0xC0 + n / 0x40)).toNat < 0x80 :=
        not_toNat_ofNat_lt (by omega) (by omega)
      have value : n / 0x40 * 0x40 + n / 1 % 0x40 = n := by omega
      rw [if_pos two]
      refine ⟨position + 1 + 1, ?_⟩
      simp only [List.cons_append, List.nil_append]
      rw [decodeFrom_begin long first,
        decodeFrom_complete (by omega) (by omega) (by omega), value, same]
    · rw [if_neg two]
      by_cases three : n < 0x10000
      · obtain ⟨least, greatest, first, least_le, le_greatest⟩ :=
          Pending.begin?_three position (Nat.le_of_not_lt two) three (by omega)
        have long : ¬ (UInt8.ofNat (0xE0 + n / 0x1000)).toNat < 0x80 :=
          not_toNat_ofNat_lt (by omega) (by omega)
        have value : (n / 0x1000 * 0x40 + n / 0x40 % 0x40) * 0x40 + n / 1 % 0x40 = n := by omega
        rw [if_pos three]
        refine ⟨position + 1 + 1 + 1, ?_⟩
        simp only [List.cons_append, List.nil_append]
        rw [decodeFrom_begin long first,
          decodeFrom_continue (by omega) least_le le_greatest (by omega),
          decodeFrom_complete (by omega) (by omega) (by omega), value, same]
      · obtain ⟨least, greatest, first, least_le, le_greatest⟩ :=
          Pending.begin?_four position (Nat.le_of_not_lt three) (by omega)
        have long : ¬ (UInt8.ofNat (0xF0 + n / 0x40000)).toNat < 0x80 :=
          not_toNat_ofNat_lt (by omega) (by omega)
        have value : ((n / 0x40000 * 0x40 + n / 0x1000 % 0x40) * 0x40 + n / 0x40 % 0x40) * 0x40
            + n / 1 % 0x40 = n := by omega
        rw [if_neg three]
        refine ⟨position + 1 + 1 + 1 + 1, ?_⟩
        simp only [List.cons_append, List.nil_append]
        rw [decodeFrom_begin long first,
          decodeFrom_continue (by omega) least_le le_greatest (by omega),
          decodeFrom_continue (by omega) (by omega) (by omega) (by omega),
          decodeFrom_complete (by omega) (by omega) (by omega), value, same]

/-- The bytes of a text are read as that text, wherever they begin. -/
theorem decodeFrom_encode (position : Nat) (text : Text) :
    decodeFrom position none (encode text) = .ok text := by
  induction text generalizing position with
  | nil => rfl
  | cons c rest ih =>
      obtain ⟨next, first⟩ := decodeFrom_encodeChar position c (encode rest)
      have split : encode (c :: rest) = encodeChar c ++ encode rest := rfl
      rw [split, first, ih next]
      rfl

/-- Every text is what its encoding is decoded to. -/
theorem decode_encode (text : Text) : decode (encode text) = .ok text :=
  decodeFrom_encode 0 text

end ClassDiagram.Text.Utf8
