import ClassDiagram.Text.Utf8

/-!
# Stand-ins for stray bytes

Raw text can be recovered from the texts that the two stand-ins make of it. It is encoded exactly if
it has no stray byte. Two texts that no stray byte distinguishes agree as far as the shorter one goes.
-/

namespace ClassDiagram

namespace StandIn

variable {ε α : Type} {f : StandIn → Except ε α} {g : StandIn → α} {e : ε}

theorem both_eq_ok_iff : both f = .ok g ↔ ∀ standIn, f standIn = .ok (g standIn) := by
  constructor
  · intro made
    unfold both at made
    cases first : f .first with
    | error e => simp [first, bind, Except.bind] at made
    | ok a =>
        cases second : f .second with
        | error e => simp [first, second, bind, Except.bind] at made
        | ok b =>
            simp only [first, second, bind, Except.bind, Except.ok.injEq] at made
            subst made
            intro standIn
            cases standIn
            · exact first
            · exact second
  · intro made
    have pair : StandIn.pair (g .first) (g .second) = g := by
      funext standIn
      cases standIn <;> rfl
    simp only [both, made, bind, Except.bind, pair]

theorem both_of_first_error (failed : f .first = .error e) : both f = .error e := by
  simp only [both, failed, bind, Except.bind]

/-- The stand-ins are characters for private use, and no surrogates. -/
theorem toNat_ofNat_of_private {n : Nat} (least : 0xE000 ≤ n) (small : n < 0xE200) :
    (Char.ofNat n).toNat = n := by
  have valid : n.isValidChar := Or.inr ⟨by omega, by omega⟩
  rw [Char.ofNat, dif_pos valid]
  rfl

/-- The two stand-ins for a byte are different, and the first one tells the byte. -/
theorem ofCharacters_char (byte : UInt8) :
    Symbol.ofCharacters (char .first byte) (char .second byte) = .stray byte := by
  have small := byte.toNat_lt
  have first : (char .first byte).toNat = 0xE000 + byte.toNat :=
    toNat_ofNat_of_private (by omega) (by omega)
  have second : (char .second byte).toNat = 0xE100 + byte.toNat :=
    toNat_ofNat_of_private (by omega) (by omega)
  have different : char .first byte ≠ char .second byte := by
    intro same
    rw [same] at first
    omega
  rw [Symbol.ofCharacters, if_neg different, first, Nat.add_sub_cancel_left, UInt8.ofNat_toNat]

end StandIn

namespace Symbol

theorem ofCharacters_self (c : Char) : ofCharacters c c = .char c :=
  if_pos rfl

theorem eq_of_ofCharacters {a b c : Char} (plain : ofCharacters a b = .char c) : a = b := by
  unfold ofCharacters at plain
  split at plain
  · assumption
  · cases plain

end Symbol

namespace RawText

variable {texts : StandIn → Text} {raw : RawText} {text : Text}

@[simp]
theorem fill_ofText (standIn : StandIn) (text : Text) : (ofText text).fill standIn = text := by
  simp [fill, ofText, Function.comp_def]

@[simp]
theorem text?_ofText (text : Text) : (ofText text).text? = some text := by
  induction text with
  | nil => rfl
  | cons c rest ih =>
      show ((ofText rest).text?).map (c :: ·) = some (c :: rest)
      rw [ih]
      rfl

/-- Raw text without stray bytes is its text. -/
theorem text?_eq_some_iff : raw.text? = some text ↔ raw = ofText text := by
  constructor
  · intro found
    induction raw generalizing text with
    | nil =>
        obtain rfl := Option.some.inj found
        rfl
    | cons symbol rest ih =>
        cases symbol with
        | stray byte => cases found
        | char c =>
            obtain ⟨others, here, rfl⟩ := Option.map_eq_some_iff.mp found
            rw [ih here]
            rfl
  · rintro rfl
    exact text?_ofText text

/-- No stray byte is lost when stand-ins take its place. -/
theorem restore_fill (raw : RawText) : restore (fun standIn => raw.fill standIn) = raw := by
  unfold restore fill
  rw [List.zipWith_map, List.zipWith_self]
  refine List.map_id'' (fun symbol => ?_) raw
  cases symbol with
  | char c => exact Symbol.ofCharacters_self c
  | stray byte => exact StandIn.ofCharacters_char byte

/-- Texts that are the same have no stray byte between them. -/
theorem restore_of_same (same : texts .second = texts .first) :
    restore texts = ofText (texts .first) := by
  rw [restore, same, List.zipWith_self]
  exact List.map_congr_left fun c _ => Symbol.ofCharacters_self c

/-- Texts without a stray byte between them agree as far as the shorter one goes. -/
theorem prefix_of_restore (plain : restore texts = ofText text) :
    texts .first <+: texts .second ∨ texts .second <+: texts .first := by
  unfold restore ofText at plain
  generalize texts .first = a at plain
  generalize texts .second = b at plain
  induction a generalizing b text with
  | nil => exact Or.inl List.nil_prefix
  | cons c a ih =>
      cases b with
      | nil => exact Or.inr List.nil_prefix
      | cons d b =>
          cases text with
          | nil => cases plain
          | cons e text =>
              obtain ⟨head, tail⟩ := List.cons.inj plain
              obtain rfl := Symbol.eq_of_ofCharacters head
              rcases ih b tail with front | front
              · exact Or.inl ((List.prefix_cons_inj c).mpr front)
              · exact Or.inr ((List.prefix_cons_inj c).mpr front)

end RawText

namespace Text.Utf8

variable {raw : RawText} {bytes : List UInt8}

/-- Text without stray bytes is encoded as itself. -/
theorem encodeRaw_ofText (text : Text) : encodeRaw (.ofText text) = .ok (encode text) := by
  have from_any : ∀ position, encodeRawFrom position (.ofText text) = .ok (encode text) := by
    induction text with
    | nil => exact fun position => rfl
    | cons c rest ih =>
        intro position
        show (encodeRawFrom (position + 1) (.ofText rest)).map _ = _
        rw [ih]
        rfl
  exact from_any 0

/-- Raw text is encoded exactly if it has no stray byte. -/
theorem exists_encodeRaw_eq_ok_iff :
    (∃ bytes, encodeRaw raw = .ok bytes) ↔ ∃ text, raw = .ofText text := by
  constructor
  · rintro ⟨bytes, encoded⟩
    have from_any : ∀ position bytes, encodeRawFrom position raw = .ok bytes →
        ∃ text, raw = .ofText text := by
      clear encoded
      induction raw with
      | nil => exact fun _ _ _ => ⟨[], rfl⟩
      | cons symbol rest ih =>
          intro position bytes encoded
          cases symbol with
          | stray byte => cases encoded
          | char c =>
              rw [encodeRawFrom] at encoded
              cases others : encodeRawFrom (position + 1) rest with
              | error e =>
                  rw [others] at encoded
                  cases encoded
              | ok more =>
                  obtain ⟨text, rfl⟩ := ih _ _ others
                  exact ⟨c :: text, rfl⟩
    exact from_any 0 bytes encoded
  · rintro ⟨text, rfl⟩
    exact ⟨_, encodeRaw_ofText text⟩

end Text.Utf8

end ClassDiagram
