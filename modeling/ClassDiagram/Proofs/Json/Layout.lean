import ClassDiagram.Proofs.Json.RoundTrip

/-!
# Written values have no control characters

Control characters of strings are escaped, and nothing else that is written of a value has one, but
for the line feeds between its lines. So no carriage return comes into a file with a value.
-/

namespace ClassDiagram.Json

/-- Whether the only control characters of a text are line feeds. -/
def IsLaidOut (text : Text) : Prop :=
  ∀ c ∈ text, c.toNat < 0x20 → c = '\n'

@[simp]
theorem isLaidOut_append {first second : Text} :
    IsLaidOut (first ++ second) ↔ IsLaidOut first ∧ IsLaidOut second :=
  List.forall_mem_append

@[simp]
theorem isLaidOut_cons {c : Char} {rest : Text} :
    IsLaidOut (c :: rest) ↔ (c.toNat < 0x20 → c = '\n') ∧ IsLaidOut rest :=
  List.forall_mem_cons

@[simp]
theorem isLaidOut_nil : IsLaidOut [] :=
  fun _ member => nomatch member

/-- A test that a text has no control characters at all. -/
private def isPlain (text : Text) : Bool :=
  text.all fun c => Nat.ble 0x20 c.toNat

private theorem isLaidOut_of_isPlain {text : Text} (plain : isPlain text = true) :
    IsLaidOut text := by
  intro c member control
  have above : 0x20 ≤ c.toNat := Nat.le_of_ble_eq_true (List.all_eq_true.mp plain c member)
  omega

private theorem control_isPlain :
    ((List.range 0x20).all fun n => isPlain (escapeChar (Char.ofNat n))) = true := by
  decide

theorem isLaidOut_escapeChar (c : Char) : IsLaidOut (escapeChar c) := by
  by_cases control : c.toNat < 0x20
  · rw [← Char.ofNat_toNat c]
    apply isLaidOut_of_isPlain
    exact List.all_eq_true.mp control_isPlain c.toNat (List.mem_range.mpr control)
  · have other : ∀ e : Char, e.toNat < 0x20 → c ≠ e := by
      rintro e small rfl
      exact control small
    by_cases quote : c = '"'
    · rw [quote]
      exact isLaidOut_of_isPlain rfl
    by_cases backslash : c = '\\'
    · rw [backslash]
      exact isLaidOut_of_isPlain rfl
    have itself : escapeChar c = [c] := by
      simp only [escapeChar, quote, backslash, other '\n' (by decide), other '\r' (by decide),
        other '\t' (by decide), other '\x08' (by decide), other '\x0c' (by decide), control,
        if_false]
    rw [itself, isLaidOut_cons]
    exact ⟨fun small => absurd small control, isLaidOut_nil⟩

@[simp]
theorem isLaidOut_writeString (text : Text) : IsLaidOut (writeString text) := by
  have inner : IsLaidOut (text.flatMap escapeChar) := by
    intro d member
    obtain ⟨c, -, inside⟩ := List.mem_flatMap.mp member
    exact isLaidOut_escapeChar c d inside
  simp [writeString, inner]

@[simp]
theorem isLaidOut_newLine (depth : Nat) : IsLaidOut (newLine depth) := by
  refine isLaidOut_cons.mpr ⟨fun _ => rfl, fun c space control => ?_⟩
  rw [List.eq_of_mem_replicate space] at control
  exact absurd control (by decide)

theorem isLaidOut_writeItems (depth : Nat) {items : List Json}
    (laid : ∀ item ∈ items, IsLaidOut (writeAt depth item)) :
    IsLaidOut (writeItems depth items) := by
  induction items with
  | nil => exact isLaidOut_nil
  | cons item rest ih =>
      obtain ⟨here, others⟩ := List.forall_mem_cons.mp laid
      show IsLaidOut ([','] ++ newLine depth ++ writeAt depth item ++ writeItems depth rest)
      simp [here, ih others]

theorem isLaidOut_writeFields (depth : Nat) {fields : List (Text × Json)}
    (laid : ∀ field ∈ fields, IsLaidOut (writeAt depth field.2)) :
    IsLaidOut (writeFields depth fields) := by
  induction fields with
  | nil => exact isLaidOut_nil
  | cons field rest ih =>
      obtain ⟨here, others⟩ := List.forall_mem_cons.mp laid
      show IsLaidOut ([','] ++ newLine depth ++ writeString field.1 ++ [':', ' ']
        ++ writeAt depth field.2 ++ writeFields depth rest)
      simp [here, ih others]

theorem isLaidOut_null (depth : Nat) : IsLaidOut (writeAt depth .null) :=
  isLaidOut_of_isPlain rfl

theorem isLaidOut_bool (depth : Nat) (value : Bool) : IsLaidOut (writeAt depth (.bool value)) := by
  cases value <;> exact isLaidOut_of_isPlain rfl

theorem isLaidOut_array {items : List Json}
    (laid : ∀ item ∈ items, ∀ depth, IsLaidOut (writeAt depth item)) (depth : Nat) :
    IsLaidOut (writeAt depth (.array items)) := by
  cases items with
  | nil => exact isLaidOut_of_isPlain rfl
  | cons item rest =>
      obtain ⟨first, others⟩ := List.forall_mem_cons.mp laid
      have tail : IsLaidOut (writeItems (depth + 1) rest) :=
        isLaidOut_writeItems _ fun item member => others item member _
      show IsLaidOut (['['] ++ newLine (depth + 1) ++ writeAt (depth + 1) item
        ++ writeItems (depth + 1) rest ++ newLine depth ++ [']'])
      simp [first, tail]

theorem isLaidOut_object {fields : List (Text × Json)}
    (laid : ∀ field ∈ fields, ∀ depth, IsLaidOut (writeAt depth field.2)) (depth : Nat) :
    IsLaidOut (writeAt depth (.object fields)) := by
  cases fields with
  | nil => exact isLaidOut_of_isPlain rfl
  | cons field rest =>
      obtain ⟨first, others⟩ := List.forall_mem_cons.mp laid
      have tail : IsLaidOut (writeFields (depth + 1) rest) :=
        isLaidOut_writeFields _ fun field member => others field member _
      show IsLaidOut (['\x7b'] ++ newLine (depth + 1) ++ writeString field.1 ++ [':', ' ']
        ++ writeAt (depth + 1) field.2 ++ writeFields (depth + 1) rest ++ newLine depth ++ ['\x7d'])
      simp [first, tail]

/-- What is written of a value has no control characters but its line feeds. -/
theorem isLaidOut_writeAt {room : Nat} {value : Json} (fits : Fits room value) (depth : Nat) :
    IsLaidOut (writeAt depth value) := by
  induction room generalizing depth value with
  | zero =>
      cases value with
      | null => exact isLaidOut_null depth
      | bool value => exact isLaidOut_bool depth value
      | number value => exact fits.elim
      | string text => exact isLaidOut_writeString text
      | array items => exact fits.elim
      | object fields => exact fits.elim
  | succ room ih =>
      cases value with
      | null => exact isLaidOut_null depth
      | bool value => exact isLaidOut_bool depth value
      | number value => exact fits.elim
      | string text => exact isLaidOut_writeString text
      | array items => exact isLaidOut_array (fun item member => ih (fits item member)) depth
      | object fields => exact isLaidOut_object (fun field member => ih (fits.2 field member)) depth

/-- No carriage return is written of a value. -/
theorem return_not_mem_write {value : Json} (fits : Fits maxDepth value) : '\r' ∉ value.write := by
  intro member
  have feed : '\r' = '\n' := isLaidOut_writeAt fits 0 '\r' member (by decide)
  exact absurd feed (by decide)

end ClassDiagram.Json
