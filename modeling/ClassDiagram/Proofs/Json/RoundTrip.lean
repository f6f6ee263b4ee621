import ClassDiagram.Json.Reader
import ClassDiagram.Json.Writer

/-!
# Reading what was written

What is written of a value leads the reader, from any stack of open containers, to the state in
which that value is complete. A value has to be one that the reader can build: no object has a name
twice, and the containers are not nested too deep. Numbers are left out, as no record has one.
-/

namespace ClassDiagram.Json

/-- Whether a text leads from a state of the reader to another one. -/
def Leads (state : State) (text : Text) (next : State) : Prop :=
  text.foldlM step state = some next

namespace Leads

variable {state middle next : State} {first second text : Text} {c : Char}

theorem nil (state : State) : Leads state [] state :=
  rfl

theorem cons (now : step state c = some middle) (later : Leads middle text next) :
    Leads state (c :: text) next := by
  unfold Leads at later ⊢
  rw [List.foldlM_cons, now]
  exact later

theorem single (now : step state c = some next) : Leads state [c] next :=
  cons now (nil next)

theorem append (before : Leads state first middle) (after : Leads middle second next) :
    Leads state (first ++ second) next := by
  unfold Leads at before after ⊢
  rw [List.foldlM_append, before]
  exact after

/-- A character that leads to the same state from two states lets what follows it do so, too. -/
theorem congr_head {other : State} (same : ∀ c, text.head? = some c → step other c = step state c)
    (begun : text ≠ []) (leads : Leads state text next) : Leads other text next := by
  cases text with
  | nil => exact absurd rfl begun
  | cons c rest =>
      unfold Leads at leads ⊢
      rw [List.foldlM_cons] at leads ⊢
      rw [same c rfl]
      exact leads

end Leads

section White

variable {stack : List Frame} {mode : Mode} {text : Text}

/-- Whether white space may stand at a place. -/
def Mode.AllowsSpace (mode : Mode) : Prop :=
  ∀ stack c, isSpace c = true → step ⟨stack, mode⟩ c = some ⟨stack, mode⟩

theorem allowsSpace_value : Mode.value.AllowsSpace :=
  fun _ _ space => if_pos space

theorem allowsSpace_valueOrEnd : Mode.valueOrEnd.AllowsSpace :=
  fun _ _ space => if_pos space

theorem allowsSpace_name : Mode.name.AllowsSpace :=
  fun _ _ space => if_pos space

theorem allowsSpace_nameOrEnd : Mode.nameOrEnd.AllowsSpace :=
  fun _ _ space => if_pos space

theorem allowsSpace_next : Mode.next.AllowsSpace :=
  fun _ _ space => if_pos space

theorem allowsSpace_done (value : Json) : (Mode.done value).AllowsSpace :=
  fun _ _ space => if_pos space

/-- White space changes nothing where it may stand. -/
theorem leads_spaces (allowed : mode.AllowsSpace) (spaces : ∀ c ∈ text, isSpace c = true) :
    Leads ⟨stack, mode⟩ text ⟨stack, mode⟩ := by
  induction text with
  | nil => exact Leads.nil _
  | cons c rest ih =>
      obtain ⟨first, others⟩ := List.forall_mem_cons.mp spaces
      exact Leads.cons (allowed stack c first) (ih others)

theorem leads_newLine (allowed : mode.AllowsSpace) (depth : Nat) :
    Leads ⟨stack, mode⟩ (newLine depth) ⟨stack, mode⟩ := by
  refine leads_spaces allowed (List.forall_mem_cons.mpr ⟨rfl, fun c member => ?_⟩)
  rw [List.eq_of_mem_replicate member]
  rfl

end White

section Strings

variable {stack : List Frame} {isName : Bool} {read : Text}

theorem hexValue?_digitChar : ∀ digit < 16, hexValue? (Nat.digitChar digit) = some digit := by
  decide

theorem hexadecimal_of_control : ∀ n < 0x20,
    Text.hexadecimal 4 n = ['0', '0', Nat.digitChar (n / 16), Nat.digitChar (n % 16)] := by
  decide

/-- A control character is read back from the four digits of its number. -/
theorem leads_control {c : Char} (control : c.toNat < 0x20) :
    Leads ⟨stack, .text isName read .none⟩ ('\\' :: 'u' :: Text.hexadecimal 4 c.toNat)
      ⟨stack, .text isName (c :: read) .none⟩ := by
  have high := hexValue?_digitChar (c.toNat / 16) (by omega)
  have low := hexValue?_digitChar (c.toNat % 16) (by omega)
  have value : 16 * (c.toNat / 16) + c.toNat % 16 = c.toNat := by omega
  have noHigh : ¬ (0xD800 ≤ c.toNat ∧ c.toNat ≤ 0xDBFF) := by omega
  have noLow : ¬ (0xDC00 ≤ c.toNat ∧ c.toNat ≤ 0xDFFF) := by omega
  have same : Char.ofNat c.toNat = c := Char.ofNat_toNat c
  have zeros : Leads ⟨stack, .text isName read .none⟩ ['\\', 'u', '0', '0']
      ⟨stack, .text isName read (.unit none 2 0)⟩ := rfl
  have third : step ⟨stack, .text isName read (.unit none 2 0)⟩ (Nat.digitChar (c.toNat / 16))
      = some ⟨stack, .text isName read (.unit none 1 (c.toNat / 16))⟩ := by
    simp [step, stringStep, high]
  have fourth : step ⟨stack, .text isName read (.unit none 1 (c.toNat / 16))⟩
      (Nat.digitChar (c.toNat % 16)) = some ⟨stack, .text isName (c :: read) .none⟩ := by
    simp [step, stringStep, low, value, unitRead, noHigh, noLow, same]
  rw [hexadecimal_of_control _ control]
  exact zeros.append (Leads.cons third (Leads.single fourth))

/-- A character in a string is read back, escaped or not. -/
theorem leads_escapeChar (c : Char) :
    Leads ⟨stack, .text isName read .none⟩ (escapeChar c)
      ⟨stack, .text isName (c :: read) .none⟩ := by
  unfold escapeChar
  by_cases quote : c = '"'
  · rw [if_pos quote, quote]
    rfl
  rw [if_neg quote]
  by_cases backslash : c = '\\'
  · rw [if_pos backslash, backslash]
    rfl
  rw [if_neg backslash]
  by_cases feed : c = '\n'
  · rw [if_pos feed, feed]
    rfl
  rw [if_neg feed]
  by_cases ret : c = '\r'
  · rw [if_pos ret, ret]
    rfl
  rw [if_neg ret]
  by_cases tab : c = '\t'
  · rw [if_pos tab, tab]
    rfl
  rw [if_neg tab]
  by_cases backspace : c = '\x08'
  · rw [if_pos backspace, backspace]
    rfl
  rw [if_neg backspace]
  by_cases formFeed : c = '\x0c'
  · rw [if_pos formFeed, formFeed]
    rfl
  rw [if_neg formFeed]
  by_cases control : c.toNat < 0x20
  · rw [if_pos control]
    exact leads_control control
  · rw [if_neg control]
    refine Leads.single ?_
    simp [step, stringStep, quote, backslash, control]

theorem leads_escaped (text read : Text) :
    Leads ⟨stack, .text isName read .none⟩ (text.flatMap escapeChar)
      ⟨stack, .text isName (text.reverse ++ read) .none⟩ := by
  induction text generalizing read with
  | nil => exact Leads.nil _
  | cons c rest ih =>
      rw [List.flatMap_cons, List.reverse_cons, List.append_assoc]
      exact (leads_escapeChar c).append (ih (c :: read))

/-- A string is read back up to its last quote, whatever stands before it. -/
theorem leads_string {state : State} (text : Text)
    (begins : step state '"' = some ⟨stack, .text isName [] .none⟩) :
    Leads state (writeString text) (stringCompleted isName text stack) := by
  have inner : Leads ⟨stack, .text isName [] .none⟩ (text.flatMap escapeChar)
      ⟨stack, .text isName text.reverse .none⟩ := by
    simpa using leads_escaped text []
  have ends : step ⟨stack, .text isName text.reverse .none⟩ '"'
      = some (stringCompleted isName text stack) := by
    simp [step]
  exact (Leads.append (Leads.single begins) inner).append (Leads.single ends)

end Strings

/-- Whether a value is without numbers, has no name twice in an object, and has containers nested
at most `room` deep. -/
def Fits : Nat → Json → Prop
  | _, .null => True
  | _, .bool _ => True
  | _, .number _ => False
  | _, .string _ => True
  | 0, .array _ => False
  | 0, .object _ => False
  | room + 1, .array items => ∀ item ∈ items, Fits room item
  | room + 1, .object fields => (fields.map Prod.fst).Nodup ∧ ∀ field ∈ fields, Fits room field.2

/-- A field with a new name comes last. -/
theorem setField_of_not_mem {name : Text} {kept : List (Text × Json)} (value : Json)
    (absent : name ∉ kept.map Prod.fst) : setField name value kept = kept ++ [(name, value)] := by
  induction kept with
  | nil => rfl
  | cons entry rest ih =>
      rw [List.map_cons, List.mem_cons, not_or] at absent
      rw [setField, if_neg (Ne.symm absent.1), ih absent.2, List.cons_append]

theorem foldl_setField {fields kept : List (Text × Json)}
    (distinct : ((kept ++ fields).map Prod.fst).Nodup) :
    fields.foldl (fun kept field => setField field.1 field.2 kept) kept = kept ++ fields := by
  induction fields generalizing kept with
  | nil => simp
  | cons field rest ih =>
      have absent : field.1 ∉ kept.map Prod.fst := by
        rw [List.map_append, List.map_cons] at distinct
        exact fun present =>
          (List.nodup_append.mp distinct).2.2 field.1 present field.1 List.mem_cons_self rfl
      rw [List.foldl_cons, setField_of_not_mem field.2 absent, ih]
      · simp
      · simpa using distinct

/-- Fields with distinct names are the fields of their object. -/
theorem ofFields_of_nodup {fields : List (Text × Json)} (distinct : (fields.map Prod.fst).Nodup) :
    ofFields fields = .object fields := by
  have inOrder : fields.foldl (fun kept field => setField field.1 field.2 kept) [] = [] ++ fields :=
    foldl_setField distinct
  rw [ofFields, inOrder, List.nil_append]

/-- Whether a value is read back inside `height` open containers. -/
def IsRead (height : Nat) (value : Json) : Prop :=
  ∀ (depth : Nat) (stack : List Frame), stack.length = height →
    Leads ⟨stack, .value⟩ (writeAt depth value) (completed value stack)

theorem isRead_string (text : Text) (height : Nat) : IsRead height (.string text) := by
  intro depth stack _
  have begins : step ⟨stack, .value⟩ '"' = some ⟨stack, .text false [] .none⟩ := rfl
  exact leads_string text begins

section Containers

variable {stack : List Frame} {depth : Nat}

/-- A value begins with neither white space nor the end of an array. -/
theorem head?_writeAt {room : Nat} {value : Json} (fits : Fits room value) {c : Char}
    (first : (writeAt depth value).head? = some c) : isSpace c = false ∧ c ≠ ']' := by
  have known : c = 'n' ∨ c = 't' ∨ c = 'f' ∨ c = '"' ∨ c = '[' ∨ c = '\x7b' := by
    cases value with
    | null => exact Or.inl (Option.some.inj first).symm
    | bool value =>
        cases value with
        | true => exact Or.inr (Or.inl (Option.some.inj first).symm)
        | false => exact Or.inr (Or.inr (Or.inl (Option.some.inj first).symm))
    | number value => cases room <;> exact fits.elim
    | string text => exact Or.inr (Or.inr (Or.inr (Or.inl (Option.some.inj first).symm)))
    | array items =>
        cases items <;>
          exact Or.inr (Or.inr (Or.inr (Or.inr (Or.inl (Option.some.inj first).symm))))
    | object fields =>
        cases fields <;>
          exact Or.inr (Or.inr (Or.inr (Or.inr (Or.inr (Option.some.inj first).symm))))
  rcases known with rfl | rfl | rfl | rfl | rfl | rfl <;> decide

theorem writeAt_ne_nil {room : Nat} {value : Json} (fits : Fits room value) :
    writeAt depth value ≠ [] := by
  cases value with
  | null => exact List.cons_ne_nil _ _
  | bool value => cases value <;> exact List.cons_ne_nil _ _
  | number value => cases room <;> exact fits.elim
  | string text => exact List.cons_ne_nil _ _
  | array items => cases items <;> exact List.cons_ne_nil _ _
  | object fields => cases fields <;> exact List.cons_ne_nil _ _

/-- The first item of an array is read as any other. -/
theorem leads_first {room : Nat} {value : Json} {next : State} (fits : Fits room value)
    (leads : Leads ⟨stack, .value⟩ (writeAt depth value) next) :
    Leads ⟨stack, .valueOrEnd⟩ (writeAt depth value) next := by
  refine leads.congr_head (fun c first => ?_) (writeAt_ne_nil fits)
  obtain ⟨shown, inside⟩ := head?_writeAt fits first
  simp [step, shown, inside]

/-- The items after the first come into the array one after another. -/
theorem leads_writeItems (depth : Nat) {items : List Json}
    (read : ∀ item ∈ items, IsRead (stack.length + 1) item) (before : List Json) :
    Leads ⟨.array before :: stack, .next⟩ (writeItems depth items)
      ⟨.array (items.reverse ++ before) :: stack, .next⟩ := by
  induction items generalizing before with
  | nil => exact Leads.nil _
  | cons item rest ih =>
      obtain ⟨first, others⟩ := List.forall_mem_cons.mp read
      have comma : Leads ⟨.array before :: stack, .next⟩ [','] ⟨.array before :: stack, .value⟩ :=
        rfl
      have item := ((comma.append (leads_newLine allowsSpace_value depth)).append
        (first depth (.array before :: stack) rfl)).append (ih others (item :: before))
      rw [List.reverse_cons, List.append_assoc]
      exact item

theorem leads_array {room : Nat} {items : List Json} (room_left : stack.length < maxDepth)
    (fits : ∀ item ∈ items, Fits room item)
    (read : ∀ item ∈ items, IsRead (stack.length + 1) item) :
    Leads ⟨stack, .value⟩ (writeAt depth (.array items)) (completed (.array items) stack) := by
  have opens : Leads ⟨stack, .value⟩ ['['] ⟨.array [] :: stack, .valueOrEnd⟩ :=
    Leads.single (by simp [step, beginValue, opening, room_left, isSpace])
  cases items with
  | nil => exact opens.append rfl
  | cons item rest =>
      have first := leads_first (fits item List.mem_cons_self)
        (read item List.mem_cons_self (depth + 1) (.array [] :: stack) rfl)
      have others := leads_writeItems (depth + 1)
        (fun item member => read item (List.mem_cons_of_mem _ member)) [item]
      have closes : Leads ⟨.array (rest.reverse ++ [item]) :: stack, .next⟩ [']']
          (completed (.array (item :: rest)) stack) :=
        Leads.single (by simp [step, afterValue, isSpace])
      exact ((((opens.append (leads_newLine allowsSpace_valueOrEnd (depth + 1))).append
        first).append others).append (leads_newLine allowsSpace_next depth)).append closes

/-- A field comes into its object, wherever its name may begin. -/
theorem leads_field (depth : Nat) {mode : Mode} {before : List (Text × Json)} {name : Text}
    {value : Json}
    (begins : step ⟨.object before [] :: stack, mode⟩ '"'
      = some ⟨.object before [] :: stack, .text true [] .none⟩)
    (read : IsRead (stack.length + 1) value) :
    Leads ⟨.object before [] :: stack, mode⟩ (writeString name ++ [':', ' '] ++ writeAt depth value)
      ⟨.object ((name, value) :: before) [] :: stack, .next⟩ := by
  have named := leads_string name begins
  have colon : Leads ⟨.object before [] :: stack, .colon name⟩ [':', ' ']
      ⟨.object before name :: stack, .value⟩ := rfl
  exact (named.append colon).append (read depth (.object before name :: stack) rfl)

theorem leads_writeFields (depth : Nat) {fields : List (Text × Json)}
    (read : ∀ field ∈ fields, IsRead (stack.length + 1) field.2) (before : List (Text × Json)) :
    Leads ⟨.object before [] :: stack, .next⟩ (writeFields depth fields)
      ⟨.object (fields.reverse ++ before) [] :: stack, .next⟩ := by
  induction fields generalizing before with
  | nil => exact Leads.nil _
  | cons field rest ih =>
      obtain ⟨name, value⟩ := field
      obtain ⟨first, others⟩ := List.forall_mem_cons.mp read
      have comma : Leads ⟨.object before [] :: stack, .next⟩ [',']
          ⟨.object before [] :: stack, .name⟩ := rfl
      have field := ((comma.append (leads_newLine allowsSpace_name depth)).append
        (leads_field depth rfl first)).append (ih others ((name, value) :: before))
      show Leads _ ([','] ++ newLine depth ++ writeString name ++ [':', ' '] ++ writeAt depth value
        ++ writeFields depth rest) _
      simpa using field

theorem leads_object {fields : List (Text × Json)} (room_left : stack.length < maxDepth)
    (distinct : (fields.map Prod.fst).Nodup)
    (read : ∀ field ∈ fields, IsRead (stack.length + 1) field.2) :
    Leads ⟨stack, .value⟩ (writeAt depth (.object fields)) (completed (.object fields) stack) := by
  have opens : Leads ⟨stack, .value⟩ ['\x7b'] ⟨.object [] [] :: stack, .nameOrEnd⟩ :=
    Leads.single (by simp [step, beginValue, opening, room_left, isSpace])
  cases fields with
  | nil => exact opens.append rfl
  | cons field rest =>
      obtain ⟨name, value⟩ := field
      have begins : step ⟨.object [] [] :: stack, .nameOrEnd⟩ '"'
          = some ⟨.object [] [] :: stack, .text true [] .none⟩ := rfl
      have first : Leads ⟨.object [] [] :: stack, .nameOrEnd⟩
          (writeString name ++ [':', ' '] ++ writeAt (depth + 1) value)
          ⟨.object [(name, value)] [] :: stack, .next⟩ :=
        leads_field (depth + 1) begins (read (name, value) List.mem_cons_self)
      have others := leads_writeFields (depth + 1)
        (fun field member => read field (List.mem_cons_of_mem _ member)) [(name, value)]
      have whole : ofFields (rest.reverse ++ [(name, value)]).reverse
          = .object ((name, value) :: rest) := by
        rw [List.reverse_append, List.reverse_reverse]
        exact ofFields_of_nodup distinct
      have closes : Leads ⟨.object (rest.reverse ++ [(name, value)]) [] :: stack, .next⟩ ['\x7d']
          (completed (.object ((name, value) :: rest)) stack) :=
        Leads.single (by rw [← whole]; simp [step, afterValue, isSpace])
      have joined := ((((opens.append (leads_newLine allowsSpace_nameOrEnd (depth + 1))).append
        first).append others).append (leads_newLine allowsSpace_next depth)).append closes
      show Leads _ (['\x7b'] ++ newLine (depth + 1) ++ writeString name ++ [':', ' ']
        ++ writeAt (depth + 1) value ++ writeFields (depth + 1) rest ++ newLine depth ++ ['\x7d']) _
      simpa only [List.append_assoc] using joined

end Containers

/-- A value that fits is read back wherever there is room for it. -/
theorem isRead_of_fits {room height : Nat} {value : Json} (fits : Fits room value)
    (enough : height + room ≤ maxDepth) : IsRead height value := by
  induction room generalizing height value with
  | zero =>
      rintro depth stack rfl
      cases value with
      | null => exact rfl
      | bool value => cases value <;> exact rfl
      | number value => exact fits.elim
      | string text => exact isRead_string text _ depth stack rfl
      | array items => exact fits.elim
      | object fields => exact fits.elim
  | succ room ih =>
      rintro depth stack rfl
      have here : stack.length < maxDepth := by omega
      have inner : stack.length + 1 + room ≤ maxDepth := by omega
      cases value with
      | null => exact rfl
      | bool value => cases value <;> exact rfl
      | number value => exact fits.elim
      | string text => exact isRead_string text _ depth stack rfl
      | array items =>
          exact leads_array here fits fun item member => ih (fits item member) inner
      | object fields =>
          exact leads_object here fits.1 fun field member => ih (fits.2 field member) inner

/-- What is written of a value leads the reader to its end. -/
theorem leads_write {value : Json} (fits : Fits maxDepth value) :
    Leads .start value.write ⟨[], .done value⟩ := by
  have read : IsRead 0 value := isRead_of_fits fits (by omega)
  exact read 0 [] rfl

/-- What is written of a value is read as that value, also with white space after it. -/
theorem read?_write_append {value : Json} (fits : Fits maxDepth value) {space : Text}
    (spaces : ∀ c ∈ space, isSpace c = true) : read? (value.write ++ space) = some value := by
  have whole := (leads_write fits).append (leads_spaces (allowsSpace_done value) spaces)
  unfold Leads at whole
  rw [read?, whole]
  rfl

theorem read?_write {value : Json} (fits : Fits maxDepth value) :
    read? value.write = some value := by
  have bare : read? (value.write ++ []) = some value := read?_write_append fits (by simp)
  rwa [List.append_nil] at bare

/-- Behind a complete value there is nothing but white space, so nothing else is read there. -/
theorem eq_of_leads_done {value : Json} {text : Text} {next : State}
    (leads : Leads ⟨[], .done value⟩ text next) : next = ⟨[], .done value⟩ := by
  induction text with
  | nil => exact (Option.some.inj leads).symm
  | cons c rest ih =>
      unfold Leads at leads ih
      rw [List.foldlM_cons] at leads
      by_cases space : isSpace c = true
      · have stays : step ⟨[], .done value⟩ c = some ⟨[], .done value⟩ := if_pos space
        rw [stays] at leads
        exact ih leads
      · have ends : step ⟨[], .done value⟩ c = none := if_neg space
        rw [ends] at leads
        cases leads

/-- What is written of a value begins no JSON text of another one. -/
theorem eq_of_prefix_write {value other : Json} (fits : Fits maxDepth value) {text : Text}
    (begins : value.write <+: text) (read : read? text = some other) : other = value := by
  obtain ⟨rest, rfl⟩ := begins
  have written : Leads .start value.write ⟨[], .done value⟩ := leads_write fits
  unfold read? at read
  unfold Leads at written
  rw [List.foldlM_append, written] at read
  cases ended : rest.foldlM step ⟨[], .done value⟩ with
  | none =>
      rw [Option.bind_eq_bind, Option.bind_some, ended] at read
      cases read
  | some next =>
      rw [Option.bind_eq_bind, Option.bind_some, ended, eq_of_leads_done ended] at read
      exact (Option.some.inj read).symm

end ClassDiagram.Json
