import ClassDiagram.Json.Value

/-!
# Reading JSON

The reader takes one character at a time. Its state is the stack of open containers and the place
inside the innermost one: what may come next, or the part of a string, number or word that has been
read. Reading is a fold of the step function over the text, so it ends on every text, and reading a
text in two parts is reading the second part in the state that the first one leads to.

The grammar is the standard one, with `NaN` and the two infinities as further numbers. Containers
may be nested two hundred deep.
-/

namespace ClassDiagram.Json

/-- The value of decimal digits. -/
def digitsValue (digits : Text) : Nat :=
  digits.foldl (fun n c => 10 * n + (c.toNat - '0'.toNat)) 0

/-- The exponent that a number ends with, zero if it has none. -/
def exponentOf? : Text → Option Int
  | [] => some 0
  | e :: rest =>
      if e = 'e' || e = 'E' then
        let (negative, digits) :=
          match rest with
          | '-' :: digits => (true, digits)
          | '+' :: digits => (false, digits)
          | digits => (false, digits)
        if digits.isEmpty || !digits.all Char.isDigit then none
        else if negative then some (-(digitsValue digits : Int)) else some (digitsValue digits)
      else none

/-- The number that a text spells. A whole number has no zero before other digits. -/
def numberOf? (text : Text) : Option Number :=
  let (negative, unsigned) :=
    match text with
    | '-' :: rest => (true, rest)
    | rest => (false, rest)
  let whole := unsigned.takeWhile Char.isDigit
  let rest := unsigned.dropWhile Char.isDigit
  if whole.isEmpty || (whole.head? = some '0' && 1 < whole.length) then none
  else
    match rest with
    | [] =>
        let value : Int := digitsValue whole
        some (.integer (if negative then -value else value))
    | '.' :: rest =>
        let fraction := rest.takeWhile Char.isDigit
        if fraction.isEmpty then none
        else
          (exponentOf? (rest.dropWhile Char.isDigit)).map fun exponent =>
            .float (.ofDecimal negative (digitsValue (whole ++ fraction))
              (exponent - fraction.length))
    | rest =>
        (exponentOf? rest).map fun exponent =>
          .float (.ofDecimal negative (digitsValue whole) exponent)

/-- A container that is not closed yet, with what it has so far, the last part first. -/
inductive Frame where
  | array (items : List Json)
  | object (fields : List (Text × Json)) (name : Text)

/-- The place inside an escape of a string. -/
inductive Escape where
  | none
  /-- After a backslash. -/
  | started
  /-- Inside a hexadecimal unit: the high surrogate before it, the missing digits, the value. -/
  | unit (high : Option Nat) (missing value : Nat)
  /-- After a high surrogate, which another unit has to follow. -/
  | afterHigh (high : Nat)
  /-- After a high surrogate and a backslash. -/
  | startedAfterHigh (high : Nat)

/-- What may come next, or what is being read. -/
inductive Mode where
  | value
  | valueOrEnd
  | name
  | nameOrEnd
  | colon (name : Text)
  | next
  | done (value : Json)
  | literal (missing : Text) (value : Json)
  | numeral (read : Text)
  | text (isName : Bool) (read : Text) (escape : Escape)

/-- The open containers, the innermost first, and the place inside. -/
structure State where
  stack : List Frame
  mode : Mode

/-- The state before the first character. -/
def State.start : State :=
  ⟨[], .value⟩

/-- How deep containers may be nested. -/
def maxDepth : Nat := 200

/-- The state after a value is complete. -/
def completed (value : Json) : List Frame → State
  | [] => ⟨[], .done value⟩
  | .array items :: rest => ⟨.array (value :: items) :: rest, .next⟩
  | .object fields name :: rest => ⟨.object ((name, value) :: fields) [] :: rest, .next⟩

/-- White space between tokens. -/
def isSpace (c : Char) : Bool :=
  c = ' ' || c = '\t' || c = '\n' || c = '\r'

/-- A character of a number. -/
def isNumeralChar (c : Char) : Bool :=
  c.isDigit || c = '-' || c = '+' || c = '.' || c = 'e' || c = 'E'

/-- Opens a container, unless it would be too deep. -/
def opening (frame : Frame) (mode : Mode) (stack : List Frame) : Option State :=
  if stack.length < maxDepth then some ⟨frame :: stack, mode⟩ else none

/-- The first character of a value. -/
def beginValue (stack : List Frame) (c : Char) : Option State :=
  if c = '\x7b' then opening (.object [] []) .nameOrEnd stack
  else if c = '[' then opening (.array []) .valueOrEnd stack
  else if c = '"' then some ⟨stack, .text false [] .none⟩
  else if c = 't' then some ⟨stack, .literal "rue".toList (.bool true)⟩
  else if c = 'f' then some ⟨stack, .literal "alse".toList (.bool false)⟩
  else if c = 'n' then some ⟨stack, .literal "ull".toList .null⟩
  else if c = 'N' then some ⟨stack, .literal "aN".toList (.number (.float .nan))⟩
  else if c = 'I' then some ⟨stack, .literal "nfinity".toList (.number (.float (.infinite false)))⟩
  else if c = '-' || c.isDigit then some ⟨stack, .numeral [c]⟩
  else none

/-- A character after a value. -/
def afterValue (state : State) (c : Char) : Option State :=
  if isSpace c then some state
  else
    match state.stack with
    | .array items :: rest =>
        if c = ',' then some ⟨state.stack, .value⟩
        else if c = ']' then some (completed (.array items.reverse) rest)
        else none
    | .object fields _ :: rest =>
        if c = ',' then some ⟨state.stack, .name⟩
        else if c = '\x7d' then some (completed (ofFields fields.reverse) rest)
        else none
    | [] => none

/-- The characters that stand for themselves or a control after a backslash. -/
def simpleEscape? (c : Char) : Option Char :=
  if c = '"' || c = '\\' || c = '/' then some c
  else if c = 'b' then some '\x08'
  else if c = 'f' then some '\x0c'
  else if c = 'n' then some '\n'
  else if c = 'r' then some '\r'
  else if c = 't' then some '\t'
  else none

/-- The value of a hexadecimal digit of either case. -/
def hexValue? (c : Char) : Option Nat :=
  if c.isDigit then some (c.toNat - '0'.toNat)
  else if 'a'.toNat ≤ c.toNat ∧ c.toNat ≤ 'f'.toNat then some (c.toNat - 'a'.toNat + 10)
  else if 'A'.toNat ≤ c.toNat ∧ c.toNat ≤ 'F'.toNat then some (c.toNat - 'A'.toNat + 10)
  else none

/-- The text and the escape after a complete unit. A high surrogate waits for a low one, and a
surrogate without its partner is refused. -/
def unitRead (high : Option Nat) (unit : Nat) (read : Text) : Option (Text × Escape) :=
  let isLow := 0xDC00 ≤ unit ∧ unit ≤ 0xDFFF
  let isHigh := 0xD800 ≤ unit ∧ unit ≤ 0xDBFF
  match high with
  | some first =>
      if isLow then
        some (Char.ofNat (0x10000 + (first - 0xD800) * 0x400 + (unit - 0xDC00)) :: read, .none)
      else none
  | none =>
      if isHigh then some (read, .afterHigh unit)
      else if isLow then none
      else some (Char.ofNat unit :: read, .none)

/-- A character inside a string; the quote that ends it is not one of these. -/
def stringStep (read : Text) (escape : Escape) (c : Char) : Option (Text × Escape) :=
  match escape with
  | .none =>
      if c = '\\' then some (read, .started)
      else if c.toNat < 0x20 then none
      else some (c :: read, .none)
  | .started =>
      if c = 'u' then some (read, .unit none 4 0)
      else (simpleEscape? c).map fun d => (d :: read, .none)
  | .unit high missing value =>
      (hexValue? c).bind fun digit =>
        if missing ≤ 1 then unitRead high (16 * value + digit) read
        else some (read, .unit high (missing - 1) (16 * value + digit))
  | .afterHigh high => if c = '\\' then some (read, .startedAfterHigh high) else none
  | .startedAfterHigh high => if c = 'u' then some (read, .unit (some high) 4 0) else none

/-- The state after a string is complete. -/
def stringCompleted (isName : Bool) (text : Text) (stack : List Frame) : State :=
  if isName then ⟨stack, .colon text⟩ else completed (.string text) stack

/-- The state after one more character, if there is one. -/
def step (state : State) (c : Char) : Option State :=
  match state.mode with
  | .value => if isSpace c then some state else beginValue state.stack c
  | .valueOrEnd =>
      if isSpace c then some state
      else if c = ']' then some (completed (.array []) (state.stack.drop 1))
      else beginValue state.stack c
  | .name =>
      if isSpace c then some state
      else if c = '"' then some ⟨state.stack, .text true [] .none⟩
      else none
  | .nameOrEnd =>
      if isSpace c then some state
      else if c = '\x7d' then some (completed (.object []) (state.stack.drop 1))
      else if c = '"' then some ⟨state.stack, .text true [] .none⟩
      else none
  | .colon name =>
      if isSpace c then some state
      else if c = ':' then
        match state.stack with
        | .object fields _ :: rest => some ⟨.object fields name :: rest, .value⟩
        | _ => none
      else none
  | .next => afterValue state c
  | .done _ => afterValue state c
  | .literal missing value =>
      match missing with
      | [] => none
      | [last] => if c = last then some (completed value state.stack) else none
      | first :: rest => if c = first then some ⟨state.stack, .literal rest value⟩ else none
  | .numeral read =>
      if isNumeralChar c then some ⟨state.stack, .numeral (c :: read)⟩
      else if read = ['-'] then
        if c = 'I' then
          some ⟨state.stack, .literal "nfinity".toList (.number (.float (.infinite true)))⟩
        else if c = 'N' then some ⟨state.stack, .literal "aN".toList (.number (.float .nan))⟩
        else none
      else
        (numberOf? read.reverse).bind fun number =>
          afterValue (completed (.number number) state.stack) c
  | .text isName read .none =>
      if c = '"' then some (stringCompleted isName read.reverse state.stack)
      else
        (stringStep read .none c).map fun (read, escape) =>
          ⟨state.stack, .text isName read escape⟩
  | .text isName read escape =>
      (stringStep read escape c).map fun (read, escape) =>
        ⟨state.stack, .text isName read escape⟩

/-- The value of a whole text, if the state at its end has one. -/
def State.result? (state : State) : Option Json :=
  match state.mode, state.stack with
  | .done value, _ => some value
  | .numeral read, [] => (numberOf? read.reverse).map Json.number
  | _, _ => none

/-- The value that a JSON text spells. -/
def read? (text : Text) : Option Json :=
  (text.foldlM step State.start).bind State.result?

end ClassDiagram.Json
