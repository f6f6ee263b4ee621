import ClassDiagram.Text.Blank
import ClassDiagram.Text.Word

/-!
# Literal values

A literal value is a number, a quoted text, one of a few constants, values between parentheses, or
entries between braces. This module tells whether a text is one, and what is wrong with a text that
is none. Faults of single tokens and of brackets are reported before all others.
-/

namespace ClassDiagram.Literal

/-- What is wrong with a text that is no literal value. -/
inductive Error where
  | unterminated
  | unclosed (opening : Char)
  | unmatched (closing : Char)
  | mismatched (closing opening : Char)
  | badNumber
  | misplaced
  | missingComma
  | assignment
  | notLiteral
  deriving DecidableEq, Repr

/-- The words for an error. -/
def Error.message : Error → Text
  | .unterminated => "unterminated string literal (detected at line 1)".toList
  | .unclosed opening => ['\'', opening, '\''] ++ " was never closed".toList
  | .unmatched closing => "unmatched '".toList ++ [closing, '\'']
  | .mismatched closing opening =>
      "closing parenthesis '".toList ++ [closing]
        ++ "' does not match opening parenthesis '".toList ++ [opening, '\'']
  | .badNumber => "invalid decimal literal".toList
  | .misplaced => "invalid syntax".toList
  | .missingComma => "invalid syntax. Perhaps you forgot a comma?".toList
  | .assignment => "invalid syntax. Maybe you meant '==' or ':=' instead of '='?".toList
  | .notLiteral => "malformed node or string on line 1".toList

/-- The closing bracket that goes with an opening one. -/
def partner? (c : Char) : Option Char :=
  if c = '(' then some ')' else if c = '\x7b' then some '\x7d' else none

/-- Whether a character is a closing bracket. -/
def isClosing (c : Char) : Bool :=
  c = ')' || c = '\x7d'

/-- The smallest parts of a literal value: words with their points, quoted texts, and signs. -/
inductive Token where
  | word (text : Text)
  | quoted
  | sign (c : Char)
  deriving DecidableEq, Repr

/-- What is being read: nothing, a word in reverse, or a quoted text with its quote and whether a
backslash came last. -/
inductive Reading where
  | nothing
  | word (reversed : Text)
  | quoted (quote : Char) (isEscaped : Bool)

/-- What has been read: the tokens, the last one first, the open brackets, the innermost first, and
what is being read. -/
structure Scan where
  tokens : List Token
  brackets : List Char
  reading : Reading

/-- Whether a character belongs to words. -/
def isWordPart (c : Char) : Bool :=
  Text.isWordChar c || c = '.'

/-- Whether a word is digits, perhaps with a point between, before or after them. -/
def isDecimal (word : Text) : Bool :=
  let (whole, rest) := (word.takeWhile Char.isDigit, word.dropWhile Char.isDigit)
  match rest with
  | [] => !whole.isEmpty
  | '.' :: fraction => fraction.all Char.isDigit && !(whole.isEmpty && fraction.isEmpty)
  | _ => false

/-- Whether a word is a number: a decimal one, perhaps with an exponent. -/
def isNumber (word : Text) : Bool :=
  let isMark (c : Char) : Bool := c = 'e' || c = 'E'
  match word.dropWhile fun c => !isMark c with
  | [] => isDecimal word
  | _ :: exponent =>
      isDecimal (word.takeWhile fun c => !isMark c)
        && !exponent.isEmpty && exponent.all Char.isDigit

/-- Whether a word is a constant. -/
def isConstant (word : Text) : Bool :=
  ["None".toList, "True".toList, "False".toList, "...".toList].contains word

/-- Begins to read at a character that belongs to no token before it. -/
def Scan.begin (s : Scan) (c : Char) : Except Error Scan :=
  if Text.isBlank c then .ok { s with reading := .nothing }
  else if c = '\'' || c = '"' then .ok { s with reading := .quoted c false }
  else if isWordPart c then .ok { s with reading := .word [c] }
  else
    let after : Scan := ⟨.sign c :: s.tokens, s.brackets, .nothing⟩
    match partner? c with
    | some _ => .ok { after with brackets := c :: s.brackets }
    | none =>
        if isClosing c then
          match s.brackets with
          | [] => .error (.unmatched c)
          | opening :: outer =>
              if partner? opening = some c then .ok { after with brackets := outer }
              else .error (.mismatched c opening)
        else .ok after

/-- Ends a word. One that begins with a digit must be a number. -/
def Scan.endWord (s : Scan) (word : Text) : Except Error Scan :=
  if (word.head?.map Char.isDigit).getD false && !isNumber word then .error .badNumber
  else .ok ⟨.word word :: s.tokens, s.brackets, .nothing⟩

/-- Reads one character. -/
def Scan.step (s : Scan) (c : Char) : Except Error Scan :=
  match s.reading with
  | .nothing => s.begin c
  | .word reversed =>
      if isWordPart c then .ok { s with reading := .word (c :: reversed) }
      else do (← s.endWord reversed.reverse).begin c
  | .quoted quote isEscaped =>
      if isEscaped then .ok { s with reading := .quoted quote false }
      else if c = '\\' then .ok { s with reading := .quoted quote true }
      else if c = '\n' then .error .unterminated
      else if c = quote then .ok ⟨.quoted :: s.tokens, s.brackets, .nothing⟩
      else .ok s

/-- The tokens of a text, and the innermost bracket that is still open after them. -/
def tokens (text : Text) : Except Error (List Token × Option Char) := do
  let s ← text.foldlM Scan.step ⟨[], [], .nothing⟩
  match s.reading with
  | .nothing => .ok (s.tokens.reverse, s.brackets.head?)
  | .word reversed => do
      let s ← s.endWord reversed.reverse
      .ok (s.tokens.reverse, s.brackets.head?)
  | .quoted _ _ => .error .unterminated

/-- Where the tokens stand: outside of all brackets, between parentheses, between parentheses right
behind a value, or between braces, before it is known whether they hold single values or pairs,
among single values, or before or after the colon of a pair. -/
inductive Frame where
  | outside
  | values
  | call
  | undecided
  | members
  | key
  | value
  deriving DecidableEq, Repr

/-- What came last: a bracket or comma, something that a value has to follow, an equals sign that
has no place there, a sign, a value, a name, or a quoted text. -/
inductive Last where
  | separator
  | awaiting
  | assigned
  | sign
  | value
  | name
  | quoted
  deriving DecidableEq, Repr

/-- How far a value has been understood: the frames, the innermost first, what came last, and
whether all of it is literal. -/
structure Progress where
  frames : List Frame
  last : Last
  isLiteral : Bool

/-- Whether a value has just ended. -/
def Progress.hasValue (p : Progress) : Bool :=
  p.last = .value || p.last = .name || p.last = .quoted

/-- The error for something right behind a value that does not go on with it. -/
def Progress.crowded (p : Progress) : Error :=
  if p.frames.head? = some .outside then .misplaced else .missingComma

/-- Takes in a value. It has to stand before a separator and not behind another value, but quoted
texts may follow one another. -/
def Progress.addValue (p : Progress) (last : Last) (isLiteral : Bool) : Except Error Progress :=
  if p.last = .quoted ∧ last = .quoted then .ok p
  else if p.hasValue then .error p.crowded
  else if p.last = .assigned then .error .assignment
  else .ok { p with last := last, isLiteral := p.isLiteral && isLiteral }

/-- Takes in a comma, which ends an entry. -/
def Progress.addComma (p : Progress) : Except Error Progress :=
  match p.hasValue, p.frames with
  | true, .undecided :: outer => .ok { p with frames := .members :: outer, last := .separator }
  | true, .key :: _ => .error .misplaced
  | true, .value :: outer => .ok { p with frames := .key :: outer, last := .separator }
  | true, _ => .ok { p with last := .separator }
  | false, _ => .error .misplaced

/-- Takes in an equals sign, which may stand behind a name between parentheses that follow a value.
-/
def Progress.addEquals (p : Progress) : Except Error Progress :=
  match p.last, p.frames with
  | .name, .call :: _ => .ok { p with last := .awaiting, isLiteral := false }
  | .name, .values :: _ => .ok { p with last := .assigned }
  | _, _ => .error .misplaced

/-- Takes in a colon, which stands between the key and the value of a pair. -/
def Progress.addColon (p : Progress) : Except Error Progress :=
  match p.hasValue, p.frames with
  | true, .undecided :: outer => .ok { p with frames := .value :: outer, last := .awaiting }
  | true, .key :: outer => .ok { p with frames := .value :: outer, last := .awaiting }
  | _, _ => .error .misplaced

/-- Takes in an opening bracket. Right behind a value it begins no literal. -/
def Progress.enter (p : Progress) (c : Char) : Except Error Progress :=
  if p.last = .assigned then .error .assignment
  else if !p.hasValue then
    let frame := if c = '(' then Frame.values else .undecided
    .ok ⟨frame :: p.frames, .separator, p.isLiteral && p.last ≠ .sign⟩
  else if c = '(' then .ok ⟨.call :: p.frames, .separator, false⟩
  else .error p.crowded

/-- Takes in a closing bracket. -/
def Progress.leave (p : Progress) : Except Error Progress :=
  let mayEnd := p.hasValue || p.last = .separator
  match p.frames with
  | frame :: outer =>
      if mayEnd && !(frame = .key && p.hasValue) then .ok { p with frames := outer, last := .value }
      else .error .misplaced
  | [] => .error .misplaced

/-- Takes in a token. -/
def Progress.step (p : Progress) : Token → Except Error Progress
  | .word word =>
      if isNumber word then p.addValue .value true
      else if isConstant word then p.addValue .value (p.last ≠ .sign)
      else p.addValue .name false
  | .quoted => p.addValue .quoted (p.last ≠ .sign)
  | .sign ',' => p.addComma
  | .sign ':' => p.addColon
  | .sign '=' => p.addEquals
  | .sign c =>
      if (partner? c).isSome then p.enter c
      else if isClosing c then p.leave
      else if c = '+' || c = '-' then
        .ok { p with last := .sign, isLiteral := p.isLiteral && !p.hasValue && p.last ≠ .sign }
      else .error .misplaced

/-- Checks that a text is a literal value. Values with commas between them are one, and a comma may
stand at the end. -/
def check (text : Text) : Except Error Unit := do
  let (found, unclosed) ← tokens text
  let p ← found.foldlM Progress.step ⟨[.outside], .awaiting, true⟩
  match unclosed with
  | some opening => .error (.unclosed opening)
  | none =>
      if !(p.hasValue || p.last = .separator) then .error .misplaced
      else if p.isLiteral then .ok ()
      else .error .notLiteral

end ClassDiagram.Literal
