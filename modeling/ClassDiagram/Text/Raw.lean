import ClassDiagram.Text.Basic

/-!
# Raw text

A value that the system hands over as text may have bytes that are part of no character. Such a
stray byte is kept as a symbol of its own, so that the value can be passed on, but it is no part of
a text that is encoded.

Nothing that is done to raw text looks at a stray byte. So a text takes the place of the raw text, in
which a stand-in holds the place of every stray byte, once for each of two stand-ins. What comes of
both differs in the places where a stray byte ends up and nowhere else.
-/

namespace ClassDiagram

/-- A character, or a byte that is part of none. -/
inductive Symbol where
  | char (c : Char)
  | stray (byte : UInt8)
  deriving DecidableEq, Repr

/-- The symbol of which the two stand-ins have made characters. Two characters that differ hold the
place of a stray byte, which the first one tells. -/
def Symbol.ofCharacters (a b : Char) : Symbol :=
  if a = b then .char a else .stray (UInt8.ofNat (a.toNat - 0xE000))

/-- Text that may have stray bytes. -/
abbrev RawText := List Symbol

/-- The two kinds of stand-ins for stray bytes. -/
inductive StandIn where
  | first
  | second
  deriving DecidableEq, Repr

namespace StandIn

variable {ε α : Type}

/-- The character that holds the place of a stray byte. Both are for private use: they are no
letters, no white space and no part of a style tag. -/
def char : StandIn → UInt8 → Char
  | first, byte => Char.ofNat (0xE000 + byte.toNat)
  | second, byte => Char.ofNat (0xE100 + byte.toNat)

/-- What there is under either stand-in. -/
def pair (a b : α) : StandIn → α
  | first => a
  | second => b

/-- What comes of both stand-ins, unless one of them leads to an error. -/
def both (f : StandIn → Except ε α) : Except ε (StandIn → α) := do
  let a ← f first
  let b ← f second
  .ok (pair a b)

end StandIn

namespace RawText

/-- A text as raw text. -/
def ofText (text : Text) : RawText :=
  text.map .char

/-- The text, if there is no stray byte. -/
def text? : RawText → Option Text
  | [] => some []
  | .char c :: rest => (text? rest).map (c :: ·)
  | .stray _ :: _ => none

/-- The stray bytes at the front. -/
def strays : RawText → List UInt8
  | .stray byte :: rest => byte :: strays rest
  | _ => []

/-- The text with a stand-in in the place of every stray byte. -/
def fill (standIn : StandIn) (raw : RawText) : Text :=
  raw.map fun
    | .char c => c
    | .stray byte => standIn.char byte

/-- The raw text of which the two stand-ins have made texts. -/
def restore (texts : StandIn → Text) : RawText :=
  List.zipWith Symbol.ofCharacters (texts .first) (texts .second)

end RawText

end ClassDiagram
