import ClassDiagram.Text.Raw

/-!
# UTF-8

Text is encoded with the fewest bytes per character. Decoding reads one byte at a time and keeps the
sequence that is still incomplete; it refuses the first byte that cannot begin a sequence, or cannot
go on with the one it has, and says where that sequence stands and which bytes it has so far. Raw
text is encoded only if it has no stray byte.
-/

namespace ClassDiagram.Text.Utf8

/-- The encoding of a character. -/
def encodeChar (c : Char) : List UInt8 :=
  let n := c.toNat
  let tail (unit : Nat) : UInt8 := UInt8.ofNat (0x80 + n / unit % 0x40)
  if n < 0x80 then [UInt8.ofNat n]
  else if n < 0x800 then [UInt8.ofNat (0xC0 + n / 0x40), tail 1]
  else if n < 0x10000 then [UInt8.ofNat (0xE0 + n / 0x1000), tail 0x40, tail 1]
  else [UInt8.ofNat (0xF0 + n / 0x40000), tail 0x1000, tail 0x40, tail 1]

/-- The encoding of a text. -/
def encode (text : Text) : List UInt8 :=
  text.flatMap encodeChar

/-- Raw text that is not encoded: the place of its first stray byte, and this byte with the stray
bytes right behind it. -/
structure Unencodable where
  start : Nat
  bytes : List UInt8
  deriving DecidableEq, Repr

/-- The encoding of raw text; `position` counts the symbols before it. -/
def encodeRawFrom (position : Nat) : RawText → Except Unencodable (List UInt8)
  | [] => .ok []
  | .char c :: rest => (encodeRawFrom (position + 1) rest).map (encodeChar c ++ ·)
  | .stray byte :: rest => .error ⟨position, byte :: RawText.strays rest⟩

/-- The encoding of raw text without stray bytes. -/
def encodeRaw (raw : RawText) : Except Unencodable (List UInt8) :=
  encodeRawFrom 0 raw

/-- Why bytes are not UTF-8. -/
inductive Fault where
  | invalidStart
  | invalidContinuation
  | unexpectedEnd
  deriving DecidableEq, Repr

/-- Bytes that are not UTF-8: the fault, the place of the bad sequence and its bytes. -/
structure Malformed where
  fault : Fault
  start : Nat
  bytes : List UInt8
  deriving DecidableEq, Repr

/-- A sequence that is not complete yet: where it began, its bytes, the number they stand for, how
many bytes are missing, and the least and the greatest next byte. -/
structure Pending where
  start : Nat
  bytes : List UInt8
  value : Nat
  missing : Nat
  least : Nat
  greatest : Nat

/-- The sequence that a byte begins, if it begins one of several bytes. The range of the second byte
leaves out encodings that are longer than need be, surrogates, and numbers beyond the last code
point. -/
def Pending.begin? (start : Nat) (byte : UInt8) : Option Pending :=
  let b := byte.toNat
  if 0xC2 ≤ b ∧ b ≤ 0xDF then some ⟨start, [byte], b - 0xC0, 1, 0x80, 0xBF⟩
  else if b = 0xE0 then some ⟨start, [byte], b - 0xE0, 2, 0xA0, 0xBF⟩
  else if b = 0xED then some ⟨start, [byte], b - 0xE0, 2, 0x80, 0x9F⟩
  else if 0xE1 ≤ b ∧ b ≤ 0xEF then some ⟨start, [byte], b - 0xE0, 2, 0x80, 0xBF⟩
  else if b = 0xF0 then some ⟨start, [byte], b - 0xF0, 3, 0x90, 0xBF⟩
  else if b = 0xF4 then some ⟨start, [byte], b - 0xF0, 3, 0x80, 0x8F⟩
  else if 0xF1 ≤ b ∧ b ≤ 0xF3 then some ⟨start, [byte], b - 0xF0, 3, 0x80, 0xBF⟩
  else none

/-- The text of the bytes that follow `pending`; `position` counts the bytes read before them. -/
def decodeFrom (position : Nat) : Option Pending → List UInt8 → Except Malformed Text
  | none, [] => .ok []
  | some p, [] => .error ⟨.unexpectedEnd, p.start, p.bytes⟩
  | none, byte :: rest =>
      if byte.toNat < 0x80 then
        (decodeFrom (position + 1) none rest).map (Char.ofNat byte.toNat :: ·)
      else
        match Pending.begin? position byte with
        | none => .error ⟨.invalidStart, position, [byte]⟩
        | some p => decodeFrom (position + 1) (some p) rest
  | some p, byte :: rest =>
      if p.least ≤ byte.toNat ∧ byte.toNat ≤ p.greatest then
        let value := p.value * 64 + (byte.toNat - 0x80)
        if p.missing ≤ 1 then
          (decodeFrom (position + 1) none rest).map (Char.ofNat value :: ·)
        else
          decodeFrom (position + 1)
            (some ⟨p.start, p.bytes ++ [byte], value, p.missing - 1, 0x80, 0xBF⟩) rest
      else .error ⟨.invalidContinuation, p.start, p.bytes⟩

/-- The text that bytes encode. -/
def decode (bytes : List UInt8) : Except Malformed Text :=
  decodeFrom 0 none bytes

namespace Malformed

/-- The words for a fault. -/
def reason : Fault → Text
  | .invalidStart => "invalid start byte".toList
  | .invalidContinuation => "invalid continuation byte".toList
  | .unexpectedEnd => "unexpected end of data".toList

/-- The bad sequence and its place. Only a single byte is shown. -/
def place (m : Malformed) : Text :=
  match m.bytes with
  | [byte] =>
      "byte 0x".toList ++ hexadecimal 2 byte.toNat ++ " in position ".toList ++ ofNat m.start
  | bytes =>
      "bytes in position ".toList ++ ofNat m.start ++ "-".toList
        ++ ofNat (m.start + bytes.length - 1)

/-- What is said about bytes that are not UTF-8. -/
def message (m : Malformed) : Text :=
  "'utf-8' codec can't decode ".toList ++ m.place ++ ": ".toList ++ reason m.fault

end Malformed

namespace Unencodable

/-- The stray bytes and their place. Only a single byte is shown, as the surrogate that is put in the
place of such a byte when it is read. -/
def place (u : Unencodable) : Text :=
  match u.bytes with
  | [byte] =>
      "character '\\udc".toList ++ hexadecimal 2 byte.toNat ++ "' in position ".toList
        ++ ofNat u.start
  | bytes =>
      "characters in position ".toList ++ ofNat u.start ++ "-".toList
        ++ ofNat (u.start + bytes.length - 1)

/-- What is said about text that is not encoded. -/
def message (u : Unencodable) : Text :=
  "'utf-8' codec can't encode ".toList ++ u.place ++ ": surrogates not allowed".toList

end Unencodable

end ClassDiagram.Text.Utf8
