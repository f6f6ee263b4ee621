/-!
# Text

Text is its list of characters, so that every reading rule of the library is a function by recursion
on that list. This module holds the operations that depend on no table of characters: splitting at a
character and joining again, trimming at one end, and numbers written in digits.
-/

namespace ClassDiagram

/-- Text, as the list of its characters. -/
abbrev Text := List Char

namespace Text

/-- The pieces between the occurrences of a separator: `n` separators make `n + 1` pieces. -/
def splitOn (separator : Char) : Text → List Text
  | [] => [[]]
  | c :: rest =>
      if c = separator then [] :: splitOn separator rest
      else
        match splitOn separator rest with
        | [] => [[c]]
        | piece :: pieces => (c :: piece) :: pieces

/-- The pieces one after another with a separator between neighbours. -/
def joinWith (separator : Text) : List Text → Text
  | [] => []
  | [piece] => piece
  | piece :: next :: pieces => piece ++ separator ++ joinWith separator (next :: pieces)

/-- What is left when the longest ending whose characters all satisfy `p` is taken away. -/
def dropEndWhile (p : Char → Bool) : Text → Text
  | [] => []
  | c :: rest =>
      match dropEndWhile p rest with
      | [] => if p c then [] else [c]
      | kept => c :: kept

/-- The lines of a document. A carriage return is not a line break. -/
def lines (text : Text) : List Text :=
  splitOn '\n' text

/-- What follows `start`, for a text that begins with it. -/
def dropStart? : Text → Text → Option Text
  | [], text => some text
  | _ :: _, [] => none
  | s :: start, c :: text => if s = c then dropStart? start text else none

/-- Whether `part` stands somewhere in a text. -/
def mentions (part : Text) : Text → Bool
  | [] => part.isEmpty
  | c :: rest => (dropStart? part (c :: rest)).isSome || mentions part rest

/-- A number in decimal digits. -/
def ofNat (n : Nat) : Text :=
  Nat.toDigits 10 n

/-- A number in decimal digits, with a minus sign if it is negative. -/
def ofInt (i : Int) : Text :=
  if i < 0 then '-' :: ofNat i.natAbs else ofNat i.natAbs

/-- A number in at least `width` lower-case hexadecimal digits. -/
def hexadecimal (width n : Nat) : Text :=
  let digits := Nat.toDigits 16 n
  List.replicate (width - digits.length) '0' ++ digits

/-- Whether `a` stands before `b` in the order of code points, a beginning before what it begins. -/
def precedes : Text → Text → Bool
  | [], [] => false
  | [], _ :: _ => true
  | _ :: _, [] => false
  | a :: as, b :: bs => a.toNat < b.toNat || (a == b && precedes as bs)

theorem splitOn_ne_nil (separator : Char) (text : Text) : splitOn separator text ≠ [] := by
  cases text with
  | nil => simp [splitOn]
  | cons c rest =>
      simp only [splitOn]
      split
      · simp
      · split <;> simp

end Text

end ClassDiagram
