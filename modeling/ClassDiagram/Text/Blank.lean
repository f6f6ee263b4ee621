import ClassDiagram.Text.Basic
import ClassDiagram.Text.CodeRanges

/-!
# White space

Twenty-nine characters are blank: tab to carriage return, the four information separators, the space
and the spaces and separators of other scripts. Words of a line are what stands between them.
-/

namespace ClassDiagram.Text

/-- The code points of white space. -/
def blankRanges : CodeRanges :=
  [(0x9, 0xd), (0x1c, 0x20), (0x85, 0x85), (0xa0, 0xa0), (0x1680, 0x1680), (0x2000, 0x200a),
   (0x2028, 0x2029), (0x202f, 0x202f), (0x205f, 0x205f), (0x3000, 0x3000)]

/-- Whether a character is white space. -/
def isBlank (c : Char) : Bool :=
  blankRanges.holds c.toNat

/-- A text without the white space at its two ends. -/
def trim (text : Text) : Text :=
  dropEndWhile isBlank (text.dropWhile isBlank)

/-- The longest runs of characters that are not white space, in order. -/
def fields : Text → List Text
  | [] => []
  | c :: rest =>
      if isBlank c then fields rest
      else
        match rest with
        | [] => [[c]]
        | d :: _ =>
            if isBlank d then [c] :: fields rest
            else
              match fields rest with
              | [] => [[c]]
              | field :: more => (c :: field) :: more

end ClassDiagram.Text
