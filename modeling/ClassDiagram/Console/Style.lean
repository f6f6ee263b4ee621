import ClassDiagram.Console.ColorNames
import ClassDiagram.Text.Blank
import ClassDiagram.Text.Case
import ClassDiagram.Text.Digit

/-!
# Styles in words

A style is written in words: attributes, a color, `on` with the color behind the text, and `link`
with an address. The word `not` takes the attribute after it away, and of two words for one thing
the later one counts. Attributes have short names too, and case matters little, so that a style may
be written in many ways; its normal form is the one in which styles are compared.
-/

namespace ClassDiagram

/-- What a style can ask for or take away, beside colors. -/
inductive StyleAttribute where
  | bold
  | dim
  | italic
  | underline
  | blink
  | blink2
  | inverse
  | conceal
  | strike
  | underline2
  | frame
  | encircle
  | overline
  deriving DecidableEq, Repr

namespace StyleAttribute

/-- Every attribute, in the order of the normal form. -/
def all : List StyleAttribute :=
  [bold, dim, italic, underline, blink, blink2, inverse, conceal, strike, underline2, frame,
   encircle, overline]

/-- The full name of an attribute. -/
def name : StyleAttribute → Text
  | bold => "bold".toList
  | dim => "dim".toList
  | italic => "italic".toList
  | underline => "underline".toList
  | blink => "blink".toList
  | blink2 => "blink2".toList
  | inverse => "reverse".toList
  | conceal => "conceal".toList
  | strike => "strike".toList
  | underline2 => "underline2".toList
  | frame => "frame".toList
  | encircle => "encircle".toList
  | overline => "overline".toList

/-- The short names of attributes that have one. -/
def shortNames : List (Text × StyleAttribute) :=
  [("d".toList, dim), ("b".toList, bold), ("i".toList, italic), ("u".toList, underline),
   ("r".toList, inverse), ("c".toList, conceal), ("s".toList, strike),
   ("uu".toList, underline2), ("o".toList, overline)]

/-- The attribute that a word names. -/
def ofWord? (word : Text) : Option StyleAttribute :=
  match all.find? fun a => a.name = word with
  | some a => some a
  | none => shortNames.lookup word

end StyleAttribute

/-- A style: its attributes, the last word first, with whether they are asked for; the names of its
colors; and an address. -/
structure Style where
  attributes : List (StyleAttribute × Bool)
  color : Option Text
  background : Option Text
  link : Option Text
  deriving DecidableEq, Repr

namespace Style

/-- The style that asks for nothing. -/
def plain : Style := ⟨[], none, none, none⟩

/-- Why words are no style: there is a word that does not fit, or a color is written by three
components of which one is missing. -/
inductive Error where
  | misfit
  | emptyComponent
  deriving DecidableEq, Repr

/-- The digits of lower-case hexadecimal numbers. -/
def isHexDigit (c : Char) : Bool :=
  ('0' ≤ c && c ≤ '9') || ('a' ≤ c && c ≤ 'f')

/-- What stands between parentheses after a given beginning. -/
def argument? (start word : Text) : Option Text :=
  match Text.dropStart? (start ++ ['(']) word with
  | some rest => if rest.getLast? = some ')' then some rest.dropLast else none
  | none => none

/-- Whether a word is a color by six hexadecimal digits. -/
def isHexColor : Text → Bool
  | '#' :: digits => digits.length = 6 && digits.all isHexDigit
  | _ => false

/-- Whether a word is a color by its number in a palette of 256. -/
def isNumberedColor (word : Text) : Bool :=
  match argument? "color".toList word with
  | some digits =>
      0 < digits.length && digits.length ≤ 3 && digits.all Char.isDigit
        && Text.numeral digits ≤ 255
  | none => false

/-- The components of a color that is written by them, of whatever number and size. -/
def components? (word : Text) : Option (List Text) :=
  match argument? "rgb".toList word with
  | some list =>
      if list ≠ [] ∧ list.all (fun c => c = ',' || Text.isDigit c) then
        some (Text.splitOn ',' list)
      else none
  | none => none

/-- The name of the color that a word is. -/
def readColor (word : Text) : Except Error Text :=
  let name := Text.lower word
  if name = "default".toList || colorNames.contains name || isHexColor name
      || isNumberedColor name then
    .ok name
  else
    match components? name with
    | some [red, green, blue] =>
        let components := [red, green, blue]
        if components.contains [] then .error .emptyComponent
        else if components.all fun digits => Text.numeral digits ≤ 255 then .ok name
        else .error .misfit
    | _ => .error .misfit

/-- Adds words to a style. -/
def readWords (style : Style) : List Text → Except Error Style
  | [] => .ok style
  | word :: rest =>
      let known := Text.lower word
      if known = "on".toList then
        match rest with
        | [] => .error .misfit
        | word :: rest => do
            let name ← readColor word
            readWords { style with background := some name } rest
      else if known = "not".toList then
        match rest with
        | [] => .error .misfit
        | word :: rest =>
            match StyleAttribute.ofWord? word with
            | some a => readWords { style with attributes := (a, false) :: style.attributes } rest
            | none => .error .misfit
      else if known = "link".toList then
        match rest with
        | [] => .error .misfit
        | word :: rest => readWords { style with link := some word } rest
      else
        match StyleAttribute.ofWord? known with
        | some a => readWords { style with attributes := (a, true) :: style.attributes } rest
        | none => do
            let name ← readColor word
            readWords { style with color := some name } rest

/-- The words of a style in its normal form. -/
def words (style : Style) : List Text :=
  let attributes := StyleAttribute.all.flatMap fun a =>
    match style.attributes.lookup a with
    | some true => [a.name]
    | some false => ["not".toList, a.name]
    | none => []
  attributes ++ style.color.toList
    ++ (style.background.map fun name => ["on".toList, name]).getD []
    ++ (style.link.map fun address => ["link".toList, address]).getD []

/-- The normal form of a style. -/
def toText (style : Style) : Text :=
  match style.words with
  | [] => "none".toList
  | words => Text.joinWith [' '] words

/-- The form in which the name of a tag is compared: the normal form of a style, and lower case for
a name that is no style. It is an error if a color lacks a component. -/
def normalize (name : Text) : Except Error Text :=
  match readWords plain (Text.fields name) with
  | .ok style => .ok style.toText
  | .error .misfit => .ok (Text.lower (Text.trim name))
  | .error .emptyComponent => .error .emptyComponent

end Style

end ClassDiagram
