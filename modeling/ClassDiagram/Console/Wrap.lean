import ClassDiagram.Text.Blank
import ClassDiagram.Text.Width

/-!
# Breaking lines

A line is broken between words. A word takes the white space after it along, so that a line may end
in white space, which stays as far as it fits. A word that is wider than a whole line begins on a
line of its own and is either cut into pieces as wide as a line, or left whole to be shortened
later.
-/

namespace ClassDiagram.Wrap

/-- What happens to a word that is wider than a line. -/
inductive Overflow where
  | fold
  | ellipsis
  deriving DecidableEq, Repr

/-- The parts of a line between its tabs, each but the last filled with spaces, at least one, up to
the next multiple of eight columns. -/
def expandParts : List Text → Text
  | [] => []
  | [last] => last
  | part :: next :: rest =>
      let columns := Text.width (part ++ [' '])
      part ++ List.replicate ((columns + 7) / 8 * 8 - columns + 1) ' ' ++ expandParts (next :: rest)

/-- Tabs as spaces up to the next multiple of eight columns. -/
def expandTabs (line : Text) : Text :=
  expandParts (Text.splitOn '\t' line)

/-- A character before words: it begins a word, goes before the blanks or the word that come next.
-/
def consWord (c : Char) : List Text → List Text
  | [] => [[c]]
  | word :: rest =>
      if Text.isBlank c then
        match word with
        | d :: _ => if Text.isBlank d then (c :: word) :: rest else [c] :: word :: rest
        | [] => [c] :: rest
      else (c :: word) :: rest

/-- The words of a line, each with the white space after it; white space at the very beginning is a
piece of its own. -/
def wordsWithBlanks (line : Text) : List Text :=
  line.foldr consWord []

/-- The words of a line, each with the white space after it, the first also with the white space
before it. A line of white space has none. -/
def words (line : Text) : List Text :=
  match wordsWithBlanks line with
  | first :: second :: rest =>
      if first.all Text.isBlank then (first ++ second) :: rest else first :: second :: rest
  | [only] => if only.all Text.isBlank then [] else [only]
  | [] => []

/-- Pieces with a text before the first one. -/
def consPiece (text : Text) : List Text → List Text
  | [] => [text]
  | piece :: pieces => (text ++ piece) :: pieces

/-- Graphemes in pieces of at most `width` columns; `used` columns of the first are taken. -/
def chopFrom (width used : Nat) : List Text.Grapheme → List Text
  | [] => []
  | g :: rest =>
      if width < used + g.columns then [] :: consPiece g.text (chopFrom width g.columns rest)
      else consPiece g.text (chopFrom width (used + g.columns) rest)

/-- A text cut between graphemes into pieces of at most `width` columns. -/
def chop (width : Nat) (text : Text) : List Text :=
  chopFrom width 0 (Text.graphemes text)

/-- Lines being filled: those that are complete, the last one first, the current one, and the
columns that count as taken on it. -/
structure Filling where
  complete : List Text
  current : Text
  column : Nat

/-- Goes on with a text on a new line, unless nothing has been written at all. -/
def Filling.breakBefore (f : Filling) (text : Text) (isFirst : Bool) : Filling :=
  if isFirst then ⟨f.complete, f.current ++ text, Text.width text⟩
  else ⟨f.current :: f.complete, text, Text.width text⟩

/-- Puts a word on the current line or on a new one. -/
def Filling.add (width : Nat) (overflow : Overflow) (f : Filling) (word : Text) : Filling :=
  let isFirst := f.complete.isEmpty && f.current.isEmpty
  let size := Text.width (Text.dropEndWhile Text.isBlank word)
  if f.column + size ≤ width then
    ⟨f.complete, f.current ++ word, f.column + Text.width word⟩
  else if width < size then
    match overflow with
    | .ellipsis => f.breakBefore word isFirst
    | .fold =>
        match chop width word with
        | [] => f
        | piece :: pieces =>
            pieces.foldl (fun f piece => f.breakBefore piece false) (f.breakBefore piece isFirst)
  else f.breakBefore word isFirst

/-- White space at the end of a line as far as the line has at most `width` characters. -/
def trimExcess (width : Nat) (line : Text) : Text :=
  line.take (max width (Text.dropEndWhile Text.isBlank line).length)

/-- The lines that a line is broken into. -/
def breakLine (width : Nat) (overflow : Overflow) (line : Text) : List Text :=
  match words line with
  | [] => [line]
  | found =>
      let f := found.foldl (Filling.add width overflow) ⟨[], [], 0⟩
      (f.current :: f.complete).reverse

/-- As many graphemes as fit into `width` columns, filled with spaces if the next one does not fit.
-/
def cropFrom (width : Nat) : List Text.Grapheme → Text
  | [] => []
  | g :: rest =>
      if g.columns ≤ width then g.text ++ cropFrom (width - g.columns) rest
      else List.replicate width ' '

/-- The beginning of a text that is wider than `width` columns, in just these columns. -/
def crop (width : Nat) (text : Text) : Text :=
  cropFrom width (Text.graphemes text)

/-- A line in at most `width` columns. -/
def fit (width : Nat) (overflow : Overflow) (line : Text) : Text :=
  if Text.width line ≤ width then line
  else
    match overflow with
    | .fold => crop width line
    | .ellipsis => crop (width - 1) line ++ ['…']

/-- A text in lines of at most `width` columns. -/
def wrap (width : Nat) (overflow : Overflow) (text : Text) : List Text :=
  ((Text.lines text).map expandTabs).flatMap fun line =>
    (breakLine width overflow line).map fun part => fit width overflow (trimExcess width part)

/-- A text in lines of at most `width` columns that are only broken where the text has line breaks.
A line that is too wide is shortened, also if there is only white space beyond its columns. -/
def wrapNowhere (width : Nat) (text : Text) : List Text :=
  ((Text.lines text).map expandTabs).map (fit width .ellipsis)

end ClassDiagram.Wrap
