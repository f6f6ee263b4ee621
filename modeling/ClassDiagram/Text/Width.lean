import ClassDiagram.Text.Basic
import ClassDiagram.Text.WidthRanges

/-!
# Columns of a terminal

Most characters take one column, wide ones two, controls and marks none. Two marks change what is
around them: a joiner draws the next character into the one before, so that it takes no column, and
an emoji selector makes some characters of one column wide. The characters that are shown in one
place form a grapheme.
-/

namespace ClassDiagram.Text

/-- The columns that a character takes by itself. -/
def charWidth (c : Char) : Nat :=
  if zeroWidthRanges.holds c.toNat then 0
  else if wideRanges.holds c.toNat then 2
  else 1

/-- The mark that joins the next character to the one before it. -/
def joiner : Char := '\u200d'

/-- The mark that asks for the character before it to be shown as emoji. -/
def emojiSelector : Char := '\ufe0f'

/-- The columns that an emoji selector adds to the last character that takes any. -/
def widening : Option Char → Nat
  | some c => if widenedRanges.holds c.toNat then 1 else 0
  | none => 0

/-- What has been measured: the columns, the last character that takes any unless it has met an
emoji selector, and whether the next character is joined. -/
structure Measure where
  columns : Nat
  last : Option Char
  isJoined : Bool

/-- Measures one more character. -/
def Measure.step (m : Measure) (c : Char) : Measure :=
  if m.isJoined then { m with isJoined := false }
  else if c = joiner then { m with isJoined := true }
  else if c = emojiSelector then ⟨m.columns + widening m.last, none, false⟩
  else if charWidth c = 0 then m
  else ⟨m.columns + charWidth c, some c, false⟩

/-- The columns that a text takes. -/
def width (text : Text) : Nat :=
  (text.foldl Measure.step ⟨0, none, false⟩).columns

/-- Characters that are shown in one place, and the columns they take. -/
structure Grapheme where
  text : Text
  columns : Nat
  deriving DecidableEq, Repr

/-- Graphemes that are complete but for marks, the last one first and its text in reverse, beside
what has been measured. -/
structure Clusters where
  graphemes : List Grapheme
  last : Option Char
  isJoined : Bool

/-- The graphemes with a character added to the last one, and columns with it. -/
def Clusters.extend (s : Clusters) (c : Char) (columns : Nat) : List Grapheme :=
  match s.graphemes with
  | [] => [⟨[c], columns⟩]
  | g :: before => ⟨c :: g.text, g.columns + columns⟩ :: before

/-- Takes in one more character. A character with columns of its own begins a grapheme, unless it is
joined, and all others go to the last one. Marks at the very beginning are a grapheme without
columns and have no effect. -/
def Clusters.step (s : Clusters) (c : Char) : Clusters :=
  if s.isJoined then ⟨s.extend c 0, s.last, false⟩
  else if charWidth c ≠ 0 then ⟨⟨[c], charWidth c⟩ :: s.graphemes, some c, false⟩
  else if c = emojiSelector then ⟨s.extend c (widening s.last), none, false⟩
  else ⟨s.extend c 0, s.last, c = joiner && !s.graphemes.isEmpty⟩

/-- The graphemes of a text. -/
def graphemes (text : Text) : List Grapheme :=
  let s := text.foldl Clusters.step ⟨[], none, false⟩
  s.graphemes.reverse.map fun g => ⟨g.text.reverse, g.columns⟩

end ClassDiagram.Text
