import ClassDiagram.Text.Basic
import ClassDiagram.Text.CasedRanges
import ClassDiagram.Text.CaseSpans

/-!
# Upper and lower case

Both mappings are full ones: a character may become several. Upper-casing looks at one character at
a time. Lower-casing does so too but for the capital sigma, which becomes a final sigma at the end
of a word: when a cased character precedes it and none follows, characters that case ignores left
out.
-/

namespace ClassDiagram.Text

/-- The capital of a character, the character itself if it has none. -/
def upperChar (c : Char) : Text :=
  match expansion? upperExpansions c.toNat with
  | some image => image.map Char.ofNat
  | none => [Char.ofNat (CaseSpan.apply upperSpans c.toNat)]

/-- The lower case of a character by itself, the character itself if it has none. -/
def lowerChar (c : Char) : Text :=
  match expansion? lowerExpansions c.toNat with
  | some image => image.map Char.ofNat
  | none => [Char.ofNat (CaseSpan.apply lowerSpans c.toNat)]

/-- Whether a character has case and is not ignored by case mapping. -/
def isCased (c : Char) : Bool :=
  casedRanges.holds c.toNat

/-- Whether case mapping skips a character in the search for a cased neighbour. -/
def isCaseIgnorable (c : Char) : Bool :=
  caseIgnorableRanges.holds c.toNat

/-- Whether the first character that is not ignored has case. -/
def startsCased (text : Text) : Bool :=
  match text.dropWhile isCaseIgnorable with
  | [] => false
  | c :: _ => isCased c

/-- Lower case of a text; `afterCased` tells whether the last character before it that is not
ignored has case. -/
def lowerAfter (afterCased : Bool) : Text → Text
  | [] => []
  | c :: rest =>
      let lowered :=
        if c = 'Σ' then [if afterCased && !startsCased rest then 'ς' else 'σ'] else lowerChar c
      lowered ++ lowerAfter (if isCaseIgnorable c then afterCased else isCased c) rest

/-- A text in lower case. -/
def lower (text : Text) : Text :=
  lowerAfter false text

/-- A text in upper case. -/
def upper (text : Text) : Text :=
  text.flatMap upperChar

end ClassDiagram.Text
