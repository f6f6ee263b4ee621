import ClassDiagram.Line
import ClassDiagram.Proofs.Text.Words

/-!
# Keywords are words

A keyword is looked for with a word boundary at both of its ends. For a keyword that is a word this
is the same as to take the line apart into its words and to look for the keyword among them, so a
part of a longer word is never taken for it. The line is lowered first, and a character of which
lowering makes more than one may cut a word in two.
-/

namespace ClassDiagram.Line

/-- A line opens a class exactly if `class` is one of the words of the line in lower case, and a
root keyword that is a word in lower case is found exactly if it is one of these words. -/
theorem keywords_are_words (line : Text) :
    (isClassOpen line = true ↔ .word "class".toList ∈ Text.runs (Text.lower line)) ∧
      ∀ marker, Text.IsWord (Text.lower marker) →
        (isSectionMarker marker line = true ↔
          .word (Text.lower marker) ∈ Text.runs (Text.lower line)) := by
  constructor
  · have isWord : Text.IsWord "class".toList := by decide +kernel
    exact Text.containsWhole_iff_mem_runs isWord
  · intro marker isWord
    exact Text.containsWhole_iff_mem_runs isWord

/-- The keyword is a part of two words. One of them has a capital of which lowering makes a letter
and a mark that is no word character, so the keyword is a word of what lowering leaves. -/
theorem keyword_is_word_behind_mark :
    Text.IsWord (Text.lower "Road".toList) ∧
      Text.runs (Text.lower "roads İROAD".toList)
        = [.word "roads".toList, .gap " ".toList, .word "i".toList, .gap "\u0307".toList,
            .word "road".toList] ∧
        isSectionMarker "Road".toList "roads İROAD".toList = true := by
  have isWord : Text.IsWord (Text.lower "Road".toList) := by decide +kernel
  refine ⟨isWord, by decide +kernel, ?_⟩
  rw [(keywords_are_words "roads İROAD".toList).2 "Road".toList isWord]
  decide +kernel

end ClassDiagram.Line
