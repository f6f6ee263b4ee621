import ClassDiagram.Document
import ClassDiagram.Text.Newlines

/-!
# Line endings and lines

Files turn every ending of a line into a line feed before their lines are looked at; a diagram takes
carriage returns away at the end of each line instead. Where every carriage return stands before a
line feed, both ways give the same lines.
-/

namespace ClassDiagram

namespace Text

variable {old new : Text}

/-- Text in which `new` stands for every occurrence of `old`, found from the left; `covered`
characters at the front belong to an occurrence that was already replaced. -/
def replaceFrom (old new : Text) : Nat → Text → Text
  | _, [] => []
  | covered + 1, _ :: rest => replaceFrom old new covered rest
  | 0, c :: rest =>
      if (dropStart? old (c :: rest)).isSome then new ++ replaceFrom old new (old.length - 1) rest
      else c :: replaceFrom old new 0 rest

/-- Text in which `new` stands for every occurrence of `old`. -/
def replaceAll (old new text : Text) : Text :=
  replaceFrom old new 0 text

/-- A line feed for every carriage return with the line feed after it. -/
def joinEndings (text : Text) : Text :=
  replaceAll ['\r', '\n'] ['\n'] text

/-- A line feed for every carriage return. -/
def feedReturns (text : Text) : Text :=
  replaceAll ['\r'] ['\n'] text

/-- To read a text as that of a file is to replace the endings of two characters, and then the
carriage returns that are left. -/
theorem normalizeNewlines_eq (text : Text) :
    normalizeNewlines text = feedReturns (joinEndings text) := by
  unfold feedReturns joinEndings replaceAll
  fun_induction normalizeNewlines text with
  | case1 => rfl
  | case2 rest ih => simp [replaceFrom, dropStart?, ih]
  | case3 rest lone ih =>
      have unpaired : dropStart? ['\n'] rest = none := by
        cases rest with
        | nil => rfl
        | cons c rest =>
            have different : '\n' ≠ c := fun same => lone rest (same ▸ rfl)
            simp [dropStart?, different]
      simp [replaceFrom, dropStart?, unpaired, ih]
  | case4 c rest unpaired other ih =>
      have different : '\r' ≠ c := fun same => other same.symm
      simp [replaceFrom, dropStart?, different, ih]

/-- A text without carriage returns stays as it is. -/
theorem normalizeNewlines_eq_self {text : Text} (absent : '\r' ∉ text) :
    normalizeNewlines text = text := by
  fun_induction normalizeNewlines text with
  | case1 => rfl
  | case2 rest ih => exact absurd List.mem_cons_self absent
  | case3 rest lone ih => exact absurd List.mem_cons_self absent
  | case4 c rest unpaired other ih => rw [ih fun later => absent (List.mem_cons_of_mem c later)]

/-- Whether every carriage return stands right before a line feed. -/
def ReturnsArePaired (text : Text) : Prop :=
  ∀ before after, text = before ++ '\r' :: after → after.head? = some '\n'

theorem ReturnsArePaired.tail {c : Char} {text : Text} (paired : ReturnsArePaired (c :: text)) :
    ReturnsArePaired text :=
  fun before after split => paired (c :: before) after (split ▸ rfl)

theorem dropEndWhile_cons {p : Char → Bool} {c : Char} (stays : p c = false) (text : Text) :
    dropEndWhile p (c :: text) = c :: dropEndWhile p text := by
  rw [dropEndWhile]
  split
  · rename_i empty
    simp [stays, empty]
  · rfl

end Text

/-- The first character of a document belongs to its first line, unless it is a line feed. -/
theorem documentLines_cons {c : Char} (inside : c ≠ '\n') (shown : c ≠ '\r') (text : Text) :
    documentLines (c :: text)
      = match documentLines text with
        | [] => [[c]]
        | line :: rest => (c :: line) :: rest := by
  have stays : ∀ line, Text.dropEndWhile (· = '\r') (c :: line)
      = c :: Text.dropEndWhile (· = '\r') line :=
    Text.dropEndWhile_cons (decide_eq_false shown)
  unfold documentLines Text.lines
  rw [Text.splitOn, if_neg inside]
  cases Text.splitOn '\n' text with
  | nil => simp [Text.dropEndWhile, shown]
  | cons line rest => simp [stays]

theorem documentLines_feed (text : Text) :
    documentLines ('\n' :: text) = [] :: documentLines text := by
  simp [documentLines, Text.lines, Text.splitOn, Text.dropEndWhile]

theorem documentLines_return_feed (text : Text) :
    documentLines ('\r' :: '\n' :: text) = [] :: documentLines text := by
  simp [documentLines, Text.lines, Text.splitOn, Text.dropEndWhile]

/-- Where every carriage return stands before a line feed, a document has the lines that it has as
the text of a file. -/
theorem documentLines_normalizeNewlines {text : Text} (paired : Text.ReturnsArePaired text) :
    documentLines (Text.normalizeNewlines text) = documentLines text := by
  fun_induction Text.normalizeNewlines text with
  | case1 => rfl
  | case2 rest ih => rw [documentLines_feed, documentLines_return_feed, ih paired.tail.tail]
  | case3 rest lone ih =>
      have feed : rest.head? = some '\n' := paired [] rest rfl
      obtain ⟨after, rfl⟩ := List.head?_eq_some_iff.mp feed
      exact absurd rfl (lone after)
  | case4 c rest unpaired other ih =>
      have shown : c ≠ '\r' := fun same => other same
      by_cases feed : c = '\n'
      · rw [feed, documentLines_feed, documentLines_feed, ih paired.tail]
      · rw [documentLines_cons feed shown, documentLines_cons feed shown, ih paired.tail]

/-- A diagram is read by its lines alone. -/
theorem parse_congr {first second : Text} (lines : documentLines first = documentLines second)
    (settings : Settings) : parse settings first = parse settings second := by
  unfold parse Builder.readText
  rw [lines]

end ClassDiagram
