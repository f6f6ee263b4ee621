import ClassDiagram.Proofs.Console.Messages
import ClassDiagram.Proofs.Text.Lines

/-!
# How the warning begins

A text that begins with the words of the warning for a diagram without classes is printed so that
its first two letters come first: nothing that the console does to a text reaches them. No JSON text
begins like that.
-/

namespace ClassDiagram

/-- The words that the warning for a diagram without classes begins with. -/
def noClasses : Text :=
  "No classes".toList

section Prefixes

variable {start text rest : Text}

/-- Backslashes at the end of a text are no part of a beginning without them. -/
theorem Markup.prefix_without_backslashes {message : Text} (begins : start <+: message)
    (ends : start.reverse.head? ≠ some '\\') :
    start <+: (message.reverse.drop (backslashesBefore message.reverse)).reverse := by
  have kept : ∀ more : Text, ∃ left,
      (more ++ start.reverse).drop (backslashesBefore (more ++ start.reverse))
        = left ++ start.reverse := by
    intro more
    induction more with
    | nil =>
        exact ⟨[], by rw [List.nil_append, backslashesBefore_of_head? ends]; rfl⟩
    | cons c more ih =>
        obtain ⟨left, dropped⟩ := ih
        unfold backslashesBefore at dropped ⊢
        by_cases backslash : c = '\\'
        · exact ⟨left, by simpa [backslash] using dropped⟩
        · exact ⟨c :: more, by simp [backslash]⟩
  obtain ⟨more, rfl⟩ := begins
  rw [List.reverse_append]
  obtain ⟨left, dropped⟩ := kept more.reverse
  rw [dropped, List.reverse_append, List.reverse_reverse]
  exact List.prefix_append _ _

theorem Markup.prefix_unescapeBrackets (plain : '\\' ∉ start) (begins : start <+: text) :
    start <+: unescapeBrackets text := by
  obtain ⟨rest, rfl⟩ := begins
  induction start with
  | nil => exact List.nil_prefix
  | cons c start ih =>
      rw [List.mem_cons, not_or] at plain
      have step : unescapeBrackets (c :: (start ++ rest)) = c :: unescapeBrackets (start ++ rest) := by
        rw [unescapeBrackets]
        rintro _ rfl
        exact absurd rfl plain.1
      rw [List.cons_append, step]
      exact (List.cons_prefix_cons).mpr ⟨rfl, ih plain.2⟩

namespace Emoji

/-- Characters other than colons are read as they stand. -/
theorem Scan.foldl_step_of_no_colon (plain : ':' ∉ start) (done : Text) :
    start.foldl Scan.step ⟨done, none⟩ = ⟨start.reverse ++ done, none⟩ := by
  induction start generalizing done with
  | nil => rfl
  | cons c start ih =>
      rw [List.mem_cons, not_or] at plain
      have step : Scan.step ⟨done, none⟩ c = ⟨c :: done, none⟩ := if_neg (Ne.symm plain.1)
      rw [List.foldl_cons, step, ih plain.2]
      simp

/-- A character leaves what is done. -/
theorem Scan.done_step (s : Scan) (c : Char) : ∃ more, (s.step c).done = more ++ s.done := by
  obtain ⟨done, opened⟩ := s
  unfold Scan.step
  cases opened with
  | none =>
      dsimp only
      split
      · exact ⟨[], rfl⟩
      · exact ⟨[c], rfl⟩
  | some code =>
      dsimp only
      split
      · split
        · exact ⟨_, rfl⟩
        · exact ⟨':' :: code ++ [':'], by simp [Scan.text]⟩
      · split
        · exact ⟨c :: code ++ [':'], by simp [Scan.text]⟩
        · exact ⟨[], rfl⟩

theorem Scan.done_foldl_step (s : Scan) (text : Text) :
    ∃ more, (text.foldl Scan.step s).done = more ++ s.done := by
  induction text generalizing s with
  | nil => exact ⟨[], rfl⟩
  | cons c rest ih =>
      obtain ⟨more, first⟩ := s.done_step c
      obtain ⟨others, last⟩ := ih (s.step c)
      exact ⟨others ++ more, by rw [List.foldl_cons, last, first, List.append_assoc]⟩

/-- What was read without a colon stays as it is. -/
theorem prefix_replaceCodes (plain : ':' ∉ start) (begins : start <+: text) :
    start <+: replaceCodes text := by
  obtain ⟨rest, rfl⟩ := begins
  obtain ⟨more, done⟩ := Scan.done_foldl_step ⟨start.reverse, none⟩ rest
  unfold replaceCodes
  rw [List.foldl_append, Scan.foldl_step_of_no_colon plain [], List.append_nil]
  unfold Scan.text
  split
  · rw [done]
    simp
  · rw [done]
    simp

end Emoji

/-- A text without the separator stays together at the front. -/
theorem Text.splitOn_append_of_not_mem {separator : Char} (apart : separator ∉ start) (rest : Text) :
    ∃ piece pieces, splitOn separator (start ++ rest) = (start ++ piece) :: pieces := by
  induction start with
  | nil =>
      cases found : splitOn separator rest with
      | nil => exact absurd found (splitOn_ne_nil separator rest)
      | cons piece pieces => exact ⟨piece, pieces, by rw [List.nil_append, found]; rfl⟩
  | cons c start ih =>
      rw [List.mem_cons, not_or] at apart
      obtain ⟨piece, pieces, split⟩ := ih apart.2
      refine ⟨piece, pieces, ?_⟩
      rw [List.cons_append, splitOn, if_neg (Ne.symm apart.1), split]
      rfl

end Prefixes

namespace Wrap

/-- Tabs further on leave the beginning of a line. -/
theorem prefix_expandTabs {start line : Text} (apart : '\t' ∉ start) (begins : start <+: line) :
    start <+: expandTabs line := by
  obtain ⟨rest, rfl⟩ := begins
  obtain ⟨piece, pieces, split⟩ := Text.splitOn_append_of_not_mem apart rest
  unfold expandTabs
  rw [split]
  cases pieces with
  | nil => exact List.prefix_append _ _
  | cons next pieces =>
      rw [expandParts]
      simp only [List.append_assoc]
      exact List.prefix_append _ _

/-- A character that is not white space begins a word or goes on with one. -/
theorem consWord_of_shown {c : Char} (shown : Text.isBlank c = false) (words : List Text) :
    ∃ word others, consWord c words = (c :: word) :: others := by
  cases words with
  | nil => exact ⟨[], [], rfl⟩
  | cons word others => exact ⟨word, others, by simp [consWord, shown]⟩

/-- The first word of a line that begins with the words of the warning. -/
theorem words_of_noClasses {line : Text} (begins : noClasses <+: line) :
    ∃ others, words line = "No ".toList :: others := by
  obtain ⟨rest, rfl⟩ := begins
  obtain ⟨word, others, second⟩ :=
    consWord_of_shown (c := 'c') (by decide) (wordsWithBlanks ("lasses".toList ++ rest))
  have whole : wordsWithBlanks (noClasses ++ rest)
      = consWord 'N' (consWord 'o' (consWord ' ' (('c' :: word) :: others))) := by
    rw [← second]
    rfl
  have first : consWord 'N' (consWord 'o' (consWord ' ' (('c' :: word) :: others)))
      = "No ".toList :: ('c' :: word) :: others := by
    have blank : Text.isBlank ' ' = true := by decide
    have shown : Text.isBlank 'c' = false ∧ Text.isBlank 'o' = false ∧ Text.isBlank 'N' = false := by
      decide
    simp [consWord, blank, shown]
  have letters : "No ".toList.all Text.isBlank = false := by decide
  refine ⟨('c' :: word) :: others, ?_⟩
  unfold words
  rw [whole, first]
  simp only [letters, Bool.false_eq_true, if_false]

/-- Whether the first line that is being filled begins in a given way. -/
def Filling.BeginsWith (start : Text) (f : Filling) : Prop :=
  ∃ line, (f.current :: f.complete).getLast? = some line ∧ start <+: line

namespace Filling

variable {start : Text} {f : Filling}

theorem BeginsWith.append (begins : f.BeginsWith start) (text : Text) (column : Nat) :
    BeginsWith start ⟨f.complete, f.current ++ text, column⟩ := by
  obtain ⟨line, last, here⟩ := begins
  obtain ⟨complete, current, _⟩ := f
  cases complete with
  | nil =>
      obtain rfl : current = line := by simpa using last
      exact ⟨current ++ text, rfl, here.trans (List.prefix_append _ _)⟩
  | cons first rest => exact ⟨line, by simpa using last, here⟩

theorem BeginsWith.breakBefore (begins : f.BeginsWith start) (text : Text) (isFirst : Bool) :
    (f.breakBefore text isFirst).BeginsWith start := by
  unfold Filling.breakBefore
  split
  · exact begins.append text _
  · obtain ⟨line, last, here⟩ := begins
    exact ⟨line, by simpa using last, here⟩

/-- A further word leaves the beginning of the first line. -/
theorem BeginsWith.add (begins : f.BeginsWith start) (width : Nat) (overflow : Overflow)
    (word : Text) : (f.add width overflow word).BeginsWith start := by
  unfold Filling.add
  dsimp only
  split
  · exact begins.append word _
  · split
    · split
      · exact begins.breakBefore word _
      · split
        · exact begins
        · rename_i piece pieces _
          exact List.foldlRecOn pieces _ (begins.breakBefore piece _)
            fun f held piece _ => held.breakBefore piece false
    · exact begins.breakBefore word _

end Filling

/-- The first line of what a line is broken into. -/
theorem head?_breakLine {line : Text} (begins : noClasses <+: line) :
    ∃ first others, breakLine consoleWidth .fold line = first :: others ∧
      "No ".toList <+: first := by
  obtain ⟨others, found⟩ := words_of_noClasses begins
  have placed : Filling.add consoleWidth .fold ⟨[], [], 0⟩ "No ".toList
      = ⟨[], "No ".toList, 3⟩ := rfl
  have start : Filling.BeginsWith "No ".toList ⟨[], "No ".toList, 3⟩ :=
    ⟨"No ".toList, rfl, List.prefix_refl _⟩
  obtain ⟨first, last, here⟩ : Filling.BeginsWith "No ".toList
      (others.foldl (Filling.add consoleWidth .fold) ⟨[], "No ".toList, 3⟩) :=
    List.foldlRecOn others _ start fun f held word _ => held.add consoleWidth .fold word
  unfold breakLine
  rw [found]
  dsimp only
  rw [List.foldl_cons, placed]
  rw [← List.head?_reverse] at last
  obtain ⟨rest, whole⟩ := List.head?_eq_some_iff.mp last
  exact ⟨first, rest, whole, here⟩

/-- A character goes on with the last grapheme or begins one; those before the last one stay. -/
theorem graphemes_step {s : Text.Clusters} {base : List Text.Grapheme}
    (held : ∃ last more, s.graphemes = last :: more ++ base) (c : Char) :
    ∃ last more, (s.step c).graphemes = last :: more ++ base := by
  obtain ⟨last, more, held⟩ := held
  have extended : ∀ columns, ∃ last more, s.extend c columns = last :: more ++ base := by
    intro columns
    unfold Text.Clusters.extend
    rw [held]
    exact ⟨_, more, rfl⟩
  unfold Text.Clusters.step
  split
  · exact extended 0
  · split
    · exact ⟨⟨[c], Text.charWidth c⟩, last :: more, by rw [held]; rfl⟩
    · split
      · exact extended (Text.widening s.last)
      · exact extended 0

theorem graphemes_foldl_step {s : Text.Clusters} {base : List Text.Grapheme}
    (held : ∃ last more, s.graphemes = last :: more ++ base) (text : Text) :
    ∃ last more, (text.foldl Text.Clusters.step s).graphemes = last :: more ++ base := by
  induction text generalizing s with
  | nil => exact held
  | cons c rest ih => exact ih (graphemes_step held c)

/-- The first two letters of the warning are graphemes of their own, whatever comes after them. -/
theorem graphemes_of_prefix (rest : Text) :
    ∃ more, Text.graphemes ("No ".toList ++ rest) = ⟨['N'], 1⟩ :: ⟨['o'], 1⟩ :: more := by
  have begun : ∃ last more, ("No ".toList.foldl Text.Clusters.step ⟨[], none, false⟩).graphemes
      = last :: more ++ [⟨['o'], 1⟩, ⟨['N'], 1⟩] := ⟨⟨[' '], 1⟩, [], rfl⟩
  obtain ⟨last, more, found⟩ := graphemes_foldl_step begun rest
  refine ⟨(last :: more).reverse.map fun g => ⟨g.text.reverse, g.columns⟩, ?_⟩
  unfold Text.graphemes
  rw [List.foldl_append]
  dsimp only
  rw [found, List.reverse_append, List.map_append]
  rfl

/-- A line that begins with the first word of the warning still does when it is cut. -/
theorem fit_of_prefix {line : Text} (begins : "No ".toList <+: line) :
    "No".toList <+: fit consoleWidth .fold (trimExcess consoleWidth line) := by
  have shorter : "No".toList <+: "No ".toList := ⟨[' '], rfl⟩
  have trimmed : "No ".toList <+: trimExcess consoleWidth line := by
    refine List.prefix_take_iff.mpr ⟨begins, ?_⟩
    exact Nat.le_trans (by decide) (Nat.le_max_left consoleWidth _)
  unfold fit
  split
  · exact shorter.trans trimmed
  · obtain ⟨rest, whole⟩ := trimmed
    obtain ⟨more, graphemes⟩ := graphemes_of_prefix rest
    dsimp only
    rw [← whole, crop, graphemes]
    exact ⟨_, rfl⟩

/-- The first line of a text that begins with the words of the warning. -/
theorem head?_wrap {text : Text} (begins : noClasses <+: text) :
    ∃ first others, wrap consoleWidth .fold text = first :: others ∧ "No".toList <+: first := by
  obtain ⟨rest, rfl⟩ := begins
  have together : ∃ piece pieces, Text.splitOn '\n' (noClasses ++ rest)
      = (noClasses ++ piece) :: pieces :=
    Text.splitOn_append_of_not_mem (by decide) rest
  obtain ⟨piece, pieces, split⟩ := together
  have expanded : noClasses <+: expandTabs (noClasses ++ piece) :=
    prefix_expandTabs (by decide) (List.prefix_append _ _)
  obtain ⟨first, others, broken, here⟩ := head?_breakLine expanded
  unfold wrap Text.lines
  rw [split, List.map_cons, List.flatMap_cons, broken, List.map_cons, List.cons_append]
  exact ⟨_, _, rfl, fit_of_prefix here⟩

end Wrap

/-- What is printed of the warning for a diagram without classes begins with its first word. -/
theorem printMessage_noClasses {level : Level} {message : Text} (begins : noClasses <+: message)
    (plain : '[' ∉ message) :
    ∃ first others, printMessage level message = .ok (first :: others) ∧ "No".toList <+: first := by
  obtain ⟨ending, printed⟩ := printMessage_of_no_bracket level plain
  have body := Emoji.prefix_replaceCodes (by decide) (Markup.prefix_unescapeBrackets (by decide)
    (Markup.prefix_without_backslashes begins (by decide)))
  have kept : noClasses.filter (fun c => !Markup.isDropped c) = noClasses := by decide
  have shown := (body.trans (List.prefix_append _ ending)).filter fun c => !Markup.isDropped c
  rw [kept] at shown
  obtain ⟨first, others, wrapped, here⟩ := Wrap.head?_wrap shown
  exact ⟨first, others, by rw [printed, wrapped], here⟩

end ClassDiagram
