import ClassDiagram.Proofs.Names

/-!
# Names on a line

A closing brace is no part of a name, so the names before it are names of the whole line. An opening
brace ends a name or none, so the names of a line are those up to the brace and those after it.
-/

namespace ClassDiagram.Line

theorem brace_not_word : Text.isWordChar '\x7b' = false := by
  decide +kernel

/-- A character outside of words makes no name and ends none that it stands before. -/
theorem classNames_cons {c : Char} (outside : Text.isWordChar c = false) (line : Text) :
    classNames (c :: line) = classNames line := by
  rw [classNames, classNames, Text.runs_cons]
  cases Text.runs line with
  | nil =>
      rw [Text.Run.cons_nil_of_gap outside]
      rfl
  | cons run rest =>
      cases run with
      | gap g =>
          rw [Text.Run.cons_gap outside]
          rfl
      | word t =>
          rw [Text.Run.cons_gap_word outside]
          rfl

theorem opensBody_append {gap : Text} (rest : Text) (opens : opensBody gap = true) :
    opensBody (gap ++ rest) = true := by
  unfold opensBody at opens ⊢
  cases blanks : gap.dropWhile Text.isBlank with
  | nil => simp [blanks] at opens
  | cons c more => simpa [List.dropWhile_append, blanks] using opens

/-- A gap that has become longer at its end still leads to the brace that it led to. -/
theorem classNamesOfRuns_subset {runs longer : List Text.Run}
    (before : Text.Run.Prefixed runs longer) :
    classNamesOfRuns runs ⊆ classNamesOfRuns longer := by
  induction before with
  | done => exact List.nil_subset _
  | longer g h rest => exact List.nil_subset _
  | @same run runs others tail ih =>
      -- A word is a name by the gap after it, which is the same or longer.
      have word : ∀ t next rest next' rest', runs = next :: rest → others = next' :: rest' →
          (opensBody next.text = true → opensBody next'.text = true) →
          classNamesOfRuns (.word t :: runs) ⊆ classNamesOfRuns (.word t :: others) := by
        rintro t next rest next' rest' rfl rfl opens name member
        simp only [classNamesOfRuns] at member ⊢
        split at member
        · rename_i here
          rw [if_pos (opens here)]
          rcases List.mem_cons.mp member with rfl | member
          · exact List.mem_cons_self
          · exact List.mem_cons_of_mem _ (ih member)
        · split
          · exact List.mem_cons_of_mem _ (ih member)
          · exact ih member
      cases run with
      | gap t => exact ih
      | word t =>
          cases tail with
          | done => exact List.nil_subset _
          | longer g h rest => exact word t _ _ _ _ rfl rfl (opensBody_append h)
          | same next tail => exact word t _ _ _ _ rfl rfl id

/-- The names before a closing brace are names of the line. -/
theorem classNames_beforeClose (line : Text) :
    classNames (beforeClose line) ⊆ classNames line := by
  have edge : Text.inWord (line.dropWhile (· ≠ '\x7d')).head? = false := by
    have brace := List.head?_dropWhile_not (· ≠ '\x7d') line
    cases first : (line.dropWhile (· ≠ '\x7d')).head? with
    | none => rfl
    | some c =>
        simp only [first, decide_eq_false_iff_not, not_not] at brace
        rw [brace]
        rfl
  have longer := classNamesOfRuns_subset (Text.runs_prefixed (beforeClose line) edge)
  rwa [beforeClose, List.takeWhile_append_dropWhile] at longer

/-- Runs of a text that goes up to a brace, and of a longer one: they are the same up to the gap
with that brace, and `later` are the names after it. -/
inductive Cut (later : List Text) : List Text.Run → List Text.Run → Prop where
  | gap {g g' : Text} {rest longer : List Text.Run} (opens : opensBody g' = opensBody g)
      (names : classNamesOfRuns longer = classNamesOfRuns rest ++ later) :
      Cut later (.gap g :: rest) (.gap g' :: longer)
  | word (t : Text) {rest longer : List Text.Run} (tail : Cut later rest longer) :
      Cut later (.word t :: rest) (.word t :: longer)

theorem Cut.classNames_eq {later : List Text} {runs longer : List Text.Run}
    (cut : Cut later runs longer) :
    classNamesOfRuns longer = classNamesOfRuns runs ++ later := by
  induction cut with
  | gap opens names => exact names
  | @word t rest longer tail ih =>
      -- Whether the word is a name depends on the run after it, which is the same or a gap alike.
      cases tail with
      | @gap g g' rest longer opens names =>
          have here : ∀ (gap : Text) (runs : List Text.Run),
              classNamesOfRuns (.word t :: .gap gap :: runs)
                = if opensBody gap then Text.upper t :: classNamesOfRuns runs
                  else classNamesOfRuns runs := fun gap runs => rfl
          rw [here, here, names, opens]
          split <;> rfl
      | word next tail =>
          rw [classNamesOfRuns, classNamesOfRuns, ih]
          split <;> rfl

/-- A character in front joins the two texts alike. -/
theorem Cut.cons (c : Char) {later : List Text} {runs longer : List Text.Run}
    (cut : Cut later runs longer) : Cut later (Text.Run.cons c runs) (Text.Run.cons c longer) := by
  cases inside : Text.isWordChar c with
  | true =>
      cases cut with
      | gap opens names =>
          rw [Text.Run.cons_word_gap inside, Text.Run.cons_word_gap inside]
          exact .word [c] (.gap opens names)
      | word t tail =>
          rw [Text.Run.cons_word inside, Text.Run.cons_word inside]
          exact .word (c :: t) tail
  | false =>
      cases cut with
      | @gap g g' rest longer opens names =>
          rw [Text.Run.cons_gap inside, Text.Run.cons_gap inside]
          refine .gap ?_ names
          unfold opensBody at opens ⊢
          by_cases blank : Text.isBlank c = true
          · rwa [List.dropWhile_cons_of_pos blank, List.dropWhile_cons_of_pos blank]
          · rw [List.dropWhile_cons_of_neg blank, List.dropWhile_cons_of_neg blank]
            rfl
      | word t tail =>
          rw [Text.Run.cons_gap_word inside, Text.Run.cons_gap_word inside]
          exact .gap rfl (Cut.word t tail).classNames_eq

/-- White space and words do not go past any other character, so the names of a line are those up to
it and those after it. -/
theorem classNames_append_cons {d : Char} (outside : Text.isWordChar d = false)
    (visible : Text.isBlank d = false) (line rest : Text) :
    classNames (line ++ d :: rest) = classNames (line ++ [d]) ++ classNames rest := by
  have opens : ∀ gap : Text, opensBody (d :: gap) = opensBody [d] := by
    intro gap
    simp [opensBody, visible]
  have last : Cut (classNames rest) (Text.runs [d]) (Text.runs (d :: rest)) := by
    rw [Text.runs_cons, Text.runs_cons, Text.runs_nil, Text.Run.cons_nil_of_gap outside, classNames]
    cases Text.runs rest with
    | nil =>
        rw [Text.Run.cons_nil_of_gap outside]
        exact .gap rfl rfl
    | cons run more =>
        cases run with
        | gap g =>
            rw [Text.Run.cons_gap outside]
            exact .gap (opens g) rfl
        | word t =>
            rw [Text.Run.cons_gap_word outside]
            exact .gap rfl rfl
  have whole : Cut (classNames rest) (Text.runs (line ++ [d])) (Text.runs (line ++ d :: rest)) := by
    induction line with
    | nil => exact last
    | cons c line ih => exact ih.cons c
  exact whole.classNames_eq

/-- The names of a line are those up to an opening brace and those after it. -/
theorem classNames_append_brace (line rest : Text) :
    classNames (line ++ '\x7b' :: rest) = classNames (line ++ ['\x7b']) ++ classNames rest :=
  classNames_append_cons brace_not_word (by decide) line rest

/-- A line without an opening brace names no class. -/
theorem classNames_eq_nil {line : Text} (unopened : '\x7b' ∉ line) : classNames line = [] := by
  have outside : ∀ run ∈ Text.runs line, opensBody run.text = false := by
    intro run member
    rw [Bool.eq_false_iff]
    intro opens
    apply unopened
    rw [← Text.ofRuns_runs line]
    apply List.mem_flatMap.mpr
    refine ⟨run, member, (List.dropWhile_sublist Text.isBlank).mem ?_⟩
    exact List.mem_of_head? (of_decide_eq_true opens)
  rw [classNames]
  generalize Text.runs line = runs at outside
  fun_induction classNamesOfRuns runs with
  | case1 => rfl
  | case2 gap rest ih => exact ih fun run member => outside run (List.mem_cons_of_mem _ member)
  | case3 => rfl
  | case4 word next rest opens ih =>
      have closed := outside next (by simp)
      rw [opens] at closed
      cases closed
  | case5 word next rest opens ih =>
      exact ih fun run member => outside run (List.mem_cons_of_mem _ member)

theorem splitLastBrace_eq_none {line : Text} (unopened : '\x7b' ∉ line) :
    splitLastBrace line = none := by
  induction line with
  | nil => rfl
  | cons c rest ih =>
      rw [List.mem_cons, not_or] at unopened
      simp [splitLastBrace, ih unopened.2, Ne.symm unopened.1]

/-- What follows the last opening brace is the body. -/
theorem splitLastBrace_append {body : Text} (unopened : '\x7b' ∉ body) (line : Text) :
    splitLastBrace (line ++ '\x7b' :: body) = some (line ++ ['\x7b'], body) := by
  induction line with
  | nil => simp [splitLastBrace, splitLastBrace_eq_none unopened]
  | cons c rest ih => rw [List.cons_append, splitLastBrace, ih, List.cons_append]

/-- A line without an opening brace is all header. Otherwise its header ends with the last one. -/
theorem splitHeader_cases (line : Text) :
    ('\x7b' ∉ line ∧ splitHeader line = (line, [])) ∨
      ∃ front body, '\x7b' ∉ body ∧ line = front ++ '\x7b' :: body ∧
        splitHeader line = (front ++ ['\x7b'], body) := by
  by_cases opened : '\x7b' ∈ line
  · right
    obtain ⟨ending, start, whole, unopened⟩ :=
      List.eq_append_cons_of_mem (List.mem_reverse.mpr opened)
    have split : line = start.reverse ++ '\x7b' :: ending.reverse := by
      rw [← List.reverse_reverse line, whole]
      simp
    have last : '\x7b' ∉ ending.reverse := fun member => unopened (List.mem_reverse.mp member)
    refine ⟨start.reverse, ending.reverse, last, split, ?_⟩
    rw [split, splitHeader, splitLastBrace_append last]
    rfl
  · left
    rw [splitHeader, splitLastBrace_eq_none opened]
    exact ⟨opened, rfl⟩

end ClassDiagram.Line
