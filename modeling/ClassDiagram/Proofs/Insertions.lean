import ClassDiagram.Proofs.Refusals
import ClassDiagram.Proofs.Written.Documents

/-!
# Lines that change nothing

A line with the root keyword is skipped, and a line with no brace, no hyphens, no header and no
member does nothing. Such a line can be put anywhere into a diagram: the classes, the relations and
the open class stay the same, and an error stays the same but for the number of its line, which is
one higher if that line stands behind the new one.
-/

namespace ClassDiagram

namespace Line

/-- Whether a line changes nothing wherever it stands. -/
def IsInert (marker line : Text) : Prop :=
  isSectionMarker marker line = true ∨
    (isClassClose line = false ∧ isRelation line = false ∧ isClassOpen line = false ∧
      member? line = none)

instance (marker line : Text) : Decidable (IsInert marker line) :=
  inferInstanceAs (Decidable (isSectionMarker marker line = true ∨
    (isClassClose line = false ∧ isRelation line = false ∧ isClassOpen line = false ∧
      member? line = none)))

variable {marker line : Text}

/-- A line that changes nothing has no steps. -/
theorem IsInert.steps_eq_nil (inert : IsInert marker line) : steps marker line = [] := by
  rcases inert with marked | ⟨unclosed, unrelated, unopened, undeclared⟩
  · rw [steps, if_pos marked]
  · have silent : relation? line = none := by simp [relation?, unrelated]
    simp [steps, openedNames, memberSegment, beforeClose_eq_self unclosed, unclosed, unopened,
      undeclared, silent]

theorem IsInert.isAccepted (inert : IsInert marker line) : IsAccepted marker line := by
  rcases inert with marked | ⟨-, unrelated, -⟩
  · exact Or.inl marked
  · exact Or.inr (Or.inl unrelated)

/-- An empty line changes nothing. -/
theorem isInert_nil : IsInert marker [] :=
  Or.inr ⟨rfl, rfl, rfl, rfl⟩

/-- A line that changes nothing does so without the carriage returns at its end, too. -/
theorem IsInert.withoutReturns (inert : IsInert marker line) :
    IsInert marker (withoutReturns line) := by
  rcases inert with marked | ⟨unclosed, unrelated, unopened, undeclared⟩
  · left
    rwa [isSectionMarker_withoutReturns]
  · right
    rw [isClassClose_withoutReturns, isRelation_withoutReturns, isClassOpen_withoutReturns]
    exact ⟨unclosed, unrelated, unopened, member?_withoutReturns undeclared⟩

end Line

/-- The same error on a line with another number. -/
def DiagramError.mapLine (f : Int → Int) : DiagramError → DiagramError
  | .refused e => .refused { e with line := e.line.map f }
  | .missingClass e => .missingClass e

namespace Builder

/-- The same outcome, but for the number of the line that was refused. -/
def Outcome.mapLine (f : Int → Int) (outcome : Outcome) : Outcome :=
  { outcome with error := outcome.error.map (DiagramError.mapLine f) }

variable {settings : Settings} {line : Text}

/-- A line that changes nothing leaves the builder as it is and is not refused. -/
theorem feed_of_isInert (inert : Line.IsInert settings.sectionMarker line) (number : Option Int)
    (b : Builder) : feed settings number line b = ⟨b, none⟩ := by
  apply feed_eq_self inert.isAccepted
  rw [inert.steps_eq_nil, run_nil]

/-- A line has the same effect under another number, and is refused with that number. -/
theorem feed_renumber {f : Int → Int} {n m : Int} (moved : f n = m) (line : Text) (b : Builder) :
    feed settings (some m) line b = (feed settings (some n) line b).mapLine f := by
  have same : (feed settings (some m) line b).builder
      = (feed settings (some n) line b).builder := by
    rw [feed_eq_run, feed_eq_run]
  have renumbered : (feed settings (some m) line b).error
      = (feed settings (some n) line b).error.map (DiagramError.mapLine f) := by
    cases error : (feed settings (some n) line b).error with
    | none => exact feed_accepted_iff.mpr (feed_accepted_iff.mp error)
    | some e =>
        obtain ⟨fault, refused, rfl⟩ := feed_error_iff.mp error
        have numbered : fault.line = some n := Relation.line_of_read_eq_error refused.2.2
        refine feed_error_iff.mpr ⟨_, refused.renumber (some m), ?_⟩
        rw [DiagramError.mapLine, numbered, Option.map_some, moved]
  calc feed settings (some m) line b
      = ⟨(feed settings (some m) line b).builder, (feed settings (some m) line b).error⟩ := rfl
    _ = (feed settings (some n) line b).mapLine f := by rw [same, renumbered]; rfl

/-- What reading goes on with after a line. -/
theorem feedLines_cons (number : Int) (line : Text) (rest : List Text) (b : Builder) :
    feedLines settings number (line :: rest) b
      = match (feed settings (some number) line b).error with
        | some _ => feed settings (some number) line b
        | none =>
            feedLines settings (number + 1) rest (feed settings (some number) line b).builder :=
  rfl

/-- Lines that are read from another number on have the same effect. -/
theorem feedLines_renumber {f : Int → Int} {lines : List Text} {n m : Int}
    (moved : ∀ i < lines.length, f (n + i) = m + i) (b : Builder) :
    feedLines settings m lines b = (feedLines settings n lines b).mapLine f := by
  induction lines generalizing n m b with
  | nil => rfl
  | cons line rest ih =>
      have here : f n = m := by simpa using moved 0 (by simp)
      have later : ∀ i < rest.length, f (n + 1 + i) = m + 1 + i := by
        intro i small
        have next := moved (i + 1) (by simpa using small)
        rw [show n + 1 + (i : Int) = n + ((i + 1 : Nat) : Int) by omega, next]
        omega
      rw [feedLines_cons, feedLines_cons, feed_renumber here]
      cases error : (feed settings (some n) line b).error with
      | some e => simp only [Outcome.mapLine, error, Option.map_some]
      | none =>
          simp only [Outcome.mapLine, error, Option.map_none]
          exact ih later _

/-- The number of a line after a new line was put in at a place. -/
def insertedLine (place number : Int) : Int :=
  if number < place then number else number + 1

/-- A line that changes nothing moves the lines behind it by one, and that is all. -/
theorem feedLines_insert (inert : Line.IsInert settings.sectionMarker line)
    (before after : List Text) (number : Int) (b : Builder) :
    feedLines settings number (before ++ line :: after) b
      = (feedLines settings number (before ++ after) b).mapLine
          (insertedLine (number + before.length)) := by
  induction before generalizing number b with
  | nil =>
      rw [List.nil_append, List.nil_append, feedLines_cons, feed_of_isInert inert]
      refine feedLines_renumber ?_ b
      intro i _
      rw [insertedLine, if_neg (by rw [List.length_nil]; omega)]
      omega
  | cons first before ih =>
      have place : number + ((first :: before).length : Int) = number + 1 + before.length := by
        rw [List.length_cons]
        omega
      have here : insertedLine (number + ((first :: before).length : Int)) number = number := by
        rw [insertedLine, if_pos (by rw [List.length_cons]; omega)]
      rw [List.cons_append, List.cons_append, feedLines_cons, feedLines_cons]
      cases error : (feed settings (some number) first b).error with
      | some e => exact feed_renumber here first b
      | none =>
          dsimp only
          rw [ih, place]

/-- Texts of which the lines are read alike but for their numbers are read alike to the end. -/
theorem readText_of_feedLines {f : Int → Int} {first second : Text} {b : Builder}
    (lines : feedLines settings 1 (documentLines first) b
      = (feedLines settings 1 (documentLines second) b).mapLine f) :
    readText settings first b = (readText settings second b).mapLine f := by
  unfold readText
  rw [lines]
  cases error : (feedLines settings 1 (documentLines second) b).error <;>
    simp [Outcome.mapLine, error]

/-- A line that changes nothing can be put anywhere into a text. -/
theorem readText_insert {before after : List Text}
    (single : ∀ l ∈ before ++ line :: after, '\n' ∉ l)
    (inert : Line.IsInert settings.sectionMarker line) (b : Builder) :
    readText settings (Text.joinWith ['\n'] (before ++ line :: after)) b
      = (readText settings (Text.joinWith ['\n'] (before ++ after)) b).mapLine
          (insertedLine (1 + before.length)) := by
  apply readText_of_feedLines
  have singleRest : ∀ l ∈ before ++ after, '\n' ∉ l := by
    intro l member
    apply single
    rcases List.mem_append.mp member with earlier | later
    · exact List.mem_append_left _ earlier
    · exact List.mem_append_right _ (List.mem_cons_of_mem _ later)
  have inserted : before ++ line :: after ≠ [] := by simp
  have ending := inert.withoutReturns
  rw [documentLines_joinWith single, if_neg inserted, List.map_append, List.map_cons,
    feedLines_insert ending, List.length_map, documentLines_joinWith singleRest]
  by_cases nothing : before ++ after = []
  · -- A text of no lines is read as one that has an empty line.
    obtain ⟨rfl, rfl⟩ := List.append_eq_nil_iff.mp nothing
    rw [if_pos nothing, feedLines_cons, feed_of_isInert Line.isInert_nil]
    rfl
  · rw [if_neg nothing, List.map_append]

end Builder

/-- A line that changes nothing can be put anywhere into a diagram. The same classes in the same
order, the same relations and the same open class come out, or the same error. The number of its
line is one higher if that line stands behind the new one, and the same if not. -/
theorem inert_line_can_be_inserted {settings : Settings} {before after : List Text} {line : Text}
    (single : ∀ l ∈ before ++ line :: after, '\n' ∉ l)
    (inert : Line.IsInert settings.sectionMarker line) :
    (∀ b, Builder.readText settings (Text.joinWith ['\n'] (before ++ line :: after)) b
      = (Builder.readText settings (Text.joinWith ['\n'] (before ++ after)) b).mapLine
          (Builder.insertedLine (1 + before.length))) ∧
    parse settings (Text.joinWith ['\n'] (before ++ line :: after))
      = (parse settings (Text.joinWith ['\n'] (before ++ after))).mapError
          (DiagramError.mapLine (Builder.insertedLine (1 + before.length))) := by
  have read := Builder.readText_insert single inert
  refine ⟨read, ?_⟩
  unfold parse
  rw [read .start]
  cases error : (Builder.start.readText settings
      (Text.joinWith ['\n'] (before ++ after))).error <;>
    simp [Builder.Outcome.mapLine, error, Except.mapError]

/-- The first lines of a block. -/
def blockLines : List Text :=
  ["class A \x7b".toList, "int x".toList]

/-- A line with the root keyword that could otherwise close the block and state a relation. -/
def markedLine : Text :=
  "\x7d classDiagram: A -- B\r".toList

/-- The short relation is on the third line of its text, and on the fourth once a line with the root
keyword stands in front of it. -/
theorem marked_line_is_inserted :
    Line.IsInert Line.defaultMarker markedLine ∧
      parse {} (Text.joinWith ['\n'] (blockLines ++ ["A -- B".toList]))
        = .error (.refused ⟨.malformedRelation "A -- B".toList, some 3⟩) ∧
      parse {} (Text.joinWith ['\n'] (blockLines ++ markedLine :: ["A -- B".toList]))
        = .error (.refused ⟨.malformedRelation "A -- B".toList, some 4⟩) := by
  have inert : Line.IsInert Line.defaultMarker markedLine := by decide +kernel
  have refused : parse {} (Text.joinWith ['\n'] (blockLines ++ ["A -- B".toList]))
      = .error (.refused ⟨.malformedRelation "A -- B".toList, some 3⟩) := by decide +kernel
  have single : ∀ l ∈ blockLines ++ markedLine :: ["A -- B".toList], '\n' ∉ l := by decide +kernel
  obtain ⟨-, inserted⟩ := @inert_line_can_be_inserted {} _ _ _ single inert
  refine ⟨inert, refused, ?_⟩
  rw [inserted, refused]
  rfl

end ClassDiagram
