import ClassDiagram.Proofs.Names

/-!
# Which diagrams are refused

A diagram is refused at the first line that states a relation which cannot be read, for the fault of
that relation and with the number of that line. What is open at that point plays no part, and no
other error comes out of a reading. A diagram that is not refused has the relations of its lines,
one for each line that states one.
-/

namespace ClassDiagram

/-- Names on a header state no relation. -/
theorem Step.filterMap_relation?_enter (names : List Text) :
    (names.map Step.enter).filterMap Step.relation? = [] := by
  simp [List.filterMap_map, Function.comp_def, Step.relation?]

namespace Line

/-- Whether a line states a relation that is read: a line with the root keyword is skipped. -/
def statesRelation (marker line : Text) : Bool :=
  !isSectionMarker marker line && isRelation line

/-- A line that is refused under one number is refused under every other, for the same fault. -/
theorem IsRefused.renumber {marker line : Text} {number : Option Int} {fault : LineFault}
    (refused : IsRefused marker number line fault) (other : Option Int) :
    IsRefused marker other line { fault with line := other } := by
  obtain ⟨unmarked, stated, unread⟩ := refused
  exact ⟨unmarked, stated, by rw [Relation.read_renumber number other, unread]; rfl⟩

/-- The steps of a line state the relation of the line. -/
theorem filterMap_relation?_steps (marker line : Text) :
    (steps marker line).filterMap Step.relation?
      = if isSectionMarker marker line then [] else (relation? line).toList := by
  unfold steps
  split
  · rfl
  · have names : ((openedNames line).map Step.enter).filterMap Step.relation? = [] :=
      Step.filterMap_relation?_enter _
    have others : ∀ (p : Prop) [Decidable p] (s : Step), s.relation? = none →
        (if p then [s] else []).filterMap Step.relation? = [] := by
      intro p _ s silent
      split <;> simp [silent]
    simp only [List.filterMap_append, names, others _ .ready rfl, others _ .close rfl,
      List.nil_append]
    cases member? (memberSegment line) <;> cases relation? line <;> rfl

end Line

namespace Builder

variable {settings : Settings}

/-- The reading of lines ends at the first one that is refused, for the fault of that line, whatever
the builder. -/
theorem feedLines_error_iff (lines : List Text) (number : Int) (b : Builder) {e : DiagramError} :
    (feedLines settings number lines b).error = some e ↔
      ∃ before line after fault, lines = before ++ line :: after ∧
        (∀ earlier ∈ before, Line.IsAccepted settings.sectionMarker earlier) ∧
          Line.IsRefused settings.sectionMarker (some (number + before.length)) line fault ∧
            e = .refused fault := by
  induction lines generalizing number b with
  | nil => simp [feedLines]
  | cons first rest ih =>
      have next : ∀ before : List Text,
          number + 1 + (before.length : Int) = number + ((first :: before).length : Int) := by
        intro before
        rw [List.length_cons]
        omega
      simp only [feedLines, List.cons_eq_append_iff]
      cases error : (feed settings (some number) first b).error with
      | some e' =>
          obtain ⟨fault, refused, rfl⟩ := feed_error_iff.mp error
          simp only [error, Option.some.injEq]
          -- A split further on would have this line among those that are accepted.
          constructor
          · rintro rfl
            exact ⟨[], first, rest, fault, Or.inl ⟨rfl, rfl⟩, by simp, by simpa using refused, rfl⟩
          · rintro ⟨before, line, after, other, ⟨rfl, here⟩ | ⟨tail, rfl, -⟩, earlier, later, rfl⟩
            · obtain ⟨rfl, -⟩ := List.cons.inj here
              obtain ⟨-, -, unread⟩ := refused
              simp only [List.length_nil, Int.ofNat_zero, Int.add_zero] at later
              rw [later.2.2, Except.error.injEq] at unread
              rw [unread]
            · have accepted := earlier first List.mem_cons_self
              exact absurd refused ((Line.not_isRefused_iff _).mpr accepted fault)
      | none =>
          have accepted : Line.IsAccepted settings.sectionMarker first := feed_accepted_iff.mp error
          simp only [ih]
          constructor
          · rintro ⟨before, line, after, fault, rfl, earlier, refused, rfl⟩
            refine ⟨first :: before, line, after, fault, Or.inr ⟨before, rfl, rfl⟩,
              List.forall_mem_cons.mpr ⟨accepted, earlier⟩, ?_, rfl⟩
            rwa [← next]
          · rintro ⟨before, line, after, fault, ⟨rfl, here⟩ | ⟨tail, rfl, rfl⟩, earlier, refused,
              rfl⟩
            · obtain ⟨rfl, -⟩ := List.cons.inj here
              exact absurd refused ((Line.not_isRefused_iff _).mpr accepted fault)
            · refine ⟨tail, line, after, fault, rfl, (List.forall_mem_cons.mp earlier).2, ?_, rfl⟩
              rwa [← next] at refused

theorem readText_error (text : Text) (b : Builder) :
    (readText settings text b).error
      = (feedLines settings 1 (documentLines text) b).error := by
  unfold readText
  cases error : (feedLines settings 1 (documentLines text) b).error <;> simp [error]

/-- The relations that lines state, in their order, are those that are read from the lines. -/
theorem map_read_stated {lines : List Text}
    (accepted : ∀ line ∈ lines, Line.IsAccepted settings.sectionMarker line) (first : Nat) :
    ((lines.zipIdx first).filter fun line =>
        Line.statesRelation settings.sectionMarker line.1).map
          (fun line => Relation.read (some line.2) line.1)
      = ((stepsOf settings lines).filterMap Step.relation?).map .ok := by
  induction lines generalizing first with
  | nil => rfl
  | cons line rest ih =>
      obtain ⟨here, others⟩ := List.forall_mem_cons.mp accepted
      rw [List.zipIdx_cons, List.filter_cons, stepsOf, List.flatMap_cons, List.filterMap_append,
        List.map_append, Line.filterMap_relation?_steps, ← stepsOf, ← ih others (first + 1)]
      unfold Line.statesRelation
      rcases here with marked | unstated | ⟨relation, read⟩
      · simp [marked]
      · simp [unstated, Line.relation?]
      · have numbered := Relation.read_eq_ok_of_read (some (first : Int)) read
        cases marked : Line.isSectionMarker settings.sectionMarker line with
        | true => simp
        | false =>
            cases stated : Line.isRelation line with
            | false => simp [stated, Line.relation?]
            | true => simp [stated, Line.relation?, read, numbered, Except.toOption]

end Builder

/-- A diagram is refused exactly for the fault of its first line that is refused, and its number. -/
theorem parse_eq_error_iff {settings : Settings} {text : Text} {e : DiagramError} :
    parse settings text = .error e ↔
      ∃ before line after fault, documentLines text = before ++ line :: after ∧
        (∀ earlier ∈ before, Line.IsAccepted settings.sectionMarker earlier) ∧
          Line.IsRefused settings.sectionMarker (some (1 + before.length)) line fault ∧
            e = .refused fault := by
  rw [← Builder.feedLines_error_iff (documentLines text) 1 .start, ← Builder.readText_error]
  unfold parse
  cases error : (Builder.start.readText settings text).error <;> simp [error]

/-- Settings with one root keyword refuse the same diagrams, with the same error. -/
theorem parse_eq_error_congr {settings other : Settings}
    (marker : other.sectionMarker = settings.sectionMarker) {text : Text} {e : DiagramError} :
    parse other text = .error e ↔ parse settings text = .error e := by
  rw [parse_eq_error_iff, parse_eq_error_iff, marker]

/-- A diagram is refused exactly if one of its lines states a relation that cannot be read. The
error is then the fault of the first such line with the number of that line, so it never is a
missing class. Otherwise the relations are those of the lines, one for each that states one. -/
theorem parse_refuses_first_unreadable_relation (settings : Settings) (text : Text) :
    ((∃ e, parse settings text = .error e) ↔
      ∃ line ∈ documentLines text, ∃ fault,
        Line.IsRefused settings.sectionMarker none line fault) ∧
    (∀ e, parse settings text = .error e ↔
      ∃ before line after fault, documentLines text = before ++ line :: after ∧
        (∀ earlier ∈ before, ∀ other, ¬ Line.IsRefused settings.sectionMarker none earlier other) ∧
          Line.IsRefused settings.sectionMarker (some (1 + before.length)) line fault ∧
            e = .refused fault) ∧
    (∀ missing, parse settings text ≠ .error (.missingClass missing)) ∧
    ((∀ line ∈ documentLines text, ∀ fault,
        ¬ Line.IsRefused settings.sectionMarker none line fault) →
      (Builder.start.readText settings text).error = none ∧
        (((documentLines text).zipIdx 1).filter fun line =>
            Line.statesRelation settings.sectionMarker line.1).map
              (fun line => Relation.read (some line.2) line.1)
          = (Builder.start.readText settings text).builder.relations.map .ok) := by
  refine ⟨?_, fun e => ?_, fun missing refused => ?_, fun readable => ?_⟩
  · constructor
    · rintro ⟨e, refused⟩
      obtain ⟨before, line, after, fault, split, -, here, -⟩ := parse_eq_error_iff.mp refused
      exact ⟨line, by rw [split]; simp, _, here.renumber none⟩
    · rintro ⟨line, member, fault, refused⟩
      cases parsed : parse settings text with
      | error e => exact ⟨e, rfl⟩
      | ok classes =>
          have accepted := (Builder.readText_accepted_iff text .start).mp
            (parse_eq_ok_iff.mp parsed).1 line member
          exact absurd refused ((Line.not_isRefused_iff none).mpr accepted fault)
  · simp only [Line.not_isRefused_iff]
    exact parse_eq_error_iff
  · obtain ⟨_, _, _, fault, _, _, _, same⟩ := parse_eq_error_iff.mp refused
    cases same
  · simp only [Line.not_isRefused_iff] at readable
    have accepted := (Builder.readText_accepted_iff text .start).mpr readable
    refine ⟨accepted, ?_⟩
    rw [Builder.readText_eq_run accepted, Builder.relations_finish, Builder.relations_run,
      Builder.map_read_stated readable]
    rfl

end ClassDiagram
