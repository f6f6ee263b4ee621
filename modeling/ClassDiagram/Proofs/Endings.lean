import ClassDiagram.Proofs.Locality
import ClassDiagram.Proofs.Sessions
import ClassDiagram.Proofs.Written.Lines

/-!
# The end of input

To keep a class that is open at the end is to read one more closing brace. The end of input may also
be stated more than once. A class of which a copy was kept goes back the first time; from then on it
stands in the mapping, and each further end of input puts its members behind themselves.
-/

namespace ClassDiagram

theorem Line.isAccepted_brace (marker : Text) : IsAccepted marker brace :=
  Or.inr (Or.inl (by decide))

namespace Builder

variable {settings : Settings} {b : Builder}

/-- What is to become of an open class at the end plays no part before it. -/
theorem run_flush (settings : Settings) (flush : Bool) (b : Builder) (steps : List Step) :
    run { settings with flushUnterminated := flush } b steps = run settings b steps := by
  have same : step { settings with flushUnterminated := flush } = step settings := by
    funext b s
    cases s <;> rfl
  rw [run, same]
  rfl

/-- With no class open, nothing is left to do at the end of input. -/
theorem finish_of_idle (idle : b.opened = none) : finish settings b = b := by
  simp only [finish, idle]

end Builder

/-- The classes of a diagram of which no line is refused. -/
theorem parse_of_accepted {settings : Settings} {text : Text} (flush : Bool)
    (accepted : ∀ line ∈ documentLines text, Line.IsAccepted settings.sectionMarker line) :
    parse { settings with flushUnterminated := flush } text
      = .ok (Builder.finish { settings with flushUnterminated := flush }
          (Builder.run settings .start
            (Builder.stepsOf settings (documentLines text)))).classes := by
  have readable : (Builder.start.readText { settings with flushUnterminated := flush } text).error
      = none := (Builder.readText_accepted_iff text .start).mpr accepted
  refine parse_eq_ok_iff.mpr ⟨readable, ?_⟩
  rw [Builder.readText_eq_run readable, Builder.run_flush]
  rfl

/-- To keep the class that is open at the end is to read one more brace. The classes and their order
are the same, or the error is, and with the brace it does not matter what would become of a class
that is open at the end. -/
theorem parse_flush_eq_parse_append_brace (settings : Settings) (text : Text) (flush : Bool) :
    parse { settings with flushUnterminated := true } text
      = parse { settings with flushUnterminated := flush } (text ++ "\n\x7d".toList) := by
  have lines : documentLines (text ++ "\n\x7d".toList) = documentLines text ++ [Line.brace] :=
    documentLines_append text Line.brace
  by_cases accepted : ∀ line ∈ documentLines text, Line.IsAccepted settings.sectionMarker line
  · have closed : ∀ line ∈ documentLines (text ++ "\n\x7d".toList),
        Line.IsAccepted settings.sectionMarker line := by
      rw [lines]
      exact List.forall_mem_append.mpr
        ⟨accepted, List.forall_mem_singleton.mpr (Line.isAccepted_brace _)⟩
    have brace : Builder.stepsOf settings [Line.brace] = [.close] := by
      simp [Builder.stepsOf, Line.steps_brace]
    rw [parse_of_accepted true accepted, parse_of_accepted flush closed, lines,
      Builder.stepsOf_append, brace, Builder.run_append, Builder.run_cons, Builder.run_nil,
      Builder.step, Builder.finish_of_flush rfl, Builder.finish_of_idle Builder.opened_close]
  · -- The first line that is refused is still the first one, under the same number.
    cases parsed : parse { settings with flushUnterminated := true } text with
    | ok classes =>
        exact absurd ((Builder.readText_accepted_iff text .start).mp
          (parse_eq_ok_iff.mp parsed).1) accepted
    | error e =>
        obtain ⟨before, line, after, fault, split, earlier, refused, rfl⟩ :=
          parse_eq_error_iff.mp parsed
        have further : documentLines (text ++ "\n\x7d".toList)
            = before ++ line :: (after ++ [Line.brace]) := by
          rw [lines, split, List.append_assoc, List.cons_append]
        refine (parse_eq_error_iff.mpr ?_).symm
        exact ⟨before, line, after ++ [Line.brace], fault, further, earlier, refused, rfl⟩

/-- A class is its own double exactly if it has no members. -/
theorem Class.absorb_self_eq_iff {c : Class} :
    c.absorb c = c ↔ c.attributes = [] ∧ c.operations = [] := by
  obtain ⟨name, attributes, operations⟩ := c
  simp [absorb]

namespace ClassMap

variable {classes : ClassMap} {name : Text}

/-- The classes with the members of one of them doubled, if it is there. -/
def double (classes : ClassMap) (name : Text) : ClassMap :=
  match classes.get? name with
  | some c => classes.insert name (c.absorb c)
  | none => classes

theorem get?_double (classes : ClassMap) (name key : Text) :
    (classes.double name).get? key
      = (classes.get? key).map fun c => if key = name then c.absorb c else c := by
  unfold double
  split
  · rename_i c found
    rw [OrderedMap.get?_insert]
    by_cases same : key = name
    · simp [same, found]
    · simp [same]
  · rename_i absent
    by_cases same : key = name
    · simp [same, absent]
    · simp [same]

theorem keys_double (classes : ClassMap) (name : Text) :
    (classes.double name).keys = classes.keys := by
  unfold double
  split
  · rename_i c found
    rw [OrderedMap.keys_insert, if_pos (OrderedMap.mem_keys_of_get? found)]
  · rfl

/-- Doubling changes nothing exactly if there are no members to double. -/
theorem double_eq_self_iff :
    classes.double name = classes ↔
      ∀ c, classes.get? name = some c → c.attributes = [] ∧ c.operations = [] := by
  constructor
  · intro same c found
    have doubled := get?_double classes name name
    rw [same, found, Option.map_some, if_pos rfl, Option.some.injEq] at doubled
    exact Class.absorb_self_eq_iff.mp doubled.symm
  · intro empty
    unfold double
    split
    · rename_i c found
      rw [Class.absorb_self_eq_iff.mpr (empty c found)]
      exact OrderedMap.insert_eq_self found
    · rfl

end ClassMap

namespace Builder

variable {settings : Settings} {b : Builder}

/-- What went back at an end of input is doubled at the next one. -/
theorem restore_restored (b : Builder) (key : Text) :
    b.restore (.restored key) = (b.classes.double key, .restored key) := by
  unfold restore ClassMap.double
  dsimp only
  cases b.classes.get? key <;> rfl

/-- The classes after a second end of input. -/
theorem classes_finish_finish (settings : Settings) (b : Builder) :
    (finish settings (finish settings b)).classes
      = if settings.flushUnterminated then (finish settings b).classes
        else b.savedName.elim (finish settings b).classes (finish settings b).classes.double := by
  cases flush : settings.flushUnterminated with
  | true =>
      have idle : (finish settings b).opened = none := by
        rw [finish_of_flush flush, opened_close]
      rw [finish_of_idle idle, if_pos rfl]
  | false =>
      rw [if_neg Bool.false_ne_true]
      cases saved : b.savedName with
      | none => rw [finish_of_unsaved flush saved, finish_of_unsaved flush saved]; rfl
      | some name =>
          obtain ⟨o, opened, kept⟩ := Option.bind_eq_some_iff.mp saved
          obtain ⟨copy, held, rfl⟩ := Option.map_eq_some_iff.mp kept
          have first : finish settings b = { b with
              classes := (b.restore copy).1
              opened := some { o with saved := some (.restored copy.name) } } := by
            simp only [finish, opened, flush, held, snd_restore]
            rfl
          rw [first]
          simp only [finish, flush, restore_restored]
          rfl

/-- A second end of input leaves the classes as they are exactly if the first one closes the open
class, or puts no class back, or puts one back that has no members. Otherwise it doubles the members
of that class. -/
theorem finish_finish_eq_iff (settings : Settings) (b : Builder) :
    ((finish settings (finish settings b)).classes = (finish settings b).classes ↔
      settings.flushUnterminated = true ∨
        ∀ name c, b.savedName = some name → (finish settings b).classes.get? name = some c →
          c.attributes = [] ∧ c.operations = []) ∧
    (finish settings (finish settings b)).classes.keys = (finish settings b).classes.keys ∧
    ∀ key, (finish settings (finish settings b)).classes.get? key
      = ((finish settings b).classes.get? key).map fun c =>
          if settings.flushUnterminated = false ∧ b.savedName = some key then c.absorb c
          else c := by
  rw [classes_finish_finish]
  cases flush : settings.flushUnterminated with
  | true => simp
  | false =>
      cases saved : b.savedName with
      | none => simp
      | some name =>
          refine ⟨?_, ClassMap.keys_double _ name, fun key => ?_⟩
          · rw [if_neg Bool.false_ne_true, Option.elim_some, ClassMap.double_eq_self_iff]
            simp only [Bool.false_eq_true, false_or, Option.some.injEq]
            exact ⟨fun empty _ c same found => empty c (same ▸ found),
              fun empty c found => empty name c rfl found⟩
          · simp [ClassMap.get?_double, eq_comm]

/-- Lines that open a class again after it was closed with a member. -/
def unclosedLines : List Text :=
  ["class A \x7b".toList, "int x".toList, "\x7d".toList, "class A \x7b".toList]

/-- The member of the class that goes back at the first end of input stands twice after the second
one. -/
theorem second_finish_doubles_members :
    (finish {} (session {} (unclosedLines.map (.feed none)))).classes.get? "A".toList
        = some ⟨"A".toList, [⟨.primitive .integer, "x".toList⟩], []⟩ ∧
      (finish {} (finish {} (session {} (unclosedLines.map (.feed none))))).classes.get? "A".toList
        = some ⟨"A".toList,
            [⟨.primitive .integer, "x".toList⟩, ⟨.primitive .integer, "x".toList⟩], []⟩ :=
  ⟨by decide +kernel, by decide +kernel⟩

end Builder

end ClassDiagram
