import ClassDiagram.Proofs.Steps
import ClassDiagram.Proofs.Text.Runs

/-!
# Names of classes along a run

Every class in the mapping stands under its own name. What a step does to the keys of the mapping,
to the name of the open class and to the name of the kept copy follows from these names alone, so
each of the three has one lemma, and later arguments about names do not open a step again.
-/

namespace ClassDiagram

/-- A step as lines have them: headers give names, and the names of relations are in upper case. -/
def Step.IsProper : Step → Prop
  | .enter name => name ≠ []
  | .relate relation => relation.Capital
  | _ => True

namespace Line

theorem mem_classNamesOfRuns {runs : List Text.Run} {name : Text}
    (member : name ∈ classNamesOfRuns runs) :
    ∃ t, Text.Run.word t ∈ runs ∧ name = Text.upper t := by
  fun_induction classNamesOfRuns runs with
  | case1 => simp at member
  | case2 gap rest ih =>
      obtain ⟨t, inside, same⟩ := ih member
      exact ⟨t, List.mem_cons_of_mem _ inside, same⟩
  | case3 => simp at member
  | case4 word next rest opens ih =>
      rcases List.mem_cons.mp member with same | member
      · exact ⟨word, List.mem_cons_self, same⟩
      · obtain ⟨t, inside, same⟩ := ih member
        exact ⟨t, List.mem_cons_of_mem _ inside, same⟩
  | case5 word next rest opens ih =>
      obtain ⟨t, inside, same⟩ := ih member
      exact ⟨t, List.mem_cons_of_mem _ inside, same⟩

theorem classNames_ne_nil {line name : Text} (member : name ∈ classNames line) : name ≠ [] := by
  obtain ⟨t, inside, rfl⟩ := mem_classNamesOfRuns member
  have isWord : Text.IsWord t := Text.isPure_of_mem_runs _ inside
  exact fun empty => isWord.1 (Text.upper_eq_nil_iff.mp empty)

/-- The steps of a line, kind by kind. -/
theorem mem_steps {marker line : Text} {s : Step} (member : s ∈ steps marker line) :
    (∃ name ∈ classNames (beforeClose line), s = .enter name) ∨ s = .ready ∨
      (∃ m, member? (memberSegment line) = some m ∧ s = .declare m) ∨ s = .close ∨
        ∃ r, relation? line = some r ∧ s = .relate r := by
  unfold steps openedNames at member
  split at member
  · simp at member
  · simp only [List.mem_append, List.mem_map, Option.mem_toList] at member
    rcases member with
      (((⟨name, named, rfl⟩ | ready) | ⟨m, declared, rfl⟩) | closed) | ⟨r, stated, rfl⟩
    · split at named
      · exact Or.inl ⟨name, named, rfl⟩
      · simp at named
    · split at ready
      · exact Or.inr (Or.inl (List.mem_singleton.mp ready))
      · simp at ready
    · exact Or.inr (Or.inr (Or.inl ⟨m, declared, rfl⟩))
    · split at closed
      · exact Or.inr (Or.inr (Or.inr (Or.inl (List.mem_singleton.mp closed))))
      · simp at closed
    · exact Or.inr (Or.inr (Or.inr (Or.inr ⟨r, stated, rfl⟩)))

theorem isProper_of_mem_steps {marker line : Text} {s : Step} (member : s ∈ steps marker line) :
    s.IsProper := by
  rcases mem_steps member with ⟨name, named, rfl⟩ | rfl | ⟨m, -, rfl⟩ | rfl | ⟨r, stated, rfl⟩
  · exact classNames_ne_nil named
  · trivial
  · trivial
  · trivial
  · exact Relation.capital_of_read (relation?_eq_some_iff.mp stated).2

end Line

/-- The name of the class that is kept. -/
def Saved.name : Saved → Text
  | .copy kept => kept.name
  | .restored key => key

/-- Whether every class stands under its own name. -/
def ClassMap.IsKeyed (classes : ClassMap) : Prop :=
  ∀ key c, classes.get? key = some c → c.name = key

namespace ClassMap.IsKeyed

variable {classes : ClassMap}

theorem insert (keyed : classes.IsKeyed) {name : Text} {c : Class} (same : c.name = name) :
    IsKeyed (OrderedMap.insert classes name c) := by
  intro key d stood
  rw [OrderedMap.get?_insert] at stood
  split at stood
  · rename_i here
    rw [← Option.some.inj stood, same, here]
  · exact keyed key d stood

theorem erase (keyed : classes.IsKeyed) (name : Text) :
    IsKeyed (OrderedMap.erase classes name) := by
  intro key c stood
  rw [OrderedMap.get?_erase] at stood
  split at stood
  · cases stood
  · exact keyed key c stood

theorem ensure (keyed : classes.IsKeyed) {name : Text} (capital : Text.upper name = name) :
    (ClassMap.ensure classes name).IsKeyed := by
  unfold ClassMap.ensure
  split
  · exact keyed
  · exact keyed.insert capital

theorem related (keyed : classes.IsKeyed) {r : Relation} (capital : r.Capital) (suffix : Text) :
    (ClassMap.related suffix classes r).IsKeyed := by
  have both := (keyed.ensure capital.left).ensure capital.right
  intro key c found
  rw [ClassMap.get?_related] at found
  obtain ⟨before, stood, rfl⟩ := Option.map_eq_some_iff.mp found
  have name := both key before stood
  split
  · split
    · exact name
    · exact name
  · exact name

end ClassMap.IsKeyed

namespace Builder

/-- The name under which a kept class goes back into the mapping. -/
def savedName (b : Builder) : Option Text :=
  b.opened.bind fun o => o.saved.map Saved.name

/-- Classes stand under their names, and what is kept of a class has not gone back yet. -/
structure IsNamed (b : Builder) : Prop where
  keyed : ∀ key c, b.classes.get? key = some c → c.name = key
  copied : ∀ o key, b.opened = some o → o.saved ≠ some (.restored key)

variable {settings : Settings} {b : Builder} {key : Text}

theorem stepsOf_isProper (lines : List Text) : ∀ s ∈ stepsOf settings lines, s.IsProper := by
  intro s member
  obtain ⟨line, -, inside⟩ := List.mem_flatMap.mp member
  exact Line.isProper_of_mem_steps inside

@[simp] theorem openClass_of_some {classes : ClassMap} {relations : List Relation} {o : OpenClass} :
    openClass ⟨classes, relations, some o⟩ = o.current :=
  rfl

@[simp] theorem openClass_of_none {classes : ClassMap} {relations : List Relation} :
    openClass ⟨classes, relations, none⟩ = Class.blank :=
  rfl

/-- A header takes its class out of the mapping, a brace puts the open class in, and a relation
brings in the two classes that it names. -/
theorem mem_keys_step (s : Step) :
    key ∈ (step settings b s).classes.keys ↔
      match s with
      | .enter name => key ∈ b.classes.keys ∧ key ≠ name
      | .ready => key ∈ b.classes.keys
      | .declare _ => key ∈ b.classes.keys
      | .close => key ∈ b.classes.keys ∨ key ≠ [] ∧ key = b.openClass.name
      | .relate r => key ∈ b.classes.keys ∨ key = r.left ∨ key = r.right := by
  cases s with
  | enter name =>
      simp only [step, openName]
      split
      · exact OrderedMap.mem_keys_erase
      · rename_i unknown
        have absent := OrderedMap.get?_eq_none_iff.mp unknown
        exact ⟨fun present => ⟨present, fun same => absent (same ▸ present)⟩, And.left⟩
  | ready => exact Iff.rfl
  | declare m =>
      simp only [step]
      split <;> exact Iff.rfl
  | close =>
      obtain ⟨classes, relations, opened⟩ := b
      cases opened with
      | none => simp [step, close, Class.blank]
      | some o =>
          simp only [step, close, openClass_of_some]
          by_cases unnamed : o.current.name = []
          · simp [unnamed]
          · rw [if_neg unnamed, OrderedMap.mem_keys_insert, or_comm]
            exact or_congr_right ⟨fun same => ⟨same ▸ unnamed, same⟩, And.right⟩
  | relate r => exact ClassMap.mem_keys_related

/-- The open class has the name that was entered last since the last brace. -/
theorem openClass_name_step (keyed : b.classes.IsKeyed) (s : Step) :
    (step settings b s).openClass.name =
      match s with
      | .enter name => name
      | .close => []
      | _ => b.openClass.name := by
  obtain ⟨classes, relations, opened⟩ := b
  cases s with
  | enter name =>
      simp only [step, openName]
      split
      · rename_i c found
        exact keyed name c found
      · rfl
  | ready => cases opened <;> rfl
  | declare m =>
      cases opened with
      | none => rfl
      | some o => exact Class.name_declare settings m o.current
  | close => cases opened <;> rfl
  | relate r => cases opened <;> rfl

/-- A copy is kept of the class that was last taken out of the mapping since the last brace. -/
theorem savedName_step (keyed : b.classes.IsKeyed) (s : Step) :
    (step settings b s).savedName =
      match s with
      | .enter name => if name ∈ b.classes.keys then some name else b.savedName
      | .close => none
      | _ => b.savedName := by
  obtain ⟨classes, relations, opened⟩ := b
  cases s with
  | enter name =>
      simp only [step, openName]
      split
      · rename_i c found
        rw [if_pos (OrderedMap.mem_keys_of_get? found)]
        exact congrArg some (keyed name c found)
      · rename_i unknown
        rw [if_neg (OrderedMap.get?_eq_none_iff.mp unknown)]
        cases opened <;> rfl
  | ready => cases opened <;> rfl
  | declare m => cases opened <;> rfl
  | close => cases opened <;> rfl
  | relate r => cases opened <;> rfl

/-- What is kept of a class is a copy of it. -/
theorem IsNamed.copy_of_savedName (named : b.IsNamed) {name : Text}
    (saved : b.savedName = some name) :
    ∃ o, b.opened = some o ∧ ∃ c, o.saved = some (.copy c) ∧ c.name = name := by
  obtain ⟨o, opened, kept⟩ := Option.bind_eq_some_iff.mp saved
  obtain ⟨copy, held, rfl⟩ := Option.map_eq_some_iff.mp kept
  cases copy with
  | copy c => exact ⟨o, opened, c, held, rfl⟩
  | restored key => exact absurd held (named.copied o key opened)

theorem isNamed_start : start.IsNamed where
  keyed key c found := by simp [start] at found
  copied o key opened := by simp [start] at opened

/-- Every step keeps classes under their names. -/
theorem isKeyed_step {s : Step} (keyed : b.classes.IsKeyed) (proper : s.IsProper) :
    (step settings b s).classes.IsKeyed := by
  cases s with
  | enter name =>
      simp only [step, openName]
      split
      · exact keyed.erase name
      · exact keyed
  | ready => exact keyed
  | declare m =>
      simp only [step]
      split <;> exact keyed
  | close =>
      simp only [step, close]
      split
      · exact keyed
      · split
        · exact keyed
        · exact keyed.insert rfl
  | relate r => exact keyed.related proper settings.foreignKeySuffix

/-- No step puts a kept copy back into the mapping. -/
theorem isNamed_step {s : Step} (named : b.IsNamed) (proper : s.IsProper) :
    (step settings b s).IsNamed := by
  refine ⟨isKeyed_step named.keyed proper, ?_⟩
  obtain ⟨classes, relations, opened⟩ := b
  obtain ⟨-, copied⟩ := named
  cases s with
  | enter name =>
      simp only [step, openName]
      split
      · rintro o key ⟨⟩ restored
        cases restored
      · rintro o key ⟨⟩ restored
        cases opened with
        | none => cases restored
        | some before => exact copied before key rfl restored
  | ready =>
      rintro o key ⟨⟩ restored
      cases opened with
      | none => cases restored
      | some before => exact copied before key rfl restored
  | declare m =>
      cases opened with
      | none => exact copied
      | some before =>
          rintro o key ⟨⟩ restored
          exact copied before key rfl restored
  | close =>
      cases opened with
      | none => exact copied
      | some before => exact fun o key opened => absurd opened (by simp [step, close])
  | relate r => exact copied

/-- Along every run classes stand under their names. -/
theorem isNamed_run {steps : List Step} (proper : ∀ s ∈ steps, s.IsProper) (named : b.IsNamed) :
    (run settings b steps).IsNamed :=
  run_keeps (fun _ s member named => isNamed_step named (proper s member)) named

/-- In the first part of a run classes stand under their names, too. -/
theorem isNamed_run_left {first rest : List Step} (proper : ∀ s ∈ first ++ rest, s.IsProper)
    (named : b.IsNamed) : (run settings b first).IsNamed :=
  isNamed_run (List.forall_mem_append.mp proper).1 named

theorem finish_of_flush (flush : settings.flushUnterminated = true) :
    finish settings b = b.close := by
  cases opened : b.opened <;> simp [finish, close, opened, flush]

/-- A kept class goes back under its own name. -/
theorem isKeyed_restore (keyed : b.classes.IsKeyed) (saved : Saved) :
    (b.restore saved).1.IsKeyed := by
  cases saved with
  | copy kept =>
      refine keyed.insert ?_
      split <;> rfl
  | restored key =>
      simp only [restore]
      split
      · rename_i c found
        exact keyed.insert (keyed key c found)
      · exact keyed

theorem mem_keys_of_mem_keys_restore {saved : Saved} {key : Text}
    (present : key ∈ (b.restore saved).1.keys) : key ∈ b.classes.keys ∨ key = saved.name := by
  cases saved with
  | copy kept => exact (OrderedMap.mem_keys_insert.mp present).symm
  | restored name =>
      simp only [restore] at present
      split at present
      · exact (OrderedMap.mem_keys_insert.mp present).symm
      · exact Or.inl present

/-- What goes back is from then on the class under its key. -/
theorem snd_restore (b : Builder) (saved : Saved) :
    (b.restore saved).2 = .restored saved.name := by
  cases saved with
  | copy kept => rfl
  | restored key =>
      simp only [restore]
      split <;> rfl

theorem name_restore (saved : Saved) : (b.restore saved).2.name = saved.name := by
  rw [snd_restore]
  rfl

/-- What the end of input does: it closes the open class, or puts back what is kept of it, or
nothing. -/
theorem finish_cases (settings : Settings) (b : Builder) :
    finish settings b = step settings b .close ∨ finish settings b = b ∨
      ∃ o saved, b.opened = some o ∧ o.saved = some saved ∧
        finish settings b = { b with
          classes := (b.restore saved).1
          opened := some { o with saved := some (b.restore saved).2 } } := by
  obtain ⟨classes, relations, _ | ⟨current, saved⟩⟩ := b
  · exact Or.inl rfl
  · cases flush : settings.flushUnterminated with
    | true => exact Or.inl (finish_of_flush flush)
    | false =>
        cases saved with
        | none => exact Or.inr (Or.inl (by simp [finish, flush]))
        | some saved => exact Or.inr (Or.inr ⟨_, saved, rfl, rfl, by simp [finish, flush]⟩)

/-- The end of input keeps classes under their names. -/
theorem isKeyed_finish (keyed : b.classes.IsKeyed) : (finish settings b).classes.IsKeyed := by
  rcases finish_cases settings b with closed | same | ⟨o, saved, -, -, restored⟩
  · rw [closed]
    exact isKeyed_step keyed trivial
  · rwa [same]
  · rw [restored]
    exact isKeyed_restore keyed saved

theorem finish_of_unsaved (unflushed : settings.flushUnterminated = false)
    (unsaved : b.savedName = none) : finish settings b = b := by
  obtain ⟨classes, relations, opened⟩ := b
  cases opened with
  | none => rfl
  | some o =>
      obtain ⟨current, saved⟩ := o
      cases saved with
      | none => simp [finish, unflushed]
      | some kept => cases unsaved

theorem relations_finish : (finish settings b).relations = b.relations := by
  obtain ⟨classes, relations, opened⟩ := b
  cases opened with
  | none => rfl
  | some o =>
      obtain ⟨current, saved⟩ := o
      cases flush : settings.flushUnterminated with
      | true => rw [finish_of_flush flush]; rfl
      | false => cases saved <;> simp [finish, flush]

/-- At the end of input a kept copy goes back, in front of what a relation put there meanwhile. -/
theorem classes_finish_of_copy {o : OpenClass} {c : Class}
    (unflushed : settings.flushUnterminated = false) (opened : b.opened = some o)
    (saved : o.saved = some (.copy c)) :
    (finish settings b).classes
      = b.classes.insert c.name ((b.classes.get? c.name).elim c c.absorb) := by
  simp only [finish, opened, unflushed, saved, restore]
  cases b.classes.get? c.name <;> rfl

/-- The end of input adds at most one key: the name of the open class if it is kept, otherwise the
name of the kept copy. -/
theorem mem_keys_finish (named : b.IsNamed) :
    key ∈ (finish settings b).classes.keys ↔
      key ∈ b.classes.keys ∨
        if settings.flushUnterminated then key ≠ [] ∧ key = b.openClass.name
        else b.savedName = some key := by
  cases flush : settings.flushUnterminated with
  | true =>
      have closed : key ∈ (step settings b .close).classes.keys ↔ _ := mem_keys_step .close
      rw [finish_of_flush flush, if_pos rfl]
      exact closed
  | false =>
      rw [if_neg Bool.false_ne_true]
      cases saved : b.savedName with
      | none => simp [finish_of_unsaved flush saved]
      | some name =>
          obtain ⟨o, opened, kept, copy, rfl⟩ := named.copy_of_savedName saved
          rw [classes_finish_of_copy flush opened copy, OrderedMap.mem_keys_insert, or_comm,
            Option.some.injEq, eq_comm]

end Builder

end ClassDiagram
