import ClassDiagram.Proofs.Provenance
import ClassDiagram.Proofs.Refusals
import ClassDiagram.Proofs.Text.Lines

/-!
# Texts one after another

What is read from a text depends on the classes before it only through the names that it states. A
text that states other names, after a text at whose end no class is open, is read as it is alone:
its classes follow those of the first text, and its faults are further down.
-/

namespace ClassDiagram

namespace OrderedMap

variable {α : Type} {base top whole : OrderedMap α} {key : Text}

/-- Whether a map has the entries of one map and, after them, those of another one. -/
def IsStack (base top whole : OrderedMap α) : Prop :=
  whole.entries = base.entries ++ top.entries

namespace IsStack

theorem mem_keys_iff (stack : IsStack base top whole) (apart : key ∉ base.keys) :
    key ∈ whole.keys ↔ key ∈ top.keys := by
  have keys : whole.keys = base.keys ++ top.keys := by
    rw [OrderedMap.keys, stack, List.map_append]
    rfl
  rw [keys, List.mem_append, or_iff_right apart]

/-- A key that is not in the first map has the value of the second one. -/
theorem get?_eq (stack : IsStack base top whole) (apart : key ∉ base.keys) :
    whole.get? key = top.get? key := by
  have unknown : base.entries.lookup key = none := get?_eq_none_iff.mpr apart
  rw [OrderedMap.get?, stack, List.lookup_append, unknown]
  rfl

/-- To write to a key that is not in the first map is to write to the second one. -/
theorem insert (stack : IsStack base top whole) (apart : key ∉ base.keys) (value : α) :
    IsStack base (top.insert key value) (whole.insert key value) := by
  unfold OrderedMap.insert
  simp only [stack.mem_keys_iff apart]
  split
  · have untouched : (base.replace key value).entries = base.entries :=
      congrArg entries (replace_eq_self apart)
    change whole.entries.map _ = base.entries ++ top.entries.map _
    rw [stack, List.map_append]
    exact congrArg (· ++ _) untouched
  · change whole.entries ++ _ = base.entries ++ (top.entries ++ _)
    rw [stack, List.append_assoc]

theorem erase (stack : IsStack base top whole) (apart : key ∉ base.keys) :
    IsStack base (top.erase key) (whole.erase key) := by
  have untouched : (base.erase key).entries = base.entries :=
    congrArg entries (erase_eq_self apart)
  change whole.entries.filter _ = base.entries ++ top.entries.filter _
  rw [stack, List.filter_append]
  exact congrArg (· ++ _) untouched

end IsStack

end OrderedMap

namespace ClassMap

open OrderedMap (IsStack)

variable {base top whole : ClassMap}

theorem isStack_ensure {name : Text} (stack : IsStack base top whole) (apart : name ∉ base.keys) :
    IsStack base (ensure top name) (ensure whole name) := by
  unfold ensure
  simp only [OrderedMap.contains_iff, stack.mem_keys_iff apart]
  split
  · exact stack
  · exact stack.insert apart _

/-- A relation between classes that are not in the first mapping works on the second one. -/
theorem isStack_related {r : Relation} (stack : IsStack base top whole)
    (left : r.left ∉ base.keys) (right : r.right ∉ base.keys) (suffix : Text) :
    IsStack base (related suffix top r) (related suffix whole r) := by
  have both := isStack_ensure (isStack_ensure stack left) right
  unfold related
  cases injected : r.injected suffix with
  | none => exact both
  | some pair =>
      obtain ⟨key, field⟩ := pair
      have apart : key ∉ base.keys := by
        rcases Relation.key_of_injected injected with rfl | rfl
        · exact left
        · exact right
      simp only [both.get?_eq apart]
      split
      · exact both
      · exact both.insert apart _

end ClassMap

namespace Builder

variable {settings : Settings} {base inner outer : Builder}

/-- Whether one builder has what another one has, after classes that the other does not know: the
classes of `base`, of which none is among the names that `inner` holds. -/
structure IsAbove (base inner outer : Builder) : Prop where
  classes : OrderedMap.IsStack base.classes inner.classes outer.classes
  opened : outer.opened = inner.opened
  named : inner.IsNamed
  apart : ∀ key, inner.Holds key → key ∉ base.classes.keys

theorem isAbove_start (idle : base.opened = none) : IsAbove base start base where
  classes := (List.append_nil _).symm
  opened := idle
  named := isNamed_start
  apart key holds := by simp [Holds, start, savedName, Class.blank] at holds

/-- A step that states other names does the same to both builders. -/
theorem IsAbove.step (above : IsAbove base inner outer) {s : Step} (proper : s.IsProper)
    (names : ∀ name ∈ s.names, name ∉ base.classes.keys) :
    IsAbove base (step settings inner s) (step settings outer s) := by
  have named : (Builder.step settings inner s).IsNamed := isNamed_step above.named proper
  have apart : ∀ key, (Builder.step settings inner s).Holds key → key ∉ base.classes.keys := by
    intro key holds
    rcases holds_step above.named.keyed holds with held | stated
    · exact above.apart key held
    · exact names key stated
  have both : OrderedMap.IsStack base.classes (Builder.step settings inner s).classes
      (Builder.step settings outer s).classes ∧
        (Builder.step settings outer s).opened = (Builder.step settings inner s).opened := by
    obtain ⟨stack, same, -, held⟩ := above
    cases s with
    | enter name =>
        have other : name ∉ base.classes.keys := names name (by simp [Step.names])
        simp only [Builder.step, openName, stack.get?_eq other, same]
        split
        · exact ⟨stack.erase other, rfl⟩
        · exact ⟨stack, rfl⟩
    | ready => exact ⟨stack, by simp only [Builder.step, same]⟩
    | declare member =>
        simp only [Builder.step, same]
        split
        · exact ⟨stack, same⟩
        · exact ⟨stack, rfl⟩
    | close =>
        simp only [Builder.step, close, same]
        split
        · exact ⟨stack, same⟩
        · rename_i o opened
          refine ⟨?_, rfl⟩
          split
          · exact stack
          · -- The inner builder holds the name of the open class, so it is not in `base`.
            rename_i nonempty
            have current : o.current.name = inner.openClass.name := by simp [openClass, opened]
            exact stack.insert (held _ (Or.inr (Or.inl ⟨nonempty, current⟩))) _
    | relate r =>
        have left : r.left ∉ base.classes.keys := names r.left (by simp [Step.names])
        have right : r.right ∉ base.classes.keys := names r.right (by simp [Step.names])
        exact ⟨ClassMap.isStack_related stack left right _, same⟩
  exact ⟨both.1, both.2, named, apart⟩

theorem IsAbove.run (above : IsAbove base inner outer) {steps : List Step}
    (proper : ∀ s ∈ steps, s.IsProper)
    (names : ∀ s ∈ steps, ∀ name ∈ s.names, name ∉ base.classes.keys) :
    IsAbove base (run settings inner steps) (run settings outer steps) := by
  induction steps generalizing inner outer with
  | nil => exact above
  | cons s rest ih =>
      have first : IsAbove base (Builder.step settings inner s) (Builder.step settings outer s) :=
        above.step (proper s List.mem_cons_self) (names s List.mem_cons_self)
      exact ih first (fun t member => proper t (List.mem_cons_of_mem _ member))
        (fun t member => names t (List.mem_cons_of_mem _ member))

/-- The end of input does the same to both builders. -/
theorem IsAbove.finish (above : IsAbove base inner outer) :
    OrderedMap.IsStack base.classes (finish settings inner).classes
      (finish settings outer).classes := by
  cases flush : settings.flushUnterminated with
  | true =>
      rw [finish_of_flush flush, finish_of_flush flush]
      have closed : IsAbove base (Builder.step settings inner .close)
          (Builder.step settings outer .close) :=
        above.step trivial (by simp [Step.names])
      exact closed.classes
  | false =>
      -- Both builders keep the same copy, and it goes back behind the classes of `base`.
      have savedName : outer.savedName = inner.savedName := by
        rw [Builder.savedName, above.opened]
        rfl
      cases saved : inner.savedName with
      | none =>
          rw [finish_of_unsaved flush saved, finish_of_unsaved flush (savedName.trans saved)]
          exact above.classes
      | some name =>
          obtain ⟨o, opened, c, copy, rfl⟩ := above.named.copy_of_savedName saved
          have other : c.name ∉ base.classes.keys := above.apart _ (Or.inr (Or.inr saved))
          rw [classes_finish_of_copy flush opened copy,
            classes_finish_of_copy flush (above.opened.trans opened) copy,
            above.classes.get?_eq other]
          exact above.classes.insert other _

end Builder

/-- Two texts on lines of their own have the lines of the first and then those of the second. -/
theorem documentLines_append (first second : Text) :
    documentLines (first ++ '\n' :: second) = documentLines first ++ documentLines second := by
  rw [documentLines, Text.lines, Text.splitOn_append_cons, List.map_append]
  rfl

/-- The same error further down: the number of its line is greater by a count of lines. -/
def DiagramError.later (count : Nat) : DiagramError → DiagramError
  | .refused e => .refused { e with line := e.line.map (· + count) }
  | .missingClass e => .missingClass e

/-- A text that is refused is refused for the same fault after a text that is not. -/
theorem parse_append_eq_error {settings : Settings} {first second : Text} {classes : ClassMap}
    {e : DiagramError} (accepted : parse settings first = .ok classes)
    (refused : parse settings second = .error e) :
    parse settings (first ++ '\n' :: second)
      = .error (e.later (documentLines first).length) := by
  obtain ⟨before, line, after, fault, split, earlier, here, rfl⟩ := parse_eq_error_iff.mp refused
  have readable := (Builder.readText_accepted_iff first .start).mp (parse_eq_ok_iff.mp accepted).1
  have number : fault.line = some (1 + (before.length : Int)) :=
    Relation.line_of_read_eq_error here.2.2
  refine parse_eq_error_iff.mpr ⟨documentLines first ++ before, line, after, _, ?_,
    List.forall_mem_append.mpr ⟨readable, earlier⟩, here.renumber _, ?_⟩
  · rw [documentLines_append, split, List.append_assoc]
  · rw [DiagramError.later, number, Option.map_some, List.length_append]
    congr 3
    push_cast
    omega

/-- A text that states no name of a class before it adds its classes after those that are there. -/
theorem parse_append_eq_ok {settings : Settings} {first second : Text} {classes more : ClassMap}
    (accepted : parse settings first = .ok classes)
    (idle : (Builder.feedLines settings 1 (documentLines first) .start).builder.opened = none)
    (parsed : parse settings second = .ok more)
    (headers : ∀ line ∈ documentLines second, ∀ name ∈ Line.classNames line,
      name ∉ classes.keys)
    (related : ∀ r ∈ (Builder.start.readText settings second).builder.relations,
      r.left ∉ classes.keys ∧ r.right ∉ classes.keys) :
    ∃ whole, parse settings (first ++ '\n' :: second) = .ok whole ∧
      whole.entries = classes.entries ++ more.entries := by
  obtain ⟨readFirst, rfl⟩ := parse_eq_ok_iff.mp accepted
  obtain ⟨readSecond, rfl⟩ := parse_eq_ok_iff.mp parsed
  have linesFirst := (Builder.readText_accepted_iff first .start).mp readFirst
  have linesSecond := (Builder.readText_accepted_iff second .start).mp readSecond
  have readBoth : (Builder.start.readText settings (first ++ '\n' :: second)).error = none := by
    rw [Builder.readText_accepted_iff, documentLines_append]
    exact List.forall_mem_append.mpr ⟨linesFirst, linesSecond⟩
  rw [Builder.feedLines_eq_run _ _ _ ((Builder.feedLines_accepted_iff _ _ _).mpr linesFirst)]
    at idle
  rw [Builder.readText_eq_run readFirst] at headers related ⊢
  rw [Builder.readText_eq_run readSecond] at related ⊢
  rw [Builder.relations_finish, Builder.relations_run] at related
  generalize base : Builder.run settings .start (Builder.stepsOf settings (documentLines first))
    = b at idle headers related ⊢
  have same : Builder.finish settings b = b := by simp [Builder.finish, idle]
  rw [same] at headers related ⊢
  refine ⟨_, parse_eq_ok_iff.mpr ⟨readBoth, rfl⟩, ?_⟩
  rw [Builder.readText_eq_run readBoth, documentLines_append, Builder.stepsOf_append,
    Builder.run_append, base]
  refine ((Builder.isAbove_start idle).run (Builder.stepsOf_isProper _) ?_).finish
  intro s member name stated
  rcases Builder.mem_names_of_mem_stepsOf member stated with ⟨line, inside, named⟩ | ⟨r, read, ends⟩
  · exact headers line inside name named
  · rcases ends with rfl | rfl
    · exact (related r read).1
    · exact (related r read).2

/-- A text after another one, at whose end no class is open, is read as if it were alone: if it
states no name of a class of the first text, its classes come after those of the first, and if it is
refused, then so are both texts, for the same fault and with the lines of the first counted in. -/
theorem parse_append {settings : Settings} {first : Text} {classes : ClassMap}
    (accepted : parse settings first = .ok classes)
    (idle : (Builder.feedLines settings 1 (documentLines first) .start).builder.opened = none)
    (second : Text) :
    (∀ more, parse settings second = .ok more →
      (∀ line ∈ documentLines second, ∀ name ∈ Line.classNames line, name ∉ classes.keys) →
      (∀ r ∈ (Builder.start.readText settings second).builder.relations,
        r.left ∉ classes.keys ∧ r.right ∉ classes.keys) →
      ∃ whole, parse settings (first ++ '\n' :: second) = .ok whole ∧
        whole.entries = classes.entries ++ more.entries) ∧
    ∀ e, parse settings second = .error e →
      parse settings (first ++ '\n' :: second)
        = .error (e.later (documentLines first).length) :=
  ⟨fun _ parsed headers related => parse_append_eq_ok accepted idle parsed headers related,
    fun _ refused => parse_append_eq_error accepted refused⟩

/-- A class with a member, closed. -/
def closedText : Text :=
  "class A \x7b\nint x\n\x7d".toList

/-- A class that is open again at the end of input, after a relation has put it into the mapping. -/
def reopenedText : Text :=
  "class B \x7b\nint y\n\x7d\nclass B \x7b\nD \"1\" -- \"N\" B".toList

/-- A relation of too few words. -/
def shortText : Text :=
  "class A \x7b\nA -- B".toList

/-- The class of `closedText`. -/
def closedClasses : ClassMap :=
  .ofList [("A".toList, ⟨"A".toList, [⟨.primitive .integer, "x".toList⟩], []⟩)]

/-- The classes of `reopenedText`. -/
def reopenedClasses : ClassMap :=
  .ofList
    [("D".toList, ⟨"D".toList, [], []⟩),
      ("B".toList, ⟨"B".toList,
        [⟨.primitive .integer, "y".toList⟩, ⟨.foreignKey "D".toList, "D_fk".toList⟩], []⟩)]

/-- The class that is open at the end goes back behind the closed one as it does without it, and the
short line, the second of its text, is the fifth of both. -/
theorem parse_append_closed :
    parse {} closedText = .ok closedClasses ∧
      (Builder.feedLines {} 1 (documentLines closedText) .start).builder.opened = none ∧
        parse {} reopenedText = .ok reopenedClasses ∧
          (∃ whole, parse {} (closedText ++ '\n' :: reopenedText) = .ok whole ∧
            whole.entries = closedClasses.entries ++ reopenedClasses.entries) ∧
        parse {} shortText = .error (.refused ⟨.malformedRelation "A -- B".toList, some 2⟩) ∧
          parse {} (closedText ++ '\n' :: shortText)
            = .error (.refused ⟨.malformedRelation "A -- B".toList, some 5⟩) :=
  have accepted : parse {} closedText = .ok closedClasses := by decide +kernel
  have idle : (Builder.feedLines {} 1 (documentLines closedText) .start).builder.opened = none := by
    decide +kernel
  have parsed : parse {} reopenedText = .ok reopenedClasses := by decide +kernel
  have refused : parse {} shortText
      = .error (.refused ⟨.malformedRelation "A -- B".toList, some 2⟩) := by
    decide +kernel
  ⟨accepted, idle, parsed,
    (parse_append accepted idle reopenedText).1 reopenedClasses parsed (by decide +kernel)
      (by decide +kernel),
    refused, (parse_append accepted idle shortText).2 _ refused⟩

end ClassDiagram
