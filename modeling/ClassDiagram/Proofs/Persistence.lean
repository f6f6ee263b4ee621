import ClassDiagram.Proofs.Names

/-!
# Which classes stay in the mapping

A header takes the class that it names out of the mapping. A class that is in the mapping at some
point is in it at the end of input exactly if it returns each time it is taken out: because a
relation names it, because its block ends under its name, or because the input ends in that block
before another class is taken out. A header that names another class while the class is open spoils
the second way, and the third one too if that other class is known.
-/

namespace ClassDiagram.Builder

/-- The end of input closes the open class if the settings keep it. -/
def ending (settings : Settings) : List Step :=
  if settings.flushUnterminated then [.close] else []

/-- Why a class that was just taken out of the mapping is in it again at the end of `rest`. -/
inductive Returns (settings : Settings) (b : Builder) (key : Text) (rest : List Step) : Prop where
  /-- A relation names the class. -/
  | related (r : Relation) (stated : .relate r ∈ rest) (named : key = r.left ∨ key = r.right)
  /-- A brace, or the end of input in its place, finds a class of this name open. -/
  | closed (block more : List Step) (split : rest ++ ending settings = block ++ .close :: more)
      (name : (run settings b block).openClass.name = key)
  /-- The input ends in the block, and no other class was taken out of the mapping meanwhile. -/
  | dropped (unflushed : settings.flushUnterminated = false) (unclosed : .close ∉ rest)
      (last : ∀ block name more, rest = block ++ .enter name :: more →
        name ∉ (run settings b block).classes.keys)

/-- Steps that bring no class of a name into the mapping: no relation names it, and no brace finds
it open. -/
structure Withholds (settings : Settings) (b : Builder) (key : Text) (rest : List Step) : Prop where
  unrelated : ∀ r, .relate r ∈ rest → ¬ (key = r.left ∨ key = r.right)
  unclosed : ∀ block more, rest = block ++ .close :: more →
    (run settings b block).openClass.name ≠ key

variable {settings : Settings} {b : Builder} {key : Text} {rest : List Step}

theorem Withholds.tail {s : Step} (withheld : Withholds settings b key (s :: rest)) :
    Withholds settings (step settings b s) key rest where
  unrelated r stated := withheld.unrelated r (List.mem_cons_of_mem _ stated)
  unclosed block more split := withheld.unclosed (s :: block) more (by rw [split]; rfl)

theorem Withholds.of_append {first : List Step}
    (withheld : Withholds settings b key (first ++ rest)) :
    Withholds settings (run settings b first) key rest := by
  induction first generalizing b with
  | nil => exact withheld
  | cons s first ih => exact ih withheld.tail

theorem Withholds.take {more : List Step} (withheld : Withholds settings b key (rest ++ more)) :
    Withholds settings b key rest where
  unrelated r stated := withheld.unrelated r (List.mem_append_left _ stated)
  unclosed block after split := withheld.unclosed block (after ++ more) (by rw [split]; simp)

/-- A step that neither names a class in a relation nor closes it does not bring it in. -/
theorem not_mem_keys_step {s : Step} (absent : key ∉ b.classes.keys)
    (withheld : Withholds settings b key (s :: rest)) : key ∉ (step settings b s).classes.keys := by
  rw [mem_keys_step]
  cases s with
  | enter name => exact fun both => absent both.1
  | ready => exact absent
  | declare m => exact absent
  | close =>
      rintro (present | ⟨-, same⟩)
      · exact absent present
      · exact withheld.unclosed [] rest rfl same.symm
  | relate r =>
      rintro (present | named)
      · exact absent present
      · exact withheld.unrelated r List.mem_cons_self named

theorem not_mem_keys_run (absent : key ∉ b.classes.keys)
    (withheld : Withholds settings b key rest) : key ∉ (run settings b rest).classes.keys := by
  induction rest generalizing b with
  | nil => exact absent
  | cons s rest ih => exact ih (not_mem_keys_step absent withheld) withheld.tail

/-- Only a header takes a class out of the mapping, and only the one that it names. -/
theorem mem_keys_run (present : key ∈ b.classes.keys) (unnamed : .enter key ∉ rest) :
    key ∈ (run settings b rest).classes.keys := by
  induction rest generalizing b with
  | nil => exact present
  | cons s rest ih =>
      rw [List.mem_cons, not_or] at unnamed
      refine ih ?_ unnamed.2
      rw [mem_keys_step]
      cases s with
      | enter name => exact ⟨present, fun same => unnamed.1 (by rw [same])⟩
      | ready => exact present
      | declare m => exact present
      | close => exact Or.inl present
      | relate r => exact Or.inl present

/-- The kept copy stays the same as long as no brace comes and no class is taken out. -/
theorem savedName_run (named : b.IsNamed) (proper : ∀ s ∈ rest, s.IsProper)
    (unclosed : .close ∉ rest)
    (last : ∀ block name more, rest = block ++ .enter name :: more →
      name ∉ (run settings b block).classes.keys) :
    (run settings b rest).savedName = b.savedName := by
  induction rest generalizing b with
  | nil => rfl
  | cons s rest ih =>
      rw [List.mem_cons, not_or] at unclosed
      have first : (step settings b s).savedName = b.savedName := by
        rw [savedName_step named.keyed]
        cases s with
        | enter name => exact if_neg (last [] name rest rfl)
        | close => exact absurd rfl unclosed.1
        | ready => rfl
        | declare m => rfl
        | relate r => rfl
      rw [run_cons, ← first]
      exact ih (isNamed_step named (proper s List.mem_cons_self))
        (fun t member => proper t (List.mem_cons_of_mem _ member)) unclosed.2
        (fun block name more split => last (s :: block) name more (by rw [split]; rfl))

/-- A copy of a class is kept only from the moment the class is taken out of the mapping. -/
theorem savedName_run_ne (named : b.IsNamed) (proper : ∀ s ∈ rest, s.IsProper)
    (absent : key ∉ b.classes.keys) (withheld : Withholds settings b key rest)
    (other : b.savedName ≠ some key) : (run settings b rest).savedName ≠ some key := by
  induction rest generalizing b with
  | nil => exact other
  | cons s rest ih =>
      refine ih (isNamed_step named (proper s List.mem_cons_self))
        (fun t member => proper t (List.mem_cons_of_mem _ member))
        (not_mem_keys_step absent withheld) withheld.tail ?_
      rw [savedName_step named.keyed]
      cases s with
      | enter name =>
          by_cases known : name ∈ b.classes.keys
          · simp only [known, if_true]
            intro same
            exact absent (Option.some.inj same ▸ known)
          · simpa only [known, if_false] using other
      | close => simp
      | ready => exact other
      | declare m => exact other
      | relate r => exact other

/-- If the copy that is kept at the end is that of a class which did not come back, no brace came
since and no other class was taken out. -/
theorem last_of_savedName_run (named : b.IsNamed) (proper : ∀ s ∈ rest, s.IsProper)
    (absent : key ∉ b.classes.keys) (withheld : Withholds settings b key rest)
    (kept : (run settings b rest).savedName = some key) :
    .close ∉ rest ∧ ∀ block name more, rest = block ++ .enter name :: more →
      name ∉ (run settings b block).classes.keys := by
  -- The copy kept right after a step in `rest` is that of `key`, or it never is.
  have later : ∀ block s more, rest = block ++ s :: more →
      (run settings b (block ++ [s])).savedName = some key := by
    intro block s more split
    have whole : rest = (block ++ [s]) ++ more := by simp [split]
    rw [whole] at proper withheld kept
    apply Decidable.byContradiction
    intro other
    apply savedName_run_ne (isNamed_run_left proper named) (List.forall_mem_append.mp proper).2
      (not_mem_keys_run absent withheld.take) withheld.of_append other
    rw [← run_append]
    exact kept
  constructor
  · intro closed
    obtain ⟨block, more, split⟩ := List.append_of_mem closed
    have copy := later block .close more split
    have namedBlock : (run settings b block).IsNamed := isNamed_run_left (split ▸ proper) named
    rw [run_append, run_cons, run_nil, savedName_step namedBlock.keyed] at copy
    cases copy
  · intro block name more split known
    have copy := later block (.enter name) more split
    have namedBlock : (run settings b block).IsNamed := isNamed_run_left (split ▸ proper) named
    rw [run_append, run_cons, run_nil, savedName_step namedBlock.keyed] at copy
    simp only [known, if_true] at copy
    rw [split] at withheld
    exact not_mem_keys_run absent withheld.take (Option.some.inj copy ▸ known)

/-- The end of input brings back the class that the kept copy is of, or the one that is open. -/
theorem returns_of_mem_keys_finish (named : b.IsNamed) (proper : ∀ s ∈ rest, s.IsProper)
    (absent : key ∉ b.classes.keys)
    (present : key ∈ (finish settings (run settings b rest)).classes.keys) :
    Returns settings b key rest := by
  by_cases related : ∃ r, Step.relate r ∈ rest ∧ (key = r.left ∨ key = r.right)
  · obtain ⟨r, stated, name⟩ := related
    exact .related r stated name
  by_cases closed : ∃ block more, rest ++ ending settings = block ++ .close :: more ∧
      (run settings b block).openClass.name = key
  · obtain ⟨block, more, split, name⟩ := closed
    exact .closed block more split name
  have withheld : Withholds settings b key rest := {
    unrelated := fun r stated name => related ⟨r, stated, name⟩
    unclosed := fun block more split name =>
      closed ⟨block, more ++ ending settings, by rw [split]; simp, name⟩ }
  rw [mem_keys_finish (isNamed_run proper named)] at present
  rcases present with inside | ending
  · exact absurd inside (not_mem_keys_run absent withheld)
  · by_cases flush : settings.flushUnterminated = true
    · rw [if_pos flush] at ending
      exact absurd ⟨rest, [], by simp [Builder.ending, flush], ending.2.symm⟩ closed
    · rw [if_neg flush] at ending
      obtain ⟨unclosed, last⟩ := last_of_savedName_run named proper absent withheld ending
      exact .dropped (Bool.eq_false_iff.mpr flush) unclosed last

/-- A brace is one of the steps, or it is the end of input. -/
theorem split_ending {block more : List Step}
    (split : rest ++ ending settings = block ++ .close :: more) :
    (∃ after, rest = block ++ .close :: after) ∨
      settings.flushUnterminated = true ∧ rest = block := by
  by_cases flush : settings.flushUnterminated = true
  · rw [ending, if_pos flush] at split
    rcases List.eq_nil_or_concat more with rfl | ⟨after, last, rfl⟩
    · exact Or.inr ⟨flush, (List.append_inj' split rfl).1⟩
    · rw [List.concat_eq_append, ← List.cons_append, ← List.append_assoc] at split
      exact Or.inl ⟨after, (List.append_inj' split rfl).1⟩
  · rw [ending, if_neg flush, List.append_nil] at split
    exact Or.inl ⟨more, split⟩

/-- A class that returns is back after one of the steps, or else at the end of input. -/
theorem Returns.back (returns : Returns settings (step settings b (.enter key)) key rest)
    (named : b.IsNamed) (proper : ∀ s ∈ Step.enter key :: rest, s.IsProper)
    (present : key ∈ b.classes.keys) :
    (∃ block s more, rest = block ++ s :: more ∧
      key ∈ (run settings b (.enter key :: block ++ [s])).classes.keys) ∨
    key ∈ (finish settings (run settings b (.enter key :: rest))).classes.keys := by
  have nonempty : key ≠ [] := proper (.enter key) List.mem_cons_self
  have namedEnd : (run settings b (.enter key :: rest)).IsNamed := isNamed_run proper named
  cases returns with
  | related r stated name =>
      obtain ⟨block, more, split⟩ := List.append_of_mem stated
      refine Or.inl ⟨block, .relate r, more, split, ?_⟩
      rw [run_append, run_cons, run_nil, mem_keys_step]
      exact Or.inr name
  | closed block more splitEnd name =>
      rcases split_ending splitEnd with ⟨after, split⟩ | ⟨flush, rfl⟩
      · refine Or.inl ⟨block, .close, after, split, ?_⟩
        rw [run_append, run_cons, run_nil, mem_keys_step]
        exact Or.inr ⟨nonempty, name.symm⟩
      · rw [mem_keys_finish namedEnd, if_pos flush]
        exact Or.inr (Or.inr ⟨nonempty, name.symm⟩)
  | dropped unflushed unclosed last =>
      have kept : (run settings b (.enter key :: rest)).savedName = some key := by
        have properKey : (Step.enter key).IsProper := nonempty
        rw [run_cons, savedName_run (isNamed_step named properKey)
          (fun s member => proper s (List.mem_cons_of_mem _ member)) unclosed last,
          savedName_step named.keyed]
        exact if_pos present
      rw [mem_keys_finish namedEnd, unflushed]
      exact Or.inr (Or.inr kept)

/-- If a class returns each time it is taken out of the mapping, it is there at the end. -/
theorem mem_keys_finish_of_returns (named : b.IsNamed) (proper : ∀ s ∈ rest, s.IsProper)
    (present : key ∈ b.classes.keys)
    (returns : ∀ before after, rest = before ++ .enter key :: after →
      key ∈ (run settings b before).classes.keys →
      Returns settings (run settings b (before ++ [.enter key])) key after) :
    key ∈ (finish settings (run settings b rest)).classes.keys := by
  -- After the first removal the class comes back at a step from which the rest is shorter.
  induction size : rest.length using Nat.strong_induction_on generalizing b rest with
  | _ size ih =>
      by_cases entered : Step.enter key ∈ rest
      · obtain ⟨before, after, rfl, first⟩ := List.eq_append_cons_of_mem entered
        have there : key ∈ (run settings b before).classes.keys := mem_keys_run present first
        have comes := returns before after rfl there
        rw [run_append, run_cons, run_nil] at comes
        have namedBefore : (run settings b before).IsNamed :=
          isNamed_run_left proper named
        rcases comes.back namedBefore (List.forall_mem_append.mp proper).2
          there with ⟨block, s, more, rfl, back⟩ | final
        · rw [← run_append] at back
          have whole : before ++ .enter key :: (block ++ s :: more)
              = before ++ (.enter key :: block ++ [s]) ++ more := by simp
          rw [whole] at proper returns size ⊢
          rw [run_append]
          refine ih more.length ?_
            (isNamed_run_left proper named)
            (List.forall_mem_append.mp proper).2 back ?_ rfl
          · simp only [List.length_append, List.length_cons, List.length_nil] at size
            omega
          · intro before' after' split back'
            rw [← run_append] at back' ⊢
            rw [← List.append_assoc]
            exact returns _ after' (by rw [split, ← List.append_assoc]) back'
        · rw [run_append]
          exact final
      · rw [mem_keys_finish (isNamed_run proper named)]
        exact Or.inl (mem_keys_run present entered)

/-- On a line the names come before everything else. -/
theorem enter_before_enter {marker line : Text} {before after : List Step}
    (split : Line.steps marker line = before ++ .enter key :: after) :
    ∀ s ∈ before, ∃ name, s = .enter name := by
  have names : ∀ (names : List Text) (before after others : List Step),
      (∀ name, .enter name ∉ others) →
      names.map .enter ++ others = before ++ .enter key :: after →
      ∀ s ∈ before, ∃ name, s = Step.enter name := by
    intro names before after others apart split
    rcases List.append_eq_append_iff.mp split with ⟨gap, rfl, tail⟩ | ⟨rest, whole, -⟩
    · exact absurd (by rw [tail]; simp) (apart key)
    · intro s member
      have inside : s ∈ names.map Step.enter := by
        rw [whole]
        exact List.mem_append_left _ member
      obtain ⟨name, -, rfl⟩ := List.mem_map.mp inside
      exact ⟨name, rfl⟩
  unfold Line.steps at split
  split at split
  · simp at split
  · rw [List.append_assoc, List.append_assoc, List.append_assoc] at split
    refine names _ before after _ (fun name member => ?_) split
    simp only [List.mem_append, List.mem_map, reduceCtorEq, and_false, exists_false, or_false,
      false_or] at member
    rcases member with ready | close
    · split at ready <;> simp at ready
    · split at close <;> simp at close

/-- The names of a line only take classes out of the mapping. -/
theorem mem_keys_before_names {steps : List Step} (names : ∀ s ∈ steps, ∃ name, s = .enter name)
    (present : key ∈ (run settings b steps).classes.keys) : key ∈ b.classes.keys := by
  induction steps generalizing b with
  | nil => exact present
  | cons s rest ih =>
      obtain ⟨name, rfl⟩ := names s List.mem_cons_self
      have after := ih (fun t member => names t (List.mem_cons_of_mem _ member)) present
      rw [mem_keys_step] at after
      exact after.1

/-- A class that a header takes out of the mapping was there at the beginning of the line. -/
theorem mem_keys_before_line {lines : List Text} {before after : List Step}
    (split : stepsOf settings lines = before ++ .enter key :: after)
    (present : key ∈ (run settings b before).classes.keys) :
    ∃ earlier later, lines = earlier ++ later ∧
      key ∈ (run settings b (stepsOf settings earlier)).classes.keys := by
  induction lines generalizing b before with
  | nil => simp [stepsOf] at split
  | cons line rest ih =>
      rw [stepsOf, List.flatMap_cons, ← stepsOf] at split
      rcases List.append_eq_append_iff.mp split with ⟨more, rfl, tail⟩ | ⟨more, line, tail⟩
      · rw [run_append] at present
        obtain ⟨earlier, later, rfl, there⟩ := ih tail present
        exact ⟨line :: earlier, later, rfl, by
          rw [stepsOf, List.flatMap_cons, run_append]; exact there⟩
      · cases more with
        | nil =>
            rw [List.append_nil] at line
            exact ⟨[_], rest, rfl, by simpa [stepsOf, line] using present⟩
        | cons s more =>
            obtain ⟨rfl, -⟩ := List.cons.inj tail
            exact ⟨[], _, rfl, mem_keys_before_names (enter_before_enter line) present⟩

/-- Every class that is in the mapping after some of the lines is in it at the end of input exactly
if each class that a header takes out of the mapping returns. -/
theorem keys_persist_iff (settings : Settings) (number : Int) (lines : List Text)
    (accepted : (feedLines settings number lines start).error = none) :
    (∀ before after key, lines = before ++ after →
        key ∈ (feedLines settings number before start).builder.classes.keys →
        key ∈ (finish settings (feedLines settings number lines start).builder).classes.keys) ↔
      ∀ before key after, stepsOf settings lines = before ++ .enter key :: after →
        key ∈ (run settings start before).classes.keys →
        Returns settings (run settings start (before ++ [.enter key])) key after := by
  have proper : ∀ s ∈ stepsOf settings lines, s.IsProper := stepsOf_isProper lines
  have readsPart : ∀ before after, lines = before ++ after →
      (feedLines settings number before start).builder
        = run settings start (stepsOf settings before) := by
    intro before after split
    apply feedLines_eq_run
    rw [feedLines_accepted_iff] at accepted ⊢
    exact fun line member => accepted line (by rw [split]; exact List.mem_append_left _ member)
  rw [feedLines_eq_run lines number start accepted]
  constructor
  · intro persists before key after split present
    obtain ⟨earlier, later, whole, there⟩ := mem_keys_before_line split present
    rw [← readsPart earlier later whole] at there
    have final := persists earlier later key whole there
    rw [split, List.append_cons] at final proper
    rw [run_append] at final
    refine returns_of_mem_keys_finish
      (isNamed_run_left proper isNamed_start)
      (List.forall_mem_append.mp proper).2 ?_ final
    rw [run_append, run_cons, run_nil, mem_keys_step]
    exact fun both => both.2 rfl
  · intro returns before after key split present
    rw [readsPart before after split] at present
    rw [split, stepsOf_append] at proper returns ⊢
    rw [run_append]
    refine mem_keys_finish_of_returns
      (isNamed_run_left proper isNamed_start)
      (List.forall_mem_append.mp proper).2 present ?_
    intro before' after' splitAfter present'
    rw [← run_append] at present' ⊢
    rw [← List.append_assoc]
    exact returns _ key after' (by rw [splitAfter, ← List.append_assoc]) present'

/-- A known class is opened again, and another one is opened before the brace. -/
def supersededLines : List Text :=
  ["class A \x7b".toList, "\x7d".toList, "class A \x7b".toList, "class B \x7b".toList,
    "\x7d".toList]

/-- The class that was opened again is gone: the brace puts its members in under the other name. -/
theorem superseded_class_vanishes :
    (feedLines {} 1 supersededLines start).error = none ∧
      ¬ ∀ before after key, supersededLines = before ++ after →
        key ∈ (feedLines {} 1 before start).builder.classes.keys →
        key ∈ (finish {} (feedLines {} 1 supersededLines start).builder).classes.keys := by
  refine ⟨by decide +kernel, fun persists => ?_⟩
  have final := persists (supersededLines.take 2) (supersededLines.drop 2) "A".toList rfl
    (by decide +kernel)
  revert final
  decide +kernel

/-- Without the brace the input ends in the block, and the class comes back. -/
theorem keys_persist_iff_unterminated :
    (feedLines {} 1 (supersededLines.take 4) start).error = none ∧
      ((∀ before after key, supersededLines.take 4 = before ++ after →
          key ∈ (feedLines {} 1 before start).builder.classes.keys →
          key ∈ (finish {} (feedLines {} 1 (supersededLines.take 4) start).builder).classes.keys) ↔
        ∀ before key after, stepsOf {} (supersededLines.take 4) = before ++ .enter key :: after →
          key ∈ (run {} start before).classes.keys →
          Returns {} (run {} start (before ++ [.enter key])) key after) :=
  have accepted : (feedLines {} 1 (supersededLines.take 4) start).error = none := by
    decide +kernel
  ⟨accepted, keys_persist_iff {} 1 (supersededLines.take 4) accepted⟩

end ClassDiagram.Builder
