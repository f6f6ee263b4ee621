import ClassDiagram.CommandLine.Options

/-!
# What arguments ask for

A diagram, a choice of how to show its classes, and any number of the two flags: the options that
are read from such arguments say just what stands there.
-/

namespace ClassDiagram.CommandLine

/-- The flag that keeps a class which is open at the end. -/
def flushFlag : Text := "--flush-unterminated".toList

/-- The flag that lowers the names of members. -/
def lowercaseFlag : Text := "--lowercase-members".toList

/-- Whether every argument is one of the two flags. -/
def AreFlags (flags : List Text) : Prop :=
  ∀ flag ∈ flags, flag = flushFlag ∨ flag = lowercaseFlag

/-- The option that a flag is. -/
def flagName (flag : Text) : OptionName :=
  if flag = flushFlag then .flush else .lowercase

variable {argument diagram output : Text} {rest flags : List Text} {kind : Argument}
  {kinds : List (Text × Argument)}

/-- An argument without a hyphen in front is no option. -/
theorem classify_of_head? (bare : argument.head? ≠ some '-') : classify argument = .ok .plain := by
  unfold classify
  split
  · rfl
  · exact absurd rfl bare
  · rfl

theorem classifyAll_cons (inside : argument ≠ "--".toList) (first : classify argument = .ok kind)
    (others : classifyAll rest = .ok kinds) :
    classifyAll (argument :: rest) = .ok ((argument, kind) :: kinds) := by
  rw [classifyAll, if_neg inside, first, others]
  rfl

theorem classifyAll_plain (bare : argument.head? ≠ some '-')
    (others : classifyAll rest = .ok kinds) :
    classifyAll (argument :: rest) = .ok ((argument, .plain) :: kinds) := by
  refine classifyAll_cons ?_ (classify_of_head? bare) others
  rintro rfl
  exact bare rfl

theorem classifyAll_flags (areFlags : AreFlags flags) :
    classifyAll flags
      = .ok (flags.map fun flag => (flag, .option (flagName flag) false none)) := by
  induction flags with
  | nil => rfl
  | cons flag rest ih =>
      obtain ⟨first, others⟩ := List.forall_mem_cons.mp areFlags
      rcases first with rfl | rfl
      · exact classifyAll_cons (by decide) rfl (ih others)
      · exact classifyAll_cons (by decide) rfl (ih others)

/-- The options with what flags say. -/
def Options.withFlags (options : Options) (flags : List Text) : Options :=
  { options with
    flush := options.flush || flags.contains flushFlag
    lowercase := options.lowercase || flags.contains lowercaseFlag }

/-- An option without value switches on what it names. -/
theorem readArguments_switch {name : OptionName} (single : name.takesValue = false)
    (silent : name ≠ .help) (p : Progress) (text : Text) (isShort : Bool)
    (rest : List (Text × Argument)) :
    readArguments p ((text, .option name isShort none) :: rest)
      = readArguments { p with options := p.options.setFlag name } rest := by
  rw [readArguments.eq_def]
  simp only [single, Bool.false_eq_true, if_false, silent]

/-- An option with a value takes the next argument. -/
theorem readArguments_value {name : OptionName} (double : name.takesValue = true) (p : Progress)
    (text value : Text) (isShort : Bool) (rest : List (Text × Argument)) :
    readArguments p ((text, .option name isShort none) :: (value, .plain) :: rest)
      = readArguments { p with options := p.options.setValue (some value) name } rest := by
  rw [readArguments.eq_def]
  simp only [double, if_true]

/-- The first argument that is no option is the diagram. -/
theorem readArguments_diagram {p : Progress} (unset : p.diagram = none) (text next : Text)
    {name : OptionName} {isShort : Bool} {attached : Option Text} (rest : List (Text × Argument)) :
    readArguments p ((text, .plain) :: (next, .option name isShort attached) :: rest)
      = readArguments { p with diagram := some text }
        ((next, .option name isShort attached) :: rest) := by
  rw [readArguments.eq_def]
  simp only [unset]

/-- Flags switch on what they say and nothing else. -/
theorem readArguments_flags (areFlags : AreFlags flags) (p : Progress) :
    readArguments p (flags.map fun flag => (flag, .option (flagName flag) false none))
      = .ok (some { p with options := p.options.withFlags flags }) := by
  have apart : lowercaseFlag ≠ flushFlag := by decide
  induction flags generalizing p with
  | nil => simp [readArguments, Options.withFlags]
  | cons flag rest ih =>
      obtain ⟨first, others⟩ := List.forall_mem_cons.mp areFlags
      have step : readArguments p ((flag :: rest).map fun flag =>
            (flag, .option (flagName flag) false none))
          = readArguments { p with options := p.options.setFlag (flagName flag) }
            (rest.map fun flag => (flag, .option (flagName flag) false none)) := by
        rcases first with rfl | rfl
        · exact readArguments_switch rfl (by decide) p _ _ _
        · exact readArguments_switch rfl (by decide) p _ _ _
      have switched : (p.options.setFlag (flagName flag)).withFlags rest
          = p.options.withFlags (flag :: rest) := by
        rcases first with rfl | rfl
        · simp [flagName, Options.setFlag, Options.withFlags, apart]
        · simp [flagName, Options.setFlag, Options.withFlags, apart, apart.symm]
      rw [step, ih others, switched]

/-- The classes of a diagram are asked for as tables. -/
theorem parse_tables (bare : diagram.head? ≠ some '-') :
    parse [diagram] = .ok (.run ⟨diagram, false, none, none, false, false⟩) := by
  have classified : classifyAll [diagram] = .ok [(diagram, .plain)] := classifyAll_plain bare rfl
  unfold parse
  rw [classified]
  rfl

/-- The classes of a diagram are asked for as JSON on the console. -/
theorem parse_json (bare : diagram.head? ≠ some '-') (areFlags : AreFlags flags) :
    parse (diagram :: "--json".toList :: flags)
      = .ok (.run ⟨diagram, true, none, none, flags.contains flushFlag,
          flags.contains lowercaseFlag⟩) := by
  have json : classify "--json".toList = .ok (.option .json false none) := rfl
  have classified := classifyAll_plain bare
    (classifyAll_cons (by decide) json (classifyAll_flags areFlags))
  unfold parse
  rw [classified]
  change (readArguments Progress.start _ >>= _) = _
  rw [readArguments_diagram rfl, readArguments_switch rfl (by decide),
    readArguments_flags areFlags]
  simp [Progress.start, Options.withFlags, Options.setFlag, bind, Except.bind]

/-- The classes of a diagram are asked for as a JSON file. -/
theorem parse_output (bare : diagram.head? ≠ some '-') (named : output.head? ≠ some '-')
    (areFlags : AreFlags flags) :
    parse (diagram :: "-o".toList :: output :: flags)
      = .ok (.run ⟨diagram, false, some output, none, flags.contains flushFlag,
          flags.contains lowercaseFlag⟩) := by
  have option : classify "-o".toList = .ok (.option .output true none) := rfl
  have classified := classifyAll_plain bare
    (classifyAll_cons (by decide) option (classifyAll_plain named (classifyAll_flags areFlags)))
  unfold parse
  rw [classified]
  change (readArguments Progress.start _ >>= _) = _
  rw [readArguments_diagram rfl, readArguments_value rfl, readArguments_flags areFlags]
  simp [Progress.start, Options.withFlags, Options.setValue, bind, Except.bind]

end ClassDiagram.CommandLine
