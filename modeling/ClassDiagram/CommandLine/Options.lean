import ClassDiagram.Text.Digit
import ClassDiagram.Text.Quoted

/-!
# Options of the command line

The command takes the path of a diagram and six options. Long options may be shortened as long as
only one of them begins that way, and take a value after an equals sign or from the next argument;
short ones may have their value, or after an option without value another short option, attached.
An attached double hyphen takes a value back. After a double hyphen that stands alone nothing is an
option. All arguments are classified before the first one is acted on.
-/

namespace ClassDiagram.CommandLine

/-- The options. -/
inductive OptionName where
  | help
  | json
  | output
  | config
  | flush
  | lowercase
  deriving DecidableEq, Repr

namespace OptionName

/-- Whether an option takes a value. -/
def takesValue : OptionName → Bool
  | output => true
  | config => true
  | _ => false

/-- Every spelling of an option, in the order in which they are listed. -/
def spellings : List (Text × OptionName) :=
  [("-h".toList, help), ("--help".toList, help), ("--json".toList, json),
   ("--output".toList, output), ("-o".toList, output), ("--config".toList, config),
   ("--flush-unterminated".toList, flush), ("--lowercase-members".toList, lowercase)]

/-- An option as errors name it: all its spellings. -/
def title (name : OptionName) : Text :=
  Text.joinWith ['/'] ((spellings.filter fun entry => entry.2 = name).map Prod.fst)

end OptionName

/-- What the arguments ask for. -/
structure Options where
  diagram : Text
  json : Bool
  output : Option Text
  config : Option Text
  flush : Bool
  lowercase : Bool
  deriving DecidableEq, Repr

/-- Why arguments are refused. -/
inductive UsageError where
  | ambiguous (argument : Text) (candidates : List Text)
  | missingValue (name : OptionName)
  | unexpectedValue (name : OptionName) (value : Text)
  | missingDiagram
  | unrecognized (arguments : List Text)
  deriving DecidableEq, Repr

/-- The words for a usage error. -/
def UsageError.message : UsageError → Text
  | .ambiguous argument candidates =>
      "ambiguous option: ".toList ++ argument ++ " could match ".toList
        ++ Text.joinWith ", ".toList candidates
  | .missingValue name =>
      "argument ".toList ++ name.title ++ ": expected one argument".toList
  | .unexpectedValue name value =>
      "argument ".toList ++ name.title ++ ": ignored explicit argument ".toList
        ++ Text.quoted value
  | .missingDiagram => "the following arguments are required: diagram".toList
  | .unrecognized arguments =>
      "unrecognized arguments: ".toList ++ Text.joinWith [' '] arguments

/-- What an argument is: an option stands with the value that is attached to it, if there is one. -/
inductive Argument where
  | plain
  | separator
  | option (name : OptionName) (isShort : Bool) (attached : Option Text)
  | unknown
  deriving DecidableEq, Repr

/-- A text up to its first equals sign and what follows the sign, if there is one. -/
def splitEquals (text : Text) : Text × Option Text :=
  match text.dropWhile (· ≠ '=') with
  | _ :: value => (text.takeWhile (· ≠ '='), some value)
  | [] => (text, none)

/-- The spellings that an argument may be short for, with the option and the attached value. -/
def candidates (argument : Text) : List (Text × OptionName × Option Text) :=
  match argument with
  | '-' :: '-' :: _ =>
      let (start, value) := splitEquals argument
      OptionName.spellings.filterMap fun (spelling, name) =>
        if start.isPrefixOf spelling then some (spelling, name, value) else none
  | _ =>
      OptionName.spellings.filterMap fun (spelling, name) =>
        if spelling = argument.take 2 then some (spelling, name, some (argument.drop 2))
        else if argument.isPrefixOf spelling then some (spelling, name, none)
        else none

/-- Whether a spelling is that of a short option. -/
def isShort (spelling : Text) : Bool :=
  (spelling.drop 1).head? ≠ some '-'

/-- What an argument is that begins with a hyphen, is no spelling of an option and has more after
the hyphen. A negative number and a text with a space are no options. -/
def classifyUnspelled (argument : Text) : Except UsageError Argument :=
  match candidates argument with
  | [(spelling, name, attached)] => .ok (.option name (isShort spelling) attached)
  | [] =>
      .ok (if Text.isNegativeNumber argument || argument.contains ' ' then .plain else .unknown)
  | several => .error (.ambiguous argument (several.map Prod.fst))

/-- What an argument is that is not behind a double hyphen and is none. -/
def classify (argument : Text) : Except UsageError Argument :=
  match argument with
  | ['-'] => .ok .plain
  | '-' :: _ =>
      match OptionName.spellings.lookup argument with
      | some name => .ok (.option name (isShort argument) none)
      | none =>
          match splitEquals argument with
          | (spelling, some value) =>
              match OptionName.spellings.lookup spelling with
              | some name => .ok (.option name (isShort spelling) (some value))
              | none => classifyUnspelled argument
          | (_, none) => classifyUnspelled argument
  | _ => .ok .plain

/-- All arguments with what they are. -/
def classifyAll : List Text → Except UsageError (List (Text × Argument))
  | [] => .ok []
  | argument :: rest =>
      if argument = "--".toList then
        .ok ((argument, .separator) :: rest.map fun text => (text, .plain))
      else do
        let kind ← classify argument
        let kinds ← classifyAll rest
        .ok ((argument, kind) :: kinds)

/-- What has been read of the arguments: the diagram, the options and what is left over. -/
structure Progress where
  diagram : Option Text
  options : Options
  extras : List Text

/-- Nothing read yet. -/
def Progress.start : Progress :=
  ⟨none, ⟨[], false, none, none, false, false⟩, []⟩

/-- The options after an option without value. -/
def Options.setFlag (options : Options) : OptionName → Options
  | .json => { options with json := true }
  | .flush => { options with flush := true }
  | .lowercase => { options with lowercase := true }
  | _ => options

/-- The options after an option with a value, or with one that takes it back. -/
def Options.setValue (options : Options) (value : Option Text) : OptionName → Options
  | .output => { options with output := value }
  | .config => { options with config := value }
  | _ => options

/-- The value that an attached text is. -/
def attachedValue (text : Text) : Option Text :=
  if text = "--".toList then none else some text

/-- What came of the arguments: the options, or the wish to be told about them. -/
inductive Request where
  | help
  | run (options : Options)
  deriving DecidableEq, Repr

/-- Looks at what is attached to the short option that asks for help: more short options, each right
behind the last one. `hasNext` tells whether an argument follows that may be a value. -/
def checkHelpTail (hasNext : Bool) : Text → Except UsageError Unit
  | [] => .ok ()
  | 'h' :: rest => checkHelpTail hasNext rest
  | ['o'] => if hasNext then .ok () else .error (.missingValue .output)
  | 'o' :: _ => .ok ()
  | rest => .error (.unexpectedValue .help rest)

/-- Whether the next argument may be a value. -/
def nextIsPlain : List (Text × Argument) → Bool
  | (_, .plain) :: _ => true
  | _ => false

/-- Acts on classified arguments one after another. The wish for help ends the reading. -/
def readArguments (p : Progress) : List (Text × Argument) → Except UsageError (Option Progress)
  | [] => .ok (some p)
  | (text, .unknown) :: rest => readArguments { p with extras := p.extras ++ [text] } rest
  | (text, .plain) :: rest =>
      match p.diagram with
      | some _ => readArguments { p with extras := p.extras ++ [text] } rest
      | none =>
          match rest with
          | (_, .separator) :: rest => readArguments { p with diagram := some text } rest
          | rest => readArguments { p with diagram := some text } rest
  | (text, .separator) :: rest =>
      match p.diagram, rest with
      | none, (diagram, .plain) :: rest => readArguments { p with diagram := some diagram } rest
      | _, rest => readArguments { p with extras := p.extras ++ [text] } rest
  | (_, .option name isShort attached) :: rest =>
      match attached with
      | none =>
          if name.takesValue then
            match rest with
            | (value, .plain) :: rest =>
                readArguments { p with options := p.options.setValue (some value) name } rest
            | _ => .error (.missingValue name)
          else if name = .help then .ok none
          else readArguments { p with options := p.options.setFlag name } rest
      | some value =>
          if name.takesValue then
            readArguments { p with options := p.options.setValue (attachedValue value) name } rest
          else if isShort && !value.isEmpty then
            (checkHelpTail (nextIsPlain rest) value).map fun _ => none
          else .error (.unexpectedValue name value)

/-- What arguments ask for. A missing diagram is reported before arguments that are left over. -/
def parse (arguments : List Text) : Except UsageError Request := do
  let classified ← classifyAll arguments
  match ← readArguments Progress.start classified with
  | none => .ok .help
  | some p =>
      match p.diagram with
      | none => .error .missingDiagram
      | some diagram =>
          if p.extras.isEmpty then .ok (.run { p.options with diagram := diagram })
          else .error (.unrecognized p.extras)

end ClassDiagram.CommandLine
