import ClassDiagram.CommandLine.Usage
import ClassDiagram.Console.Report
import ClassDiagram.DiagramFile
import ClassDiagram.Schema.Records
import ClassDiagram.Settings.Files

/-!
# A run of the command

A run is a function of the arguments, the environment and the files that are there. It ends with an
exit code or with a failure that the command does not answer for, and it gives what was printed and
the files as they are afterwards. What was printed or written before a failure stays. Files and the
console take UTF-8: a stray byte that comes from the environment to one of them is a failure.
-/

namespace ClassDiagram.CommandLine

open Markup (MarkupError)

/-- Why a run came to no exit code. -/
inductive Failure where
  | unread (e : ReadError)
  | badSettings (issues : List Issue)
  | missingClass (e : MissingClass)
  | unwritten (e : PathError)
  | unprintable (e : MarkupError)
  | unencodable (e : Text.Utf8.Unencodable)
  deriving DecidableEq, Repr

/-- A file without settings as a failure. -/
def Failure.ofLoadError : Settings.LoadError → Failure
  | .unread e => .unread e
  | .invalid issues => .badSettings issues

/-- An issue in words: its place, with dots between the steps, and what it is. -/
def describeIssue (issue : Issue) : Text :=
  let step : Place → Text
    | .field name => name
    | .item index => Text.ofNat index
  Text.joinWith ['.'] (issue.place.map step) ++ ": ".toList ++ issue.message?.getD issue.code

/-- The words for a failure. -/
def Failure.message : Failure → Text
  | .unread e => e.message
  | .badSettings issues => Text.joinWith ['\n'] (issues.map describeIssue)
  | .missingClass e => e.message
  | .unwritten e => e.message
  | .unprintable e => e.message
  | .unencodable e => e.message

/-- How a run ended. -/
inductive Ending where
  | exited (code : UInt8)
  | failed (why : Failure)
  deriving DecidableEq, Repr

/-- What came of a run. -/
structure Result where
  ending : Ending
  stdout : Text
  stderr : Text
  files : FileTree
  deriving DecidableEq, Repr

namespace Result

/-- A run that prints nothing and leaves the files as they are. -/
def quiet (ending : Ending) (files : FileTree) : Result :=
  ⟨ending, [], [], files⟩

/-- A run that goes on after a print; a print that is refused ends it. -/
def afterPrint (printed : Printed) (files : FileTree) (next : Result) : Result :=
  match printed.error with
  | some e => ⟨.failed (.unprintable e), printed.text, [], files⟩
  | none => { next with stdout := printed.text ++ next.stdout }

/-- A run that goes on after a text was put on the console; a stray byte in the text ends it. -/
def afterText (texts : StandIn → Text) (files : FileTree) (next : Result) : Result :=
  match Text.Utf8.encodeRaw (.restore texts) with
  | .error e => .quiet (.failed (.unencodable e)) files
  | .ok _ => { next with stdout := texts .first ++ next.stdout }

/-- A run that goes on after prints into which stray bytes may have come. A print ends it that is
refused or has a stray byte. -/
def afterPrints (files : FileTree) (next : Result) : List (StandIn → Print) → Result
  | [] => next
  | print :: rest =>
      match print .first with
      | .error e => .quiet (.failed (.unprintable e)) files
      | .ok _ => .afterText (fun standIn => (print standIn).text) files (afterPrints files next rest)

end Result

/-- The settings of a run before its flags: from the file that is named, or else from the
environment. -/
def baseSettings (standIn : StandIn) (options : Options) (environment : Settings.Environment)
    (files : FileTree) : Except Failure Settings :=
  match options.config.getD [] with
  | [] => (Settings.ofEnvironment standIn environment).mapError .badSettings
  | config => (Settings.loadFrom files (Path.ofText config)).mapError .ofLoadError

/-- The settings with what the flags say. A flag can only switch something on. -/
def withFlags (options : Options) (settings : Settings) : Settings :=
  { settings with
    flushUnterminated := options.flush || settings.flushUnterminated
    preserveMemberCase := !options.lowercase && settings.preserveMemberCase }

/-- What the command says of a diagram that it could not read, unless it does not answer for it. -/
def explain : DiagramFile.Error → Except Failure Text
  | .unread (.unusable e) => .error (.unread (.unusable e))
  | .unread (.missing path) => .error (.unread (.missing path))
  | .unread e => .ok e.message
  | .unparsed (.refused e) => .ok e.message
  | .unparsed (.missingClass e) => .error (.missingClass e)

/-- The warning for a diagram without classes. -/
def warnIfEmpty (path : Path) (classes : ClassMap) : Printed :=
  if classes.size = 0 then
    .ofPrints [printMessage .warning ("No classes found in ".toList ++ path.name)]
  else .nothing

/-- The counts that stand below the tables. -/
def counts (classes : ClassMap) : OrderedMap Text :=
  let total (members : Class → Nat) : Text :=
    Text.ofNat (classes.values.foldl (fun sum c => sum + members c) 0)
  .ofList
    [("Classes".toList, Text.ofNat classes.size),
     ("Attributes".toList, total fun c => c.attributes.length),
     ("Functions".toList, total fun c => c.operations.length)]

/-- Writes the classes to a file and says so. The file is emptied before the JSON text is encoded,
so a stray byte leaves it empty. -/
def writeClasses (output : Text) (classes : StandIn → ClassMap) (files : FileTree) : Result :=
  let encoded := Text.Utf8.encodeRaw (.restore fun standIn => (classes standIn).toJson.write)
  match files.writeWithParents (Path.ofText output) (encoded.toOption.getD []) with
  | .error e => .quiet (.failed (.unwritten e)) files
  | .ok written =>
      match encoded with
      | .error e => .quiet (.failed (.unencodable e)) written
      | .ok _ =>
          let message :=
            "Wrote ".toList ++ Text.ofNat (classes .first).size ++ " classes to ".toList ++ output
          .afterPrint (.ofPrints [printMessage .success message]) written
            (.quiet (.exited 0) written)

/-- Shows the classes in the way that the options ask for. -/
def showClasses (options : Options) (path : Path) (classes : StandIn → ClassMap)
    (files : FileTree) : Result :=
  let done : Result := .quiet (.exited 0) files
  match options.output.getD [] with
  | [] =>
      if options.json then
        .afterText (fun standIn => (classes standIn).toJson.write ++ ['\n']) files done
      else
        .afterPrints files
          (.afterPrint (printSummary path.name (counts (classes .first))) files done)
          (List.zipWith StandIn.pair (tablePrints (classes .first)) (tablePrints (classes .second)))
  | output => writeClasses output classes files

/-- Prints a line and gives up. -/
def giveUp (printed : Except MarkupError (List Text)) (files : FileTree) : Result :=
  .afterPrint (.ofPrints [printed]) files (.quiet (.exited 1) files)

/-- Reads the diagram that the options name and shows its classes. -/
def runWith (options : Options) (environment : Settings.Environment) (files : FileTree) : Result :=
  let path := Path.ofText options.diagram
  if (files.find? path).isNone then
    giveUp (printMarkup ("[bold red]Error:[/bold red] Diagram file not found: ".toList
      ++ path.toText)) files
  else
    match StandIn.both fun standIn => baseSettings standIn options environment files with
    | .error why => .quiet (.failed why) files
    | .ok settings =>
        match StandIn.both fun standIn =>
            DiagramFile.parse (withFlags options (settings standIn)) files path.toText with
        | .error e =>
            match explain e with
            | .error why => .quiet (.failed why) files
            | .ok words =>
                giveUp (printMessage .error ("Error: ".toList ++ Markup.escape words)) files
        | .ok classes =>
            .afterPrint (warnIfEmpty path (classes .first)) files
              (showClasses options path classes files)

/-- A run of the command. -/
def run (arguments : List Text) (environment : Settings.Environment) (files : FileTree) : Result :=
  match parse arguments with
  | .error e => ⟨.exited 2, [], e.report, files⟩
  | .ok .help => ⟨.exited 0, helpText, [], files⟩
  | .ok (.run options) => runWith options environment files

end ClassDiagram.CommandLine
