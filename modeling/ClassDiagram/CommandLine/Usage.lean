import ClassDiagram.CommandLine.Options

/-!
# Usage of the command line

What is said about the command when it is asked for help, and the lines that go before the words for
a usage error.
-/

namespace ClassDiagram.CommandLine

/-- The name of the command. -/
def programName : Text :=
  "diagram-ast".toList

/-- How the command is called. -/
def usageLines : List String :=
  ["usage: diagram-ast [-h] [--json] [--output OUTPUT] [--config CONFIG]",
   "                   [--flush-unterminated] [--lowercase-members]",
   "                   diagram"]

/-- What the command does and what its arguments mean. -/
def descriptionLines : List String :=
  ["Parse a class diagram into an AST of classes and members",
   "",
   "positional arguments:",
   "  diagram               Path to the class diagram file",
   "",
   "options:",
   "  -h, --help            show this help message and exit",
   "  --json                Emit the class mapping as JSON instead of tables",
   "  --output OUTPUT, -o OUTPUT",
   "                        Write JSON to this file instead of stdout (implies",
   "                        --json)",
   "  --config CONFIG       ParserConfig JSON file (default: read DIAGRAM_AST_*",
   "                        environment variables)",
   "  --flush-unterminated  Keep a class block left open at end of input",
   "  --lowercase-members   Lower-case member names",
   "",
   "Examples:",
   "  python -m diagram_ast.cli model.mmd",
   "  python -m diagram_ast.cli model.mmd --json -o classes.json"]

/-- Lines as they are printed. -/
def printLines (lines : List String) : Text :=
  lines.flatMap fun line => line.toList ++ ['\n']

/-- What is printed for the wish to be helped. -/
def helpText : Text :=
  printLines (usageLines ++ [""] ++ descriptionLines)

/-- What is printed for a usage error. -/
def UsageError.report (e : UsageError) : Text :=
  printLines usageLines ++ programName ++ ": error: ".toList ++ e.message ++ ['\n']

end ClassDiagram.CommandLine
