import ClassDiagram.Document
import ClassDiagram.Files.Tree
import ClassDiagram.Text.Newlines
import ClassDiagram.Text.Utf8

/-!
# Diagrams in files

A diagram file has one of six endings or none, is encoded in UTF-8, and may end its lines in any of
three ways. Its existence is looked at first and its ending second, whatever it is.
-/

namespace ClassDiagram

/-- Why a file gave no text. -/
inductive ReadError where
  | missing (path : Text)
  | wrongSuffix (suffix : Text)
  | unusable (e : PathError)
  | notUtf8 (e : Text.Utf8.Malformed)
  deriving DecidableEq, Repr

/-- The words for a read error. -/
def ReadError.message : ReadError → Text
  | .missing path => "Diagram file not found: ".toList ++ path
  | .wrongSuffix suffix => "Expected a diagram or text file, got: ".toList ++ suffix
  | .unusable e => e.message
  | .notUtf8 e => e.message

namespace DiagramFile

/-- The endings of diagram files. -/
def suffixes : List Text :=
  [".mmd".toList, ".mermaid".toList, ".md".toList, ".markdown".toList, ".txt".toList, []]

/-- The text in the bytes of a file. -/
def decodeText (bytes : List UInt8) : Except ReadError Text :=
  match Text.Utf8.decode bytes with
  | .ok text => .ok (Text.normalizeNewlines text)
  | .error e => .error (.notUtf8 e)

/-- The text of a file, of whatever kind. -/
def readAny (tree : FileTree) (path : Path) : Except ReadError Text :=
  match tree.read path with
  | .ok bytes => decodeText bytes
  | .error e => .error (.unusable e)

/-- The text of a diagram file; a file that is missing is named as it was given. -/
def readText (tree : FileTree) (given : Text) : Except ReadError Text :=
  let path := Path.ofText given
  if (tree.find? path).isNone then .error (.missing given)
  else if suffixes.contains (Text.lower path.suffix) then readAny tree path
  else .error (.wrongSuffix path.suffix)

/-- Why a file gave no classes. -/
inductive Error where
  | unread (e : ReadError)
  | unparsed (e : DiagramError)
  deriving DecidableEq, Repr

/-- The classes of the diagram in a file. -/
def parse (settings : Settings) (tree : FileTree) (given : Text) : Except Error ClassMap :=
  match readText tree given with
  | .error e => .error (.unread e)
  | .ok text =>
      match ClassDiagram.parse settings text with
      | .error e => .error (.unparsed e)
      | .ok classes => .ok classes

end DiagramFile

end ClassDiagram
