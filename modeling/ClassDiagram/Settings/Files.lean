import ClassDiagram.DiagramFile
import ClassDiagram.Settings.Storage

/-!
# Files with settings

A file with settings is JSON in UTF-8. Directories that are missing on the way to it are made. It is
read as any other file, so its line endings are replaced before the JSON text is looked at.
-/

namespace ClassDiagram.Settings

/-- Why a file gave no settings. -/
inductive LoadError where
  | unread (e : ReadError)
  | invalid (issues : List Issue)
  deriving DecidableEq, Repr

/-- The files with one more, in which the settings are kept. -/
def saveTo (files : FileTree) (path : Path) (settings : Settings) : Except PathError FileTree :=
  files.writeWithParents path (Text.Utf8.encode settings.save)

/-- The settings that a file keeps. -/
def loadFrom (files : FileTree) (path : Path) : Except LoadError Settings :=
  match DiagramFile.readAny files path with
  | .error e => .error (.unread e)
  | .ok text =>
      match load text with
      | .error issues => .error (.invalid issues)
      | .ok settings => .ok settings

end ClassDiagram.Settings
