import ClassDiagram.CommandLine.Run

/-!
# The command

Looks up the environment variables and the files that a run can need, runs the command on them, and
carries out what came of it.
-/

namespace ClassDiagram.CommandLine

/-- The environment variables that are set, of those that settings look at. -/
def currentEnvironment : IO Settings.Environment := do
  let found ← Settings.variableNames.mapM fun name => do
    return (← IO.getEnv (String.ofList name)).map fun value => (name, .ofText value.toList)
  return found.filterMap id

/-- What is at a place, if there is something. -/
def lookAt (place : Path) : IO (Option Node) := do
  try
    let bytes ← IO.FS.readBinFile (String.ofList place.toText)
    return some (.file bytes.toList)
  catch
    | .inappropriateType .. => return some .directory
    | .noFileOrDirectory .. => return none
    | e => throw e

/-- The files and directories on the way along paths. -/
def currentFiles (paths : List Path) : IO FileTree := do
  let places := paths.flatMap fun path => FileTree.stops ⟨path.root, []⟩ path.parts
  let nodes ← places.eraseDups.mapM fun place => do
    return (← lookAt place).map fun node => (place, node)
  return ⟨nodes.filterMap id⟩

/-- The paths that arguments name. -/
def namedPaths (arguments : List Text) : List Path :=
  match parse arguments with
  | .ok (.run options) =>
      (options.diagram :: (options.config.toList ++ options.output.toList)).map Path.ofText
  | _ => []

/-- Writes a file, after the directories that have to be there. -/
def writeFile (place : Path) (bytes : List UInt8) : IO Unit := do
  IO.FS.createDirAll (String.ofList place.parent.toText)
  IO.FS.writeBinFile (String.ofList place.toText) ⟨bytes.toArray⟩

end ClassDiagram.CommandLine

open ClassDiagram CommandLine in
/-- Runs the command with the arguments it is called with. -/
def main (arguments : List String) : IO UInt32 := do
  let arguments := arguments.map String.toList
  let before ← currentFiles (namedPaths arguments)
  let result := run arguments (← currentEnvironment) before
  for (place, bytes) in FileTree.changedFiles before result.files do
    writeFile place bytes
  IO.print (String.ofList result.stdout)
  IO.eprint (String.ofList result.stderr)
  match result.ending with
  | .exited code => return code.toUInt32
  | .failed why =>
      IO.eprintln (String.ofList why.message)
      return 1
