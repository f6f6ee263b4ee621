import ClassDiagram.Files.Path
import ClassDiagram.Text.Quoted

/-!
# Trees of files

A tree is a list of files and directories with their places. To follow a path is to walk its names:
every name but the last has to lead to a directory, and two dots lead back. The starting point and
what lies above it are directories. A tree is a value: to write is to make another tree, which
differs from the first in the places that were written.
-/

namespace ClassDiagram

/-- A file with its bytes, or a directory. -/
inductive Node where
  | file (bytes : List UInt8)
  | directory
  deriving DecidableEq, Repr

/-- Why a path could not be used. -/
inductive PathFault where
  | notFound
  | notADirectory
  | isADirectory
  | exists
  deriving DecidableEq, Repr

/-- A fault and the path that has it. -/
structure PathError where
  fault : PathFault
  path : Path
  deriving DecidableEq, Repr

/-- The words for a path error. -/
def PathError.message (e : PathError) : Text :=
  let cause :=
    match e.fault with
    | .notFound => "[Errno 2] No such file or directory: "
    | .notADirectory => "[Errno 20] Not a directory: "
    | .isADirectory => "[Errno 21] Is a directory: "
    | .exists => "[Errno 17] File exists: "
  cause.toList ++ Text.quoted e.path.toText

/-- Files and directories with their places, which are paths without dots on the way. -/
structure FileTree where
  nodes : List (Path × Node)
  deriving DecidableEq, Repr

namespace FileTree

/-- The name that leads back. -/
def back : Text := ['.', '.']

/-- What is at a place. The starting point and all above it are directories. -/
def node? (tree : FileTree) (place : Path) : Option Node :=
  if place.parts.all (· = back) then some .directory else tree.nodes.lookup place

/-- The place that a name leads to from a directory. -/
def enter (place : Path) (name : Text) : Path :=
  if name = back then
    if place.parts.isEmpty && !place.root.isEmpty then place
    else if place.parts.all (· = back) then { place with parts := place.parts ++ [back] }
    else place.parent
  else { place with parts := place.parts ++ [name] }

/-- The places on the way that names lead along from another place. -/
def stops (place : Path) : List Text → List Path
  | [] => []
  | name :: rest => enter place name :: stops (enter place name) rest

/-- The place that names lead to from another place. -/
def walk (tree : FileTree) (place : Path) : List Text → Except PathFault Path
  | [] => .ok place
  | name :: rest =>
      match tree.node? place with
      | some .directory => walk tree (enter place name) rest
      | some (.file _) => .error .notADirectory
      | none => .error .notFound

/-- The place that a path leads to, whether something is there or not. -/
def resolve (tree : FileTree) (path : Path) : Except PathFault Path :=
  tree.walk ⟨path.root, []⟩ path.parts

/-- What a path leads to, if there is something. -/
def find? (tree : FileTree) (path : Path) : Option Node :=
  match tree.resolve path with
  | .ok place => tree.node? place
  | .error _ => none

/-- The bytes of the file that a path leads to. -/
def read (tree : FileTree) (path : Path) : Except PathError (List UInt8) :=
  match tree.resolve path with
  | .error fault => .error ⟨fault, path⟩
  | .ok place =>
      match tree.node? place with
      | some (.file bytes) => .ok bytes
      | some .directory => .error ⟨.isADirectory, path⟩
      | none => .error ⟨.notFound, path⟩

/-- Nodes with one at a place, in its position or at the end if nothing was there. -/
def put (place : Path) (node : Node) : List (Path × Node) → List (Path × Node)
  | [] => [(place, node)]
  | (other, old) :: rest =>
      if other = place then (place, node) :: rest else (other, old) :: put place node rest

/-- The tree with a file that has the given bytes. The directory of the file has to be there. -/
def write (tree : FileTree) (path : Path) (bytes : List UInt8) : Except PathError FileTree :=
  match tree.resolve path with
  | .error fault => .error ⟨fault, path⟩
  | .ok place =>
      match tree.node? place with
      | some .directory => .error ⟨.isADirectory, path⟩
      | _ => .ok ⟨put place (.file bytes) tree.nodes⟩

/-- The tree with a directory at a place where nothing is. -/
def makeDirectory (tree : FileTree) (path : Path) : Except PathFault FileTree :=
  match tree.resolve path with
  | .error fault => .error fault
  | .ok place =>
      match tree.node? place with
      | some _ => .error .exists
      | none => .ok ⟨put place .directory tree.nodes⟩

/-- The tree with a directory, unless there is one already. -/
def ensureDirectory (tree : FileTree) (path : Path) : Except PathError FileTree :=
  match tree.makeDirectory path with
  | .ok made => .ok made
  | .error fault =>
      if tree.find? path = some .directory then .ok tree else .error ⟨fault, path⟩

/-- The tree with a directory and all that have to be there before it; the names of its path are
given last first. -/
def ensureDirectoriesFrom (root : Text) (tree : FileTree) : List Text → Except PathError FileTree
  | [] => tree.ensureDirectory ⟨root, []⟩
  | name :: before =>
      let path : Path := ⟨root, (name :: before).reverse⟩
      match tree.makeDirectory path with
      | .error .notFound => do
          let ready ← ensureDirectoriesFrom root tree before
          ready.ensureDirectory path
      | _ => tree.ensureDirectory path

/-- The tree with a directory and all that have to be there before it. -/
def ensureDirectories (tree : FileTree) (path : Path) : Except PathError FileTree :=
  ensureDirectoriesFrom path.root tree path.parts.reverse

/-- The tree with a file, for which missing directories are made. -/
def writeWithParents (tree : FileTree) (path : Path) (bytes : List UInt8) :
    Except PathError FileTree := do
  let ready ← tree.ensureDirectories path.parent
  ready.write path bytes

/-- The files of a tree that are not in another one with the same bytes. -/
def changedFiles (before after : FileTree) : List (Path × List UInt8) :=
  after.nodes.filterMap fun (place, node) =>
    match node with
    | .file bytes =>
        if before.nodes.lookup place = some (.file bytes) then none else some (place, bytes)
    | .directory => none

end FileTree

end ClassDiagram
