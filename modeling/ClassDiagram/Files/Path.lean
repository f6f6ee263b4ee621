import ClassDiagram.Text.Basic

/-!
# Paths

A path is a root and the names on the way from it. Empty names and single dots are left out when a
path is read, so that two spellings of a path that differ only in them are the same path. Two dots
are a name like any other here; where they lead is a question to a tree of files.
-/

namespace ClassDiagram

/-- A root, empty for a relative path, and the names on the way. -/
structure Path where
  root : Text
  parts : List Text
  deriving DecidableEq, Repr

namespace Path

/-- The directory that relative paths begin at. -/
def here : Path := ⟨[], []⟩

/-- The root of a spelled path. Two slashes are a root of their own, three or more are one slash. -/
def rootOf (text : Text) : Text :=
  match (text.takeWhile (· = '/')).length with
  | 0 => []
  | 2 => ['/', '/']
  | _ => ['/']

/-- The path that a text spells. -/
def ofText (text : Text) : Path :=
  ⟨rootOf text,
   (Text.splitOn '/' text).filter fun part => part ≠ [] ∧ part ≠ ['.']⟩

/-- The spelling of a path without empty names and single dots. -/
def toText (p : Path) : Text :=
  if p.root = [] ∧ p.parts = [] then ['.'] else p.root ++ Text.joinWith ['/'] p.parts

/-- The last name, empty if there is none. -/
def name (p : Path) : Text :=
  p.parts.getLastD []

/-- The path without its last name. -/
def parent (p : Path) : Path :=
  { p with parts := p.parts.dropLast }

/-- The part of a text from its last dot on, with the length of what stands before the dot. -/
def lastDot? : Text → Option (Nat × Text)
  | [] => none
  | c :: rest =>
      match lastDot? rest with
      | some (n, dotted) => some (n + 1, dotted)
      | none => if c = '.' then some (0, c :: rest) else none

/-- The ending of the last name: from its last dot on, unless that dot is its first or its last
character. -/
def suffix (p : Path) : Text :=
  match lastDot? p.name with
  | some (0, _) => []
  | some (_, ['.']) => []
  | some (_, dotted) => dotted
  | none => []

end Path

end ClassDiagram
