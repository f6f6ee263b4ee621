import ClassDiagram.Line.Header
import ClassDiagram.Line.Member
import ClassDiagram.Relation
import ClassDiagram.Settings

/-!
# Building classes line by line

A builder holds the classes that are closed, the relations read so far and at most one open class.
A header takes a class that is known out of the mapping and keeps a copy of it; a header with a new
name gives that name to the class that is open. A closing brace puts the open class into the
mapping. At the end of input an open class is dropped, and the copy that a header kept goes back,
unless the settings ask to keep the class.

A line is first read for its effect on the open class, which cannot fail, and then for a relation,
which works on the mapping alone.
-/

namespace ClassDiagram

/-- What is kept of a class that was taken out of the mapping to be opened again. -/
inductive Saved where
  /-- A copy of the class as it was when it was taken out. -/
  | copy (kept : Class)
  /-- The copy went back at an end of input and is now the class under this key. -/
  | restored (key : Text)
  deriving DecidableEq, Repr

/-- The class that receives members, and what is kept of it if it was known before. -/
structure OpenClass where
  current : Class
  saved : Option Saved
  deriving DecidableEq, Repr

/-- An open class that has no name and no members yet. -/
def OpenClass.blank : OpenClass :=
  ⟨Class.blank, none⟩

/-- Classes and relations read so far, and the class that is open. -/
structure Builder where
  classes : ClassMap
  relations : List Relation
  opened : Option OpenClass
  deriving DecidableEq

namespace Builder

/-- The builder that has read nothing. -/
def start : Builder :=
  ⟨.empty, [], none⟩

instance : Inhabited Builder := ⟨start⟩

/-- The open class, or the blank one if none is open. -/
def openClass (b : Builder) : Class :=
  match b.opened with
  | some o => o.current
  | none => Class.blank

/-- Opens the class of a name: one that is known leaves the mapping, and a new name is given to the
class that is open. -/
def openName (b : Builder) (name : Text) : Builder :=
  match b.classes.get? name with
  | some c => { b with classes := b.classes.erase name, opened := some ⟨c, some (.copy c)⟩ }
  | none =>
      let o := b.opened.getD OpenClass.blank
      { b with opened := some { o with current := { o.current with name := name } } }

/-- Adds the member that a text declares to the open class. -/
def collect (settings : Settings) (segment : Text) (b : Builder) : Builder :=
  match b.opened, Line.member? segment with
  | some o, some member =>
      let type := DataType.ofToken member.typeToken
      let name := settings.memberName member.name
      let current :=
        if member.isOperation then o.current.addOperation ⟨type, name, []⟩
        else o.current.addAttribute ⟨type, name⟩
      { b with opened := some { o with current := current } }
  | _, _ => b

/-- Opens the classes that a header names, one after another, and reads the body that begins on the
same line. A header without a name opens a class all the same. -/
def openHeader (settings : Settings) (line : Text) (b : Builder) : Builder :=
  let named := (Line.classNames line).foldl openName b
  let ready := { named with opened := some (named.opened.getD OpenClass.blank) }
  collect settings (Line.splitHeader line).2 ready

/-- Puts the open class into the mapping, unless it has no name. -/
def close (b : Builder) : Builder :=
  match b.opened with
  | none => b
  | some o =>
      { b with
        classes := if o.current.name = [] then b.classes
                   else b.classes.insert o.current.name o.current
        opened := none }

/-- The effect of a line on the open class. -/
def feedClass (settings : Settings) (line : Text) (b : Builder) : Builder :=
  match Line.classify settings.sectionMarker line with
  | .sectionMarker => b
  | .classClose =>
      let head := line.takeWhile (· ≠ '\x7d')
      (if Line.isClassOpen head then openHeader settings head b else collect settings head b).close
  | .classOpen => openHeader settings line b
  | .other => collect settings line b

/-- A builder after input, and the error that stopped the reading if there was one. -/
structure Outcome where
  builder : Builder
  error : Option DiagramError
  deriving DecidableEq

/-- The effect of a line that may state a relation. -/
def feedRelation (settings : Settings) (number : Option Int) (line : Text) (b : Builder) :
    Outcome :=
  if Line.isRelation line then
    match Relation.read number line with
    | .error e => ⟨b, some (.refused e)⟩
    | .ok relation =>
        let noted := { b with relations := b.relations ++ [relation] }
        match ClassMap.relate settings.foreignKeySuffix b.classes relation with
        | .error e => ⟨noted, some (.missingClass e)⟩
        | .ok (classes, _) => ⟨{ noted with classes := classes }, none⟩
  else ⟨b, none⟩

/-- Reads a line. A line with the root keyword is skipped whatever else is on it. -/
def feed (settings : Settings) (number : Option Int) (line : Text) (b : Builder) : Outcome :=
  if Line.isSectionMarker settings.sectionMarker line then ⟨b, none⟩
  else feedRelation settings number line (feedClass settings line b)

/-- Puts what was kept of a class back into the mapping, before what a relation may have put there
meanwhile. What went back before stands in the mapping itself, and is put before itself. -/
def restore (b : Builder) : Saved → ClassMap × Saved
  | .copy kept =>
      let restored :=
        match b.classes.get? kept.name with
        | some created => kept.absorb created
        | none => kept
      (b.classes.insert kept.name restored, .restored kept.name)
  | .restored key =>
      match b.classes.get? key with
      | some c => (b.classes.insert key (c.absorb c), .restored key)
      | none => (b.classes, .restored key)

/-- The end of input. -/
def finish (settings : Settings) (b : Builder) : Builder :=
  match b.opened with
  | none => b
  | some o =>
      if settings.flushUnterminated then b.close
      else
        match o.saved with
        | none => b
        | some saved =>
            let (classes, kept) := b.restore saved
            { b with classes := classes, opened := some { o with saved := some kept } }

end Builder

end ClassDiagram
