import ClassDiagram.Builder

/-!
# Reading a whole diagram

A diagram is read line by line, the lines being numbered from one. Carriage returns at the end of a
line do not belong to it. The first line that is refused ends the reading, and then there are no
classes at all.
-/

namespace ClassDiagram

/-- The lines of a diagram. -/
def documentLines (text : Text) : List Text :=
  (Text.lines text).map (Text.dropEndWhile (· = '\r'))

namespace Builder

/-- Reads lines numbered from `number` on, up to the first one that is refused. -/
def feedLines (settings : Settings) (number : Int) : List Text → Builder → Outcome
  | [], b => ⟨b, none⟩
  | line :: rest, b =>
      let outcome := feed settings (some number) line b
      match outcome.error with
      | some _ => outcome
      | none => feedLines settings (number + 1) rest outcome.builder

/-- Reads a text to its end, unless a line is refused. -/
def readText (settings : Settings) (text : Text) (b : Builder) : Outcome :=
  let outcome := feedLines settings 1 (documentLines text) b
  match outcome.error with
  | some _ => outcome
  | none => ⟨finish settings outcome.builder, none⟩

end Builder

/-- The classes of a diagram. -/
def parse (settings : Settings) (text : Text) : Except DiagramError ClassMap :=
  let outcome := Builder.start.readText settings text
  match outcome.error with
  | some e => .error e
  | none => .ok outcome.builder.classes

end ClassDiagram
