import ClassDiagram.Class
import ClassDiagram.Console.Table

/-!
# What is printed

Messages are printed with a style of their own and broken at eighty columns. Classes are shown as
one table each, ordered by name, and counts as a table of two columns. A sequence of prints stops
at the first one that is refused; what was printed before it stays.
-/

namespace ClassDiagram

open Markup (MarkupError)

/-- The columns of the console. -/
def consoleWidth : Nat := 80

/-- The lines of one print, unless a text in it is refused. -/
abbrev Print := Except MarkupError (List Text)

/-- The text that a print puts on the console. -/
def Print.text : Print → Text
  | .ok lines => lines.flatMap (· ++ ['\n'])
  | .error _ => []

/-- Text that was printed, and the error that stopped the printing if there was one. -/
structure Printed where
  text : Text
  error : Option MarkupError
  deriving DecidableEq, Repr

namespace Printed

/-- Nothing printed yet. -/
def nothing : Printed := ⟨[], none⟩

/-- Prints of lines one after another. -/
def ofPrints : List Print → Printed
  | [] => nothing
  | .error e :: _ => ⟨[], some e⟩
  | .ok lines :: rest =>
      let after := ofPrints rest
      ⟨lines.flatMap (· ++ ['\n']) ++ after.text, after.error⟩

end Printed

/-- The kinds of messages. -/
inductive Level where
  | success
  | error
  | warning
  deriving DecidableEq, Repr

/-- The style of a message. -/
def Level.style : Level → Text
  | .success => "bold green".toList
  | .error => "bold red".toList
  | .warning => "bold yellow".toList

/-- The lines of marked-up text on the console. -/
def printMarkup (text : Text) : Except MarkupError (List Text) :=
  (Markup.render text).map (Wrap.wrap consoleWidth .fold)

/-- The lines of a message. -/
def printMessage (level : Level) (message : Text) : Except MarkupError (List Text) :=
  printMarkup (['['] ++ level.style ++ [']'] ++ message ++ ['[', '/'] ++ level.style ++ [']'])

/-- The table of a class: its attributes and then its operations. -/
def Class.table (title : Text) (c : Class) : Table where
  title := title
  columns := [⟨"Member".toList, false⟩, ⟨"Kind".toList, true⟩, ⟨"Type".toList, true⟩]
  rows :=
    (c.attributes.map fun a => [a.name, "attribute".toList, a.dataType.toText])
      ++ c.operations.map fun o => [o.name ++ "()".toList, "function".toList, o.returnType.toText]

/-- An entry in its place among entries that are ordered by key. -/
def insertByKey {α : Type} (entry : Text × α) : List (Text × α) → List (Text × α)
  | [] => [entry]
  | other :: rest =>
      if Text.precedes entry.1 other.1 then entry :: other :: rest
      else other :: insertByKey entry rest

/-- Entries in the order of their keys. -/
def sortByKey {α : Type} (entries : List (Text × α)) : List (Text × α) :=
  entries.foldr insertByKey []

/-- The tables of all classes and an empty line. -/
def tablePrints (classes : ClassMap) : List Print :=
  (sortByKey classes.entries).map (fun entry => (entry.2.table entry.1).lines) ++ [.ok [[]]]

/-- Prints the tables of all classes and an empty line. -/
def printClasses (classes : ClassMap) : Printed :=
  .ofPrints (tablePrints classes)

/-- Prints a table of labels and values and an empty line. -/
def printSummary (title : Text) (items : OrderedMap Text) : Printed :=
  let table : Table :=
    { title := title
      columns := [⟨"Item".toList, false⟩, ⟨"Value".toList, true⟩]
      rows := items.entries.map fun (label, value) => [label, value] }
  .ofPrints [table.lines, .ok [[]]]

/-- The title of a summary that is not given one. -/
def defaultSummaryTitle : Text :=
  "Summary".toList

end ClassDiagram
