import ClassDiagram.Text.Blank
import ClassDiagram.Text.Case
import ClassDiagram.Console.EmojiNames.UpToC
import ClassDiagram.Console.EmojiNames.DToG
import ClassDiagram.Console.EmojiNames.HToM
import ClassDiagram.Console.EmojiNames.NToR
import ClassDiagram.Console.EmojiNames.FromS

/-!
# Emoji by name

A name between two colons stands for an emoji. Case does not matter, and an ending may ask for the
form that is shown as text or as a picture. What is between two colons without white space and is no
name stays as it is, and its second colon does not begin another name.
-/

namespace ClassDiagram.Emoji

/-- Words taken in pairs; a last one without partner is left out. -/
def pairs : List Text → List (Text × Text)
  | name :: emoji :: rest => (name, emoji) :: pairs rest
  | _ => []

/-- All names with their emoji. -/
def named : List (Text × Text) :=
  let lines :=
    EmojiNames.upToC ++ EmojiNames.dToG ++ EmojiNames.hToM ++ EmojiNames.nToR ++ EmojiNames.fromS
  lines.flatMap fun line => pairs (Text.splitOn ' ' line.toList)

/-- The endings of names that ask for a form of an emoji, with the mark that selects the form. -/
def forms : List (Text × Char) :=
  [("-text".toList, '\ufe0e'), ("-emoji".toList, '\ufe0f')]

/-- A code in its name and the mark of the form that it asks for. -/
def splitForm (code : Text) : Text × Text :=
  let split? := forms.findSome? fun (ending, mark) =>
    (Text.dropStart? ending.reverse code.reverse).map fun name => (name.reverse, [mark])
  split?.getD (code, [])

/-- What a code between two colons stands for. -/
def ofCode? (code : Text) : Option Text :=
  let (name, form) := splitForm code
  (named.lookup (Text.lower name)).map (· ++ form)

/-- What has been read: the text that is complete, in reverse, and what follows a colon that may
begin a code, also in reverse. -/
structure Scan where
  done : Text
  opened : Option Text

/-- The text that has been read, in reverse, with the code that turned out not to be one. -/
def Scan.text (s : Scan) : Text :=
  match s.opened with
  | some code => code ++ [':'] ++ s.done
  | none => s.done

/-- Reads one character. A colon ends a code, and white space makes plain text of it. -/
def Scan.step (s : Scan) (c : Char) : Scan :=
  match s.opened with
  | none => if c = ':' then ⟨s.done, some []⟩ else ⟨c :: s.done, none⟩
  | some code =>
      if c = ':' then
        match ofCode? code.reverse with
        | some emoji => ⟨emoji.reverse ++ s.done, none⟩
        | none => ⟨':' :: s.text, none⟩
      else if Text.isBlank c then ⟨c :: s.text, none⟩
      else ⟨s.done, some (c :: code)⟩

/-- A text with emoji in place of their codes. -/
def replaceCodes (text : Text) : Text :=
  (text.foldl Scan.step ⟨[], none⟩).text.reverse

end ClassDiagram.Emoji
