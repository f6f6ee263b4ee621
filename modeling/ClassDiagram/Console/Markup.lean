import ClassDiagram.Console.Emoji
import ClassDiagram.Console.Literal
import ClassDiagram.Console.Style
import ClassDiagram.Text.Quoted

/-!
# Style tags in console text

A tag stands between square brackets, its content begins with a small letter or one of three signs,
and it holds no opening bracket. Tags are not printed. A tag whose content begins with a slash
closes the innermost tag that names the same style, or the innermost of all if no name follows; it
is an error if there is no such tag. Backslashes before a tag come in pairs that print as one, and a
single one left over makes the tag print as it is. A tag that is never closed is no error. A tag
whose name begins with an at sign has no style but an action, and what it is given must be literal
when the tag is closed. Codes of emoji are replaced in each stretch of text between tags.
-/

namespace ClassDiagram.Markup

/-- Whether a character may begin the content of a tag. -/
def startsTag (c : Char) : Bool :=
  ('a' ≤ c && c ≤ 'z') || c = '#' || c = '/' || c = '@'

/-- A piece of marked-up text: plain text, or a tag with the number of backslashes before it, the
position of its bracket and its content. -/
inductive Piece where
  | plain (text : Text)
  | tag (backslashes position : Nat) (content : Text)
  deriving DecidableEq, Repr

/-- What has been read: the pieces that are complete, the last one first; the plain text after them
and the content of a tag that may be open, both in reverse; and the number of characters. -/
structure Scan where
  pieces : List Piece
  plain : Text
  opened : Option Text
  position : Nat

/-- Puts plain text before the pieces unless it is empty. -/
def withPlain (reversed : Text) (pieces : List Piece) : List Piece :=
  if reversed = [] then pieces else .plain reversed.reverse :: pieces

/-- The plain text with the text of a tag that turned out not to be one. -/
def Scan.text (s : Scan) : Text :=
  match s.opened with
  | some content => content ++ ['['] ++ s.plain
  | none => s.plain

/-- Reads one character. A closing bracket after at least one character completes a tag, an opening
bracket or an unfit first character makes plain text of what was open. -/
def Scan.step (s : Scan) (c : Char) : Scan :=
  let next := s.position + 1
  if c = '[' then ⟨s.pieces, s.text, some [], next⟩
  else
    match s.opened with
    | none => ⟨s.pieces, c :: s.plain, none, next⟩
    | some [] =>
        if startsTag c then ⟨s.pieces, s.plain, some [c], next⟩
        else ⟨s.pieces, c :: s.text, none, next⟩
    | some content =>
        if c = ']' then
          let backslashes := (s.plain.takeWhile (· = '\\')).length
          let tag : Piece := .tag backslashes (s.position - content.length - 1) content.reverse
          ⟨tag :: withPlain (s.plain.drop backslashes) s.pieces, [], none, next⟩
        else ⟨s.pieces, s.plain, some (c :: content), next⟩

/-- The pieces of marked-up text. -/
def pieces (text : Text) : List Piece :=
  let s := text.foldl Scan.step ⟨[], [], none, 0⟩
  (withPlain s.text s.pieces).reverse

/-- Why marked-up text cannot be printed: a closing tag has no tag to close, at the position of its
bracket, a tag names a color with a component missing, or what an action is given is not literal. In
the last case it is told apart what the tag says and what of it is read as arguments. -/
inductive MarkupError where
  | nothingToClose (position : Nat)
  | unmatched (content : Text) (position : Nat)
  | emptyComponent
  | notLiteral (given arguments : Text) (why : Literal.Error)
  deriving DecidableEq, Repr

/-- The words for a markup error. -/
def MarkupError.message : MarkupError → Text
  | .nothingToClose position =>
      "closing tag '[/]' at position ".toList ++ Text.ofNat position
        ++ " has nothing to close".toList
  | .unmatched content position =>
      "closing tag '[".toList ++ content ++ "]' at position ".toList ++ Text.ofNat position
        ++ " doesn't match any open tag".toList
  | .emptyComponent => "invalid literal for int() with base 10: ''".toList
  | .notLiteral given _ .notLiteral =>
      "error parsing ".toList ++ Text.quoted given ++ "; ".toList
        ++ Literal.Error.message .notLiteral
  | .notLiteral given arguments why =>
      "error parsing ".toList ++ Text.quoted arguments ++ " in ".toList ++ Text.quoted given
        ++ "; ".toList ++ why.message

/-- The name in the content of a tag, up to an equals sign. -/
def tagName (content : Text) : Text :=
  content.takeWhile (· ≠ '=')

/-- What follows the name in the content of a tag and its equals sign. -/
def tagArguments (content : Text) : Text :=
  (content.dropWhile (· ≠ '=')).drop 1

/-- A tag that is open: its name in normal form, and what it is given. -/
structure OpenTag where
  name : Text
  given : Text
  deriving DecidableEq, Repr

/-- The arguments of an action: what stands between parentheses after a name, with them, and none if
there is a name alone. What has another form counts as arguments as a whole. -/
def actionArguments (given : Text) : Text :=
  let given := Text.trim given
  match given.dropWhile fun c => Text.isWordChar c || c = '.' with
  | [] => "()".toList
  | '(' :: rest =>
      if rest.getLast? = some ')' ∧ !rest.contains '\n' then '(' :: rest else given
  | _ => given

/-- Checks a tag that is closed. -/
def OpenTag.check (tag : OpenTag) : Except MarkupError Unit :=
  if tag.name.head? = some '@' ∧ tag.given ≠ [] then
    let arguments := actionArguments tag.given
    (Literal.check arguments).mapError (MarkupError.notLiteral tag.given arguments)
  else .ok ()

/-- The form in which names of tags are compared. -/
def normalizeName (name : Text) : Except MarkupError Text :=
  match Style.normalize name with
  | .ok normal => .ok normal
  | .error _ => .error .emptyComponent

/-- Plain text in which a backslash before an opening bracket is left out. -/
def unescapeBrackets : Text → Text
  | '\\' :: '[' :: rest => '[' :: unescapeBrackets rest
  | c :: rest => c :: unescapeBrackets rest
  | [] => []

/-- The open tags after a tag, the innermost first. -/
def applyTag (position : Nat) (content : Text) (opened : List OpenTag) :
    Except MarkupError (List OpenTag) :=
  match tagName content with
  | '/' :: rest =>
      if Text.trim rest = [] then
        match opened with
        | [] => .error (.nothingToClose position)
        | tag :: outer => tag.check.map fun _ => outer
      else do
        let name ← normalizeName rest
        match opened.find? (·.name = name) with
        | none => .error (.unmatched content position)
        | some tag => tag.check.map fun _ => opened.eraseP (·.name = name)
  | name => do
      let name ← normalizeName name
      .ok (⟨name, tagArguments content⟩ :: opened)

/-- The text that pieces print as, `opened` being the tags that are open before them. -/
def renderPieces (opened : List OpenTag) : List Piece → Except MarkupError Text
  | [] => .ok []
  | .plain text :: rest =>
      (renderPieces opened rest).map (Emoji.replaceCodes (unescapeBrackets text) ++ ·)
  | .tag backslashes position content :: rest =>
      let kept := List.replicate (backslashes / 2) '\\'
      if backslashes % 2 = 1 then
        let shown := Emoji.replaceCodes (['['] ++ content ++ [']'])
        (renderPieces opened rest).map (kept ++ shown ++ ·)
      else do
        let opened ← applyTag position content opened
        (renderPieces opened rest).map (kept ++ ·)

/-- Whether a control character is left out of everything that is printed. -/
def isDropped (c : Char) : Bool :=
  c = '\x07' || c = '\x08' || c = '\x0b' || c = '\x0c' || c = '\r'

/-- The text that marked-up text prints as. -/
def render (text : Text) : Except MarkupError Text :=
  (renderPieces [] (pieces text)).map fun plain => plain.filter fun c => !isDropped c

/-- A piece in the form that prints as the piece is written. -/
def escapePiece : Piece → Text
  | .plain text => text
  | .tag backslashes _ content =>
      List.replicate (2 * backslashes + 1) '\\' ++ ['['] ++ content ++ [']']

/-- Marked-up text that prints as the given text, also before another tag: a single backslash at the
end is doubled. -/
def escape (text : Text) : Text :=
  let escaped := (pieces text).flatMap escapePiece
  match escaped.reverse with
  | '\\' :: '\\' :: _ => escaped
  | '\\' :: _ => escaped ++ ['\\']
  | _ => escaped

end ClassDiagram.Markup
