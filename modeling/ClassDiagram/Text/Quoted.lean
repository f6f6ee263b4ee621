import ClassDiagram.Text.Basic
import ClassDiagram.Text.PrintableRanges

/-!
# Quoted text in messages

A quoted text stands between single quotes, or between double quotes if it holds a single quote and
no double one. The enclosing quote and the backslash are escaped by a backslash, three controls have
a letter of their own, and every other character that does not print is written in hexadecimal, with
two, four or eight digits after `x`, `u` and `U`.
-/

namespace ClassDiagram.Text

/-- Whether a character prints. -/
def isPrintable (c : Char) : Bool :=
  printableRanges.holds c.toNat

/-- The quote that encloses a text. -/
def quoteFor (text : Text) : Char :=
  if text.contains '\'' && !text.contains '"' then '"' else '\''

/-- A character as it is written between two `quote` characters. -/
def quotedChar (quote c : Char) : Text :=
  if c = quote || c = '\\' then ['\\', c]
  else if c = '\n' then ['\\', 'n']
  else if c = '\r' then ['\\', 'r']
  else if c = '\t' then ['\\', 't']
  else if isPrintable c then [c]
  else if c.toNat < 0x100 then ['\\', 'x'] ++ hexadecimal 2 c.toNat
  else if c.toNat < 0x10000 then ['\\', 'u'] ++ hexadecimal 4 c.toNat
  else ['\\', 'U'] ++ hexadecimal 8 c.toNat

/-- A text between quotes. -/
def quoted (text : Text) : Text :=
  let quote := quoteFor text
  [quote] ++ text.flatMap (quotedChar quote) ++ [quote]

end ClassDiagram.Text
