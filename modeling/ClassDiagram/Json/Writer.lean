import ClassDiagram.Json.Value

/-!
# Writing JSON

Every item of an array and every field of an object stands on a line of its own, indented by two
spaces for each container around it; an empty container is written as its two brackets. In strings
only quotes, backslashes and controls are escaped.
-/

namespace ClassDiagram.Json

/-- A character as it stands in a string. -/
def escapeChar (c : Char) : Text :=
  if c = '"' then ['\\', '"']
  else if c = '\\' then ['\\', '\\']
  else if c = '\n' then ['\\', 'n']
  else if c = '\r' then ['\\', 'r']
  else if c = '\t' then ['\\', 't']
  else if c = '\x08' then ['\\', 'b']
  else if c = '\x0c' then ['\\', 'f']
  else if c.toNat < 0x20 then ['\\', 'u'] ++ Text.hexadecimal 4 c.toNat
  else [c]

/-- A text as a JSON string. -/
def writeString (text : Text) : Text :=
  ['"'] ++ text.flatMap escapeChar ++ ['"']

/-- A number as it is written. -/
def writeNumber : Number → Text
  | .integer value => Text.ofInt value
  | .float value => value.toText

/-- A line break and the indentation of a line inside `depth` containers. -/
def newLine (depth : Nat) : Text :=
  '\n' :: List.replicate (2 * depth) ' '

mutual

/-- A value inside `depth` containers. -/
def writeAt (depth : Nat) : Json → Text
  | .null => "null".toList
  | .bool true => "true".toList
  | .bool false => "false".toList
  | .number value => writeNumber value
  | .string text => writeString text
  | .array [] => ['[', ']']
  | .array (first :: rest) =>
      ['['] ++ newLine (depth + 1) ++ writeAt (depth + 1) first ++ writeItems (depth + 1) rest
        ++ newLine depth ++ [']']
  | .object [] => ['\x7b', '\x7d']
  | .object ((name, first) :: rest) =>
      ['\x7b'] ++ newLine (depth + 1) ++ writeString name ++ [':', ' '] ++ writeAt (depth + 1) first
        ++ writeFields (depth + 1) rest ++ newLine depth ++ ['\x7d']

/-- The items of an array after the first. -/
def writeItems (depth : Nat) : List Json → Text
  | [] => []
  | item :: rest => [','] ++ newLine depth ++ writeAt depth item ++ writeItems depth rest

/-- The fields of an object after the first. -/
def writeFields (depth : Nat) : List (Text × Json) → Text
  | [] => []
  | (name, value) :: rest =>
      [','] ++ newLine depth ++ writeString name ++ [':', ' '] ++ writeAt depth value
        ++ writeFields depth rest

end

/-- A value as a JSON text, without a line break at its end. -/
def write (value : Json) : Text :=
  writeAt 0 value

end ClassDiagram.Json
