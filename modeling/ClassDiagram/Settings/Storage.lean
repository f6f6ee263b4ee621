import ClassDiagram.Json.Reader
import ClassDiagram.Json.Writer
import ClassDiagram.Schema.Check
import ClassDiagram.Settings
import ClassDiagram.Text.Raw

/-!
# Settings in files and in the environment

Settings are kept as a JSON object with four fields, each of which may be left out. The root keyword
has to have a character before it is trimmed and lowered. Environment variables set the same four
values; a flag variable with nothing but white space counts as not set, and every text other than
four affirmative words means no. A stray byte is refused in the root keyword, and passed on in the
ending of names.
-/

namespace ClassDiagram.Settings

/-- A root keyword in the form in which it is kept. The empty text is refused, but a text that
becomes empty by trimming is not. -/
def checkMarker (value : Json) : Checked Text := do
  let marker ← Check.text value
  if marker = [] then .fail .emptyText else .ok (normalizeMarker marker)

/-- The settings of a JSON object. -/
def ofJson (value : Json) : Checked Settings := do
  let usual : Settings := {}
  let fields ← Check.fields .notObject value
  let (marker, flush, preserve, suffix) ← Checked.both
    (Check.defaulted "section_marker".toList usual.sectionMarker checkMarker fields)
    (Checked.both
      (Check.defaulted "flush_unterminated_class".toList usual.flushUnterminated Check.bool fields)
      (Checked.both
        (Check.defaulted "preserve_member_case".toList usual.preserveMemberCase Check.bool fields)
        (Check.defaulted "foreign_key_suffix".toList usual.foreignKeySuffix Check.text fields)))
  .ok ⟨marker, flush, preserve, suffix⟩

/-- The settings as a JSON object. -/
def toJson (settings : Settings) : Json :=
  .object
    [("section_marker".toList, .string settings.sectionMarker),
     ("flush_unterminated_class".toList, .bool settings.flushUnterminated),
     ("preserve_member_case".toList, .bool settings.preserveMemberCase),
     ("foreign_key_suffix".toList, .string settings.foreignKeySuffix)]

/-- The text of a file that keeps the settings. -/
def save (settings : Settings) : Text :=
  settings.toJson.write

/-- The settings that a text keeps. -/
def load (text : Text) : Checked Settings :=
  match Json.read? text with
  | some value => ofJson value
  | none => .fail .notJson

/-- Environment variables by name, with their values as the system hands them over. -/
abbrev Environment := List (Text × RawText)

/-- The variable with the root keyword. -/
def markerVariable : Text := "DIAGRAM_AST_SECTION_MARKER".toList

/-- The flag variable for classes that are open at the end. -/
def flushVariable : Text := "DIAGRAM_AST_FLUSH_UNTERMINATED".toList

/-- The flag variable for the case of member names. -/
def preserveCaseVariable : Text := "DIAGRAM_AST_PRESERVE_MEMBER_CASE".toList

/-- The variable with the ending of the names that relations make. -/
def suffixVariable : Text := "DIAGRAM_AST_FK_SUFFIX".toList

/-- The variables that are looked at. -/
def variableNames : List Text :=
  [markerVariable, flushVariable, preserveCaseVariable, suffixVariable]

/-- The words that mean yes in a flag variable. -/
def affirmatives : List Text :=
  ["1".toList, "true".toList, "yes".toList, "on".toList]

/-- The value of a flag variable, if it has one. A stray byte is not white space, and it is in no
word that means yes. -/
def flag? (raw : RawText) : Option Bool :=
  match raw.text? with
  | none => some false
  | some text =>
      let word := Text.trim text
      if word = [] then none else some (affirmatives.contains (Text.lower word))

/-- The root keyword of a variable. An empty value counts as not set. -/
def markerOf (raw : RawText) : Checked Text :=
  let usual : Settings := {}
  if raw = [] then .ok usual.sectionMarker
  else
    match raw.text? with
    | some marker => .ok (normalizeMarker marker)
    | none => (Checked.fail .notUnicode).inside (.field "section_marker".toList)

/-- The settings that environment variables make, with a stand-in for every stray byte in the ending
of names. -/
def ofEnvironment (standIn : StandIn) (environment : Environment) : Checked Settings := do
  let usual : Settings := {}
  let flag (name : Text) (usual : Bool) : Bool :=
    ((environment.lookup name).bind flag?).getD usual
  let suffix : RawText :=
    (environment.lookup suffixVariable).getD (.ofText usual.foreignKeySuffix)
  let marker ← markerOf ((environment.lookup markerVariable).getD [])
  .ok
    { sectionMarker := marker
      flushUnterminated := flag flushVariable usual.flushUnterminated
      preserveMemberCase := flag preserveCaseVariable usual.preserveMemberCase
      foreignKeySuffix := suffix.fill standIn }

end ClassDiagram.Settings
