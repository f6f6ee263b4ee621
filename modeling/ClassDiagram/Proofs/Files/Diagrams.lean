import ClassDiagram.DiagramFile
import ClassDiagram.Proofs.Files.Paths
import ClassDiagram.Proofs.Refusals
import ClassDiagram.Proofs.Text.Newlines
import ClassDiagram.Proofs.Text.Utf8

/-!
# Diagrams read from files

The classes of a diagram file are those of the text that its bytes encode, after its line endings
have been replaced. A file and its text differ in line endings only where a carriage return stands
without a line feed after it.
-/

namespace ClassDiagram

/-- The bytes of a file are read wherever a path leads to the file. -/
theorem FileTree.read_of_find? {tree : FileTree} {path : Path} {bytes : List UInt8}
    (found : tree.find? path = some (.file bytes)) : tree.read path = .ok bytes := by
  unfold find? at found
  unfold read
  cases resolved : tree.resolve path with
  | error fault => simp [resolved] at found
  | ok place =>
      simp only [resolved] at found
      simp [found]

namespace DiagramFile

variable {files : FileTree} {given : Text} {bytes : List UInt8}

/-- The classes of a file that is there: they come from its bytes, if its ending is accepted. -/
theorem parse_of_find? (settings : Settings)
    (found : files.find? (Path.ofText given) = some (.file bytes)) :
    parse settings files given
      = if suffixes.contains (Text.lower (Path.ofText given).suffix) then
          match Text.Utf8.decode bytes with
          | .error malformed => .error (.unread (.notUtf8 malformed))
          | .ok text =>
              (ClassDiagram.parse settings (Text.normalizeNewlines text)).mapError .unparsed
        else .error (.unread (.wrongSuffix (Path.ofText given).suffix)) := by
  simp only [parse, readText, found, Option.isNone_some, Bool.false_eq_true, if_false]
  cases suffixes.contains (Text.lower (Path.ofText given).suffix) with
  | false => rfl
  | true =>
      simp only [if_true, readAny, FileTree.read_of_find? found, decodeText]
      cases Text.Utf8.decode bytes with
      | error malformed => rfl
      | ok text =>
          dsimp only
          cases ClassDiagram.parse settings (Text.normalizeNewlines text) <;> rfl

/-- What keeps the bytes of a file from being a diagram: the ending of its name, bytes that are not
UTF-8, or a relation that is refused. -/
def IsRefused (settings : Settings) (given : Text) (bytes : List UInt8) : Prop :=
  suffixes.contains (Text.lower (Path.ofText given).suffix) = false ∨
    (∃ malformed, Text.Utf8.decode bytes = .error malformed) ∨
      ∃ text fault, Text.Utf8.decode bytes = .ok text ∧
        ClassDiagram.parse settings (Text.normalizeNewlines text) = .error (.refused fault)

/-- Settings with one root keyword refuse the same bytes. -/
theorem isRefused_congr {settings other : Settings}
    (marker : other.sectionMarker = settings.sectionMarker) :
    IsRefused other given bytes ↔ IsRefused settings given bytes := by
  simp only [IsRefused, parse_eq_error_congr marker]

/-- No other error comes out of a file that is there. -/
inductive Error.IsRefusal : Error → Prop where
  | wrongSuffix (suffix : Text) : IsRefusal (.unread (.wrongSuffix suffix))
  | notUtf8 (malformed : Text.Utf8.Malformed) : IsRefusal (.unread (.notUtf8 malformed))
  | refused (fault : LineFault) : IsRefusal (.unparsed (.refused fault))

/-- A file that is there has classes, or is refused. -/
theorem parse_or_isRefused (settings : Settings)
    (found : files.find? (Path.ofText given) = some (.file bytes)) :
    (¬ IsRefused settings given bytes ∧ ∃ classes, parse settings files given = .ok classes) ∨
      (IsRefused settings given bytes ∧
        ∃ e, parse settings files given = .error e ∧ e.IsRefusal) := by
  rw [parse_of_find? settings found]
  unfold IsRefused
  cases suffixes.contains (Text.lower (Path.ofText given).suffix) with
  | false => exact Or.inr ⟨Or.inl rfl, _, rfl, .wrongSuffix _⟩
  | true =>
      cases Text.Utf8.decode bytes with
      | error malformed => exact Or.inr ⟨Or.inr (Or.inl ⟨_, rfl⟩), _, rfl, .notUtf8 malformed⟩
      | ok text =>
          cases parsed : ClassDiagram.parse settings (Text.normalizeNewlines text) with
          | ok classes =>
              refine Or.inl ⟨?_, classes, by simp [parsed, Except.mapError]⟩
              rintro (suffix | ⟨_, undecoded⟩ | ⟨_, _, decoded, refused⟩)
              · cases suffix
              · cases undecoded
              · cases decoded
                rw [parsed] at refused
                cases refused
          | error e =>
              obtain ⟨_, _, _, fault, _, _, _, rfl⟩ := parse_eq_error_iff.mp parsed
              exact Or.inr ⟨Or.inr (Or.inr ⟨text, fault, rfl, parsed⟩), .unparsed (.refused fault),
                by simp [parsed, Except.mapError], .refused fault⟩

/-- The classes of a file that is there are those of the text in its bytes. -/
theorem exists_text_of_parse {settings : Settings} {classes : ClassMap}
    (found : files.find? (Path.ofText given) = some (.file bytes))
    (parsed : parse settings files given = .ok classes) :
    ∃ text, Text.Utf8.decode bytes = .ok text ∧
      ClassDiagram.parse settings (Text.normalizeNewlines text) = .ok classes := by
  rw [parse_of_find? settings found] at parsed
  split at parsed
  · cases decoded : Text.Utf8.decode bytes with
    | error malformed =>
        rw [decoded] at parsed
        cases parsed
    | ok text =>
        rw [decoded] at parsed
        cases read : ClassDiagram.parse settings (Text.normalizeNewlines text) with
        | error e => simp [read, Except.mapError] at parsed
        | ok found => exact ⟨text, rfl, by simpa [read, Except.mapError] using parsed⟩
  · cases parsed

/-- A file that is there is read alike under the spelling of its path. -/
theorem parse_toText (settings : Settings)
    (found : files.find? (Path.ofText given) = some (.file bytes)) :
    parse settings files (Path.ofText given).toText = parse settings files given := by
  have same : Path.ofText (Path.ofText given).toText = Path.ofText given :=
    (Path.isSpelled_ofText given).ofText_toText
  have spelled : files.find? (Path.ofText (Path.ofText given).toText) = some (.file bytes) := by
    rw [same, found]
  rw [parse_of_find? settings found, parse_of_find? settings spelled, same]

/-- A diagram that stands encoded in a file is read, or refused, as the text with a line feed for
every line ending. If every carriage return of the text stands before a line feed, it is read or
refused as the text itself. -/
theorem parse_of_encode {text : Text}
    (found : files.find? (Path.ofText given) = some (.file (Text.Utf8.encode text)))
    (suffix : suffixes.contains (Text.lower (Path.ofText given).suffix) = true)
    (settings : Settings) :
    parse settings files given
        = (ClassDiagram.parse settings (Text.feedReturns (Text.joinEndings text))).mapError
            .unparsed ∧
      (Text.ReturnsArePaired text →
        parse settings files given
          = (ClassDiagram.parse settings text).mapError .unparsed) := by
  have read : parse settings files given
      = (ClassDiagram.parse settings (Text.normalizeNewlines text)).mapError .unparsed := by
    rw [parse_of_find? settings found, if_pos suffix, Text.Utf8.decode_encode]
  refine ⟨?_, fun paired => ?_⟩
  · rw [read, Text.normalizeNewlines_eq]
  · rw [read, parse_congr (documentLines_normalizeNewlines paired)]

/-- A diagram with carriage returns before line feeds, and a relation that is refused. -/
def returnsText : Text :=
  "class A \x7b\r\n\x7d\r\nA \"1\" -- \"2\" B\r\n".toList

/-- A tree with that diagram in a file. -/
def returnsTree : FileTree :=
  ⟨[(Path.ofText "a.MD".toList, .file (Text.Utf8.encode returnsText))]⟩

theorem parse_of_encode_returns :
    returnsTree.find? (Path.ofText "a.MD".toList)
        = some (.file (Text.Utf8.encode returnsText)) ∧
      suffixes.contains (Text.lower (Path.ofText "a.MD".toList).suffix) = true ∧
        parse {} returnsTree "a.MD".toList
            = (ClassDiagram.parse {} (Text.feedReturns (Text.joinEndings returnsText))).mapError
                .unparsed ∧
          (Text.ReturnsArePaired returnsText →
            parse {} returnsTree "a.MD".toList
              = (ClassDiagram.parse {} returnsText).mapError .unparsed) :=
  have found : returnsTree.find? (Path.ofText "a.MD".toList)
      = some (.file (Text.Utf8.encode returnsText)) := by decide +kernel
  have suffix : suffixes.contains (Text.lower (Path.ofText "a.MD".toList).suffix) = true := by
    decide +kernel
  ⟨found, suffix, parse_of_encode found suffix {}⟩

end DiagramFile

end ClassDiagram
