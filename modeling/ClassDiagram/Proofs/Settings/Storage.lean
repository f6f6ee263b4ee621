import ClassDiagram.Proofs.Files.Diagrams
import ClassDiagram.Proofs.Files.Trees
import ClassDiagram.Proofs.Json.Layout
import ClassDiagram.Proofs.Schema.Records
import ClassDiagram.Proofs.Text.LowerCase
import ClassDiagram.Settings.Files

/-!
# Settings are read as they were saved

The root keyword is kept in a form that trimming and lowering do not change, so a keyword that was
saved is loaded as itself. Only one that white space alone was given for has nothing left to be
loaded: it is kept as the empty text, which is refused.
-/

namespace ClassDiagram.Settings

/-- The kept form of a root keyword is its own kept form. -/
theorem normalizeMarker_normalizeMarker (marker : Text) :
    normalizeMarker (normalizeMarker marker) = normalizeMarker marker := by
  have trimmed : Text.IsTrimmed (normalizeMarker marker) := (Text.isTrimmed_trim marker).lower
  rw [normalizeMarker, trimmed.trim_eq, normalizeMarker, Text.lower_lower]

/-- A root keyword is accepted exactly if it is a text with a character, and kept in its form. -/
theorem checkMarker_eq_ok_iff {value : Json} {kept : Text} :
    checkMarker value = .ok kept ↔
      ∃ marker, value = .string marker ∧ marker ≠ [] ∧ normalizeMarker marker = kept := by
  rw [checkMarker, Checked.bind_eq_ok_iff]
  refine exists_congr fun marker => ?_
  rw [Check.text_eq_ok_iff]
  refine and_congr_right fun _ => ?_
  by_cases empty : marker = []
  · simp [empty, Checked.fail]
  · simp [empty]

variable {settings : Settings}

/-- Settings come from an object, each of the four from its field. -/
theorem ofJson_eq_ok_iff {value : Json} :
    ofJson value = .ok settings ↔ ∃ fields, value = .object fields ∧
      Check.defaulted "section_marker".toList Line.defaultMarker checkMarker fields
          = .ok settings.sectionMarker ∧
      Check.defaulted "flush_unterminated_class".toList false Check.bool fields
          = .ok settings.flushUnterminated ∧
      Check.defaulted "preserve_member_case".toList true Check.bool fields
          = .ok settings.preserveMemberCase ∧
      Check.defaulted "foreign_key_suffix".toList "_fk".toList Check.text fields
          = .ok settings.foreignKeySuffix := by
  rw [ofJson, Checked.bind_eq_ok_iff]
  refine exists_congr fun fields => ?_
  rw [Check.fields_eq_ok_iff, Checked.bind_eq_ok_iff]
  refine and_congr_right fun _ => ?_
  constructor
  · rintro ⟨⟨marker, flush, preserve, suffix⟩, parts, same⟩
    obtain rfl := Except.ok.inj same
    rw [Checked.both_eq_ok_iff, Checked.both_eq_ok_iff, Checked.both_eq_ok_iff] at parts
    exact parts
  · intro parts
    refine ⟨(_, _, _, _), ?_, rfl⟩
    rw [Checked.both_eq_ok_iff, Checked.both_eq_ok_iff, Checked.both_eq_ok_iff]
    exact parts

/-- The root keyword of settings that were accepted is in the form in which it is kept. -/
theorem normalizeMarker_of_ofJson {value : Json} (accepted : ofJson value = .ok settings) :
    normalizeMarker settings.sectionMarker = settings.sectionMarker := by
  obtain ⟨fields, -, marker, -⟩ := ofJson_eq_ok_iff.mp accepted
  rcases Check.defaulted_eq_ok_iff.mp marker with ⟨given, -, checked⟩ | ⟨-, usual⟩
  · obtain ⟨text, -, -, kept⟩ := checkMarker_eq_ok_iff.mp checked
    rw [← kept, normalizeMarker_normalizeMarker]
  · rw [← usual]
    decide +kernel

/-- The object of the settings is accepted as them if their root keyword is kept and not empty. -/
theorem ofJson_toJson (kept : normalizeMarker settings.sectionMarker = settings.sectionMarker)
    (nonempty : settings.sectionMarker ≠ []) : ofJson settings.toJson = .ok settings := by
  have marker : checkMarker (.string settings.sectionMarker) = .ok settings.sectionMarker :=
    checkMarker_eq_ok_iff.mpr ⟨_, rfl, nonempty, kept⟩
  rw [ofJson_eq_ok_iff]
  exact ⟨_, rfl, Check.defaulted_eq_ok _ rfl marker, Check.defaulted_eq_ok _ rfl rfl,
    Check.defaulted_eq_ok _ rfl rfl, Check.defaulted_eq_ok _ rfl rfl⟩

/-- The object of settings with an empty root keyword is refused for that keyword alone. -/
theorem ofJson_toJson_of_empty (empty : settings.sectionMarker = []) :
    ofJson settings.toJson = .error [⟨.emptyText, [.field "section_marker".toList]⟩] := by
  obtain ⟨marker, flush, preserve, suffix⟩ := settings
  subst empty
  rfl

theorem fits_toJson (settings : Settings) : Json.Fits Json.maxDepth settings.toJson := by
  refine ⟨by simp, ?_⟩
  simp [Json.Fits]

/-- Settings that were saved are checked as the object that they were written as. -/
theorem load_save (settings : Settings) : load settings.save = ofJson settings.toJson := by
  rw [load, save, Json.read?_write settings.fits_toJson]

theorem load_eq_ok_iff {text : Text} :
    load text = .ok settings ↔
      ∃ value, Json.read? text = some value ∧ ofJson value = .ok settings := by
  unfold load
  cases Json.read? text <;> simp [Checked.fail]

variable {files after : FileTree} {path : Path}

/-- Settings come from a file that can be read and spells an object that is accepted. -/
theorem loadFrom_eq_ok_iff :
    loadFrom files path = .ok settings ↔
      ∃ text value, DiagramFile.readAny files path = .ok text ∧ Json.read? text = some value ∧
        ofJson value = .ok settings := by
  unfold loadFrom
  cases read : DiagramFile.readAny files path with
  | error e => simp
  | ok text =>
      simp only [Except.ok.injEq, exists_and_left, exists_eq_left', ← load_eq_ok_iff]
      cases load text <;> simp

/-- A file that settings were saved to has the text that was written. -/
theorem readAny_saveTo (saved : saveTo files path settings = .ok after) :
    DiagramFile.readAny after path = .ok settings.save := by
  obtain ⟨place, writes⟩ := FileTree.writesOnly_of_writeWithParents saved
  have unchanged : Text.normalizeNewlines settings.save = settings.save :=
    Text.normalizeNewlines_eq_self (Json.return_not_mem_write settings.fits_toJson)
  simp only [DiagramFile.readAny, writes.read_eq, DiagramFile.decodeText, Text.Utf8.decode_encode,
    unchanged]

/-- Settings that were accepted can be saved wherever a file can be written. The file is loaded as
the same settings; if their root keyword is empty it is refused for that. -/
theorem loadFrom_saveTo {value : Json} (accepted : ofJson value = .ok settings)
    (writable : files.IsWritable path) :
    ∃ after, saveTo files path settings = .ok after ∧
      (settings.sectionMarker ≠ [] → loadFrom after path = .ok settings) ∧
        (settings.sectionMarker = [] → loadFrom after path
          = .error (.invalid [⟨.emptyText, [.field "section_marker".toList]⟩])) := by
  obtain ⟨after, saved⟩ := writable.writeWithParents_eq_ok (Text.Utf8.encode settings.save)
  refine ⟨after, saved, fun nonempty => ?_, fun empty => ?_⟩
  · have loaded : load settings.save = .ok settings := by
      rw [load_save]
      exact ofJson_toJson (normalizeMarker_of_ofJson accepted) nonempty
    simp only [loadFrom, readAny_saveTo saved, loaded]
  · have refused : load settings.save
        = .error [⟨.emptyText, [.field "section_marker".toList]⟩] := by
      rw [load_save]
      exact ofJson_toJson_of_empty empty
    simp only [loadFrom, readAny_saveTo saved, refused]

/-- Settings as they are given: the root keyword has white space around it and ends in a capital
sigma, and the ending of names needs escapes and is longer in bytes than in characters. -/
def unkemptRecord : Json :=
  .object
    [("section_marker".toList, .string "\u2003ΟΔΟΣ\t".toList),
     ("foreign_key_suffix".toList, .string "\"\\\r\n\x01\u2028😀".toList)]

/-- The settings that the record gives. -/
def unkempt : Settings :=
  { sectionMarker := "οδος".toList, foreignKeySuffix := "\"\\\r\n\x01\u2028😀".toList }

theorem unkempt_is_loaded :
    ofJson unkemptRecord = .ok unkempt ∧
      ∃ after, saveTo ⟨[]⟩ (Path.ofText "conf/s.json".toList) unkempt = .ok after ∧
        loadFrom after (Path.ofText "conf/s.json".toList) = .ok unkempt := by
  have accepted : ofJson unkemptRecord = .ok unkempt := by decide +kernel
  have writable : FileTree.IsWritable ⟨[]⟩ (Path.ofText "conf/s.json".toList) :=
    ⟨[], _, rfl⟩
  obtain ⟨after, saved, loaded, -⟩ := loadFrom_saveTo accepted writable
  exact ⟨accepted, after, saved, loaded (by decide)⟩

end ClassDiagram.Settings
