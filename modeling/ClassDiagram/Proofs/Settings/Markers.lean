import ClassDiagram.Proofs.Settings.Environment
import ClassDiagram.Proofs.Settings.Storage
import ClassDiagram.Proofs.Steps
import ClassDiagram.Proofs.Text.Trim

/-!
# When the root keyword is found

A line with nothing but the root keyword and white space is skipped, if the keyword in the form in
which it is kept begins and ends with a word character. Otherwise the keyword is never found in such
a line: a whole word ends where a word character ends, and a keyword of white space is kept as the
empty text.
-/

namespace ClassDiagram

/-- Whether a text has a word character at either end. -/
structure Text.HasWordEdges (text : Text) : Prop where
  first : Text.inWord text.head? = true
  last : Text.inWord text.getLast? = true

theorem Text.HasWordEdges.ne_nil {text : Text} (edges : text.HasWordEdges) : text ≠ [] := by
  rintro rfl
  exact Bool.noConfusion edges.first

namespace Line

variable {marker kept before after : Text}

/-- A root keyword stands whole among white space exactly if its kept form has word characters at
its ends. -/
theorem isSectionMarker_of_blanks (front : Text.IsBlanks before) (back : Text.IsBlanks after) :
    isSectionMarker (Settings.normalizeMarker marker) (before ++ marker ++ after) = true ↔
      (Settings.normalizeMarker marker).HasWordEdges := by
  obtain ⟨indent, rest, whole, blankIndent, blankRest⟩ := Text.exists_trim_append marker
  have line : before ++ marker ++ after
      = (before ++ indent) ++ (Text.trim marker ++ (rest ++ after)) := by
    calc before ++ marker ++ after
        = before ++ (indent ++ (Text.trim marker ++ rest)) ++ after := by rw [← whole]
      _ = (before ++ indent) ++ (Text.trim marker ++ (rest ++ after)) := by
          simp only [List.append_assoc]
  -- White space has no case and no word characters, so it is put aside on both sides.
  have start := Text.isBlanks_append front blankIndent
  have ending := Text.isBlanks_append blankRest back
  rw [isSectionMarker, line,
    Text.lower_append_left fun c member => Text.isCaseless_of_isBlank (start c member),
    Text.lower_append_right fun c member => Text.isCaseless_of_isBlank (ending c member),
    Text.containsWhole_append_left fun c member => Text.not_word_of_isBlank (start c member),
    Text.containsWhole_append_right fun c member => Text.not_word_of_isBlank (ending c member),
    Settings.normalizeMarker, Text.lower_lower, Text.containsWhole_self_iff]
  constructor
  · rintro ⟨first, last⟩
    exact ⟨first, last⟩
  · rintro ⟨first, last⟩
    exact ⟨first, last⟩

end Line

namespace Settings

/-- How settings come to have a root keyword: a record has it, a file has such a record, or the
environment has it. -/
inductive TakesMarker (marker : Text) : Settings → Prop where
  | record (fields : List (Text × Json))
      (stated : fields.lookup "section_marker".toList = some (.string marker))
      {settings : Settings} (accepted : ofJson (.object fields) = .ok settings) :
      TakesMarker marker settings
  | file (files : FileTree) (path : Path) (text : Text) (fields : List (Text × Json))
      (read : DiagramFile.readAny files path = .ok text)
      (spelled : Json.read? text = some (.object fields))
      (stated : fields.lookup "section_marker".toList = some (.string marker))
      {settings : Settings} (accepted : loadFrom files path = .ok settings) :
      TakesMarker marker settings
  | environment (environment : Environment)
      (set : environment.lookup markerVariable = some (.ofText marker)) (nonempty : marker ≠ [])
      {standIn : StandIn} {settings : Settings}
      (accepted : ofEnvironment standIn environment = .ok settings) :
      TakesMarker marker settings

variable {settings : Settings} {marker : Text}

theorem sectionMarker_of_ofJson {fields : List (Text × Json)}
    (stated : fields.lookup "section_marker".toList = some (.string marker))
    (accepted : ofJson (.object fields) = .ok settings) :
    settings.sectionMarker = normalizeMarker marker := by
  obtain ⟨same, whole, checked, -⟩ := ofJson_eq_ok_iff.mp accepted
  obtain rfl := Json.object.inj whole
  rcases Check.defaulted_eq_ok_iff.mp checked with ⟨value, found, valid⟩ | ⟨missing, -⟩
  · obtain ⟨text, rfl, -, kept⟩ := checkMarker_eq_ok_iff.mp valid
    rw [stated] at found
    cases found
    exact kept.symm
  · rw [stated] at missing
    cases missing

/-- Settings keep the trimmed root keyword in lower case, whichever way they were made. -/
theorem TakesMarker.sectionMarker_eq (takes : TakesMarker marker settings) :
    settings.sectionMarker = normalizeMarker marker := by
  cases takes with
  | record fields stated accepted => exact sectionMarker_of_ofJson stated accepted
  | file files path text fields read spelled stated accepted =>
      obtain ⟨same, value, readSame, spelledSame, given⟩ := loadFrom_eq_ok_iff.mp accepted
      rw [read] at readSame
      obtain rfl := Except.ok.inj readSame
      rw [spelled] at spelledSame
      obtain rfl := Option.some.inj spelledSame
      exact sectionMarker_of_ofJson stated given
  | environment environment set nonempty accepted =>
      obtain ⟨kept, -⟩ := ofEnvironment_eq_ok_iff.mp accepted
      rw [set, Option.getD_some, markerOf_of_text, if_neg nonempty] at kept
      exact (Except.ok.inj kept).symm

/-- A line with nothing but the root keyword and white space is skipped, whatever state the builder
is in, exactly if the kept form of the keyword has word characters at its ends. Otherwise no such
line is taken for one with the root keyword. -/
theorem marker_lines_are_skipped_iff (takes : TakesMarker marker settings) :
    ((settings.sectionMarker ≠ [] ∧
        ∀ before after, Text.IsBlanks before → Text.IsBlanks after →
          Line.classify settings.sectionMarker (before ++ marker ++ after) = .sectionMarker ∧
            ∀ number b, Builder.feed settings number (before ++ marker ++ after) b = ⟨b, none⟩) ↔
      settings.sectionMarker.HasWordEdges) ∧
    (¬ settings.sectionMarker.HasWordEdges →
      ∀ before after, Text.IsBlanks before → Text.IsBlanks after →
        Line.classify settings.sectionMarker (before ++ marker ++ after) ≠ .sectionMarker) := by
  have found : ∀ before after, Text.IsBlanks before → Text.IsBlanks after →
      (Line.isSectionMarker settings.sectionMarker (before ++ marker ++ after) = true ↔
        settings.sectionMarker.HasWordEdges) := by
    intro before after front back
    rw [takes.sectionMarker_eq]
    exact Line.isSectionMarker_of_blanks front back
  constructor
  · constructor
    · rintro ⟨-, skipped⟩
      have bare := (skipped [] [] (List.forall_mem_nil _) (List.forall_mem_nil _)).1
      rw [Line.classify_eq_sectionMarker_iff] at bare
      exact (found [] [] (List.forall_mem_nil _) (List.forall_mem_nil _)).mp bare
    · intro edges
      refine ⟨edges.ne_nil, fun before after front back => ?_⟩
      have here := (found before after front back).mpr edges
      refine ⟨Line.classify_eq_sectionMarker_iff.mpr here, fun number b => ?_⟩
      rw [Builder.feed, if_pos here]
  · intro bare before after front back kind
    rw [Line.classify_eq_sectionMarker_iff, found before after front back] at kind
    exact bare kind

/-- A root keyword with white space around it that ends in a capital sigma. -/
def paddedMarker : Text := "\u00A0É-ΟΔΟΣ ".toList

/-- The record of settings that has this keyword. -/
def paddedRecord : List (Text × Json) := [("section_marker".toList, .string paddedMarker)]

theorem padded_marker_is_skipped :
    TakesMarker paddedMarker { sectionMarker := "é-οδος".toList } ∧
      Line.classify "é-οδος".toList ("\t".toList ++ paddedMarker ++ "\r".toList)
        = .sectionMarker := by
  have takes : TakesMarker paddedMarker { sectionMarker := "é-οδος".toList } :=
    .record paddedRecord rfl (by decide +kernel)
  have edges : Text.HasWordEdges "é-οδος".toList := ⟨by decide +kernel, by decide +kernel⟩
  obtain ⟨-, skipped⟩ := (marker_lines_are_skipped_iff takes).1.mpr edges
  have front : Text.IsBlanks "\t".toList := List.all_eq_true.mp rfl
  have back : Text.IsBlanks "\r".toList := List.all_eq_true.mp rfl
  exact ⟨takes, (skipped _ _ front back).1⟩

/-- A root keyword may end in a colon; then its own line opens a class. One of white space is kept
as the empty text. -/
theorem marker_with_colon_opens_class :
    TakesMarker "class-diagram:".toList { sectionMarker := "class-diagram:".toList } ∧
      Line.classify "class-diagram:".toList "class-diagram:".toList = .classOpen ∧
      (Builder.feed { sectionMarker := "class-diagram:".toList } none "class-diagram:".toList
        .start).builder.opened = some .blank ∧
      TakesMarker " ".toList { sectionMarker := [] } := by
  refine ⟨.record [("section_marker".toList, .string "class-diagram:".toList)] rfl ?_, ?_, ?_,
    .record [("section_marker".toList, .string " ".toList)] rfl ?_⟩ <;> decide +kernel

end Settings

end ClassDiagram
