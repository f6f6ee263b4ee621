import ClassDiagram.Proofs.Text.Raw
import ClassDiagram.Settings.Storage

/-!
# Settings from the environment

An environment is refused exactly if the variable with the root keyword has a stray byte. Otherwise
there are settings, which differ with the stand-in in the ending of names at most, and exactly if the
variable with this ending has a stray byte.
-/

namespace ClassDiagram.Settings

/-- Whether the value of a variable has a stray byte. -/
def Environment.HasStray (environment : Environment) (name : Text) : Prop :=
  ∃ raw, environment.lookup name = some raw ∧ raw.text? = none

/-- The issue that there is with a stray byte in the root keyword. -/
def markerIssue : Issue :=
  ⟨.notUnicode, [.field "section_marker".toList]⟩

variable {environment : Environment} {settings other : Settings} {standIn another : StandIn}

theorem markerOf_of_text (marker : Text) :
    markerOf (.ofText marker)
      = .ok (if marker = [] then Line.defaultMarker else normalizeMarker marker) := by
  cases marker with
  | nil => rfl
  | cons c rest =>
      have something : RawText.ofText (c :: rest) ≠ [] := List.cons_ne_nil _ _
      rw [markerOf, if_neg something, RawText.text?_ofText, if_neg (List.cons_ne_nil _ _)]

theorem markerOf_of_stray {raw : RawText} (stray : raw.text? = none) :
    markerOf raw = .error [markerIssue] := by
  have something : raw ≠ [] := by
    rintro rfl
    cases stray
  rw [markerOf, if_neg something, stray]
  rfl

/-- A stray byte in the root keyword is refused. -/
theorem ofEnvironment_of_stray (stray : environment.HasStray markerVariable)
    (standIn : StandIn) : ofEnvironment standIn environment = .error [markerIssue] := by
  obtain ⟨raw, found, unread⟩ := stray
  rw [ofEnvironment, found, Option.getD_some, markerOf_of_stray unread]
  rfl

/-- Nothing else in an environment is refused. -/
theorem exists_ofEnvironment (plain : ¬ environment.HasStray markerVariable) :
    ∃ settings : StandIn → Settings,
      ∀ standIn, ofEnvironment standIn environment = .ok (settings standIn) := by
  have marker : ∃ marker, markerOf ((environment.lookup markerVariable).getD []) = .ok marker := by
    cases found : environment.lookup markerVariable with
    | none => exact ⟨_, rfl⟩
    | some raw =>
        cases read : raw.text? with
        | none => exact absurd ⟨raw, found, read⟩ plain
        | some text =>
            obtain rfl := RawText.text?_eq_some_iff.mp read
            exact ⟨_, markerOf_of_text text⟩
  obtain ⟨marker, kept⟩ := marker
  have each : ∀ standIn, ∃ settings, ofEnvironment standIn environment = .ok settings := by
    intro standIn
    rw [ofEnvironment, kept]
    exact ⟨_, rfl⟩
  exact Classical.skolem.mp each

/-- The settings of an environment that is not refused, each from its variable. -/
theorem ofEnvironment_eq_ok_iff :
    ofEnvironment standIn environment = .ok settings ↔
      markerOf ((environment.lookup markerVariable).getD []) = .ok settings.sectionMarker ∧
        ((environment.lookup flushVariable).bind flag?).getD false = settings.flushUnterminated ∧
        ((environment.lookup preserveCaseVariable).bind flag?).getD true
            = settings.preserveMemberCase ∧
        ((environment.lookup suffixVariable).getD (.ofText "_fk".toList)).fill standIn
            = settings.foreignKeySuffix := by
  obtain ⟨marker, flush, preserve, suffix⟩ := settings
  unfold ofEnvironment
  cases markerOf ((environment.lookup markerVariable).getD []) <;> simp [bind, Except.bind]

/-- Settings under two stand-ins differ in the ending of names at most. -/
theorem eq_of_ofEnvironment (made : ofEnvironment standIn environment = .ok settings)
    (made' : ofEnvironment another environment = .ok other) :
    other = { settings with foreignKeySuffix := other.foreignKeySuffix } := by
  obtain ⟨marker, flush, preserve, -⟩ := ofEnvironment_eq_ok_iff.mp made
  obtain ⟨marker', flush', preserve', -⟩ := ofEnvironment_eq_ok_iff.mp made'
  rw [marker] at marker'
  rw [← flush, ← preserve, flush', preserve', Except.ok.inj marker']

/-- The settings are the same for every stand-in if there is no stray byte in the ending of names. -/
theorem ofEnvironment_congr (plain : ¬ environment.HasStray suffixVariable)
    (standIn another : StandIn) :
    ofEnvironment standIn environment = ofEnvironment another environment := by
  have suffix : ∃ text, (environment.lookup suffixVariable).getD (.ofText "_fk".toList)
      = .ofText text := by
    cases found : environment.lookup suffixVariable with
    | none => exact ⟨_, rfl⟩
    | some raw =>
        cases read : raw.text? with
        | none => exact absurd ⟨raw, found, read⟩ plain
        | some text => exact ⟨text, RawText.text?_eq_some_iff.mp read⟩
  obtain ⟨text, same⟩ := suffix
  simp only [ofEnvironment, same, RawText.fill_ofText]

/-- The settings differ with the stand-in exactly if there is a stray byte in the ending of names. -/
theorem ne_iff_hasStray {settings : StandIn → Settings}
    (made : ∀ standIn, ofEnvironment standIn environment = .ok (settings standIn)) :
    settings .second ≠ settings .first ↔ environment.HasStray suffixVariable := by
  constructor
  · intro different
    by_cases stray : environment.HasStray suffixVariable
    · exact stray
    · have same := ofEnvironment_congr stray .second .first
      rw [made, made] at same
      exact absurd (Except.ok.inj same) different
  · rintro ⟨raw, found, stray⟩ same
    have filled : ∀ standIn, raw.fill standIn = (settings standIn).foreignKeySuffix := by
      intro standIn
      obtain ⟨-, -, -, suffix⟩ := ofEnvironment_eq_ok_iff.mp (made standIn)
      rwa [found, Option.getD_some] at suffix
    have plain : RawText.restore (fun standIn => raw.fill standIn) = .ofText (raw.fill .first) := by
      apply RawText.restore_of_same
      rw [filled, filled, same]
    rw [RawText.restore_fill] at plain
    rw [RawText.text?_eq_some_iff.mpr plain] at stray
    cases stray

end ClassDiagram.Settings
