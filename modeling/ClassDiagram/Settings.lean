import ClassDiagram.Line

/-!
# Settings

Four settings decide how a diagram is read: the root keyword, what happens to a class that is still
open at the end, whether names of members keep their case, and the ending of the names that
relations make.
-/

namespace ClassDiagram

/-- How diagrams are read. -/
structure Settings where
  /-- Lines that hold this word are skipped. -/
  sectionMarker : Text := Line.defaultMarker
  /-- Keep a class that is still open at the end of the input. -/
  flushUnterminated : Bool := false
  /-- Keep names of members as they are written; otherwise they are lowered. -/
  preserveMemberCase : Bool := true
  /-- The ending of the names of attributes that relations add. -/
  foreignKeySuffix : Text := "_fk".toList
  deriving DecidableEq, Repr

namespace Settings

instance : Inhabited Settings := ⟨{}⟩

/-- The form in which the root keyword is kept: trimmed and in lower case. -/
def normalizeMarker (marker : Text) : Text :=
  Text.lower (Text.trim marker)

/-- The name of a member as the settings have it. -/
def memberName (settings : Settings) (name : Text) : Text :=
  if settings.preserveMemberCase then name else Text.lower name

end Settings

end ClassDiagram
