import ClassDiagram.Proofs.Steps

/-!
# Reading with one class that is written over in place

A second layout of a builder: a class that is always there and that headers and members write to, a
flag that tells whether it is open, and the kept copy beside them. The layout by itself does not
keep members or a copy away from a builder that has no class open. Every operation does to this
layout what it does to a builder, so the two agree along every reading.
-/

namespace ClassDiagram

/-- The parts of a builder side by side. -/
structure Workbench where
  classes : ClassMap
  relations : List Relation
  isOpen : Bool
  current : Class
  saved : Option Saved
  deriving DecidableEq

namespace Workbench

/-- The workbench that has read nothing. -/
def start : Workbench :=
  ⟨.empty, [], false, Class.blank, none⟩

/-- A known class takes the place of the current one, which otherwise gets the name. -/
def openName (w : Workbench) (name : Text) : Workbench :=
  match w.classes.get? name with
  | some c => { w with classes := w.classes.erase name, current := c, saved := some (.copy c) }
  | none => { w with current := { w.current with name := name } }

/-- Adds the member that a text declares to the current class, open or not. -/
def collect (settings : Settings) (segment : Text) (w : Workbench) : Workbench :=
  match Line.member? segment with
  | some member => { w with current := w.current.declare settings member }
  | none => w

/-- Opens the classes that a header names and reads the body on the same line. -/
def openHeader (settings : Settings) (line : Text) (w : Workbench) : Workbench :=
  collect settings (Line.splitHeader line).2
    { (Line.classNames line).foldl openName w with isOpen := true }

/-- Files the current class if it is open and has a name. In any case it is blank afterwards. -/
def close (w : Workbench) : Workbench :=
  { w with
    classes := if w.isOpen = true ∧ w.current.name ≠ [] then
        w.classes.insert w.current.name w.current
      else w.classes
    isOpen := false
    current := Class.blank
    saved := none }

/-- The effect of a line on the current class. -/
def feedClass (settings : Settings) (line : Text) (w : Workbench) : Workbench :=
  match Line.classify settings.sectionMarker line with
  | .sectionMarker => w
  | .classClose =>
      let head := Line.beforeClose line
      (if Line.isClassOpen head then openHeader settings head w
        else if w.isOpen then collect settings head w else w).close
  | .classOpen => openHeader settings line w
  | .other => if w.isOpen then collect settings line w else w

/-- What relations and kept copies work on: the classes and relations alone. -/
def filed (w : Workbench) : Builder :=
  ⟨w.classes, w.relations, none⟩

/-- Reads a line, and tells the error that it raised if there was one. -/
def feed (settings : Settings) (number : Option Int) (line : Text) (w : Workbench) :
    Workbench × Option DiagramError :=
  if Line.isSectionMarker settings.sectionMarker line then (w, none)
  else
    let fed := feedClass settings line w
    let outcome := Builder.feedRelation settings number line fed.filed
    ({ fed with classes := outcome.builder.classes, relations := outcome.builder.relations },
      outcome.error)

/-- The end of input. -/
def finish (settings : Settings) (w : Workbench) : Workbench :=
  if w.isOpen then
    if settings.flushUnterminated then w.close
    else
      match w.saved with
      | none => w
      | some saved =>
          let (classes, kept) := w.filed.restore saved
          { w with classes := classes, saved := some kept }
  else w

/-- Reads lines numbered from `number` on, up to the first one that raises an error. -/
def feedLines (settings : Settings) (number : Int) :
    List Text → Workbench → Workbench × Option DiagramError
  | [], w => (w, none)
  | line :: rest, w =>
      match feed settings (some number) line w with
      | (fed, some e) => (fed, some e)
      | (fed, none) => feedLines settings (number + 1) rest fed

/-- Reads a text to its end, unless a line raises an error. -/
def readText (settings : Settings) (text : Text) (w : Workbench) :
    Workbench × Option DiagramError :=
  match feedLines settings 1 (documentLines text) w with
  | (fed, some e) => (fed, some e)
  | (fed, none) => (finish settings fed, none)

/-- A builder laid out on a workbench; without an open class the current one is blank. -/
def ofBuilder (b : Builder) : Workbench :=
  ⟨b.classes, b.relations, b.opened.isSome, b.openClass, b.opened.bind OpenClass.saved⟩

variable {settings : Settings} {b : Builder}

/-- Names are opened without a look at whether a class is open. -/
theorem openName_isOpen (w : Workbench) (isOpen : Bool) (name : Text) :
    openName { w with isOpen := isOpen } name = { openName w name with isOpen := isOpen } := by
  unfold openName
  dsimp only
  split <;> rfl

theorem openName_ofBuilder (name : Text) :
    { (ofBuilder b).openName name with isOpen := true } = ofBuilder (b.openName name) := by
  obtain ⟨classes, relations, opened⟩ := b
  simp only [openName, ofBuilder, Builder.openName]
  cases OrderedMap.get? classes name with
  | some c => rfl
  | none => cases opened <;> rfl

theorem foldl_openName_isOpen (names : List Text) (w : Workbench) (isOpen : Bool) :
    names.foldl openName { w with isOpen := isOpen }
      = { names.foldl openName w with isOpen := isOpen } := by
  induction names generalizing w with
  | nil => rfl
  | cons name rest ih => rw [List.foldl_cons, openName_isOpen, ih, List.foldl_cons]

/-- After the names of a header some class is open, and it is the current one. -/
theorem foldl_openName_ofBuilder (settings : Settings) (names : List Text) :
    { names.foldl openName (ofBuilder b) with isOpen := true }
      = ofBuilder (Builder.step settings (names.foldl Builder.openName b) .ready) := by
  induction names generalizing b with
  | nil => obtain ⟨classes, relations, _ | o⟩ := b <;> rfl
  | cons name rest ih =>
      calc { (name :: rest).foldl openName (ofBuilder b) with isOpen := true }
          = { rest.foldl openName { (ofBuilder b).openName name with isOpen := true } with
              isOpen := true } := by
            rw [foldl_openName_isOpen rest ((ofBuilder b).openName name) true]
            rfl
        _ = { rest.foldl openName (ofBuilder (b.openName name)) with isOpen := true } := by
              rw [openName_ofBuilder]
        _ = _ := ih

/-- While a class is open, members go to it. -/
theorem collect_ofBuilder {o : OpenClass} (opened : b.opened = some o) (segment : Text) :
    collect settings segment (ofBuilder b) = ofBuilder (Builder.collect settings segment b) := by
  obtain ⟨classes, relations, _⟩ := b
  cases opened
  rw [Builder.collect_eq_run, collect]
  cases Line.member? segment <;> rfl

/-- While no class is open, members are not read. -/
theorem collect_ofBuilder_of_isOpen (segment : Text) :
    (if (ofBuilder b).isOpen then collect settings segment (ofBuilder b) else ofBuilder b)
      = ofBuilder (Builder.collect settings segment b) := by
  cases opened : b.opened with
  | none => simp [ofBuilder, Builder.collect, opened]
  | some o =>
      rw [← collect_ofBuilder opened]
      simp [ofBuilder, opened]

theorem openHeader_ofBuilder (line : Text) :
    openHeader settings line (ofBuilder b) = ofBuilder (Builder.openHeader settings line b) := by
  unfold openHeader
  rw [foldl_openName_ofBuilder settings, collect_ofBuilder rfl]
  rfl

theorem close_ofBuilder : (ofBuilder b).close = ofBuilder b.close := by
  obtain ⟨classes, relations, _ | o⟩ := b
  · rfl
  · by_cases unnamed : o.current.name = []
    · simp [ofBuilder, close, Builder.close, Builder.openClass, unnamed]
    · simp [ofBuilder, close, Builder.close, Builder.openClass, unnamed]

theorem feedClass_ofBuilder (line : Text) :
    feedClass settings line (ofBuilder b) = ofBuilder (Builder.feedClass settings line b) := by
  unfold feedClass Builder.feedClass
  cases Line.classify settings.sectionMarker line with
  | sectionMarker => rfl
  | classClose =>
      rw [← close_ofBuilder]
      dsimp only
      rw [openHeader_ofBuilder, collect_ofBuilder_of_isOpen]
      by_cases opens : Line.isClassOpen (Line.beforeClose line) = true
      · rw [if_pos opens]
        exact congrArg close (congrArg ofBuilder (if_pos opens).symm)
      · rw [if_neg opens]
        exact congrArg close (congrArg ofBuilder (if_neg opens).symm)
  | classOpen => exact openHeader_ofBuilder line
  | other => exact collect_ofBuilder_of_isOpen line

/-- A relation is read and applied without a look at what is open. -/
theorem feedRelation_opened (number : Option Int) (line : Text) :
    Builder.feedRelation settings number line b
      = let outcome := Builder.feedRelation settings number line { b with opened := none }
        ⟨{ outcome.builder with opened := b.opened }, outcome.error⟩ := by
  unfold Builder.feedRelation
  split
  · split
    · rfl
    · dsimp only
      split <;> rfl
  · rfl

theorem feed_ofBuilder (number : Option Int) (line : Text) :
    feed settings number line (ofBuilder b)
      = (ofBuilder (b.feed settings number line).builder, (b.feed settings number line).error) := by
  unfold feed Builder.feed
  split
  · rfl
  · rw [feedClass_ofBuilder, feedRelation_opened]
    rfl

/-- The end of input puts back what is kept, and what is open stays as it is. -/
theorem finish_ofBuilder : finish settings (ofBuilder b) = ofBuilder (b.finish settings) := by
  obtain ⟨classes, relations, _ | ⟨current, saved⟩⟩ := b
  · rfl
  · by_cases flush : settings.flushUnterminated = true
    · simp only [finish, Builder.finish, flush, if_true]
      exact close_ofBuilder
    · cases saved with
      | none => simp [finish, Builder.finish, flush, ofBuilder, Builder.openClass]
      | some kept =>
          cases kept <;>
            simp [finish, Builder.finish, flush, ofBuilder, Builder.openClass, filed,
              Builder.restore]

theorem feedLines_ofBuilder (number : Int) (lines : List Text) :
    feedLines settings number lines (ofBuilder b)
      = (ofBuilder (b.feedLines settings number lines).builder,
          (b.feedLines settings number lines).error) := by
  induction lines generalizing number b with
  | nil => rfl
  | cons line rest ih =>
      rw [feedLines, Builder.feedLines, feed_ofBuilder]
      cases error : (b.feed settings (some number) line).error with
      | some e => simp only [error]
      | none => exact ih (number + 1)

/-- A text leaves the two layouts in agreement, whether it is refused or not. -/
theorem readText_ofBuilder (text : Text) :
    readText settings text (ofBuilder b)
      = (ofBuilder (b.readText settings text).builder, (b.readText settings text).error) := by
  unfold readText Builder.readText
  rw [feedLines_ofBuilder]
  cases error : (b.feedLines settings 1 (documentLines text)).error with
  | some e => simp only [error]
  | none => simp only [error, finish_ofBuilder]

end Workbench

end ClassDiagram
