import ClassDiagram.CommandLine.Run
import ClassDiagram.Proofs.CommandLine.Arguments
import ClassDiagram.Proofs.Console.Warnings
import ClassDiagram.Proofs.Files.Diagrams
import ClassDiagram.Proofs.Files.Paths
import ClassDiagram.Proofs.Files.Trees
import ClassDiagram.Proofs.Schema.Records
import ClassDiagram.Proofs.Settings.Environment
import ClassDiagram.Proofs.Text.Brackets

/-!
# Runs that show classes as JSON

A run on a diagram that is there either says why the diagram is refused and leaves every file as it
is, or shows all of its classes. In a file they can be read back; on the console a warning stands
before the JSON text if there are no classes. Only stray bytes in the environment can keep a run from
it: in the root keyword they are refused before the diagram is read, and when they come into the
names of attributes the file is left empty.
-/

namespace ClassDiagram

namespace CommandLine

/-- The settings of a run: those of the environment, with what the flags say. -/
def flagSettings (settings : Settings) (flags : List Text) : Settings :=
  { settings with
    flushUnterminated := flags.contains flushFlag || settings.flushUnterminated
    preserveMemberCase := !flags.contains lowercaseFlag && settings.preserveMemberCase }

/-- Whether a name is no option on the command line and holds no style tag. -/
structure IsPlain (name : Text) : Prop where
  bare : name.head? ≠ some '-'
  untagged : '[' ∉ name

namespace Result

/-- Whether a run gave up: it exited with 1 and left every file as it was. -/
structure GaveUp (before : FileTree) (result : Result) : Prop where
  exited : result.ending = .exited 1
  kept : result.files = before

/-- Whether a run put classes into a file: it exited with 0 and changed no other file, and all the
classes can be read back from this one in their order. -/
structure Exported (before : FileTree) (output : Text) (classes : ClassMap) (result : Result) :
    Prop where
  exited : result.ending = .exited 0
  only : ∃ place bytes, before.WritesOnly result.files (Path.ofText output) place bytes
  readBack : ∃ bytes text, result.files.read (Path.ofText output) = .ok bytes ∧
    Text.Utf8.decode bytes = .ok text ∧ ClassMap.ofText? text = some classes.entries

/-- Whether a run left a file empty: it ended with text that is not encoded, and changed no other
file. -/
structure Emptied (before : FileTree) (output : Text) (result : Result) : Prop where
  failed : ∃ e, result.ending = .failed (.unencodable e)
  only : ∃ place, before.WritesOnly result.files (Path.ofText output) place []

end Result

section Runs

variable {options : Options} {environment : Settings.Environment} {files : FileTree}
  {bytes : List UInt8} {settings : StandIn → Settings} {classes : StandIn → ClassMap}
  {e : DiagramFile.Error}

/-- There are words for every refusal of a file that is there. -/
theorem explain_of_isRefusal (refusal : e.IsRefusal) : ∃ words, explain e = .ok words := by
  cases refusal <;> exact ⟨_, rfl⟩

/-- Without a file for them, the settings are those of the environment. -/
theorem baseSettings_of_unconfigured (unconfigured : options.config = none) (standIn : StandIn) :
    baseSettings standIn options environment files
      = (Settings.ofEnvironment standIn environment).mapError .badSettings := by
  simp only [baseSettings, unconfigured, Option.getD_none]

theorem both_baseSettings (unconfigured : options.config = none)
    (made : ∀ standIn, Settings.ofEnvironment standIn environment = .ok (settings standIn)) :
    (StandIn.both fun standIn => baseSettings standIn options environment files)
      = .ok settings := by
  rw [StandIn.both_eq_ok_iff]
  intro standIn
  rw [baseSettings_of_unconfigured unconfigured, made]
  rfl

/-- A stray byte in the root keyword ends a run before the diagram is read. -/
theorem runWith_of_stray (unconfigured : options.config = none)
    (found : files.find? (Path.ofText options.diagram) = some (.file bytes))
    (stray : environment.HasStray Settings.markerVariable) :
    runWith options environment files
      = .quiet (.failed (.badSettings [Settings.markerIssue])) files := by
  have refused : (StandIn.both fun standIn => baseSettings standIn options environment files)
      = .error (.badSettings [Settings.markerIssue]) := by
    apply StandIn.both_of_first_error
    rw [baseSettings_of_unconfigured unconfigured, Settings.ofEnvironment_of_stray stray]
    rfl
  simp only [runWith, found, Option.isNone_some, Bool.false_eq_true, if_false, refused]

/-- A diagram that is there and is refused is explained, and nothing else is done. -/
theorem runWith_of_error (unconfigured : options.config = none)
    (made : ∀ standIn, Settings.ofEnvironment standIn environment = .ok (settings standIn))
    (found : files.find? (Path.ofText options.diagram) = some (.file bytes))
    (refused : DiagramFile.parse (withFlags options (settings .first)) files options.diagram
      = .error e) {words : Text} (explained : explain e = .ok words) :
    runWith options environment files
      = giveUp (printMessage .error ("Error: ".toList ++ Markup.escape words)) files := by
  rw [← DiagramFile.parse_toText _ found] at refused
  have both := StandIn.both_of_first_error (f := fun standIn =>
    DiagramFile.parse (withFlags options (settings standIn)) files
      (Path.ofText options.diagram).toText) refused
  simp only [runWith, found, Option.isNone_some, Bool.false_eq_true, if_false,
    both_baseSettings unconfigured made, both, explained]

/-- The classes of a diagram that is there are shown, after a warning if there are none. -/
theorem runWith_of_ok (unconfigured : options.config = none)
    (made : ∀ standIn, Settings.ofEnvironment standIn environment = .ok (settings standIn))
    (found : files.find? (Path.ofText options.diagram) = some (.file bytes))
    (parsed : ∀ standIn, DiagramFile.parse (withFlags options (settings standIn)) files
      options.diagram = .ok (classes standIn)) :
    runWith options environment files
      = .afterPrint (warnIfEmpty (Path.ofText options.diagram) (classes .first)) files
          (showClasses options (Path.ofText options.diagram) classes files) := by
  have both : (StandIn.both fun standIn => DiagramFile.parse
      (withFlags options (settings standIn)) files (Path.ofText options.diagram).toText)
        = .ok classes := by
    rw [StandIn.both_eq_ok_iff]
    intro standIn
    rw [DiagramFile.parse_toText _ found, parsed]
  simp only [runWith, found, Option.isNone_some, Bool.false_eq_true, if_false,
    both_baseSettings unconfigured made, both]

/-- What is printed without a refusal goes before what a run prints further on. -/
theorem afterPrint_of_lines (lines : List Text) (files : FileTree) (next : Result) :
    Result.afterPrint (.ofPrints [.ok lines]) files next
      = { next with stdout := lines.flatMap (· ++ ['\n']) ++ next.stdout } := by
  simp [Result.afterPrint, Printed.ofPrints, Printed.nothing]

/-- A text without stray bytes is put on the console. -/
theorem afterText_of_plain {texts : StandIn → Text}
    (plain : ∃ text, RawText.restore texts = .ofText text) (files : FileTree) (next : Result) :
    Result.afterText texts files next = { next with stdout := texts .first ++ next.stdout } := by
  obtain ⟨bytes, encoded⟩ := Text.Utf8.exists_encodeRaw_eq_ok_iff.mpr plain
  simp only [Result.afterText, encoded]

/-- Nothing of a text with a stray byte is put on the console. -/
theorem afterText_of_stray {texts : StandIn → Text}
    (stray : ¬ ∃ text, RawText.restore texts = .ofText text) (files : FileTree) (next : Result) :
    ∃ e, Result.afterText texts files next = .quiet (.failed (.unencodable e)) files := by
  cases encoded : Text.Utf8.encodeRaw (.restore texts) with
  | error e => exact ⟨e, by simp only [Result.afterText, encoded]⟩
  | ok bytes => exact absurd (Text.Utf8.exists_encodeRaw_eq_ok_iff.mp ⟨bytes, encoded⟩) stray

/-- The words for a refusal are printed whatever they are, and nothing else happens. -/
theorem giveUp_escaped (words : Text) (files : FileTree) :
    ∃ printed, giveUp (printMessage .error ("Error: ".toList ++ Markup.escape words)) files
      = ⟨.exited 1, printed, [], files⟩ := by
  have inert : Markup.IsInert ("Error: ".toList ++ Markup.escape words) :=
    (Markup.isInert_escape words).append_left (by decide) rfl (by decide)
  obtain ⟨lines, printed⟩ := printMessage_eq_ok .error inert
  unfold giveUp
  rw [printed, afterPrint_of_lines]
  exact ⟨_, rfl⟩

/-- The warning is printed if there are no classes, and else nothing is. -/
theorem afterPrint_warnIfEmpty {diagram : Text} (plain : IsPlain diagram) (classes : ClassMap)
    (files : FileTree) (next : Result) :
    ∃ warning, Result.afterPrint (warnIfEmpty (Path.ofText diagram) classes) files next
        = { next with stdout := warning ++ next.stdout } ∧
      (classes.size ≠ 0 → warning = []) ∧ (classes.size = 0 → "No".toList <+: warning) := by
  unfold warnIfEmpty
  split
  · rename_i empty
    have begins : noClasses <+: "No classes found in ".toList ++ (Path.ofText diagram).name :=
      ⟨" found in ".toList ++ (Path.ofText diagram).name, rfl⟩
    have untagged : '[' ∉ "No classes found in ".toList ++ (Path.ofText diagram).name := by
      rw [List.mem_append, not_or]
      exact ⟨by decide, fun inside => plain.untagged (Path.mem_of_mem_name inside)⟩
    obtain ⟨first, others, printed, here⟩ := printMessage_noClasses begins untagged
    rw [printed, afterPrint_of_lines]
    refine ⟨_, rfl, fun nonempty => absurd empty nonempty, fun _ => ?_⟩
    rw [List.flatMap_cons, List.append_assoc]
    exact here.trans (List.prefix_append _ _)
  · rename_i nonempty
    exact ⟨[], rfl, fun _ => rfl, fun empty => absurd empty nonempty⟩

/-- To show classes as JSON ends well if there is no stray byte in them, and otherwise with text that
is not encoded. -/
theorem showClasses_json (asked : options.output = none) (json : options.json = true)
    (path : Path) (files : FileTree) :
    (classes .second = classes .first ∧ showClasses options path classes files
        = ⟨.exited 0, (classes .first).toJson.write ++ ['\n'], [], files⟩) ∨
      ∃ e, showClasses options path classes files
        = .quiet (.failed (.unencodable e)) files := by
  have shown : showClasses options path classes files
      = .afterText (fun standIn => (classes standIn).toJson.write ++ ['\n']) files
          (.quiet (.exited 0) files) := by
    simp only [showClasses, asked, json, Option.getD_none, if_true]
  rw [shown]
  by_cases plain : ∃ text, RawText.restore
      (fun standIn => (classes standIn).toJson.write ++ ['\n']) = .ofText text
  · obtain ⟨text, restored⟩ := plain
    refine Or.inl ⟨ClassMap.same_of_restore (List.forall_mem_singleton.mpr rfl) restored, ?_⟩
    rw [afterText_of_plain ⟨text, restored⟩, Result.quiet, List.append_nil]
  · exact Or.inr (afterText_of_stray plain files _)

/-- Classes without stray bytes are written to the file and to no other, and this is said. -/
theorem writeClasses_of_same {output : Text} (plain : IsPlain output)
    (writable : files.IsWritable (Path.ofText output))
    (same : classes .second = classes .first) :
    ∃ printed after place, writeClasses output classes files = ⟨.exited 0, printed, [], after⟩ ∧
      files.WritesOnly after (Path.ofText output) place
        (Text.Utf8.encode (classes .first).toJson.write) := by
  obtain ⟨after, written⟩ :=
    writable.writeWithParents_eq_ok (Text.Utf8.encode (classes .first).toJson.write)
  obtain ⟨place, writes⟩ := FileTree.writesOnly_of_writeWithParents written
  have encoded : Text.Utf8.encodeRaw (.restore fun standIn => (classes standIn).toJson.write)
      = .ok (Text.Utf8.encode (classes .first).toJson.write) := by
    rw [RawText.restore_of_same (congrArg (fun c : ClassMap => c.toJson.write) same),
      Text.Utf8.encodeRaw_ofText]
  have untagged : '[' ∉ "Wrote ".toList ++ Text.ofNat (classes .first).size
      ++ " classes to ".toList ++ output := by
    simp only [List.mem_append, not_or]
    exact ⟨⟨⟨by decide, Text.bracket_not_mem_ofNat _⟩, by decide⟩, plain.untagged⟩
  obtain ⟨lines, printed⟩ := printMessage_eq_ok .success (Markup.isInert_of_no_bracket untagged)
  simp only [writeClasses, encoded, Except.toOption, Option.getD_some, written, printed,
    afterPrint_of_lines]
  exact ⟨_, after, place, rfl, writes⟩

/-- Classes with stray bytes leave the file empty, and every other one as it is. -/
theorem writeClasses_of_stray {output : Text} (writable : files.IsWritable (Path.ofText output))
    (different : classes .second ≠ classes .first) :
    ∃ e after place, writeClasses output classes files = .quiet (.failed (.unencodable e)) after ∧
      files.WritesOnly after (Path.ofText output) place [] := by
  obtain ⟨after, written⟩ := writable.writeWithParents_eq_ok []
  obtain ⟨place, writes⟩ := FileTree.writesOnly_of_writeWithParents written
  cases encoded : Text.Utf8.encodeRaw (.restore fun standIn => (classes standIn).toJson.write) with
  | ok bytes =>
      obtain ⟨text, plain⟩ := Text.Utf8.exists_encodeRaw_eq_ok_iff.mp ⟨bytes, encoded⟩
      have bare : RawText.restore (fun standIn => (classes standIn).toJson.write ++ [])
          = .ofText text := by
        simpa only [List.append_nil] using plain
      exact absurd (ClassMap.same_of_restore (List.forall_mem_nil _) bare) different
  | error e =>
      simp only [writeClasses, encoded, Except.toOption, Option.getD_none, written]
      exact ⟨e, after, place, rfl, writes⟩

end Runs

/-- No JSON text begins with the first word of the warning. -/
theorem read?_eq_none {text : Text} (begins : "No".toList <+: text) : Json.read? text = none := by
  obtain ⟨rest, rfl⟩ := begins
  rfl

section Arguments

variable {diagram output : Text} {flags : List Text} {environment : Settings.Environment}
  {files : FileTree} {bytes : List UInt8} {settings : StandIn → Settings}
  {classes : StandIn → ClassMap} {options : Options} {arguments : List Text}
  {e : DiagramFile.Error}

/-- A stray byte in the root keyword ends a run, whatever was asked for, and leaves every file. -/
theorem run_of_stray (asked : parse arguments = .ok (.run options))
    (unconfigured : options.config = none)
    (found : files.find? (Path.ofText options.diagram) = some (.file bytes))
    (stray : environment.HasStray Settings.markerVariable) :
    run arguments environment files
      = .quiet (.failed (.badSettings [Settings.markerIssue])) files := by
  simp only [run, asked, runWith_of_stray unconfigured found stray]

/-- A diagram that is refused ends a run, whatever was asked for, and leaves every file. -/
theorem run_of_refused (asked : parse arguments = .ok (.run options))
    (unconfigured : options.config = none)
    (made : ∀ standIn, Settings.ofEnvironment standIn environment = .ok (settings standIn))
    (found : files.find? (Path.ofText options.diagram) = some (.file bytes))
    (refused : DiagramFile.parse (withFlags options (settings .first)) files options.diagram
      = .error e) (refusal : e.IsRefusal) :
    ∃ printed, run arguments environment files = ⟨.exited 1, printed, [], files⟩ := by
  obtain ⟨words, explained⟩ := explain_of_isRefusal refusal
  obtain ⟨printed, gaveUp⟩ := giveUp_escaped words files
  refine ⟨printed, ?_⟩
  simp only [run, asked, runWith_of_error unconfigured made found refused explained, gaveUp]

/-- The classes of a diagram that is accepted are shown, after a warning if there are none. -/
theorem run_of_classes (asked : parse arguments = .ok (.run options))
    (unconfigured : options.config = none) (plain : IsPlain options.diagram)
    (made : ∀ standIn, Settings.ofEnvironment standIn environment = .ok (settings standIn))
    (found : files.find? (Path.ofText options.diagram) = some (.file bytes))
    (parsed : ∀ standIn, DiagramFile.parse (withFlags options (settings standIn)) files
      options.diagram = .ok (classes standIn)) {next : Result}
    (shown : showClasses options (Path.ofText options.diagram) classes files = next) :
    ∃ warning, run arguments environment files = { next with stdout := warning ++ next.stdout } ∧
      ((classes .first).size ≠ 0 → warning = []) ∧
        ((classes .first).size = 0 → "No".toList <+: warning) := by
  obtain ⟨warning, warned, silent⟩ := afterPrint_warnIfEmpty plain (classes .first) files next
  refine ⟨warning, ?_, silent⟩
  simp only [run, asked, runWith_of_ok unconfigured made found parsed, shown, warned]

/-- Whatever stands for stray bytes, a diagram is refused, or it is accepted. -/
theorem parse_or_isRefused_of_made
    (made : ∀ standIn, Settings.ofEnvironment standIn environment = .ok (settings standIn))
    (found : files.find? (Path.ofText diagram) = some (.file bytes)) (flags : List Text) :
    ((∀ standIn, ¬ DiagramFile.IsRefused (flagSettings (settings standIn) flags) diagram bytes) ∧
        ∃ classes : StandIn → ClassMap, ∀ standIn,
          DiagramFile.parse (flagSettings (settings standIn) flags) files diagram
            = .ok (classes standIn)) ∨
      ((∀ standIn, DiagramFile.IsRefused (flagSettings (settings standIn) flags) diagram bytes) ∧
        ∃ e, DiagramFile.parse (flagSettings (settings .first) flags) files diagram = .error e ∧
          e.IsRefusal) := by
  have alike : ∀ standIn,
      DiagramFile.IsRefused (flagSettings (settings standIn) flags) diagram bytes ↔
        DiagramFile.IsRefused (flagSettings (settings .first) flags) diagram bytes := by
    intro standIn
    have marker := congrArg Settings.sectionMarker
      (Settings.eq_of_ofEnvironment (made .first) (made standIn))
    exact DiagramFile.isRefused_congr marker
  rcases DiagramFile.parse_or_isRefused (flagSettings (settings .first) flags) found with
    ⟨accepted, -⟩ | ⟨refused, e, parsed, refusal⟩
  · have each : ∀ standIn, ∃ classes,
        DiagramFile.parse (flagSettings (settings standIn) flags) files diagram = .ok classes := by
      intro standIn
      rcases DiagramFile.parse_or_isRefused (flagSettings (settings standIn) flags) found with
        ⟨-, parsed⟩ | ⟨refused, -⟩
      · exact parsed
      · exact absurd ((alike standIn).mp refused) accepted
    exact Or.inl ⟨fun standIn => (alike standIn).not.mpr accepted, Classical.skolem.mp each⟩
  · exact Or.inr ⟨fun standIn => (alike standIn).mpr refused, e, parsed, refusal⟩

/-- Only a stray byte in the ending of names makes classes that differ. -/
theorem hasStray_of_parse {f : Settings → Settings}
    (made : ∀ standIn, Settings.ofEnvironment standIn environment = .ok (settings standIn))
    (parsed : ∀ standIn, DiagramFile.parse (f (settings standIn)) files diagram
      = .ok (classes standIn))
    (different : classes .second ≠ classes .first) :
    environment.HasStray Settings.suffixVariable := by
  apply (Settings.ne_iff_hasStray made).mp
  intro alike
  have second := parsed .second
  rw [alike, parsed .first] at second
  exact different (Except.ok.inj second).symm

/-- A run that is to put the classes of a diagram into a file ends in one of four ways. A stray byte
in the root keyword is refused, and every file is left. Otherwise the run gives up exactly if the
diagram is refused, and else puts all classes into the file, unless stray bytes have come into them
from the ending of names: then the file is left empty. -/
theorem run_output_exports_or_gives_up (plain : IsPlain diagram) (named : output ≠ [])
    (plainOutput : IsPlain output)
    (found : files.find? (Path.ofText diagram) = some (.file bytes))
    (writable : files.IsWritable (Path.ofText output)) (areFlags : AreFlags flags)
    (environment : Settings.Environment) :
    (environment.HasStray Settings.markerVariable ∧
        run (diagram :: "-o".toList :: output :: flags) environment files
          = .quiet (.failed (.badSettings [Settings.markerIssue])) files) ∨
      ∃ settings : StandIn → Settings,
        (∀ standIn, Settings.ofEnvironment standIn environment = .ok (settings standIn)) ∧
        (((∀ standIn,
              DiagramFile.IsRefused (flagSettings (settings standIn) flags) diagram bytes) ∧
            (run (diagram :: "-o".toList :: output :: flags) environment files).GaveUp files) ∨
          ((∀ standIn,
              ¬ DiagramFile.IsRefused (flagSettings (settings standIn) flags) diagram bytes) ∧
            ∃ classes : StandIn → ClassMap,
              (∀ standIn, DiagramFile.parse (flagSettings (settings standIn) flags) files diagram
                = .ok (classes standIn)) ∧
              ((classes .second = classes .first ∧
                  (run (diagram :: "-o".toList :: output :: flags) environment files).Exported
                    files output (classes .first)) ∨
                (classes .second ≠ classes .first ∧
                  environment.HasStray Settings.suffixVariable ∧
                  (run (diagram :: "-o".toList :: output :: flags) environment files).Emptied
                    files output)))) := by
  have asked := parse_output plain.bare plainOutput.bare areFlags
  by_cases stray : environment.HasStray Settings.markerVariable
  · exact Or.inl ⟨stray, run_of_stray asked rfl found stray⟩
  obtain ⟨settings, made⟩ := Settings.exists_ofEnvironment stray
  refine Or.inr ⟨settings, made, ?_⟩
  rcases parse_or_isRefused_of_made made found flags with
    ⟨accepted, classes, parsed⟩ | ⟨refused, e, parsed, refusal⟩
  · refine Or.inr ⟨accepted, classes, parsed, ?_⟩
    have shown : showClasses ⟨diagram, false, some output, none, flags.contains flushFlag,
        flags.contains lowercaseFlag⟩ (Path.ofText diagram) classes files
        = writeClasses output classes files := by
      cases output with
      | nil => exact absurd rfl named
      | cons c rest => rfl
    obtain ⟨warning, ran, -⟩ := run_of_classes asked rfl plain made found parsed shown
    by_cases same : classes .second = classes .first
    · obtain ⟨printed, after, place, wrote, writes⟩ :=
        writeClasses_of_same plainOutput writable same
      have read : Json.read? (classes .first).toJson.write = some (classes .first).toJson :=
        Json.read?_write (classes .first).fits_toJson
      rw [ran, wrote]
      exact Or.inl ⟨same, rfl, ⟨place, _, writes⟩, _, _, writes.read_eq,
        Text.Utf8.decode_encode _, ClassMap.ofText?_of_read? read⟩
    · have origin := hasStray_of_parse (f := fun settings => flagSettings settings flags)
        made parsed same
      obtain ⟨e, after, place, wrote, writes⟩ := writeClasses_of_stray writable same
      rw [ran, wrote]
      exact Or.inr ⟨same, origin, ⟨e, rfl⟩, place, writes⟩
  · obtain ⟨printed, ran⟩ := run_of_refused asked rfl made found parsed refusal
    rw [ran]
    exact Or.inl ⟨refused, rfl, rfl⟩

/-- A tree with one file, a diagram with the given text. -/
def diagramTree (text : Text) : FileTree :=
  ⟨[(Path.ofText "d.mmd".toList, .file (Text.Utf8.encode text))]⟩

/-- A diagram whose only class is open at the end. -/
def openText : Text :=
  "class A \x7b\nint x".toList

theorem run_output_exports_or_gives_up_open :
    IsPlain "d.mmd".toList ∧ "out/o.json".toList ≠ [] ∧ IsPlain "out/o.json".toList ∧
      (diagramTree openText).find? (Path.ofText "d.mmd".toList)
        = some (.file (Text.Utf8.encode openText)) ∧
      (diagramTree openText).IsWritable (Path.ofText "out/o.json".toList) ∧
      AreFlags [flushFlag] ∧
      ∃ classes,
        DiagramFile.parse (flagSettings {} [flushFlag]) (diagramTree openText) "d.mmd".toList
          = .ok classes ∧
        (run ["d.mmd".toList, "-o".toList, "out/o.json".toList, flushFlag] []
          (diagramTree openText)).Exported (diagramTree openText) "out/o.json".toList classes := by
  have plain : IsPlain "d.mmd".toList := ⟨by decide, by decide⟩
  have plainOutput : IsPlain "out/o.json".toList := ⟨by decide, by decide⟩
  have found : (diagramTree openText).find? (Path.ofText "d.mmd".toList)
      = some (.file (Text.Utf8.encode openText)) := by decide +kernel
  have writable : (diagramTree openText).IsWritable (Path.ofText "out/o.json".toList) :=
    ⟨[], _, rfl⟩
  have areFlags : AreFlags [flushFlag] := by simp [AreFlags]
  refine ⟨plain, by decide, plainOutput, found, writable, areFlags, ?_⟩
  have unset : ∀ name, ¬ Settings.Environment.HasStray [] name := by
    rintro name ⟨raw, here, -⟩
    cases here
  have ended : (run ["d.mmd".toList, "-o".toList, "out/o.json".toList, flushFlag] []
      (diagramTree openText)).ending = .exited 0 := by decide +kernel
  rcases run_output_exports_or_gives_up plain (by decide) plainOutput found writable areFlags []
    with ⟨stray, -⟩ | ⟨settings, made, ending⟩
  · exact absurd stray (unset _)
  obtain rfl : (fun _ => {}) = settings := funext fun standIn => Except.ok.inj (made standIn)
  rcases ending with ⟨-, gaveUp⟩ | ⟨-, classes, parsed, exported | ⟨-, stray, -⟩⟩
  · have one := gaveUp.exited
    rw [ended] at one
    cases one
  · exact ⟨classes .first, parsed .first, exported.2⟩
  · exact absurd stray (unset _)

/-- A diagram with a relation that adds an attribute. -/
def relationText : Text :=
  "A \"1\" -- \"N\" B".toList

/-- An environment in which the ending of names is a stray byte. -/
def strayEnvironment : Settings.Environment :=
  [(Settings.suffixVariable, [.stray 0xFF])]

/-- The diagram is accepted, but the run neither gives up nor puts its classes into the file. -/
theorem stray_suffix_leaves_file_empty :
    IsPlain "d.mmd".toList ∧ IsPlain "o.json".toList ∧
      (diagramTree relationText).find? (Path.ofText "d.mmd".toList)
        = some (.file (Text.Utf8.encode relationText)) ∧
      (diagramTree relationText).IsWritable (Path.ofText "o.json".toList) ∧
      run ["d.mmd".toList, "-o".toList, "o.json".toList] strayEnvironment
          (diagramTree relationText)
        = ⟨.failed (.unencodable ⟨238, [0xFF]⟩), [], [],
            ⟨(diagramTree relationText).nodes ++ [(Path.ofText "o.json".toList, .file [])]⟩⟩ ∧
      ¬ (run ["d.mmd".toList, "-o".toList, "o.json".toList] strayEnvironment
          (diagramTree relationText)).GaveUp (diagramTree relationText) ∧
      ∀ classes, ¬ (run ["d.mmd".toList, "-o".toList, "o.json".toList] strayEnvironment
          (diagramTree relationText)).Exported (diagramTree relationText) "o.json".toList
            classes := by
  have ran : run ["d.mmd".toList, "-o".toList, "o.json".toList] strayEnvironment
      (diagramTree relationText)
        = ⟨.failed (.unencodable ⟨238, [0xFF]⟩), [], [],
            ⟨(diagramTree relationText).nodes ++ [(Path.ofText "o.json".toList, .file [])]⟩⟩ := by
    decide +kernel
  refine ⟨⟨by decide, by decide⟩, ⟨by decide, by decide⟩, by decide +kernel, ⟨[], _, rfl⟩, ran,
    ?_, ?_⟩
  · intro gaveUp
    have one := gaveUp.exited
    rw [ran] at one
    cases one
  · intro classes exported
    have zero := exported.exited
    rw [ran] at zero
    cases zero

/-- A run that is to print the classes of a diagram as JSON, and ends well, prints one JSON text with
all of them in their order. A warning goes before it if there are none; what is printed is a JSON
text exactly if there are some. The classes are the same whatever stands for stray bytes in the
environment. -/
theorem run_json_prints_document_iff (plain : IsPlain diagram)
    (found : files.find? (Path.ofText diagram) = some (.file bytes)) (areFlags : AreFlags flags)
    (environment : Settings.Environment)
    (ended : (run (diagram :: "--json".toList :: flags) environment files).ending = .exited 0) :
    ∃ (settings : StandIn → Settings) (classes : ClassMap) (warning document : Text),
      (∀ standIn, Settings.ofEnvironment standIn environment = .ok (settings standIn)) ∧
      (∀ standIn, DiagramFile.parse (flagSettings (settings standIn) flags) files diagram
        = .ok classes) ∧
      run (diagram :: "--json".toList :: flags) environment files
        = ⟨.exited 0, warning ++ document, [], files⟩ ∧
      Json.read? document = some classes.toJson ∧
      ClassMap.ofText? document = some classes.entries ∧
      (Json.read? (warning ++ document) = some classes.toJson ↔ classes.size ≠ 0) := by
  have asked := parse_json plain.bare areFlags
  by_cases stray : environment.HasStray Settings.markerVariable
  · rw [run_of_stray asked rfl found stray] at ended
    cases ended
  obtain ⟨settings, made⟩ := Settings.exists_ofEnvironment stray
  rcases parse_or_isRefused_of_made made found flags with
    ⟨-, classes, parsed⟩ | ⟨-, e, parsed, refusal⟩
  · have ends := @showClasses_json ⟨diagram, true, none, none, flags.contains flushFlag,
      flags.contains lowercaseFlag⟩ classes rfl rfl (Path.ofText diagram) files
    rcases ends with ⟨same, shown⟩ | ⟨e, shown⟩
    · obtain ⟨warning, ran, silent, warned⟩ :=
        run_of_classes asked rfl plain made found parsed shown
      have read : Json.read? ((classes .first).toJson.write ++ ['\n'])
          = some (classes .first).toJson :=
        Json.read?_write_append (classes .first).fits_toJson (List.forall_mem_singleton.mpr rfl)
      refine ⟨settings, classes .first, warning, _, made, ?_, ran, read,
        ClassMap.ofText?_of_read? read, ?_⟩
      · intro standIn
        rw [parsed]
        cases standIn
        · rfl
        · rw [same]
      · constructor
        · intro printed empty
          rw [read?_eq_none ((warned empty).trans (List.prefix_append _ _))] at printed
          cases printed
        · intro nonempty
          rw [silent nonempty]
          exact read
    · obtain ⟨warning, ran, -⟩ := run_of_classes asked rfl plain made found parsed shown
      rw [ran] at ended
      cases ended
  · obtain ⟨printed, ran⟩ := run_of_refused asked rfl made found parsed refusal
    rw [ran] at ended
    cases ended

theorem run_json_prints_document_iff_open :
    IsPlain "d.mmd".toList ∧
      (diagramTree openText).find? (Path.ofText "d.mmd".toList)
        = some (.file (Text.Utf8.encode openText)) ∧
      AreFlags [flushFlag, lowercaseFlag] ∧
      (run ["d.mmd".toList, "--json".toList, flushFlag, lowercaseFlag] []
        (diagramTree openText)).ending = .exited 0 ∧
      ∃ (settings : StandIn → Settings) (classes : ClassMap) (warning document : Text),
        (∀ standIn, Settings.ofEnvironment standIn [] = .ok (settings standIn)) ∧
        (∀ standIn, DiagramFile.parse (flagSettings (settings standIn) [flushFlag, lowercaseFlag])
          (diagramTree openText) "d.mmd".toList = .ok classes) ∧
        run ["d.mmd".toList, "--json".toList, flushFlag, lowercaseFlag] [] (diagramTree openText)
          = ⟨.exited 0, warning ++ document, [], diagramTree openText⟩ ∧
        Json.read? document = some classes.toJson ∧
        ClassMap.ofText? document = some classes.entries ∧
        (Json.read? (warning ++ document) = some classes.toJson ↔ classes.size ≠ 0) :=
  have plain : IsPlain "d.mmd".toList := ⟨by decide, by decide⟩
  have found : (diagramTree openText).find? (Path.ofText "d.mmd".toList)
      = some (.file (Text.Utf8.encode openText)) := by decide +kernel
  have areFlags : AreFlags [flushFlag, lowercaseFlag] := by simp [AreFlags]
  have ended : (run ["d.mmd".toList, "--json".toList, flushFlag, lowercaseFlag] []
      (diagramTree openText)).ending = .exited 0 := by decide +kernel
  ⟨plain, found, areFlags, ended, run_json_prints_document_iff plain found areFlags [] ended⟩

/-- The warning for a diagram without classes is printed where the JSON text is. -/
theorem warning_goes_before_document :
    IsPlain "d.mmd".toList ∧
      (diagramTree []).find? (Path.ofText "d.mmd".toList) = some (.file (Text.Utf8.encode [])) ∧
      Settings.ofEnvironment .first [] = .ok {} ∧
      DiagramFile.parse (flagSettings {} []) (diagramTree []) "d.mmd".toList = .ok .empty ∧
      run ["d.mmd".toList, "--json".toList] [] (diagramTree [])
        = ⟨.exited 0, "No classes found in d.mmd\n\x7b\x7d\n".toList, [], diagramTree []⟩ ∧
      Json.read? "No classes found in d.mmd\n\x7b\x7d\n".toList = none :=
  ⟨⟨by decide, by decide⟩, by decide +kernel, rfl, by decide +kernel, by decide +kernel, rfl⟩

end Arguments

end CommandLine

end ClassDiagram
