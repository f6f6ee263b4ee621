import ClassDiagram.Proofs.Provenance
import ClassDiagram.Proofs.Workbench

/-!
# Sessions

A builder may be used for longer than one text: lines, whole texts and ends of input follow one
another in any order, also after a line that was refused. Through every session classes stand under
their names, which are in upper case, and nothing is left of an open class when none is open.
-/

namespace ClassDiagram

namespace Line

/-- The names that a line states are in upper case. -/
theorem upper_of_mem_names {marker line : Text} {s : Step} {name : Text}
    (member : s ∈ steps marker line) (stated : name ∈ s.names) : Text.upper name = name := by
  rcases mem_steps member with ⟨entered, named, rfl⟩ | rfl | ⟨m, -, rfl⟩ | rfl | ⟨r, read, rfl⟩
  · obtain ⟨t, -, rfl⟩ := mem_classNamesOfRuns named
    rw [List.mem_singleton.mp stated]
    exact Text.upper_upper t
  · cases stated
  · cases stated
  · cases stated
  · have capital := Relation.capital_of_read (relation?_eq_some_iff.mp read).2
    simp only [Step.names, List.mem_cons, List.not_mem_nil, or_false] at stated
    rcases stated with rfl | rfl
    · exact capital.left
    · exact capital.right

end Line

/-- One use of a builder. -/
inductive Call where
  /-- A line, with its number if it is known. -/
  | feed (number : Option Int) (line : Text)
  /-- A whole text and its end. -/
  | read (text : Text)
  /-- The end of input. -/
  | finish

namespace Builder

/-- The builder after a call, also after one that is refused. -/
def perform (settings : Settings) (b : Builder) : Call → Builder
  | .feed number line => (feed settings number line b).builder
  | .read text => (readText settings text b).builder
  | .finish => finish settings b

/-- The builder after calls. -/
def session (settings : Settings) (calls : List Call) : Builder :=
  calls.foldl (perform settings) start

/-- Classes stand under their names, and the builder holds names in upper case only. -/
structure IsTidy (b : Builder) : Prop where
  keyed : b.classes.IsKeyed
  capital : ∀ key, b.Holds key → Text.upper key = key

variable {settings : Settings} {b : Builder}

theorem isTidy_start : start.IsTidy where
  keyed key c found := by simp [start] at found
  capital key holds := by simp [Holds, start, savedName, Class.blank] at holds

theorem isTidy_step {s : Step} (tidy : b.IsTidy) (proper : s.IsProper)
    (capital : ∀ name ∈ s.names, Text.upper name = name) : (step settings b s).IsTidy where
  keyed := isKeyed_step tidy.keyed proper
  capital key holds := by
    rcases holds_step tidy.keyed holds with held | stated
    · exact tidy.capital key held
    · exact capital key stated

theorem isTidy_run {steps : List Step} (proper : ∀ s ∈ steps, s.IsProper)
    (capital : ∀ s ∈ steps, ∀ name ∈ s.names, Text.upper name = name) (tidy : b.IsTidy) :
    (run settings b steps).IsTidy :=
  run_keeps (fun _ s member tidy => isTidy_step tidy (proper s member) (capital s member)) tidy

theorem isTidy_feed (tidy : b.IsTidy) (number : Option Int) (line : Text) :
    (feed settings number line b).builder.IsTidy := by
  rw [feed_eq_run]
  exact isTidy_run (fun _ => Line.isProper_of_mem_steps)
    (fun _ member _ => Line.upper_of_mem_names member) tidy

theorem isTidy_finish (tidy : b.IsTidy) : (finish settings b).IsTidy where
  keyed := isKeyed_finish tidy.keyed
  capital key holds := tidy.capital key (holds_of_holds_finish tidy.keyed holds)

/-- What every line keeps, lines keep, whether one of them is refused or not. -/
theorem feedLines_keeps {p : Builder → Prop}
    (feeds : ∀ b number line, p b → p (feed settings number line b).builder) (number : Int)
    (lines : List Text) (holds : p b) : p (feedLines settings number lines b).builder := by
  induction lines generalizing number b with
  | nil => exact holds
  | cons line rest ih =>
      have first : p (feed settings (some number) line b).builder := feeds b _ line holds
      rw [feedLines]
      cases error : (feed settings (some number) line b).error with
      | some e => simpa only [error] using first
      | none => simpa only [error] using ih (number + 1) first

/-- What every line and the end of input keep, a text keeps, whether it is refused or not. -/
theorem readText_keeps {p : Builder → Prop}
    (feeds : ∀ b number line, p b → p (feed settings number line b).builder)
    (finishes : ∀ b, p b → p (finish settings b)) (text : Text) (holds : p b) :
    p (readText settings text b).builder := by
  have read : p (feedLines settings 1 (documentLines text) b).builder :=
    feedLines_keeps feeds 1 _ holds
  rw [readText]
  cases error : (feedLines settings 1 (documentLines text) b).error with
  | some e => simpa only [error] using read
  | none => simpa only [error] using finishes _ read

/-- What every line and the end of input keep, every session keeps. -/
theorem session_keeps {p : Builder → Prop} (begins : p start)
    (feeds : ∀ b number line, p b → p (feed settings number line b).builder)
    (finishes : ∀ b, p b → p (finish settings b)) (calls : List Call) :
    p (session settings calls) := by
  refine List.foldlRecOn calls _ begins fun b holds call _ => ?_
  cases call with
  | feed number line => exact feeds b number line holds
  | read text => exact readText_keeps feeds finishes text holds
  | finish => exact finishes b holds

theorem isTidy_session (settings : Settings) (calls : List Call) :
    (session settings calls).IsTidy :=
  session_keeps isTidy_start (fun _ number line tidy => isTidy_feed tidy number line)
    (fun _ => isTidy_finish) calls

end Builder

namespace Workbench

/-- The workbench after a call, also after one that raises an error. -/
def perform (settings : Settings) (w : Workbench) : Call → Workbench
  | .feed number line => (feed settings number line w).1
  | .read text => (readText settings text w).1
  | .finish => finish settings w

/-- The workbench after calls. -/
def session (settings : Settings) (calls : List Call) : Workbench :=
  calls.foldl (perform settings) start

theorem perform_ofBuilder (settings : Settings) (b : Builder) (call : Call) :
    perform settings (ofBuilder b) call = ofBuilder (b.perform settings call) := by
  cases call with
  | feed number line => exact congrArg Prod.fst (feed_ofBuilder number line)
  | read text => exact congrArg Prod.fst (readText_ofBuilder text)
  | finish => exact finish_ofBuilder

/-- The two layouts agree after every session. -/
theorem session_eq_ofBuilder (settings : Settings) (calls : List Call) :
    session settings calls = ofBuilder (Builder.session settings calls) := by
  have from_ : ∀ b : Builder, calls.foldl (perform settings) (ofBuilder b)
      = ofBuilder (calls.foldl (Builder.perform settings) b) := by
    induction calls with
    | nil => exact fun b => rfl
    | cons call rest ih =>
        intro b
        rw [List.foldl_cons, perform_ofBuilder, ih, List.foldl_cons]
  exact from_ .start

end Workbench

/-- After every session each class stands under its own name, which is in upper case. If no class is
open, then the class that headers and members write to is blank, and no copy is kept. -/
theorem session_leaves_nothing_open (settings : Settings) (calls : List Call) :
    (∀ key c, (Builder.session settings calls).classes.get? key = some c →
        c.name = key ∧ Text.upper key = key) ∧
      Workbench.session settings calls = .ofBuilder (Builder.session settings calls) ∧
        ((Workbench.session settings calls).isOpen = false →
          (Workbench.session settings calls).current = Class.blank ∧
            (Workbench.session settings calls).saved = none) := by
  have tidy := Builder.isTidy_session settings calls
  have layout := Workbench.session_eq_ofBuilder settings calls
  refine ⟨fun key c found => ?_, layout, fun idle => ?_⟩
  · exact ⟨tidy.keyed key c found,
      tidy.capital key (Or.inl (OrderedMap.mem_keys_of_get? found))⟩
  · rw [layout] at idle ⊢
    have closed : (Builder.session settings calls).opened = none := by
      simpa [Workbench.ofBuilder] using idle
    simp [Workbench.ofBuilder, Builder.openClass, closed]

end ClassDiagram
