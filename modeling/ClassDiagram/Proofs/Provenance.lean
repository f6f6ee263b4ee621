import ClassDiagram.Proofs.Accounts
import ClassDiagram.Proofs.Headers
import Mathlib.Data.List.Basic
import Mathlib.Data.List.Forall2
import Mathlib.Data.List.Nodup

/-!
# Where classes and members come from

Nothing is made up and nothing is used twice: each member of each class is made by an event of the
text, no event makes two members, and the members of a class are in the order of their events. The
key of a class is a name on some line or an end of some relation.
-/

namespace ClassDiagram

/-- Members drawn from events: `positions` gives every member the position of an event that makes
it, and members further on have later events. -/
structure DrawnFrom {α : Type} (make : Event → Option α) (events : List Event)
    (positions : List Nat) (members : List α) : Prop where
  increasing : positions.Pairwise (· < ·)
  made : List.Forall₂ (fun i member => ∃ e, events[i]? = some e ∧ make e = some member)
    positions members

/-- Positions of events for the members of classes, for attributes and operations apart: the members
of each class are drawn from the events, and no position serves twice. -/
structure OwnEvents (settings : Settings) (text : Text) (classes : ClassMap)
    (attributesAt operationsAt : Text → List Nat) : Prop where
  attributes : ∀ key c, classes.get? key = some c →
    DrawnFrom (Event.attribute? settings) (documentEvents settings text) (attributesAt key)
      c.attributes
  operations : ∀ key c, classes.get? key = some c →
    DrawnFrom (Event.operation? settings) (documentEvents settings text) (operationsAt key)
      c.operations
  once : (classes.keys.flatMap fun key => attributesAt key ++ operationsAt key).Nodup

namespace Ledger

/-- The positions of the events that make something and are in a place that satisfies `p`. -/
def positions {α : Type} (make : Event → Option α) (p : Location → Bool) (l : Ledger) : List Nat :=
  l.findIdxs fun entry => p entry.2 && (make entry.1).isSome

theorem mem_positions_iff {α : Type} {make : Event → Option α} {p : Location → Bool} {l : Ledger}
    {i : Nat} :
    i ∈ l.positions make p ↔
      ∃ entry, l[i]? = some entry ∧ p entry.2 = true ∧ (make entry.1).isSome = true := by
  rw [positions, List.mem_findIdxs_iff_exists_getElem_pos]
  constructor
  · rintro ⟨bound, here⟩
    exact ⟨l[i], List.getElem?_eq_getElem bound, by simpa using here⟩
  · rintro ⟨entry, found, here⟩
    obtain ⟨bound, rfl⟩ := List.getElem?_eq_some_iff.mp found
    exact ⟨bound, by simpa using here⟩

/-- What the events of a place make is drawn from all events. -/
theorem drawnFrom_positions {α : Type} (make : Event → Option α) (p : Location → Bool)
    (l : Ledger) :
    DrawnFrom make (l.map Prod.fst) (l.positions make p) ((l.eventsAt p).filterMap make) := by
  refine ⟨List.pairwise_findIdxs, ?_⟩
  induction l with
  | nil => exact .nil
  | cons entry rest ih =>
      have later : List.Forall₂
          (fun i member => ∃ e, ((entry :: rest).map Prod.fst)[i]? = some e ∧ make e = some member)
          (rest.findIdxs (fun entry => p entry.2 && (make entry.1).isSome) 1)
          ((eventsAt p rest).filterMap make) := by
        rw [List.findIdxs_start, List.forall₂_map_left_iff]
        exact ih.imp fun i member made => by simpa using made
      rw [positions, List.findIdxs_cons, eventsAt_cons, List.filterMap_append]
      cases here : p entry.2 with
      | false => simpa [here] using later
      | true =>
          cases makes : make entry.1 with
          | none => simpa [here, makes] using later
          | some member =>
              have first :
                  ∃ e, ((entry :: rest).map Prod.fst)[0]? = some e ∧ make e = some member :=
                ⟨entry.1, rfl, makes⟩
              simpa [here, makes] using List.Forall₂.cons first later

end Ledger

/-- The names that a step states. -/
def Step.names : Step → List Text
  | .enter name => [name]
  | .relate relation => [relation.left, relation.right]
  | _ => []

namespace Builder

/-- Whether a name is that of a class in the mapping, of the open class or of the kept copy. -/
def Holds (b : Builder) (key : Text) : Prop :=
  key ∈ b.classes.keys ∨ (key ≠ [] ∧ key = b.openClass.name) ∨ b.savedName = some key

variable {settings : Settings} {b : Builder} {key : Text}

/-- A step brings in no names but its own. -/
theorem holds_step (keyed : b.classes.IsKeyed) {s : Step} (holds : (step settings b s).Holds key) :
    b.Holds key ∨ key ∈ s.names := by
  unfold Holds at holds ⊢
  rw [mem_keys_step, openClass_name_step keyed, savedName_step keyed] at holds
  cases s with
  | enter name =>
      dsimp only at holds
      simp only [Step.names, List.mem_singleton]
      rcases holds with ⟨present, -⟩ | ⟨-, same⟩ | saved
      · exact Or.inl (Or.inl present)
      · exact Or.inr same
      · split at saved
        · exact Or.inr (Option.some.inj saved).symm
        · exact Or.inl (Or.inr (Or.inr saved))
  | ready => exact Or.inl holds
  | declare member => exact Or.inl holds
  | close =>
      rcases holds with (present | opened) | ⟨nonempty, same⟩ | saved
      · exact Or.inl (Or.inl present)
      · exact Or.inl (Or.inr (Or.inl opened))
      · exact absurd same nonempty
      · cases saved
  | relate r =>
      simp only [Step.names, List.mem_cons, List.not_mem_nil, or_false]
      rcases holds with (present | named) | held
      · exact Or.inl (Or.inl present)
      · exact Or.inr named
      · exact Or.inl (Or.inr held)

/-- Along a run the names come from the builder at its start or from the steps. -/
theorem holds_run {steps : List Step} (proper : ∀ s ∈ steps, s.IsProper) (named : b.IsNamed)
    (holds : (run settings b steps).Holds key) : b.Holds key ∨ ∃ s ∈ steps, key ∈ s.names := by
  induction steps generalizing b with
  | nil => exact Or.inl holds
  | cons s rest ih =>
      rcases ih (fun t member => proper t (List.mem_cons_of_mem _ member))
        (isNamed_step named (proper s List.mem_cons_self)) holds with earlier | ⟨t, member, stated⟩
      · exact (holds_step named.keyed earlier).imp_right fun stated =>
          ⟨s, List.mem_cons_self, stated⟩
      · exact Or.inr ⟨t, List.mem_cons_of_mem _ member, stated⟩

/-- The end of input brings in no names. -/
theorem holds_of_holds_finish (keyed : b.classes.IsKeyed) {key : Text}
    (holds : (finish settings b).Holds key) : b.Holds key := by
  rcases finish_cases settings b with closed | same | ⟨o, saved, opened, kept, restored⟩
  · rw [closed] at holds
    exact (holds_step keyed holds).resolve_right (List.not_mem_nil)
  · rwa [same] at holds
  · rw [restored] at holds
    have name : b.savedName = some saved.name := by simp [savedName, opened, kept]
    rcases holds with present | ⟨nonempty, current⟩ | again
    · rcases mem_keys_of_mem_keys_restore present with present | rfl
      · exact Or.inl present
      · exact Or.inr (Or.inr name)
    · exact Or.inr (Or.inl ⟨nonempty, by simpa [openClass, opened] using current⟩)
    · refine Or.inr (Or.inr ?_)
      rw [name, ← again]
      exact congrArg some (name_restore saved).symm

/-- A key is there at the end of input only if its name was held. -/
theorem holds_of_mem_keys_finish (named : b.IsNamed)
    (present : key ∈ (finish settings b).classes.keys) : b.Holds key :=
  holds_of_holds_finish named.keyed (Or.inl present)

/-- Steps state names that stand on their lines. -/
theorem mem_names_of_mem_stepsOf {lines : List Text} {s : Step}
    (member : s ∈ stepsOf settings lines) (stated : key ∈ s.names) :
    (∃ line ∈ lines, key ∈ Line.classNames line) ∨
      ∃ r ∈ (stepsOf settings lines).filterMap Step.relation?, key = r.left ∨ key = r.right := by
  obtain ⟨line, inside, here⟩ := List.mem_flatMap.mp member
  rcases Line.mem_steps here with ⟨name, named, rfl⟩ | rfl | ⟨m, -, rfl⟩ | rfl | ⟨r, -, rfl⟩
  · rw [Step.names, List.mem_singleton] at stated
    exact Or.inl ⟨line, inside, stated ▸ Line.classNames_beforeClose line named⟩
  · cases stated
  · cases stated
  · cases stated
  · refine Or.inr ⟨r, List.mem_filterMap.mpr ⟨.relate r, member, rfl⟩, ?_⟩
    simpa [Step.names] using stated

end Builder

/-- Events that are in different places or make different things have different positions. -/
theorem Ledger.nodup_positions (settings : Settings) (l : Ledger) {keys : List Text}
    (nodup : keys.Nodup) :
    (keys.flatMap fun key =>
      l.positions (Event.attribute? settings) (· = .filed key)
        ++ l.positions (Event.operation? settings) (· = .filed key)).Nodup := by
  have either : ∀ e, ¬ ((Event.attribute? settings e).isSome = true ∧
      (Event.operation? settings e).isSome = true) := by
    rintro (member | _) both
    · cases called : member.isOperation <;>
        simp [Event.attribute?, Event.operation?, called] at both
    · simp [Event.operation?] at both
  have place : ∀ i key, i ∈ l.positions (Event.attribute? settings) (· = .filed key)
      ++ l.positions (Event.operation? settings) (· = .filed key) →
      ∃ entry, l[i]? = some entry ∧ entry.2 = .filed key := by
    intro i key member
    rcases List.mem_append.mp member with member | member
    · obtain ⟨entry, found, filed, -⟩ := mem_positions_iff.mp member
      exact ⟨entry, found, by simpa using filed⟩
    · obtain ⟨entry, found, filed, -⟩ := mem_positions_iff.mp member
      exact ⟨entry, found, by simpa using filed⟩
  rw [List.nodup_flatMap]
  refine ⟨fun key _ => ?_, nodup.imp fun {key other} different i here there => ?_⟩
  · refine List.nodup_append'.mpr ⟨List.nodup_findIdxs, List.nodup_findIdxs, fun i here there => ?_⟩
    obtain ⟨entry, found, -, stored⟩ := mem_positions_iff.mp here
    obtain ⟨same, found', -, called⟩ := mem_positions_iff.mp there
    rw [found, Option.some.injEq] at found'
    exact either entry.1 ⟨stored, found' ▸ called⟩
  · obtain ⟨entry, found, filed⟩ := place i key here
    obtain ⟨same, found', filed'⟩ := place i other there
    rw [found, Option.some.injEq] at found'
    rw [← found', filed, Location.filed.injEq] at filed'
    exact different filed'

/-- The events that are filed under a key are the events of the members of that class. -/
theorem Ledger.ownEvents_positions {settings : Settings} {text : Text}
    (accepted : (Builder.start.readText settings text).error = none) :
    OwnEvents settings text (Builder.start.readText settings text).builder.classes
      (fun key => (ofText settings text).positions (Event.attribute? settings) (· = .filed key))
      (fun key => (ofText settings text).positions (Event.operation? settings) (· = .filed key))
    where
  attributes key c found := by
    rw [← events_ofText, ((files_ofText accepted).filed key c found).attributes]
    exact drawnFrom_positions _ _ _
  operations key c found := by
    rw [← events_ofText, ((files_ofText accepted).filed key c found).operations]
    exact drawnFrom_positions _ _ _
  once := nodup_positions settings _ (OrderedMap.nodup _)

/-- Every member of every class of a diagram has an event of its own, and within a class the order
of the events is that of the members. Every key is a name on a line or an end of a relation. -/
theorem members_have_own_events {settings : Settings} {text : Text} {classes : ClassMap}
    (accepted : parse settings text = .ok classes) :
    (∃ attributesAt operationsAt, OwnEvents settings text classes attributesAt operationsAt) ∧
      ∀ key ∈ classes.keys,
        (∃ line ∈ documentLines text, key ∈ Line.classNames line) ∨
          ∃ r ∈ (Builder.start.readText settings text).builder.relations,
            key = r.left ∨ key = r.right := by
  obtain ⟨unrefused, rfl⟩ := parse_eq_ok_iff.mp accepted
  refine ⟨⟨_, _, Ledger.ownEvents_positions unrefused⟩, fun key present => ?_⟩
  have proper : ∀ s ∈ Builder.stepsOf settings (documentLines text), s.IsProper :=
    Builder.stepsOf_isProper _
  rw [Builder.readText_eq_run unrefused] at present ⊢
  rw [Builder.relations_finish, Builder.relations_run]
  have holds := Builder.holds_of_mem_keys_finish
    (Builder.isNamed_run proper Builder.isNamed_start) present
  rcases Builder.holds_run proper Builder.isNamed_start holds with never | ⟨s, member, stated⟩
  · simp [Builder.Holds, Builder.start, Builder.savedName, Class.blank] at never
  · exact Builder.mem_names_of_mem_stepsOf member stated

/-- A class gets an attribute from a relation, is opened again and is not closed. -/
def droppedText : Text :=
  "class A \x7b\nint x\nint f()\n\x7d\nB \"1\" -- \"N\" A\nclass a \x7b\nint y".toList

/-- The class is back at the end, without the member of the block that was not closed. -/
def droppedClasses : ClassMap :=
  ⟨[("B".toList, ⟨"B".toList, [], []⟩),
    ("A".toList, ⟨"A".toList,
      [⟨.primitive .integer, "x".toList⟩, ⟨.foreignKey "B".toList, "B_fk".toList⟩],
      [⟨.primitive .integer, "f".toList, []⟩]⟩)], by decide⟩

theorem members_have_own_events_dropped :
    parse {} droppedText = .ok droppedClasses ∧
      (∃ attributesAt operationsAt,
        OwnEvents {} droppedText droppedClasses attributesAt operationsAt) ∧
        ∀ key ∈ droppedClasses.keys,
          (∃ line ∈ documentLines droppedText, key ∈ Line.classNames line) ∨
            ∃ r ∈ (Builder.start.readText {} droppedText).builder.relations,
              key = r.left ∨ key = r.right :=
  have accepted : parse {} droppedText = .ok droppedClasses := by decide +kernel
  ⟨accepted, members_have_own_events accepted⟩

end ClassDiagram
