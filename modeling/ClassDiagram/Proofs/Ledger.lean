import ClassDiagram.Proofs.Names

/-!
# Where every member ends up

The events of a run are the members that its steps declare and the attributes that its relations
add. A ledger lists the events in their order, each with the place where it is now: in a class of
the mapping, in the open class, in the open class and its kept copy, or nowhere. A step moves an
event from place to place by looking at names only, so a ledger says what becomes of every event
without a look at the classes themselves.
-/

namespace ClassDiagram

/-- What a line brings into the classes. -/
inductive Event where
  /-- A member that the line declares. -/
  | declared (member : Line.Member)
  /-- An attribute that a relation adds to its target. -/
  | injected (target : Text) (field : Attribute)
  deriving DecidableEq

namespace Event

/-- The attribute that an event makes. -/
def attribute? (settings : Settings) : Event → Option Attribute
  | .declared member =>
      if member.isOperation then none
      else some ⟨DataType.ofToken member.typeToken, settings.memberName member.name⟩
  | .injected _ field => some field

/-- The operation that an event makes. -/
def operation? (settings : Settings) : Event → Option Operation
  | .declared member =>
      if member.isOperation then
        some ⟨DataType.ofToken member.typeToken, settings.memberName member.name, []⟩
      else none
  | .injected _ _ => none

end Event

/-- The event that a relation makes. -/
def Relation.event? (suffix : Text) (r : Relation) : Option Event :=
  (r.injected suffix).map fun field => .injected field.1 field.2

/-- The event that a step makes. -/
def Step.event? (suffix : Text) : Step → Option Event
  | .declare member => some (.declared member)
  | .relate relation => relation.event? suffix
  | _ => none

/-- The events of a line: first the member that it declares, then the attribute that its relation
adds. A line with the root keyword has none. -/
def Line.events (settings : Settings) (line : Text) : List Event :=
  if isSectionMarker settings.sectionMarker line then []
  else
    (member? (memberSegment line)).toList.map .declared
      ++ ((relation? line).bind (Relation.event? settings.foreignKeySuffix)).toList

/-- The events of a text, line by line. -/
def documentEvents (settings : Settings) (text : Text) : List Event :=
  (documentLines text).flatMap (Line.events settings)

/-- Where an event is. -/
inductive Location where
  /-- In the class of the mapping under a key. -/
  | filed (key : Text)
  /-- In the open class, and in its kept copy if there is one that has it too. -/
  | opened (kept : Bool)
  /-- In no class any more. -/
  | gone
  deriving DecidableEq

namespace Location

/-- Whether the place is the open class. -/
def isOpened : Location → Bool
  | .opened _ => true
  | _ => false

@[simp] theorem isOpened_filed (key : Text) : isOpened (.filed key) = false :=
  rfl

@[simp] theorem isOpened_opened (kept : Bool) : isOpened (.opened kept) = true :=
  rfl

@[simp] theorem isOpened_gone : isOpened .gone = false :=
  rfl

/-- The place of an event after a step. A header opens the class that it names, so what was open
before is lost if that class is known and otherwise goes on under the new name. A brace puts what is
open in place of what the mapping has under the same name. -/
def after (b : Builder) : Step → Location → Location
  | .enter name, .filed key => if key = name then .opened true else .filed key
  | .enter name, .opened kept => if b.classes.contains name then .gone else .opened kept
  | .close, .filed key => if key ≠ [] ∧ key = b.openClass.name then .gone else .filed key
  | .close, .opened _ => if b.openClass.name = [] then .gone else .filed b.openClass.name
  | _, place => place

/-- The place of an event at the end of input: as after a brace if the open class is to be kept,
otherwise only the kept copy goes back. -/
def atEnd (settings : Settings) (b : Builder) (place : Location) : Location :=
  if settings.flushUnterminated then after b .close place
  else
    match place with
    | .opened true => b.savedName.elim .gone .filed
    | .opened false => .gone
    | place => place

variable {b : Builder} {name key : Text}

/-- A header of a known class leaves every other class where it is. -/
theorem after_enter_eq_filed_iff (known : name ∈ b.classes.keys) (place : Location) :
    after b (.enter name) place = .filed key ↔ place = .filed key ∧ key ≠ name := by
  cases place with
  | filed other =>
      by_cases same : other = name
      · simp only [after, same, if_true, reduceCtorEq, Location.filed.injEq, false_iff]
        exact fun both => both.2 both.1.symm
      · simp only [after, same, if_false, Location.filed.injEq]
        exact ⟨fun equal => ⟨equal, equal ▸ same⟩, And.left⟩
  | opened kept => simp [after, OrderedMap.contains_iff, known]
  | gone => simp [after]

/-- A header of a known class opens that class, and keeps a copy of all of it. -/
theorem after_enter_eq_opened_iff (known : name ∈ b.classes.keys) (place : Location) (kept : Bool) :
    after b (.enter name) place = .opened kept ↔ kept = true ∧ place = .filed name := by
  cases place with
  | filed other =>
      by_cases same : other = name
      · simp [after, same, eq_comm]
      · simp [after, same]
  | opened other => simp [after, OrderedMap.contains_iff, known]
  | gone => simp [after]

/-- A brace files what is open under the name of the open class, in place of what was there. -/
theorem after_close_eq_filed_iff (named : b.openClass.name ≠ []) (place : Location) :
    after b .close place = .filed key ↔
      if key = b.openClass.name then place.isOpened = true else place = .filed key := by
  cases place with
  | filed other =>
      by_cases same : other = b.openClass.name
      · simp only [after, same, named, ne_eq, not_false_eq_true, and_self, if_true, isOpened]
        split
        · simp
        · rename_i different
          simpa using Ne.symm different
      · simp only [after, same, and_false, if_false, Location.filed.injEq, isOpened]
        split
        · rename_i equal
          simpa [equal] using same
        · rfl
  | opened kept =>
      by_cases same : key = b.openClass.name <;> simp [after, named, isOpened, same, eq_comm]
  | gone => simp [after, isOpened]

/-- After a brace nothing is open. -/
theorem isOpened_after_close (place : Location) : (after b .close place).isOpened = false := by
  cases place with
  | filed other =>
      simp only [after]
      split <;> rfl
  | opened kept =>
      simp only [after]
      split <;> rfl
  | gone => rfl

/-- At the end of input, what is dropped leaves in its place only what the kept copy has. -/
theorem atEnd_eq_filed_iff {settings : Settings} (unflushed : settings.flushUnterminated = false)
    (place : Location) :
    atEnd settings b place = .filed key ↔
      place = .filed key ∨ b.savedName = some key ∧ place = .opened true := by
  cases place with
  | filed other => simp [atEnd, unflushed]
  | opened kept =>
      cases kept with
      | true => cases saved : b.savedName <;> simp [atEnd, unflushed, saved]
      | false => simp [atEnd, unflushed]
  | gone => simp [atEnd, unflushed]

theorem isOpened_iff {place : Location} : place.isOpened = true ↔ ∃ kept, place = .opened kept := by
  cases place <;> simp [isOpened]

end Location

/-- The place of an event when it happens. -/
def Event.origin (b : Builder) : Event → Location
  | .declared _ => if b.opened.isSome then .opened false else .gone
  | .injected target _ => .filed target

/-- The events of a run in their order, each with its place. -/
abbrev Ledger := List (Event × Location)

namespace Ledger

/-- The events of the places that satisfy `p`. -/
def eventsAt (p : Location → Bool) (l : Ledger) : List Event :=
  (l.filter fun entry => p entry.2).map Prod.fst

/-- The ledger with every event moved. -/
def move (f : Location → Location) (l : Ledger) : Ledger :=
  l.map fun entry => (entry.1, f entry.2)

/-- The ledger after a step. -/
def step (settings : Settings) (b : Builder) (l : Ledger) (s : Step) : Ledger :=
  l.move (Location.after b s)
    ++ (s.event? settings.foreignKeySuffix).toList.map fun e => (e, e.origin b)

/-- The ledger after steps that begin at the builder `b`. -/
def run (settings : Settings) : Builder → Ledger → List Step → Ledger
  | _, l, [] => l
  | b, l, s :: rest => run settings (b.step settings s) (l.step settings b s) rest

/-- The ledger of a whole text. -/
def ofText (settings : Settings) (text : Text) : Ledger :=
  let steps := Builder.stepsOf settings (documentLines text)
  (run settings .start [] steps).move (Location.atEnd settings (.run settings .start steps))

theorem eventsAt_cons (p : Location → Bool) (entry : Event × Location) (l : Ledger) :
    eventsAt p (entry :: l) = (if p entry.2 then [entry.1] else []) ++ eventsAt p l := by
  by_cases inside : p entry.2 = true <;> simp [eventsAt, inside]

theorem eventsAt_append (p : Location → Bool) (l m : Ledger) :
    eventsAt p (l ++ m) = eventsAt p l ++ eventsAt p m := by
  simp [eventsAt]

theorem eventsAt_snoc (p : Location → Bool) (l : Ledger) (e : Event) (place : Location) :
    eventsAt p (l ++ [(e, place)]) = eventsAt p l ++ if p place then [e] else [] := by
  rw [eventsAt_append, eventsAt_cons]
  exact congrArg _ (List.append_nil _)

theorem eventsAt_move (p : Location → Bool) (f : Location → Location) (l : Ledger) :
    eventsAt p (l.move f) = eventsAt (fun place => p (f place)) l := by
  simp [eventsAt, move, List.filter_map, Function.comp_def]

theorem eventsAt_congr {p q : Location → Bool} {l : Ledger}
    (same : ∀ entry ∈ l, p entry.2 = q entry.2) :
    eventsAt p l = eventsAt q l :=
  congrArg (List.map Prod.fst) (List.filter_congr same)

theorem eventsAt_eq_nil {p : Location → Bool} {l : Ledger}
    (nowhere : ∀ entry ∈ l, p entry.2 = false) :
    eventsAt p l = [] := by
  rw [eventsAt, List.filter_eq_nil_iff.mpr fun entry member => by simp [nowhere entry member]]
  rfl

theorem move_eq_self {f : Location → Location} {l : Ledger}
    (stays : ∀ entry ∈ l, f entry.2 = entry.2) :
    l.move f = l := by
  rw [move]
  conv => rhs; rw [← List.map_id l]
  exact List.map_congr_left fun entry member => by simp [stays entry member]

/-- Nothing changes for places that no event moves to or from. -/
theorem eventsAt_move_of_iff {f : Location → Location} {p q : Location → Bool} {l : Ledger}
    (same : ∀ place, p (f place) = q place) : eventsAt p (l.move f) = eventsAt q l := by
  rw [eventsAt_move]
  exact eventsAt_congr fun entry _ => same entry.2

/-- Events of two places come one place after the other if none of the second place is older than
one of the first. -/
theorem eventsAt_eq_append {p q r : Location → Bool} {l : Ledger}
    (either : ∀ place, r place = (p place || q place))
    (apart : ∀ place, p place = true → q place = false)
    (older : l.Pairwise fun x y => ¬ (q x.2 = true ∧ p y.2 = true)) :
    eventsAt r l = eventsAt p l ++ eventsAt q l := by
  induction l with
  | nil => rfl
  | cons entry rest ih =>
      obtain ⟨first, others⟩ := List.pairwise_cons.mp older
      rw [eventsAt_cons, eventsAt_cons, eventsAt_cons, ih others, either]
      cases inSecond : q entry.2 with
      | false => simp
      | true =>
          have outsideFirst : ∀ y ∈ entry :: rest, p y.2 = false := by
            rw [List.forall_mem_cons]
            refine ⟨Bool.eq_false_iff.mpr fun inFirst => ?_, fun y member => ?_⟩
            · rw [apart _ inFirst] at inSecond
              cases inSecond
            · exact Bool.eq_false_iff.mpr fun inFirst => first y member ⟨inSecond, inFirst⟩
          rw [List.forall_mem_cons] at outsideFirst
          simp [outsideFirst.1, eventsAt_eq_nil outsideFirst.2]

/-- Moving an event from its place does not change what the event is. -/
theorem events_move (f : Location → Location) (l : Ledger) :
    (l.move f).map Prod.fst = l.map Prod.fst := by
  simp [move, Function.comp_def]

/-- The events of a run are those of its steps, in their order. -/
theorem events_run (settings : Settings) (b : Builder) (l : Ledger) (steps : List Step) :
    (run settings b l steps).map Prod.fst
      = l.map Prod.fst ++ steps.filterMap (Step.event? settings.foreignKeySuffix) := by
  induction steps generalizing b l with
  | nil => simp [run]
  | cons s rest ih =>
      rw [run, ih, step, List.map_append, events_move, List.map_map]
      cases made : s.event? settings.foreignKeySuffix <;> simp [made]

end Ledger

theorem Line.filterMap_steps (settings : Settings) (line : Text) :
    (Line.steps settings.sectionMarker line).filterMap (Step.event? settings.foreignKeySuffix)
      = Line.events settings line := by
  unfold Line.steps Line.events
  split
  · rfl
  · have names : ∀ names : List Text,
        (names.map Step.enter).filterMap (Step.event? settings.foreignKeySuffix) = [] := by
      intro names
      simp [List.filterMap_map, Function.comp_def, Step.event?]
    have others : ∀ (p : Prop) [Decidable p] (s : Step), s.event? settings.foreignKeySuffix = none →
        (if p then [s] else []).filterMap (Step.event? settings.foreignKeySuffix) = [] := by
      intro p _ s silent
      split <;> simp [silent]
    simp only [List.filterMap_append, names, others _ .ready rfl, others _ .close rfl,
      List.nil_append, List.append_nil]
    congr 1
    · cases Line.member? (Line.memberSegment line) <;> rfl
    · cases Line.relation? line with
      | none => rfl
      | some r => cases made : r.event? settings.foreignKeySuffix <;> simp [Step.event?, made]

/-- The ledger of a text lists the events of its lines. -/
theorem Ledger.events_ofText (settings : Settings) (text : Text) :
    (ofText settings text).map Prod.fst = documentEvents settings text := by
  rw [ofText, events_move, events_run, List.map_nil, List.nil_append, Builder.stepsOf,
    List.filterMap_flatMap, documentEvents]
  simp only [Line.filterMap_steps]

namespace Class

/-- A class consists of events if its attributes and its operations are those that the events make,
in their order. -/
structure ConsistsOf (settings : Settings) (events : List Event) (c : Class) : Prop where
  attributes : c.attributes = events.filterMap (Event.attribute? settings)
  operations : c.operations = events.filterMap (Event.operation? settings)

namespace ConsistsOf

variable {settings : Settings} {events : List Event} {c : Class}

theorem blank (name : Text) : ConsistsOf settings [] ⟨name, [], []⟩ :=
  ⟨rfl, rfl⟩

theorem rename (made : ConsistsOf settings events c) (name : Text) :
    ConsistsOf settings events { c with name := name } :=
  ⟨made.attributes, made.operations⟩

theorem declare (made : ConsistsOf settings events c) (member : Line.Member) :
    ConsistsOf settings (events ++ [.declared member]) (c.declare settings member) := by
  obtain ⟨attributes, operations⟩ := made
  unfold Class.declare
  split
  · rename_i called
    constructor <;> simp [addOperation, attributes, operations, Event.attribute?, Event.operation?,
      called]
  · rename_i stored
    constructor <;> simp [addAttribute, attributes, operations, Event.attribute?, Event.operation?,
      stored]

theorem inject (made : ConsistsOf settings events c) (target : Text) (field : Attribute) :
    ConsistsOf settings (events ++ [.injected target field]) (c.addAttribute field) := by
  obtain ⟨attributes, operations⟩ := made
  constructor <;> simp [addAttribute, attributes, operations, Event.attribute?, Event.operation?]

theorem absorb {others : List Event} {d : Class} (made : ConsistsOf settings events c)
    (added : ConsistsOf settings others d) :
    ConsistsOf settings (events ++ others) (c.absorb d) := by
  constructor
  · simp [Class.absorb, made.attributes, added.attributes]
  · simp [Class.absorb, made.operations, added.operations]

end ConsistsOf

end Class

end ClassDiagram
