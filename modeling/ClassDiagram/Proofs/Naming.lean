import ClassDiagram.Proofs.Provenance
import ClassDiagram.Proofs.Refusals

/-!
# What the naming settings change

Two of the settings say how members are named: whether they keep their case, and the ending of the
names that relations make. A step never looks at the name of a member. What it does follows from the
names of classes alone, so under two settings that differ in naming only, every event of a text ends
up in the same place of the same class, and only the name that it gives its member differs.
-/

namespace ClassDiagram

/-- The names of classes in a builder: the keys of the mapping in their order, the name of the open
class if there is one, and the name of the kept copy. -/
structure Outline where
  keys : List Text
  opened : Option Text
  saved : Option Text

namespace Outline

/-- Keys with a name, at the end if it is new. -/
def addKey (keys : List Text) (name : Text) : List Text :=
  if keys.contains name then keys else keys ++ [name]

/-- The names after a step. -/
def step (names : Outline) : Step → Outline
  | .enter name =>
      if names.keys.contains name then ⟨names.keys.filter (· ≠ name), some name, some name⟩
      else { names with opened := some name }
  | .ready => { names with opened := some (names.opened.getD []) }
  | .declare _ => names
  | .close =>
      match names.opened with
      | none => names
      | some name => ⟨if name = [] then names.keys else addKey names.keys name, none, none⟩
  | .relate r => { names with keys := addKey (addKey names.keys r.left) r.right }

/-- The keys of the mapping at the end of input. -/
def keysAtEnd (flush : Bool) (names : Outline) : List Text :=
  if flush then (names.step .close).keys
  else
    match names.saved with
    | none => names.keys
    | some name => addKey names.keys name

end Outline

theorem OrderedMap.keys_insert_eq_addKey {α : Type} (m : OrderedMap α) (key : Text) (value : α) :
    (m.insert key value).keys = Outline.addKey m.keys key := by
  rw [keys_insert, Outline.addKey]
  exact if_congr List.contains_iff_mem.symm rfl rfl

/-- A relation adds its two classes to the keys, the left one first. -/
theorem ClassMap.keys_related (suffix : Text) (classes : ClassMap) (r : Relation) :
    (ClassMap.related suffix classes r).keys
      = Outline.addKey (Outline.addKey classes.keys r.left) r.right := by
  have ensured : ∀ (classes : ClassMap) (name : Text),
      (ClassMap.ensure classes name).keys = Outline.addKey classes.keys name := by
    intro classes name
    unfold ClassMap.ensure
    split
    · rename_i present
      exact (if_pos present).symm
    · exact classes.keys_insert_eq_addKey name _
  rw [← ensured classes, ← ensured (ClassMap.ensure classes r.left)]
  unfold ClassMap.related
  cases injected : r.injected suffix with
  | none => rfl
  | some pair =>
      obtain ⟨key, field⟩ := pair
      have present := ClassMap.mem_keys_of_injected classes injected
      obtain ⟨c, found⟩ := OrderedMap.mem_keys_iff.mp present
      simp only [found, OrderedMap.keys_insert, present, if_true]

namespace Builder

variable {settings other : Settings} {b b' : Builder}

/-- The names of the classes in a builder. -/
def outline (b : Builder) : Outline :=
  ⟨b.classes.keys, b.opened.map fun o => o.current.name, b.savedName⟩

theorem openClass_name_eq (b : Builder) : b.openClass.name = b.outline.opened.getD [] := by
  obtain ⟨classes, relations, _ | o⟩ := b <;> rfl

/-- What a step does to the names of classes follows from these names, whatever the settings. -/
theorem outline_step (keyed : b.classes.IsKeyed) (s : Step) :
    (step settings b s).outline = b.outline.step s := by
  obtain ⟨classes, relations, opened⟩ := b
  cases s with
  | enter name =>
      cases found : classes.get? name with
      | some c =>
          have present := OrderedMap.mem_keys_of_get? found
          have named : c.name = name := keyed name c found
          simp [outline, Outline.step, step, openName, found, present, named, savedName, Saved.name]
      | none =>
          have absent := OrderedMap.get?_eq_none_iff.mp found
          cases opened <;>
            simp [outline, Outline.step, step, openName, found, absent, savedName, OpenClass.blank]
  | ready => cases opened <;> rfl
  | declare m => cases opened <;> simp [outline, Outline.step, step, savedName]
  | close =>
      cases opened with
      | none => rfl
      | some o =>
          by_cases unnamed : o.current.name = []
          · simp [outline, Outline.step, step, close, unnamed, savedName]
          · simp [outline, Outline.step, step, close, unnamed, savedName,
              OrderedMap.keys_insert_eq_addKey]
  | relate r => simp [outline, Outline.step, step, savedName, ClassMap.keys_related]

/-- The steps of lines are found with the root keyword alone. -/
theorem stepsOf_congr (marker : other.sectionMarker = settings.sectionMarker) (lines : List Text) :
    stepsOf other lines = stepsOf settings lines := by
  rw [stepsOf, stepsOf, marker]

/-- The end of input finds the keys that it leaves in the names alone, too. -/
theorem keys_finish (named : b.IsNamed) :
    (finish settings b).classes.keys = b.outline.keysAtEnd settings.flushUnterminated := by
  cases flush : settings.flushUnterminated with
  | true =>
      have closed : (step settings b .close).outline = b.outline.step .close :=
        outline_step named.keyed .close
      rw [finish_of_flush flush]
      exact congrArg Outline.keys closed
  | false =>
      cases kept : b.savedName with
      | none =>
          rw [finish_of_unsaved flush kept]
          simp [Outline.keysAtEnd, kept, outline]
      | some name =>
          obtain ⟨o, opened, c, copy, rfl⟩ := named.copy_of_savedName kept
          rw [classes_finish_of_copy flush opened copy, OrderedMap.keys_insert_eq_addKey]
          simp [Outline.keysAtEnd, kept, outline]

end Builder

/-- What two settings make of one event: the same member, or attributes of one type that are named
after the class which the type refers to, each with the ending of its settings. -/
inductive Event.Counterparts (settings other : Settings) : Event → Event → Prop where
  | declared (member : Line.Member) : Counterparts settings other (.declared member) (.declared member)
  | injected (target endpoint : Text) (type : DataType) (refers : type.target = some endpoint)
      (capital : Text.upper endpoint = endpoint) :
      Counterparts settings other
        (.injected target ⟨type, endpoint ++ settings.foreignKeySuffix⟩)
        (.injected target ⟨type, endpoint ++ other.foreignKeySuffix⟩)

/-- Two ledgers with counterparts in the same places. -/
def Ledger.Twins (settings other : Settings) (l l' : Ledger) : Prop :=
  List.Forall₂ (fun x y => Event.Counterparts settings other x.1 y.1 ∧ x.2 = y.2) l l'

namespace Location

variable {settings other : Settings} {b b' : Builder}

/-- Where a step moves an event follows from the names of classes. -/
theorem after_congr (same : b'.outline = b.outline) (s : Step) : after b' s = after b s := by
  have keys : b'.classes.keys = b.classes.keys := congrArg Outline.keys same
  have name : b'.openClass.name = b.openClass.name := by
    rw [Builder.openClass_name_eq, Builder.openClass_name_eq, same]
  funext place
  cases s <;> cases place <;> simp [after, OrderedMap.contains, keys, name]

theorem atEnd_congr (flush : other.flushUnterminated = settings.flushUnterminated)
    (same : b'.outline = b.outline) : atEnd other b' = atEnd settings b := by
  have saved : b'.savedName = b.savedName := congrArg Outline.saved same
  funext place
  simp only [atEnd, flush, after_congr same, saved]

end Location

/-- What a relation adds under two settings are counterparts in one class, or nothing. -/
theorem Relation.counterparts_event? (settings other : Settings) {r : Relation}
    (capital : r.Capital) :
    Option.Rel (Event.Counterparts settings other) (r.event? settings.foreignKeySuffix)
      (r.event? other.foreignKeySuffix) := by
  unfold Relation.event? Relation.injected
  split
  · exact .some (.injected r.right r.left _ rfl capital.left)
  · exact .some (.injected r.left r.right _ rfl capital.right)
  · exact .some (.injected r.left r.right _ rfl capital.right)
  · exact .none

namespace Step

/-- A step makes counterparts under two settings, or nothing. -/
theorem counterparts_event? (settings other : Settings) {s : Step} (proper : s.IsProper) :
    Option.Rel (Event.Counterparts settings other) (s.event? settings.foreignKeySuffix)
      (s.event? other.foreignKeySuffix) := by
  cases s with
  | declare member => exact .some (.declared member)
  | relate r => exact r.counterparts_event? settings other proper
  | enter name => exact .none
  | ready => exact .none
  | close => exact .none

end Step

namespace Ledger

variable {settings other : Settings} {b b' : Builder} {l l' : Ledger}

/-- Counterparts begin in the same place. -/
theorem origin_eq (same : b'.outline = b.outline) {e e' : Event}
    (counterparts : Event.Counterparts settings other e e') : e'.origin b' = e.origin b := by
  have opened : b'.opened.isSome = b.opened.isSome := by
    have names := congrArg (fun names => names.opened.isSome) same
    simpa [Builder.outline] using names
  cases counterparts with
  | declared member => simp only [Event.origin, opened]
  | injected target endpoint type refers capital => rfl

theorem Twins.move (twins : Twins settings other l l') (f : Location → Location) :
    Twins settings other (l.move f) (l'.move f) :=
  List.forall₂_map_left_iff.mpr (List.forall₂_map_right_iff.mpr
    (twins.imp fun _ _ pair => ⟨pair.1, congrArg f pair.2⟩))

theorem Twins.step (twins : Twins settings other l l') (same : b'.outline = b.outline) {s : Step}
    (proper : s.IsProper) :
    Twins settings other (l.step settings b s) (l'.step other b' s) := by
  rw [Ledger.step, Ledger.step, Location.after_congr same]
  refine List.rel_append (twins.move _) ?_
  have made := s.counterparts_event? settings other proper
  generalize s.event? settings.foreignKeySuffix = event at made ⊢
  generalize s.event? other.foreignKeySuffix = event' at made ⊢
  cases made with
  | none => exact .nil
  | some counterparts =>
      exact .cons ⟨counterparts, (origin_eq same counterparts).symm⟩ .nil

/-- Under two settings the same steps lead to builders with the same names and to ledgers with
counterparts in the same places. -/
theorem Twins.run (twins : Twins settings other l l') (same : b'.outline = b.outline)
    (named : b.IsNamed) (named' : b'.IsNamed) {steps : List Step}
    (proper : ∀ s ∈ steps, s.IsProper) :
    (b'.run other steps).outline = (b.run settings steps).outline ∧
      Twins settings other (run settings b l steps) (run other b' l' steps) := by
  induction steps generalizing b b' l l' with
  | nil => exact ⟨same, twins⟩
  | cons s rest ih =>
      have first : s.IsProper := proper s List.mem_cons_self
      have next : (b'.step other s).outline = (b.step settings s).outline := by
        rw [Builder.outline_step named'.keyed, Builder.outline_step named.keyed, same]
      exact ih (twins.step same first) next (Builder.isNamed_step named first)
        (Builder.isNamed_step named' first) fun t member => proper t (List.mem_cons_of_mem _ member)

theorem Twins.events (twins : Twins settings other l l') :
    List.Forall₂ (Event.Counterparts settings other) (l.map Prod.fst) (l'.map Prod.fst) :=
  List.forall₂_map_left_iff.mpr (List.forall₂_map_right_iff.mpr
    (twins.imp fun _ _ pair => pair.1))

theorem Twins.eventsAt (twins : Twins settings other l l') (p : Location → Bool) :
    List.Forall₂ (Event.Counterparts settings other) (l.eventsAt p) (l'.eventsAt p) := by
  refine Twins.events (List.rel_filter ?_ twins)
  rintro x y ⟨-, same⟩
  exact iff_of_eq (congrArg (fun place => p place = true) same)

theorem isSome_eq_of_rel {α : Type} {R : α → α → Prop} {x y : Option α} (rel : Option.Rel R x y) :
    y.isSome = x.isSome := by
  cases rel <;> rfl

/-- Counterparts that make something are found at the same positions. -/
theorem Twins.positions_eq {α : Type} {R : α → α → Prop} {make make' : Event → Option α}
    (alike : ∀ e e', Event.Counterparts settings other e e' → Option.Rel R (make e) (make' e'))
    (twins : Twins settings other l l') (p : Location → Bool) :
    l'.positions make' p = l.positions make p := by
  have shifted : ∀ start,
      l'.findIdxs (fun entry => p entry.2 && (make' entry.1).isSome) start
        = l.findIdxs (fun entry => p entry.2 && (make entry.1).isSome) start := by
    induction twins with
    | nil => exact fun start => rfl
    | cons pair rest ih =>
        intro start
        have made : (make' _).isSome = (make _).isSome := isSome_eq_of_rel (alike _ _ pair.1)
        rw [List.findIdxs_cons, List.findIdxs_cons, ih, pair.2, made]
  exact shifted 0

/-- Two readings of a text leave counterparts in the same places. -/
theorem twins_ofText (marker : other.sectionMarker = settings.sectionMarker)
    (flush : other.flushUnterminated = settings.flushUnterminated) (text : Text) :
    Twins settings other (ofText settings text) (ofText other text) := by
  have proper : ∀ s ∈ Builder.stepsOf settings (documentLines text), s.IsProper :=
    Builder.stepsOf_isProper _
  have run := Twins.run (.nil : Twins settings other [] []) rfl Builder.isNamed_start
    Builder.isNamed_start proper
  rw [ofText, ofText, Builder.stepsOf_congr marker, Location.atEnd_congr flush run.1]
  exact run.2.move _

end Ledger

/-- Two names that one written name has under two settings. -/
structure Settings.NameAlike (settings other : Settings) (name name' : Text) : Prop where
  written : ∃ word, name = settings.memberName word ∧ name' = other.memberName word
  lowered : settings.preserveMemberCase = true → other.preserveMemberCase = false →
    name' = Text.lower name

theorem Settings.nameAlike_memberName (settings other : Settings) (word : Text) :
    Settings.NameAlike settings other (settings.memberName word) (other.memberName word) where
  written := ⟨word, rfl, rfl⟩
  lowered kept lowered := by simp [memberName, kept, lowered]

/-- Two attributes of one type. Either both are declared under the same word, or both are named
after the class that they refer to, each with the ending of its settings. -/
inductive Attribute.Counterparts (settings other : Settings) : Attribute → Attribute → Prop where
  | declared (type : DataType) {name name' : Text}
      (alike : Settings.NameAlike settings other name name') :
      Counterparts settings other ⟨type, name⟩ ⟨type, name'⟩
  | injected (type : DataType) {endpoint : Text} (refers : type.target = some endpoint)
      (capital : Text.upper endpoint = endpoint) :
      Counterparts settings other ⟨type, endpoint ++ settings.foreignKeySuffix⟩
        ⟨type, endpoint ++ other.foreignKeySuffix⟩

/-- Two operations of one type that are declared under the same word. -/
inductive Operation.Counterparts (settings other : Settings) : Operation → Operation → Prop where
  | declared (type : DataType) (params : List Attribute) {name name' : Text}
      (alike : Settings.NameAlike settings other name name') :
      Counterparts settings other ⟨type, name, params⟩ ⟨type, name', params⟩

namespace Event.Counterparts

variable {settings other : Settings} {e e' : Event}

theorem attribute? (counterparts : Counterparts settings other e e') :
    Option.Rel (Attribute.Counterparts settings other) (e.attribute? settings)
      (e'.attribute? other) := by
  cases counterparts with
  | declared member =>
      simp only [Event.attribute?]
      split
      · exact .none
      · exact .some (.declared _ (settings.nameAlike_memberName other member.name))
  | injected target endpoint type refers capital => exact .some (.injected type refers capital)

theorem operation? (counterparts : Counterparts settings other e e') :
    Option.Rel (Operation.Counterparts settings other) (e.operation? settings)
      (e'.operation? other) := by
  cases counterparts with
  | declared member =>
      simp only [Event.operation?]
      split
      · exact .some (.declared _ [] (settings.nameAlike_memberName other member.name))
      · exact .none
  | injected target endpoint type refers capital => exact .none

end Event.Counterparts

/-- Classes that two settings make of one text, with the same positions of the events that make
their members. They have the same keys and names of classes, and members of the same types. The
events of the two readings tell which members are declared and which are added by relations. -/
structure DifferInMemberNames (settings other : Settings) (text : Text) (classes renamed : ClassMap)
    (attributesAt operationsAt : Text → List Nat) : Prop where
  keys : renamed.keys = classes.keys
  names : ∀ key c d, classes.get? key = some c → renamed.get? key = some d → d.name = c.name
  attributes : ∀ key c d, classes.get? key = some c → renamed.get? key = some d →
    List.Forall₂ (Attribute.Counterparts settings other) c.attributes d.attributes
  operations : ∀ key c d, classes.get? key = some c → renamed.get? key = some d →
    List.Forall₂ (Operation.Counterparts settings other) c.operations d.operations
  events : List.Forall₂ (Event.Counterparts settings other) (documentEvents settings text)
    (documentEvents other text)
  here : OwnEvents settings text classes attributesAt operationsAt
  there : OwnEvents other text renamed attributesAt operationsAt

section Readings

variable {settings other : Settings} {text : Text}

theorem keys_readText_congr (marker : other.sectionMarker = settings.sectionMarker)
    (flush : other.flushUnterminated = settings.flushUnterminated)
    (accepted : (Builder.start.readText settings text).error = none)
    (accepted' : (Builder.start.readText other text).error = none) :
    (Builder.start.readText other text).builder.classes.keys
      = (Builder.start.readText settings text).builder.classes.keys := by
  have proper : ∀ s ∈ Builder.stepsOf settings (documentLines text), s.IsProper :=
    Builder.stepsOf_isProper _
  have run := Ledger.Twins.run (.nil : Ledger.Twins settings other [] []) rfl Builder.isNamed_start
    Builder.isNamed_start proper
  rw [Builder.readText_eq_run accepted, Builder.readText_eq_run accepted',
    Builder.stepsOf_congr marker,
    Builder.keys_finish (Builder.isNamed_run proper Builder.isNamed_start),
    Builder.keys_finish (Builder.isNamed_run proper Builder.isNamed_start), flush, run.1]

/-- Of a text that they do not refuse, two settings make classes with the same keys. -/
theorem keys_parse_congr (marker : other.sectionMarker = settings.sectionMarker)
    (flush : other.flushUnterminated = settings.flushUnterminated) {classes renamed : ClassMap}
    (parsed : parse settings text = .ok classes) (parsed' : parse other text = .ok renamed) :
    renamed.keys = classes.keys := by
  obtain ⟨accepted, rfl⟩ := parse_eq_ok_iff.mp parsed
  obtain ⟨accepted', rfl⟩ := parse_eq_ok_iff.mp parsed'
  exact keys_readText_congr marker flush accepted accepted'

/-- Every class that a text gives stands under its own name. -/
theorem isKeyed_readText (accepted : (Builder.start.readText settings text).error = none) :
    (Builder.start.readText settings text).builder.classes.IsKeyed := by
  have proper : ∀ s ∈ Builder.stepsOf settings (documentLines text), s.IsProper :=
    Builder.stepsOf_isProper _
  rw [Builder.readText_eq_run accepted]
  exact Builder.isKeyed_finish (Builder.isNamed_run proper Builder.isNamed_start).keyed

end Readings

/-- Two settings that differ only in how they name members refuse the same texts, with the same
error. Of every other text they make classes that differ only in the names of members. -/
theorem naming_settings_change_member_names {settings other : Settings}
    (marker : other.sectionMarker = settings.sectionMarker)
    (flush : other.flushUnterminated = settings.flushUnterminated) (text : Text) :
    (∃ e, parse settings text = .error e ∧ parse other text = .error e) ∨
      ∃ classes renamed, parse settings text = .ok classes ∧ parse other text = .ok renamed ∧
        ∃ attributesAt operationsAt,
          DifferInMemberNames settings other text classes renamed attributesAt operationsAt := by
  cases parsed : parse settings text with
  | error e => exact Or.inl ⟨e, rfl, (parse_eq_error_congr marker).mpr parsed⟩
  | ok classes =>
      cases parsed' : parse other text with
      | error e =>
          rw [(parse_eq_error_congr marker).mp parsed'] at parsed
          cases parsed
      | ok renamed =>
          refine Or.inr ⟨classes, renamed, rfl, rfl, ?_⟩
          obtain ⟨accepted, rfl⟩ := parse_eq_ok_iff.mp parsed
          obtain ⟨accepted', rfl⟩ := parse_eq_ok_iff.mp parsed'
          have twins := Ledger.twins_ofText marker flush text
          have files := Ledger.files_ofText accepted
          have files' := Ledger.files_ofText accepted'
          have here := Ledger.ownEvents_positions accepted
          have there := Ledger.ownEvents_positions accepted'
          have attributesAt := fun key => twins.positions_eq
            (fun _ _ pair => pair.attribute?) (· = .filed key)
          have operationsAt := fun key => twins.positions_eq
            (fun _ _ pair => pair.operation?) (· = .filed key)
          simp only [attributesAt, operationsAt] at there
          refine ⟨_, _, keys_readText_congr marker flush accepted accepted', ?_, ?_, ?_, ?_, here,
            there⟩
          · intro key c d found found'
            rw [isKeyed_readText accepted key c found, isKeyed_readText accepted' key d found']
          · intro key c d found found'
            rw [(files.filed key c found).attributes, (files'.filed key d found').attributes]
            exact List.rel_filterMap (fun _ _ pair => pair.attribute?) (twins.eventsAt _)
          · intro key c d found found'
            rw [(files.filed key c found).operations, (files'.filed key d found').operations]
            exact List.rel_filterMap (fun _ _ pair => pair.operation?) (twins.eventsAt _)
          · rw [← Ledger.events_ofText, ← Ledger.events_ofText]
            exact twins.events

/-- A text with a declared attribute, an operation and a relation. -/
def namedText : Text :=
  "class A \x7b\nInt Size\nbool Ok()\n\x7d\nB \"1\" -- \"N\" A".toList

/-- Settings that lower the names of members, with an ending of their own. -/
def loweringSettings : Settings :=
  { preserveMemberCase := false, foreignKeySuffix := "_Id".toList }

theorem naming_settings_change_member_names_lowered :
    loweringSettings.sectionMarker = ({} : Settings).sectionMarker ∧
      loweringSettings.flushUnterminated = ({} : Settings).flushUnterminated ∧
        ((∃ e, parse {} namedText = .error e ∧ parse loweringSettings namedText = .error e) ∨
          ∃ classes renamed, parse {} namedText = .ok classes ∧
            parse loweringSettings namedText = .ok renamed ∧
            ∃ attributesAt operationsAt,
              DifferInMemberNames {} loweringSettings namedText classes renamed attributesAt
                operationsAt) :=
  have marker : loweringSettings.sectionMarker = ({} : Settings).sectionMarker := rfl
  have flush : loweringSettings.flushUnterminated = ({} : Settings).flushUnterminated := rfl
  ⟨marker, flush, naming_settings_change_member_names marker flush namedText⟩

end ClassDiagram
