import ClassDiagram.Proofs.Provenance

/-!
# Attributes that relations add

A relation writes its attribute into the mapping. If the target is open at the same time, there are
two versions of it: at an end of input without a brace the two are put together, but a brace puts
the open one in place of the other, and the attribute is lost. So a class has the attributes of its
relations exactly as far as their events are still filed under it.
-/

namespace ClassDiagram

/-- The attributes of the class under a key, none if there is no class. -/
def ClassMap.attributesOf (classes : ClassMap) (key : Text) : List Attribute :=
  (classes.get? key).elim [] Class.attributes

namespace Ledger

/-- How many relations have put `field` into the class `target` that is not filed there any more. -/
def lostCount (l : Ledger) (target : Text) (field : Attribute) : Nat :=
  l.countP fun entry => entry.1 = .injected target field ∧ entry.2 ≠ .filed target

/-- How many times the class `target` has `field` from elsewhere: from a member that was declared,
or from a relation with another target. -/
def foreignCount (settings : Settings) (l : Ledger) (target : Text) (field : Attribute) : Nat :=
  l.countP fun entry => entry.1 ≠ .injected target field ∧ entry.2 = .filed target ∧
    entry.1.attribute? settings = some field

variable {settings : Settings} {l : Ledger} {classes : ClassMap}

/-- A class has an attribute as often as events that make it are filed under it. -/
theorem Files.count_attributesOf (files : Files settings l classes) (key : Text)
    (field : Attribute) :
    (classes.attributesOf key).count field = l.countP fun entry =>
      entry.2 = .filed key ∧ entry.1.attribute? settings = some field := by
  have made : classes.attributesOf key
      = (l.eventsAt (· = .filed key)).filterMap (Event.attribute? settings) := by
    rw [ClassMap.attributesOf]
    cases found : classes.get? key with
    | some c => exact (files.filed key c found).attributes
    | none =>
        have missing := files.absent key (OrderedMap.get?_eq_none_iff.mp found)
        rw [eventsAt_eq_nil fun entry member => by simpa using missing entry member]
        rfl
  rw [made, List.count, List.countP_filterMap, eventsAt, List.countP_map, List.countP_filter]
  refine List.countP_congr fun entry _ => ?_
  cases makes : entry.1.attribute? settings <;> simp [makes, and_comm]

/-- The events that make a field in a class are those of its relations, less the lost ones, and
those from elsewhere. -/
theorem countP_add_lostCount (settings : Settings) (l : Ledger) (target : Text)
    (field : Attribute) :
    (l.countP fun entry => entry.2 = .filed target ∧ entry.1.attribute? settings = some field)
        + l.lostCount target field
      = (l.countP fun entry => entry.1 = .injected target field)
        + l.foreignCount settings target field := by
  unfold lostCount foreignCount
  induction l with
  | nil => rfl
  | cons entry rest ih =>
      simp only [List.countP_cons, ne_eq, Bool.decide_and, decide_not] at ih ⊢
      by_cases relation : entry.1 = .injected target field
      · have makes : entry.1.attribute? settings = some field := by rw [relation]; rfl
        by_cases here : entry.2 = .filed target
        · simp only [relation, here] at makes ⊢
          simp [makes]
          omega
        · simp [relation, here]
          omega
      · by_cases here : entry.2 = .filed target
        · by_cases makes : entry.1.attribute? settings = some field
          · simp [relation, here, makes]
            omega
          · simp [relation, here, makes]
            omega
        · simp [relation, here]
          omega

end Ledger

/-- The relations that put `field` into `target` are the events that do. -/
theorem Builder.countP_injected (settings : Settings) (steps : List Step) (target : Text)
    (field : Attribute) :
    (steps.filterMap Step.relation?).countP
        (fun r => r.injected settings.foreignKeySuffix = some (target, field))
      = (steps.filterMap (Step.event? settings.foreignKeySuffix)).countP
          fun e => e = .injected target field := by
  rw [List.countP_filterMap, List.countP_filterMap]
  refine List.countP_congr fun s _ => ?_
  cases s with
  | relate r =>
      cases made : r.injected settings.foreignKeySuffix with
      | none => simp [Step.relation?, Step.event?, Relation.event?, made]
      | some pair => simp [Step.relation?, Step.event?, Relation.event?, made, Prod.ext_iff]
  | enter name => rfl
  | ready => rfl
  | declare member => rfl
  | close => rfl

/-- Every relation of a text either shows in its target or is lost. What else the target has of the
same attribute comes from elsewhere. -/
theorem count_attributesOf_add_lostCount {settings : Settings} {text : Text}
    (accepted : (Builder.start.readText settings text).error = none) (target : Text)
    (field : Attribute) :
    ((Builder.start.readText settings text).builder.classes.attributesOf target).count field
        + (Ledger.ofText settings text).lostCount target field
      = ((Builder.start.readText settings text).builder.relations.countP fun r =>
          r.injected settings.foreignKeySuffix = some (target, field))
        + (Ledger.ofText settings text).foreignCount settings target field := by
  have events := Ledger.events_run settings .start []
    (Builder.stepsOf settings (documentLines text))
  rw [List.map_nil, List.nil_append] at events
  have relations : ((Builder.start.readText settings text).builder.relations.countP fun r =>
        r.injected settings.foreignKeySuffix = some (target, field))
      = (Ledger.ofText settings text).countP fun entry => entry.1 = .injected target field := by
    rw [Builder.readText_eq_run accepted, Builder.relations_finish, Builder.relations_run,
      Builder.start, List.nil_append, Builder.countP_injected, ← events, List.countP_map,
      Ledger.ofText, Ledger.move, List.countP_map]
    rfl
  rw [relations, (Ledger.files_ofText accepted).count_attributesOf]
  exact Ledger.countP_add_lostCount settings _ target field

/-- A class has the attributes of its relations, each as often as there are such relations, exactly
if at most as many of them are lost as the class has from elsewhere. -/
theorem injected_le_attributes_iff {settings : Settings} {text : Text} {classes : ClassMap}
    (accepted : parse settings text = .ok classes) :
    (∀ target field,
        ((Builder.start.readText settings text).builder.relations.countP fun r =>
            r.injected settings.foreignKeySuffix = some (target, field))
          ≤ (classes.attributesOf target).count field) ↔
      ∀ target field, (Ledger.ofText settings text).lostCount target field
        ≤ (Ledger.ofText settings text).foreignCount settings target field := by
  obtain ⟨unrefused, rfl⟩ := parse_eq_ok_iff.mp accepted
  refine forall_congr' fun target => forall_congr' fun field => ?_
  have balance := count_attributesOf_add_lostCount unrefused target field
  omega

/-- A relation stands inside the block of its target. -/
def overwrittenText : Text :=
  "class A \x7b\nB \"1\" -- \"N\" A\n\x7d".toList

/-- The brace puts the open class in place of the one that the relation has written to. -/
def overwrittenClasses : ClassMap :=
  ⟨[("B".toList, ⟨"B".toList, [], []⟩), ("A".toList, ⟨"A".toList, [], []⟩)], by decide⟩

theorem relation_in_block_is_lost :
    parse {} overwrittenText = .ok overwrittenClasses ∧
      ¬ ∀ target field,
        ((Builder.start.readText {} overwrittenText).builder.relations.countP fun r =>
            r.injected (Settings.foreignKeySuffix {}) = some (target, field))
          ≤ (overwrittenClasses.attributesOf target).count field := by
  refine ⟨by decide +kernel, fun kept => ?_⟩
  have kept := kept "A".toList ⟨.foreignKey "B".toList, "B_fk".toList⟩
  revert kept
  decide +kernel

/-- In front of the block of its target the relation keeps its attribute. -/
def precedingText : Text :=
  "B \"1\" -- \"N\" A\nclass A \x7b\n\x7d".toList

/-- The block opens the class that has the attribute. -/
def precedingClasses : ClassMap :=
  ⟨[("B".toList, ⟨"B".toList, [], []⟩),
    ("A".toList, ⟨"A".toList, [⟨.foreignKey "B".toList, "B_fk".toList⟩], []⟩)], by decide⟩

theorem injected_le_attributes_iff_preceding :
    parse {} precedingText = .ok precedingClasses ∧
      ((∀ target field,
          ((Builder.start.readText {} precedingText).builder.relations.countP fun r =>
              r.injected (Settings.foreignKeySuffix {}) = some (target, field))
            ≤ (precedingClasses.attributesOf target).count field) ↔
        ∀ target field, (Ledger.ofText {} precedingText).lostCount target field
          ≤ (Ledger.ofText {} precedingText).foreignCount {} target field) :=
  have accepted : parse {} precedingText = .ok precedingClasses := by decide +kernel
  ⟨accepted, injected_le_attributes_iff accepted⟩

end ClassDiagram
