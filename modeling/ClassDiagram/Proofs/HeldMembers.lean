import ClassDiagram.Proofs.RelationSequences
import ClassDiagram.Proofs.Sessions

/-!
# Where members come from

A member gets into a class because a line declares it or because a relation adds it. Everything else
moves classes about, names them, copies them or puts the members of one behind those of another. So
what holds of every member that is declared or added holds of all members of a builder, those of the
open class and of the kept copy included.
-/

namespace ClassDiagram

/-- All attributes of a class satisfy `p`, and all of its operations satisfy `q`. -/
structure Class.HasOnly (p : Attribute → Prop) (q : Operation → Prop) (c : Class) : Prop where
  attributes : ∀ a ∈ c.attributes, p a
  operations : ∀ o ∈ c.operations, q o

/-- An event makes an attribute that satisfies `p`, or an operation that satisfies `q`. -/
structure Event.MakesOnly (settings : Settings) (p : Attribute → Prop) (q : Operation → Prop)
    (e : Event) : Prop where
  attributes : ∀ a, e.attribute? settings = some a → p a
  operations : ∀ o, e.operation? settings = some o → q o

variable {settings : Settings} {p p' : Attribute → Prop} {q : Operation → Prop}

namespace Class.HasOnly

variable {c other : Class}

theorem of_no_members (name : Text) : HasOnly p q ⟨name, [], []⟩ where
  attributes := List.forall_mem_nil p
  operations := List.forall_mem_nil q

theorem mono (only : c.HasOnly p q) (weaker : ∀ a, p a → p' a) : c.HasOnly p' q where
  attributes a member := weaker a (only.attributes a member)
  operations := only.operations

theorem rename (only : c.HasOnly p q) (name : Text) : HasOnly p q { c with name := name } where
  attributes := only.attributes
  operations := only.operations

theorem addAttributes (only : c.HasOnly p q) {fields : List Attribute}
    (added : ∀ a ∈ fields, p a) : (c.addAttributes fields).HasOnly p q where
  attributes := List.forall_mem_append.mpr ⟨only.attributes, added⟩
  operations := only.operations

theorem absorb (only : c.HasOnly p q) (others : other.HasOnly p q) :
    (c.absorb other).HasOnly p q where
  attributes := List.forall_mem_append.mpr ⟨only.attributes, others.attributes⟩
  operations := List.forall_mem_append.mpr ⟨only.operations, others.operations⟩

theorem declare (only : c.HasOnly p q) {member : Line.Member}
    (makes : (Event.declared member).MakesOnly settings p q) :
    (c.declare settings member).HasOnly p q := by
  unfold Class.declare
  split
  · rename_i called
    have made := makes.operations _ (if_pos called)
    exact ⟨only.attributes,
      List.forall_mem_append.mpr ⟨only.operations, List.forall_mem_singleton.mpr made⟩⟩
  · rename_i stored
    have made := makes.attributes _ (if_neg stored)
    exact ⟨List.forall_mem_append.mpr ⟨only.attributes, List.forall_mem_singleton.mpr made⟩,
      only.operations⟩

end Class.HasOnly

/-- All attributes of the classes satisfy `p`, and all of their operations satisfy `q`. -/
def ClassMap.HasOnly (p : Attribute → Prop) (q : Operation → Prop) (classes : ClassMap) : Prop :=
  ∀ key c, classes.get? key = some c → c.HasOnly p q

namespace ClassMap.HasOnly

variable {classes : ClassMap} {key : Text} {c : Class}

theorem insert (only : classes.HasOnly p q) (held : c.HasOnly p q) :
    HasOnly p q (OrderedMap.insert classes key c) := by
  intro other d found
  rw [OrderedMap.get?_insert] at found
  split at found
  · rw [← Option.some.inj found]
    exact held
  · exact only other d found

theorem erase (only : classes.HasOnly p q) (key : Text) :
    HasOnly p q (OrderedMap.erase classes key) := by
  intro other c found
  rw [OrderedMap.get?_erase] at found
  split at found
  · cases found
  · exact only other c found

/-- A relation changes no member, and the classes that it brings in have none of their own. -/
theorem related (only : classes.HasOnly p q) {suffix : Text} {r : Relation}
    (makes : ∀ e, r.event? suffix = some e → e.MakesOnly settings p q) :
    (ClassMap.related suffix classes r).HasOnly p q := by
  intro key c found
  rw [get?_related_eq] at found
  obtain ⟨before, stood, rfl⟩ := Option.map_eq_some_iff.mp found
  have held : before.HasOnly p q := by
    cases present : classes.get? key with
    | some c =>
        rw [present] at stood
        rw [← Option.some.inj stood]
        exact only key c present
    | none =>
        rw [present] at stood
        by_cases named : r.Names key
        · rw [if_pos named] at stood
          rw [← Option.some.inj stood]
          exact .of_no_members _
        · rw [if_neg named] at stood
          cases stood
  refine held.addAttributes fun a added => ?_
  have injected := Relation.injected_eq_some_iff.mpr
    (Relation.fieldFor?_eq_some_iff.mp (Option.mem_toList.mp added))
  have event : r.event? suffix = some (.injected key a) := by
    rw [Relation.event?, injected]
    rfl
  exact (makes _ event).attributes a rfl

end ClassMap.HasOnly

namespace Builder

/-- All attributes of the classes that a builder holds satisfy `p`, and all operations `q`. -/
structure HasOnly (p : Attribute → Prop) (q : Operation → Prop) (b : Builder) : Prop where
  filed : b.classes.HasOnly p q
  opened : ∀ o, b.opened = some o → o.current.HasOnly p q
  kept : ∀ o c, b.opened = some o → o.saved = some (.copy c) → c.HasOnly p q

variable {b : Builder}

theorem HasOnly.mono (only : b.HasOnly p q) (weaker : ∀ a, p a → p' a) : b.HasOnly p' q where
  filed key c found := (only.filed key c found).mono weaker
  opened o here := (only.opened o here).mono weaker
  kept o c here copied := (only.kept o c here copied).mono weaker

theorem HasOnly.openClass (only : b.HasOnly p q) : b.openClass.HasOnly p q := by
  unfold Builder.openClass
  split
  · rename_i o here
    exact only.opened o here
  · exact .of_no_members []

theorem hasOnly_start : start.HasOnly p q where
  filed key c found := by cases found
  opened o here := by cases here
  kept o c here := by cases here

/-- A known class moves from the mapping into the open class and its copy; another name is given to
what is open. -/
theorem HasOnly.openName (only : b.HasOnly p q) (name : Text) : (b.openName name).HasOnly p q := by
  obtain ⟨classes, relations, opened⟩ := b
  simp only [Builder.openName]
  split
  · rename_i c found
    have taken := only.filed name c found
    refine ⟨only.filed.erase name, ?_, ?_⟩
    · rintro o ⟨⟩
      exact taken
    · rintro o d ⟨⟩ ⟨⟩
      exact taken
  · cases opened with
    | none =>
        refine ⟨only.filed, ?_, ?_⟩
        · rintro o ⟨⟩
          exact .of_no_members name
        · rintro o d ⟨⟩ ⟨⟩
    | some before =>
        refine ⟨only.filed, ?_, ?_⟩
        · rintro o ⟨⟩
          exact (only.opened before rfl).rename name
        · rintro o d ⟨⟩ copied
          exact only.kept before d rfl copied

theorem HasOnly.close (only : b.HasOnly p q) : b.close.HasOnly p q := by
  unfold Builder.close
  split
  · exact only
  · rename_i o here
    refine ⟨?_, ?_, ?_⟩
    · show ClassMap.HasOnly p q (if o.current.name = [] then b.classes
        else b.classes.insert o.current.name o.current)
      split
      · exact only.filed
      · exact only.filed.insert (only.opened o here)
    · rintro other ⟨⟩
    · rintro other d ⟨⟩

/-- A step brings in only the member of its event. -/
theorem hasOnly_step {s : Step} (only : b.HasOnly p q)
    (makes : ∀ e, s.event? settings.foreignKeySuffix = some e → e.MakesOnly settings p q) :
    (step settings b s).HasOnly p q := by
  cases s with
  | enter name => exact only.openName name
  | ready =>
      cases here : b.opened with
      | none =>
          simp only [step, here]
          refine ⟨only.filed, ?_, ?_⟩
          · rintro o ⟨⟩
            exact .of_no_members []
          · rintro o d ⟨⟩ ⟨⟩
      | some before =>
          simp only [step, here]
          exact ⟨only.filed, here ▸ only.opened, here ▸ only.kept⟩
  | declare member =>
      cases here : b.opened with
      | none => simpa only [step, here] using only
      | some before =>
          simp only [step, here]
          refine ⟨only.filed, ?_, ?_⟩
          · rintro o ⟨⟩
            exact (only.opened before here).declare (makes _ rfl)
          · rintro o d ⟨⟩ copied
            exact only.kept before d here copied
  | close => exact only.close
  | relate r => exact ⟨only.filed.related makes, only.opened, only.kept⟩

/-- What goes back at the end of input was held before. -/
theorem hasOnly_finish (only : b.HasOnly p q) : (finish settings b).HasOnly p q := by
  rcases finish_cases settings b with closed | same | ⟨o, saved, here, held, restored⟩
  · rw [closed]
    exact only.close
  · rwa [same]
  · rw [restored]
    refine ⟨?_, ?_, ?_⟩
    · cases saved with
      | copy kept =>
          have copied := only.kept o kept here held
          refine only.filed.insert ?_
          split
          · rename_i created found
            exact copied.absorb (only.filed kept.name created found)
          · exact copied
      | restored key =>
          simp only [restore]
          split
          · rename_i c found
            exact only.filed.insert
              ((only.filed key c found).absorb (only.filed key c found))
          · exact only.filed
    · rintro other ⟨⟩
      exact only.opened o here
    · -- Once a copy is back it is no longer apart from the mapping.
      rintro other d ⟨⟩ copied
      rw [snd_restore] at copied
      cases copied

end Builder

end ClassDiagram
