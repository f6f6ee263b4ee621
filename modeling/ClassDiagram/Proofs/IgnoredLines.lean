import ClassDiagram.Proofs.Refusals

/-!
# Which lines change nothing

While a class is open, a line is without effect if it has no member and no brace, takes no class out
of the mapping and names no other class. While none is open, a line is without effect if it opens no
class, or if it closes on the same line what it opens: a class without a name, or the last class of
the mapping, taken out and put back without a new member. These are all the lines without effect.
-/

namespace ClassDiagram

namespace OrderedMap

variable {α : Type} {m : OrderedMap α} {key : Text} {value : α}

/-- The last entry may be taken out and put back. -/
theorem insert_erase_of_last (last : m.keys.getLast? = some key) (found : m.get? key = some value) :
    (m.erase key).insert key value = m := by
  obtain ⟨front, split⟩ : ∃ front, m.entries = front ++ [(key, value)] := by
    rw [keys, List.getLast?_map, Option.map_eq_some_iff] at last
    obtain ⟨entry, ends, rfl⟩ := last
    obtain ⟨front, split⟩ := List.getLast?_eq_some_iff.mp ends
    have stood : m.get? entry.1 = some entry.2 :=
      get?_eq_some_iff.mpr (List.mem_of_getLast? ends)
    rw [found, Option.some.injEq] at stood
    exact ⟨front, by rw [split, stood]⟩
  have absent : key ∉ front.map Prod.fst := by
    have distinct := m.nodup
    rw [split, List.map_append, List.nodup_append] at distinct
    intro member
    exact distinct.2.2 key member key (List.mem_singleton.mpr rfl) rfl
  have kept : (m.erase key).entries = front := by
    show m.entries.filter (fun entry => entry.1 ≠ key) = front
    rw [split, List.filter_append, List.filter_eq_self.mpr]
    · simp
    · intro entry member
      apply decide_eq_true
      rintro rfl
      exact absent (List.mem_map_of_mem member)
  have gone : key ∉ (m.erase key).keys := by
    rwa [keys, kept]
  apply ext
  rw [insert, dif_neg gone]
  show (m.erase key).entries ++ [(key, value)] = m.entries
  rw [kept, split]

end OrderedMap

namespace Builder

variable {settings : Settings} {b : Builder} {names : List Text}

/-- The builder with a new name for its open class, or for a blank one if none is open. -/
def rename (b : Builder) (name : Text) : Builder :=
  let o := b.opened.getD OpenClass.blank
  { b with opened := some { o with current := { o.current with name := name } } }

theorem openName_of_unknown {name : Text} (unknown : name ∉ b.classes.keys) :
    b.openName name = b.rename name := by
  rw [openName, OrderedMap.get?_eq_none_iff.mpr unknown]
  rfl

/-- Of several names that are not known the last one stays. -/
theorem foldl_openName_of_unknown (front : List Text) (last : Text)
    (unknown : ∀ name ∈ front ++ [last], name ∉ b.classes.keys) :
    (front ++ [last]).foldl openName b = b.rename last := by
  induction front generalizing b with
  | nil => exact openName_of_unknown (unknown last (List.mem_singleton.mpr rfl))
  | cons name front ih =>
      obtain ⟨first, others⟩ := List.forall_mem_cons.mp unknown
      rw [List.cons_append, List.foldl_cons, openName_of_unknown first]
      exact ih others

/-- Names take their classes out of the mapping. -/
theorem mem_keys_foldl_openName {key : Text} :
    key ∈ (names.foldl openName b).classes.keys ↔ key ∈ b.classes.keys ∧ key ∉ names := by
  induction names generalizing b with
  | nil => simp
  | cons name rest ih =>
      have first : key ∈ (b.openName name).classes.keys ↔ key ∈ b.classes.keys ∧ key ≠ name :=
        @mem_keys_step {} b key (.enter name)
      rw [List.foldl_cons, ih, first, List.mem_cons, not_or, and_assoc]

@[simp] theorem relations_openName (name : Text) : (b.openName name).relations = b.relations := by
  unfold openName
  split <;> rfl

theorem relations_foldl_openName (names : List Text) (b : Builder) :
    (names.foldl openName b).relations = b.relations := by
  induction names generalizing b with
  | nil => rfl
  | cons name rest ih => rw [List.foldl_cons, ih, relations_openName]

/-- The class of the last name is taken out as it is, if it is known and no other name is. -/
theorem foldl_openName_of_last {name : Text} {c : Class} (last : names.getLast? = some name)
    (found : b.classes.get? name = some c) (named : c.name = name)
    (others : ∀ other ∈ names, other ∈ b.classes.keys → other = name) :
    names.foldl openName b
      = { b with classes := b.classes.erase name, opened := some ⟨c, some (.copy c)⟩ } := by
  -- The class leaves the mapping at the first of its names, and the names after that rename it.
  obtain ⟨front, back, split, absent⟩ := List.eq_append_cons_of_mem (List.mem_of_getLast? last)
  subst split
  have unknown : ∀ other ∈ front, other ∉ b.classes.keys := by
    intro other member present
    have same := others other (List.mem_append_left _ member) present
    exact absent (same ▸ member)
  have taken : (front.foldl openName b).openName name
      = { b with classes := b.classes.erase name, opened := some ⟨c, some (.copy c)⟩ } := by
    rcases List.eq_nil_or_concat front with rfl | ⟨start, renamed, rfl⟩
    · rw [List.foldl_nil, openName, found]
    · rw [List.concat_eq_append] at unknown ⊢
      rw [foldl_openName_of_unknown start renamed unknown, openName]
      simp only [rename, found]
  rw [List.foldl_append, List.foldl_cons, taken]
  rcases List.eq_nil_or_concat back with rfl | ⟨start, final, rfl⟩
  · rfl
  · rw [List.concat_eq_append] at last others ⊢
    have same : final = name := by simpa [List.getLast?_cons] using last
    rw [foldl_openName_of_unknown start final]
    · simp [rename, same, ← named]
    · intro other member present
      obtain ⟨inside, different⟩ := OrderedMap.mem_keys_erase.mp present
      have stated : other ∈ front ++ name :: (start ++ [final]) :=
        List.mem_append_right _ (List.mem_cons_of_mem _ member)
      exact different (others other stated inside)

theorem isKeyed_foldl_openName (keyed : b.classes.IsKeyed) (names : List Text) :
    (names.foldl openName b).classes.IsKeyed := by
  induction names generalizing b with
  | nil => exact keyed
  | cons name rest ih =>
      apply ih
      unfold openName
      split
      · exact keyed.erase name
      · exact keyed

/-- The class that is open after names has the last of them. -/
theorem opened_foldl_openName (keyed : b.classes.IsKeyed) {name : Text}
    (last : names.getLast? = some name) :
    ∃ o, (names.foldl openName b).opened = some o ∧ o.current.name = name := by
  obtain ⟨front, rfl⟩ := List.getLast?_eq_some_iff.mp last
  have before := isKeyed_foldl_openName keyed front
  rw [List.foldl_append, List.foldl_cons, List.foldl_nil, openName]
  split
  · rename_i c found
    exact ⟨_, rfl, before name c found⟩
  · exact ⟨_, rfl, rfl⟩

end Builder

theorem Line.openedNames_ne_nil {line name : Text} (stated : name ∈ openedNames line) :
    name ≠ [] := by
  unfold openedNames at stated
  split at stated
  · exact classNames_ne_nil stated
  · cases stated

/-- What can be seen of a builder: two builders look alike if they have the same classes in the same
order, the same relations and the same open class, and if a class is open in both or in neither. -/
structure Builder.LooksLike (after before : Builder) : Prop where
  classes : after.classes = before.classes
  relations : after.relations = before.relations
  openClass : after.openClass = before.openClass
  isOpen : after.opened.isSome = before.opened.isSome

/-- Whether a line puts back the class that it takes out of the mapping: the last one, without a new
member, and no other. -/
structure Line.PutsBack (line : Text) (classes : ClassMap) (name : Text) : Prop where
  named : (openedNames line).getLast? = some name
  last : classes.keys.getLast? = some name
  others : ∀ other ∈ openedNames line, other ∈ classes.keys → other = name
  undeclared : member? (memberSegment line) = none

/-- Whether a line changes nothing while no class is open: it opens none, or it closes again what it
opens, which is a class without a name or one that it puts back. -/
def Line.IsIdle (line : Text) (classes : ClassMap) : Prop :=
  isClassOpen (beforeClose line) = false ∨
    isClassClose line = true ∧
      (openedNames line = [] ∨ ∃ name, PutsBack line classes name)

/-- Whether a line changes nothing while a class is open. -/
structure Line.LetsBe (line : Text) (classes : ClassMap) (name : Text) : Prop where
  unclosed : isClassClose line = false
  undeclared : member? (memberSegment line) = none
  unknown : ∀ other ∈ openedNames line, other ∉ classes.keys
  last : ∀ other, (openedNames line).getLast? = some other → other = name

/-- Whether a builder has no use for a line: it has the root keyword, or it states no relation and
changes neither the open class nor the mapping. -/
def Builder.Ignores (b : Builder) (marker line : Text) : Prop :=
  Line.isSectionMarker marker line = true ∨
    Line.isRelation line = false ∧
      match b.opened with
      | none => Line.IsIdle line b.classes
      | some o => Line.LetsBe line b.classes o.current.name

/-- The open class with the member of a line, if the line has one. -/
def OpenClass.withMember (settings : Settings) (line : Text) (o : OpenClass) : OpenClass :=
  { o with
    current := (Line.member? (Line.memberSegment line)).elim o.current fun member =>
      o.current.declare settings member }

theorem OpenClass.withMember_of_none {settings : Settings} {line : Text} (o : OpenClass)
    (undeclared : Line.member? (Line.memberSegment line) = none) :
    o.withMember settings line = o := by
  rw [withMember, undeclared]
  rfl

@[simp] theorem OpenClass.name_withMember (settings : Settings) (line : Text) (o : OpenClass) :
    (o.withMember settings line).current.name = o.current.name := by
  unfold withMember
  cases Line.member? (Line.memberSegment line) <;> simp

/-- A class has one member more once a member is declared. -/
theorem Class.count_declare (settings : Settings) (member : Line.Member) (c : Class) :
    (c.declare settings member).attributes.length + (c.declare settings member).operations.length
      = c.attributes.length + c.operations.length + 1 := by
  unfold declare
  split
  · simp only [addOperation, List.length_append, List.length_singleton]
    omega
  · simp only [addAttribute, List.length_append, List.length_singleton]
    omega

/-- An open class keeps the members that it had only if no member is declared. -/
theorem OpenClass.undeclared_of_withMember {settings : Settings} {line : Text} {o : OpenClass}
    {c : Class} (same : (o.withMember settings line).current = c)
    (attributes : o.current.attributes = c.attributes)
    (operations : o.current.operations = c.operations) :
    Line.member? (Line.memberSegment line) = none := by
  cases declared : Line.member? (Line.memberSegment line) with
  | none => rfl
  | some member =>
      exfalso
      rw [withMember, declared] at same
      have longer : o.current.declare settings member = c := same
      have count := Class.count_declare settings member o.current
      rw [longer, attributes, operations] at count
      omega

namespace Builder

variable {settings : Settings} {b : Builder} {marker line : Text}

theorem run_declare {o : OpenClass} (opened : b.opened = some o) :
    run settings b ((Line.member? (Line.memberSegment line)).toList.map .declare)
      = { b with opened := some (o.withMember settings line) } := by
  obtain ⟨classes, relations, _⟩ := b
  cases opened
  unfold OpenClass.withMember
  cases Line.member? (Line.memberSegment line) <;> rfl

/-- The steps of a line that opens a class, at once: its names, the class that is then open, the
member and the brace. -/
theorem run_steps_of_classOpen (unmarked : Line.isSectionMarker marker line = false)
    (unrelated : Line.isRelation line = false)
    (opens : Line.isClassOpen (Line.beforeClose line) = true) :
    run settings b (Line.steps marker line)
      = run settings
          { (Line.openedNames line).foldl openName b with
            opened := some ((((Line.openedNames line).foldl openName b).opened.getD
              OpenClass.blank).withMember settings line) }
          (if Line.isClassClose line then [.close] else []) := by
  have silent : Line.relation? line = none := by simp [Line.relation?, unrelated]
  simp only [Line.steps, unmarked, opens, silent, Bool.false_eq_true, if_false, if_true, run_append,
    run_enter, run_cons, run_nil, Option.toList_none, List.map_nil]
  rw [run_declare rfl]
  rfl

/-- The steps of a line that opens no class: its member and the brace. -/
theorem run_steps_of_unopened (unmarked : Line.isSectionMarker marker line = false)
    (unrelated : Line.isRelation line = false)
    (unopened : Line.isClassOpen (Line.beforeClose line) = false) :
    run settings b (Line.steps marker line)
      = run settings
          (run settings b ((Line.member? (Line.memberSegment line)).toList.map .declare))
          (if Line.isClassClose line then [.close] else []) := by
  have silent : Line.relation? line = none := by simp [Line.relation?, unrelated]
  simp [Line.steps, Line.openedNames, unmarked, unopened, silent]

/-- A class that comes into the mapping without a difference was taken out of its last place. -/
theorem putsBack_of_insert (keyed : b.classes.IsKeyed) {name : Text} {o : OpenClass}
    (last : (Line.openedNames line).getLast? = some name)
    (opened : ((Line.openedNames line).foldl openName b).opened = some o)
    (same : ((Line.openedNames line).foldl openName b).classes.insert name
      (o.withMember settings line).current = b.classes) : Line.PutsBack line b.classes name := by
  have stated : name ∈ Line.openedNames line := List.mem_of_getLast? last
  have gone : ∀ other ∈ Line.openedNames line,
      other ∉ ((Line.openedNames line).foldl openName b).classes.keys := by
    intro other member present
    exact (mem_keys_foldl_openName.mp present).2 member
  have keys : ((Line.openedNames line).foldl openName b).classes.keys ++ [name]
      = b.classes.keys := by
    rw [← same, OrderedMap.keys_insert, if_neg (gone name stated)]
  have others : ∀ other ∈ Line.openedNames line, other ∈ b.classes.keys → other = name := by
    intro other member present
    rw [← keys, List.mem_append] at present
    exact List.mem_singleton.mp (present.resolve_left (gone other member))
  have lastKey : b.classes.keys.getLast? = some name := by
    rw [← keys, List.getLast?_concat]
  refine ⟨last, lastKey, others, ?_⟩
  -- The class is open as it was, so nothing may be added to it.
  obtain ⟨c, found⟩ := OrderedMap.mem_keys_iff.mp (List.mem_of_getLast? lastKey)
  have taken := foldl_openName_of_last last found (keyed name c found) others
  rw [taken, Option.some.injEq] at opened
  have value : (OrderedMap.insert _ name _).get? name = b.classes.get? name :=
    congrArg (OrderedMap.get? · name) same
  rw [OrderedMap.get?_insert, if_pos rfl, found, Option.some.injEq] at value
  subst opened
  exact OpenClass.undeclared_of_withMember value rfl rfl

section Idle

variable (unmarked : Line.isSectionMarker marker line = false)
  (unrelated : Line.isRelation line = false) (idle : b.opened = none)
include unmarked unrelated idle

/-- With no class open, a line that opens none does nothing. -/
theorem run_of_idle_of_unopened (unopened : Line.isClassOpen (Line.beforeClose line) = false) :
    run settings b (Line.steps marker line) = b := by
  obtain ⟨classes, relations, _⟩ := b
  cases idle
  rw [run_steps_of_unopened unmarked unrelated unopened]
  cases Line.member? (Line.memberSegment line) <;> cases Line.isClassClose line <;> rfl

/-- With no class open, a line that opens a class and closes it puts that class into the mapping,
unless it has no name. -/
theorem run_of_idle_of_closed {o : OpenClass}
    (opens : Line.isClassOpen (Line.beforeClose line) = true)
    (closes : Line.isClassClose line = true)
    (opened : ((Line.openedNames line).foldl openName b).opened.getD OpenClass.blank = o) :
    run settings b (Line.steps marker line)
      = ⟨if o.current.name = [] then ((Line.openedNames line).foldl openName b).classes
          else ((Line.openedNames line).foldl openName b).classes.insert o.current.name
            (o.withMember settings line).current, b.relations, b.opened⟩ := by
  rw [run_steps_of_classOpen unmarked unrelated opens, opened, if_pos closes, run_cons, run_nil,
    step, close]
  simp only [OpenClass.name_withMember, relations_foldl_openName, idle]

/-- With no class open, a line that puts back what it takes out changes nothing. -/
theorem run_of_isIdle (keyed : b.classes.IsKeyed) (ignored : Line.IsIdle line b.classes) :
    run settings b (Line.steps marker line) = b := by
  cases opens : Line.isClassOpen (Line.beforeClose line) with
  | false => exact run_of_idle_of_unopened unmarked unrelated idle opens
  | true =>
      rcases ignored with unopened | ⟨closes, nameless | ⟨name, puts⟩⟩
      · rw [opens] at unopened
        cases unopened
      · have blank : ((Line.openedNames line).foldl openName b).opened.getD OpenClass.blank
            = OpenClass.blank := by
          rw [nameless, List.foldl_nil, idle]
          rfl
        rw [run_of_idle_of_closed unmarked unrelated idle opens closes blank, nameless]
        rfl
      · obtain ⟨c, found⟩ := OrderedMap.mem_keys_iff.mp (List.mem_of_getLast? puts.last)
        have named : c.name = name := keyed name c found
        have nonempty : c.name ≠ [] :=
          named ▸ Line.openedNames_ne_nil (List.mem_of_getLast? puts.named)
        have taken := foldl_openName_of_last puts.named found named puts.others
        have opened : ((Line.openedNames line).foldl openName b).opened.getD OpenClass.blank
            = ⟨c, some (.copy c)⟩ := by
          rw [taken]
          rfl
        rw [run_of_idle_of_closed unmarked unrelated idle opens closes opened, taken,
          OpenClass.withMember_of_none _ puts.undeclared, if_neg nonempty, named,
          OrderedMap.insert_erase_of_last puts.last found]

/-- With no class open, a line that makes no difference to what can be seen opens no class, or puts
back what it takes out. -/
theorem isIdle_of_looksLike (keyed : b.classes.IsKeyed)
    (same : (run settings b (Line.steps marker line)).LooksLike b) :
    Line.IsIdle line b.classes := by
  cases opens : Line.isClassOpen (Line.beforeClose line) with
  | false => exact Or.inl opens
  | true =>
      cases closes : Line.isClassClose line with
      | false =>
          have isOpen := same.isOpen
          rw [run_steps_of_classOpen unmarked unrelated opens, closes, idle] at isOpen
          cases isOpen
      | true =>
          refine Or.inr ⟨closes, ?_⟩
          cases last : (Line.openedNames line).getLast? with
          | none => exact Or.inl (List.getLast?_eq_none_iff.mp last)
          | some name =>
              have stated : name ∈ Line.openedNames line := List.mem_of_getLast? last
              obtain ⟨o, opened, named⟩ := opened_foldl_openName keyed last
              have current : ((Line.openedNames line).foldl openName b).opened.getD OpenClass.blank
                  = o := by
                rw [opened]
                rfl
              have classes := same.classes
              rw [run_of_idle_of_closed unmarked unrelated idle opens closes current, named,
                if_neg (Line.openedNames_ne_nil stated)] at classes
              exact Or.inr ⟨name, putsBack_of_insert keyed last opened classes⟩

end Idle

section Open

variable (unmarked : Line.isSectionMarker marker line = false)
  (unrelated : Line.isRelation line = false) {o : OpenClass} (opened : b.opened = some o)
include unmarked unrelated opened

/-- A line that lets the open class be changes nothing. -/
theorem run_of_letsBe (ignored : Line.LetsBe line b.classes o.current.name) :
    run settings b (Line.steps marker line) = b := by
  obtain ⟨unclosed, undeclared, unknown, last⟩ := ignored
  have itself : b = { b with opened := some o } := by rw [← opened]
  have kept : (Line.openedNames line).foldl openName b = b := by
    rcases List.eq_nil_or_concat (Line.openedNames line) with nameless | ⟨front, name, names⟩
    · rw [nameless, List.foldl_nil]
    · rw [List.concat_eq_append] at names
      rw [names] at unknown last ⊢
      have same : name = o.current.name := last name List.getLast?_concat
      rw [foldl_openName_of_unknown front name unknown, rename, opened, same]
      exact itself.symm
  cases opens : Line.isClassOpen (Line.beforeClose line) with
  | true =>
      rw [run_steps_of_classOpen unmarked unrelated opens, kept, opened, Option.getD_some,
        OpenClass.withMember_of_none o undeclared, unclosed]
      exact itself.symm
  | false =>
      rw [run_steps_of_unopened unmarked unrelated opens, undeclared, unclosed]
      rfl

/-- A line after which a class is still open has no brace. -/
theorem unclosed_of_isOpen
    (isOpen : (run settings b (Line.steps marker line)).opened.isSome = true) :
    Line.isClassClose line = false := by
  cases closes : Line.isClassClose line with
  | false => rfl
  | true =>
      cases opens : Line.isClassOpen (Line.beforeClose line) with
      | false =>
          rw [run_steps_of_unopened unmarked unrelated opens, run_declare opened] at isOpen
          simp [closes, step] at isOpen
      | true =>
          rw [run_steps_of_classOpen unmarked unrelated opens] at isOpen
          simp [closes, step] at isOpen

/-- A line that makes no difference to what can be seen lets the open class be. -/
theorem letsBe_of_looksLike (same : (run settings b (Line.steps marker line)).LooksLike b) :
    Line.LetsBe line b.classes o.current.name := by
  have seen : b.openClass = o.current := by simp [openClass, opened]
  have isOpen : (run settings b (Line.steps marker line)).opened.isSome = true := by
    rw [same.isOpen, opened]
    rfl
  have closes := unclosed_of_isOpen unmarked unrelated opened isOpen
  have classes := same.classes
  have current := same.openClass
  cases opens : Line.isClassOpen (Line.beforeClose line) with
  | false =>
      have nameless : Line.openedNames line = [] := by simp [Line.openedNames, opens]
      rw [run_steps_of_unopened unmarked unrelated opens, run_declare opened] at current
      simp only [closes, Bool.false_eq_true, if_false, run_nil, openClass_of_some, seen] at current
      refine ⟨closes, OpenClass.undeclared_of_withMember current rfl rfl, ?_, ?_⟩
      · simp [nameless]
      · simp [nameless]
  | true =>
      rw [run_steps_of_classOpen unmarked unrelated opens] at classes current
      simp only [closes, Bool.false_eq_true, if_false, run_nil, openClass_of_some, seen]
        at classes current
      have unknown : ∀ other ∈ Line.openedNames line, other ∉ b.classes.keys := by
        intro other member present
        rw [← classes] at present
        exact (mem_keys_foldl_openName.mp present).2 member
      rcases List.eq_nil_or_concat (Line.openedNames line) with nameless | ⟨front, name, names⟩
      · rw [nameless, List.foldl_nil, opened, Option.getD_some] at current
        refine ⟨closes, OpenClass.undeclared_of_withMember current rfl rfl, unknown, ?_⟩
        simp [nameless]
      · rw [List.concat_eq_append] at names
        have renamed := foldl_openName_of_unknown front name (names ▸ unknown)
        rw [names, renamed, rename, opened, Option.getD_some, Option.getD_some] at current
        refine ⟨closes, OpenClass.undeclared_of_withMember current rfl rfl, unknown, ?_⟩
        intro other last
        rw [names, List.getLast?_concat, Option.some.injEq] at last
        rw [← last, ← current, OpenClass.name_withMember]

end Open

/-- A line that is ignored leaves the builder as it is and is not refused. -/
theorem feed_of_ignores (keyed : b.classes.IsKeyed)
    (ignored : b.Ignores settings.sectionMarker line) (number : Option Int) :
    feed settings number line b = ⟨b, none⟩ := by
  cases unmarked : Line.isSectionMarker settings.sectionMarker line with
  | true => rw [feed, if_pos unmarked]
  | false =>
      obtain ⟨unrelated, ignored⟩ := ignored.resolve_left (by simp [unmarked])
      apply feed_eq_self (Or.inr (Or.inl unrelated))
      cases opened : b.opened with
      | none =>
          rw [opened] at ignored
          exact run_of_isIdle unmarked unrelated opened keyed ignored
      | some o =>
          rw [opened] at ignored
          exact run_of_letsBe unmarked unrelated opened ignored

/-- A line that is not refused and leaves the relations alone states none. -/
theorem unrelated_of_feed (unmarked : Line.isSectionMarker settings.sectionMarker line = false)
    {number : Option Int} (accepted : (feed settings number line b).error = none)
    (same : (feed settings number line b).builder.relations = b.relations) :
    Line.isRelation line = false := by
  rcases feed_accepted_iff.mp accepted with marked | unrelated | ⟨r, read⟩
  · rw [unmarked] at marked
    cases marked
  · exact unrelated
  · rw [Bool.eq_false_iff]
    intro related
    have stated : Line.relation? line = some r :=
      Line.relation?_eq_some_iff.mpr ⟨related, read⟩
    rw [feed_eq_run, relations_run, Line.filterMap_relation?_steps, unmarked, stated] at same
    simp at same

/-- The lines that are ignored are those that are not refused and make no difference to what can be
seen. -/
theorem looksLike_feed_iff (keyed : b.classes.IsKeyed) (number : Option Int) :
    ((feed settings number line b).error = none ∧ (feed settings number line b).builder.LooksLike b)
      ↔ b.Ignores settings.sectionMarker line := by
  constructor
  · rintro ⟨accepted, same⟩
    cases unmarked : Line.isSectionMarker settings.sectionMarker line with
    | true => exact Or.inl unmarked
    | false =>
        have unrelated := unrelated_of_feed unmarked accepted same.relations
        rw [feed_eq_run] at same
        refine Or.inr ⟨unrelated, ?_⟩
        cases opened : b.opened with
        | none => exact isIdle_of_looksLike unmarked unrelated opened keyed same
        | some o => exact letsBe_of_looksLike unmarked unrelated opened same
  · intro ignored
    rw [feed_of_ignores keyed ignored number]
    exact ⟨rfl, rfl, rfl, rfl, rfl⟩

end Builder

end ClassDiagram
