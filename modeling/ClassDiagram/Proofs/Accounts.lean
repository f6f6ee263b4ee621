import ClassDiagram.Proofs.Ledger

/-!
# The ledger is right

The classes of a builder consist of the events that the ledger has at their places, in their order:
this holds of the builder that has read nothing, every step keeps it, and it holds of the classes
that are there at the end of input.
-/

namespace ClassDiagram

namespace Ledger

/-- The classes of a mapping consist of the events that the ledger files under their keys. -/
structure Files (settings : Settings) (l : Ledger) (classes : ClassMap) : Prop where
  filed : ∀ key c, classes.get? key = some c → c.ConsistsOf settings (l.eventsAt (· = .filed key))
  absent : ∀ key, key ∉ classes.keys → ∀ entry ∈ l, entry.2 ≠ .filed key

/-- The classes of a builder are what the ledger says. -/
structure Accounts (settings : Settings) (l : Ledger) (b : Builder) : Prop where
  files : Files settings l b.classes
  opened : b.openClass.ConsistsOf settings (l.eventsAt Location.isOpened)
  idle : b.opened = none → ∀ entry ∈ l, entry.2.isOpened = false
  kept : ∀ o c, b.opened = some o → o.saved = some (.copy c) →
    c.ConsistsOf settings (l.eventsAt (· = .opened true))
  unkept : b.savedName = none → ∀ entry ∈ l, entry.2 ≠ .opened true
  /-- What the kept copy has is older than what relations put under its name meanwhile. -/
  older : ∀ key, b.savedName = some key →
    l.Pairwise fun x y => ¬ (x.2 = .filed key ∧ y.2 = .opened true)

variable {settings : Settings} {l : Ledger} {b : Builder}

/-- Where no event is filed or taken from a file, nothing changes for the mapping. -/
theorem Files.move {f : Location → Location} {classes : ClassMap} (files : Files settings l classes)
    (left : ∀ key place, f place = .filed key ↔ place = .filed key) :
    Files settings (l.move f) classes where
  filed key c found := by
    rw [eventsAt_move_of_iff (q := (· = .filed key)) fun place => by simp [left]]
    exact files.filed key c found
  absent key missing := List.forall_mem_map.mpr fun entry member stays =>
    files.absent key missing entry member ((left key entry.2).mp stays)

/-- A class that is put into the mapping has to consist of what is filed under its key. -/
theorem Files.insert {f : Location → Location} {classes : ClassMap}
    (files : Files settings l classes) {name : Text} {c : Class}
    (made : c.ConsistsOf settings (l.eventsAt fun place => f place = .filed name))
    (left : ∀ key place, key ≠ name → (f place = .filed key ↔ place = .filed key)) :
    Files settings (l.move f) (classes.insert name c) where
  filed key d found := by
    rw [OrderedMap.get?_insert] at found
    by_cases same : key = name
    · rw [if_pos same, Option.some.injEq] at found
      rw [eventsAt_move, same, ← found]
      exact made
    · rw [if_neg same] at found
      rw [eventsAt_move_of_iff (q := (· = .filed key)) fun place => by simp [left key place same]]
      exact files.filed key d found
  absent key missing := List.forall_mem_map.mpr fun entry member stays => by
    rw [OrderedMap.mem_keys_insert, not_or] at missing
    exact files.absent key missing.2 entry member ((left key entry.2 missing.1).mp stays)

/-- A class that is erased from the mapping may have its events taken from the file. -/
theorem Files.erase {f : Location → Location} {classes : ClassMap}
    (files : Files settings l classes) {name : Text}
    (left : ∀ key place, f place = .filed key ↔ place = .filed key ∧ key ≠ name) :
    Files settings (l.move f) (classes.erase name) where
  filed key c found := by
    rw [OrderedMap.get?_erase] at found
    by_cases same : key = name
    · simp [same] at found
    · rw [if_neg same] at found
      rw [eventsAt_move_of_iff (q := (· = .filed key)) fun place => by simp [left, same]]
      exact files.filed key c found
  absent key missing := List.forall_mem_map.mpr fun entry member stays => by
    obtain ⟨place, other⟩ := (left key entry.2).mp stays
    exact files.absent key
      (fun present => missing (OrderedMap.mem_keys_erase.mpr ⟨present, other⟩)) entry member place

/-- Steps other than headers and braces leave every event where it is. -/
theorem step_of_still {s : Step} (still : ∀ place, Location.after b s place = place) :
    l.step settings b s
      = l ++ (s.event? settings.foreignKeySuffix).toList.map fun e => (e, e.origin b) := by
  rw [step, move_eq_self fun entry _ => still entry.2]

theorem accounts_start : Accounts settings [] .start where
  files := ⟨fun key c found => by simp [Builder.start] at found, by simp⟩
  opened := Class.ConsistsOf.blank []
  idle := by simp
  kept o c opened := by simp [Builder.start] at opened
  unkept := by simp
  older := by simp

theorem accounts_enter_known {name : Text} {c : Class} (accounts : Accounts settings l b)
    (found : b.classes.get? name = some c) (keyed : c.name = name) :
    Accounts settings (l.step settings b (.enter name)) (b.step settings (.enter name)) := by
  have known := OrderedMap.mem_keys_of_get? found
  have ledger : l.step settings b (.enter name) = l.move (Location.after b (.enter name)) := by
    simp [step, Step.event?]
  have builder : b.step settings (.enter name)
      = { b with classes := b.classes.erase name, opened := some ⟨c, some (.copy c)⟩ } := by
    simp [Builder.step, Builder.openName, found]
  have taken : c.ConsistsOf settings (l.eventsAt (· = .filed name)) :=
    accounts.files.filed name c found
  rw [ledger, builder]
  refine ⟨accounts.files.erase fun key => Location.after_enter_eq_filed_iff known, ?_, ?_, ?_, ?_,
    ?_⟩
  · rw [eventsAt_move_of_iff (q := (· = .filed name)) fun place => by
      rw [Bool.eq_iff_iff]
      simp [Location.isOpened_iff, Location.after_enter_eq_opened_iff known]]
    exact taken
  · rintro ⟨⟩
  · rintro o d ⟨⟩ ⟨⟩
    rw [eventsAt_move_of_iff (q := (· = .filed name)) fun place => by
      simp [Location.after_enter_eq_opened_iff known]]
    exact taken
  · rintro ⟨⟩
  · rintro key ⟨⟩
    refine List.pairwise_map.mpr (List.pairwise_of_forall fun x y both => ?_)
    exact ((Location.after_enter_eq_filed_iff known x.2).mp both.1).2 keyed

/-- A header that gives a new name to the open class moves nothing. -/
theorem accounts_enter_unknown {name : Text} (accounts : Accounts settings l b)
    (unknown : name ∉ b.classes.keys) :
    Accounts settings (l.step settings b (.enter name)) (b.step settings (.enter name)) := by
  have ledger : l.step settings b (.enter name) = l := by
    have still : l.move (Location.after b (.enter name)) = l := by
      apply move_eq_self
      intro entry member
      cases place : entry.2 with
      | filed key =>
          have other : key ≠ name := fun same =>
            accounts.files.absent name unknown entry member (by rw [place, same])
          simp [Location.after, other]
      | opened kept => simp [Location.after, OrderedMap.contains_iff, unknown]
      | gone => rfl
    simp [step, Step.event?, still]
  have builder : b.step settings (.enter name)
      = { b with
          opened := some ⟨{ b.openClass with name := name }, b.opened.bind OpenClass.saved⟩ } := by
    simp only [Builder.step, Builder.openName, OrderedMap.get?_eq_none_iff.mpr unknown]
    cases opened : b.opened <;> simp [Builder.openClass, opened, OpenClass.blank]
  rw [ledger, builder]
  refine ⟨accounts.files, accounts.opened.rename name, by simp, ?_, ?_, ?_⟩
  · rintro o c ⟨⟩ copied
    obtain ⟨before, opened, saved⟩ := Option.bind_eq_some_iff.mp copied
    exact accounts.kept before c opened saved
  · intro unkept
    apply accounts.unkept
    cases opened : b.opened <;> simp_all [Builder.savedName]
  · intro key kept
    apply accounts.older
    cases opened : b.opened <;> simp_all [Builder.savedName]

theorem accounts_ready (accounts : Accounts settings l b) :
    Accounts settings (l.step settings b .ready) (b.step settings .ready) := by
  have ledger : l.step settings b .ready = l := by
    rw [step_of_still fun place => by cases place <;> rfl]
    simp [Step.event?]
  rw [ledger]
  obtain ⟨classes, relations, opened⟩ := b
  cases opened with
  | none =>
      refine ⟨accounts.files, accounts.opened, by simp [Builder.step], ?_, accounts.unkept,
        accounts.older⟩
      rintro o c ⟨⟩ ⟨⟩
  | some o =>
      exact ⟨accounts.files, accounts.opened, by simp [Builder.step], accounts.kept,
        accounts.unkept, accounts.older⟩

/-- An event that happens outside of the mapping files nothing. -/
theorem Files.snoc {classes : ClassMap} (files : Files settings l classes) (e : Event)
    {place : Location} (outside : ∀ key, place ≠ .filed key) :
    Files settings (l ++ [(e, place)]) classes where
  filed key c found := by
    rw [eventsAt_snoc]
    simpa [outside key] using files.filed key c found
  absent key missing := by
    rw [List.forall_mem_append]
    exact ⟨files.absent key missing, List.forall_mem_singleton.mpr (outside key)⟩

/-- An event that does not go into the kept copy leaves the order of the copy as it is. -/
theorem older_snoc {key : Text} (e : Event) {place : Location} (apart : place ≠ .opened true)
    (older : l.Pairwise fun x y => ¬ (x.2 = .filed key ∧ y.2 = .opened true)) :
    (l ++ [(e, place)]).Pairwise fun x y => ¬ (x.2 = .filed key ∧ y.2 = .opened true) := by
  rw [List.pairwise_append]
  refine ⟨older, List.pairwise_singleton _ _, fun x _ y member both => apart ?_⟩
  rw [List.mem_singleton] at member
  rw [← both.2, member]

/-- A member goes into the open class, or nowhere if none is open. -/
theorem accounts_declare (member : Line.Member) (accounts : Accounts settings l b) :
    Accounts settings (l.step settings b (.declare member))
      (b.step settings (.declare member)) := by
  have ledger : l.step settings b (.declare member)
      = l ++ [(.declared member, Event.origin b (.declared member))] := by
    rw [step_of_still fun place => by cases place <;> rfl]
    simp [Step.event?]
  rw [ledger]
  obtain ⟨classes, relations, opened⟩ := b
  cases opened with
  | none =>
      have origin : Event.origin ⟨classes, relations, none⟩ (.declared member) = .gone := rfl
      rw [origin]
      refine ⟨accounts.files.snoc _ (by simp), ?_, fun _ => ?_, by simp [Builder.step],
        fun unkept => ?_, ?_⟩
      · rw [eventsAt_snoc, Location.isOpened_gone, if_neg Bool.false_ne_true, List.append_nil]
        exact accounts.opened
      · rw [List.forall_mem_append]
        exact ⟨accounts.idle rfl, List.forall_mem_singleton.mpr rfl⟩
      · rw [List.forall_mem_append]
        exact ⟨accounts.unkept unkept, List.forall_mem_singleton.mpr (by simp)⟩
      · exact fun key kept => older_snoc _ (by simp) (accounts.older key kept)
  | some o =>
      have origin : Event.origin ⟨classes, relations, some o⟩ (.declared member) = .opened false :=
        rfl
      rw [origin]
      refine ⟨accounts.files.snoc _ (by simp), ?_, by simp [Builder.step], ?_, fun unkept => ?_, ?_⟩
      · rw [eventsAt_snoc, Location.isOpened_opened, if_pos rfl]
        exact accounts.opened.declare member
      · rintro o' c ⟨⟩ copied
        simpa [eventsAt_snoc] using accounts.kept o c rfl copied
      · rw [List.forall_mem_append]
        exact ⟨accounts.unkept unkept, List.forall_mem_singleton.mpr (by simp)⟩
      · exact fun key kept => older_snoc _ (by simp) (accounts.older key kept)

/-- A brace files the members of the open class under its name. -/
theorem files_close (accounts : Accounts settings l b) :
    Files settings (l.move (Location.after b .close)) b.close.classes := by
  obtain ⟨classes, relations, opened⟩ := b
  by_cases unnamed : (Builder.openClass ⟨classes, relations, opened⟩).name = []
  · have same : (Builder.close ⟨classes, relations, opened⟩).classes = classes := by
      cases opened with
      | none => rfl
      | some o => exact if_pos unnamed
    have left : ∀ key place, Location.after ⟨classes, relations, opened⟩ .close place = .filed key ↔
        place = .filed key := by
      intro key place
      cases place with
      | filed other =>
          have apart : ¬ (other ≠ [] ∧ other = []) := fun both => both.1 both.2
          simp [Location.after, unnamed, apart]
      | opened kept => simp [Location.after, unnamed]
      | gone => simp [Location.after]
    rw [same]
    exact accounts.files.move left
  · cases opened with
    | none => exact absurd rfl unnamed
    | some o =>
        have written : (Builder.close ⟨classes, relations, some o⟩).classes
            = classes.insert o.current.name o.current := if_neg unnamed
        rw [written]
        refine accounts.files.insert ?_ fun key place other => ?_
        · rw [eventsAt_congr (q := Location.isOpened) fun entry _ => by
            rw [Bool.eq_iff_iff]
            simp [Location.after_close_eq_filed_iff unnamed]]
          exact accounts.opened
        · have apart : key ≠ (Builder.openClass ⟨classes, relations, some o⟩).name := other
          rw [Location.after_close_eq_filed_iff unnamed, if_neg apart]

theorem accounts_close (accounts : Accounts settings l b) :
    Accounts settings (l.step settings b .close) (b.step settings .close) := by
  have ledger : l.step settings b .close = l.move (Location.after b .close) := by
    simp [step, Step.event?]
  have shut : ∀ entry ∈ l.move (Location.after b .close), entry.2.isOpened = false :=
    List.forall_mem_map.mpr fun entry _ => Location.isOpened_after_close entry.2
  have closed : b.close.opened = none := by
    unfold Builder.close
    split
    · assumption
    · rfl
  rw [ledger]
  change Accounts settings (l.move (Location.after b .close)) b.close
  refine ⟨files_close accounts, ?_, fun _ => shut, ?_, fun _ entry member place => ?_, ?_⟩
  · rw [eventsAt_eq_nil shut, Builder.openClass, closed]
    exact Class.ConsistsOf.blank []
  · rintro o c opened
    rw [closed] at opened
    cases opened
  · have nothing := shut entry member
    rw [place] at nothing
    cases nothing
  · intro key kept
    rw [Builder.savedName, closed] at kept
    cases kept

/-- A class that a relation brings in consists of no events. -/
theorem Files.ensure {classes : ClassMap} (files : Files settings l classes) (name : Text) :
    Files settings l (ClassMap.ensure classes name) where
  filed key c found := by
    rw [ClassMap.get?_ensure] at found
    cases present : classes.get? key with
    | some d =>
        rw [present] at found
        exact files.filed key c (by rw [present]; exact found)
    | none =>
        rw [present] at found
        have missing := OrderedMap.get?_eq_none_iff.mp present
        rw [eventsAt_eq_nil fun entry member => by
          simpa using files.absent key missing entry member]
        by_cases same : key = name
        · simp only [same, if_true] at found
          rw [← Option.some.inj found]
          exact Class.ConsistsOf.blank _
        · simp [same] at found
  absent key missing :=
    files.absent key fun present => missing (ClassMap.mem_keys_ensure.mpr (Or.inl present))

/-- The attribute that a relation adds is filed under its target. -/
theorem files_related {classes : ClassMap} (files : Files settings l classes) (suffix : Text)
    (r : Relation) :
    Files settings
      (l ++ (r.injected suffix).toList.map fun field => (.injected field.1 field.2, .filed field.1))
      (ClassMap.related suffix classes r) := by
  have both := (files.ensure r.left).ensure r.right
  cases injected : r.injected suffix with
  | none =>
      have same : ClassMap.related suffix classes r
          = ClassMap.ensure (ClassMap.ensure classes r.left) r.right := by
        simp [ClassMap.related, injected]
      rw [same]
      simpa using both
  | some pair =>
      obtain ⟨target, field⟩ := pair
      refine ⟨fun key c found => ?_, fun key missing => ?_⟩
      · rw [ClassMap.get?_related, injected] at found
        obtain ⟨d, stood, extended⟩ := Option.map_eq_some_iff.mp found
        simp only [Option.toList_some, List.map_cons, List.map_nil, eventsAt_snoc]
        by_cases same : key = target
        · simp only [same, if_true] at extended
          rw [← extended, if_pos (by simp [same])]
          exact (both.filed key d stood).inject target field
        · simp only [same, if_false] at extended
          rw [← extended, if_neg (by simpa using Ne.symm same), List.append_nil]
          exact both.filed key d stood
      · simp only [Option.toList_some, List.map_cons, List.map_nil]
        rw [List.forall_mem_append]
        have absent : key ∉ (ClassMap.ensure (ClassMap.ensure classes r.left) r.right).keys := by
          intro present
          rw [ClassMap.mem_keys_ensure, ClassMap.mem_keys_ensure, or_assoc] at present
          exact missing (ClassMap.mem_keys_related.mpr present)
        refine ⟨both.absent key absent, List.forall_mem_singleton.mpr fun filed => ?_⟩
        obtain rfl := Location.filed.inj filed
        exact absent (ClassMap.mem_keys_of_injected classes injected)

theorem accounts_relate (r : Relation) (accounts : Accounts settings l b) :
    Accounts settings (l.step settings b (.relate r)) (b.step settings (.relate r)) := by
  have ledger : l.step settings b (.relate r)
      = l ++ (r.injected settings.foreignKeySuffix).toList.map fun field =>
          (.injected field.1 field.2, .filed field.1) := by
    rw [step_of_still fun place => by cases place <;> rfl]
    cases injected : r.injected settings.foreignKeySuffix <;>
      simp [Step.event?, Relation.event?, injected, Event.origin]
  have files := files_related accounts.files settings.foreignKeySuffix r
  rw [ledger]
  cases injected : r.injected settings.foreignKeySuffix with
  | none =>
      rw [injected] at files
      simp only [Option.toList_none, List.map_nil, List.append_nil] at files ⊢
      exact ⟨files, accounts.opened, accounts.idle, accounts.kept, accounts.unkept, accounts.older⟩
  | some pair =>
      obtain ⟨target, field⟩ := pair
      rw [injected] at files
      simp only [Option.toList_some, List.map_cons, List.map_nil] at files ⊢
      refine ⟨files, ?_, fun idle => ?_, ?_, fun unkept => ?_, ?_⟩
      · rw [eventsAt_snoc, Location.isOpened_filed, if_neg Bool.false_ne_true, List.append_nil]
        exact accounts.opened
      · rw [List.forall_mem_append]
        exact ⟨accounts.idle idle, List.forall_mem_singleton.mpr rfl⟩
      · intro o c opened copied
        simpa [eventsAt_snoc] using accounts.kept o c opened copied
      · rw [List.forall_mem_append]
        exact ⟨accounts.unkept unkept, List.forall_mem_singleton.mpr (by simp)⟩
      · exact fun key kept => older_snoc _ (by simp) (accounts.older key kept)

/-- A step keeps the ledger and the builder in agreement. -/
theorem accounts_step {s : Step} (accounts : Accounts settings l b) (named : b.IsNamed) :
    Accounts settings (l.step settings b s) (b.step settings s) := by
  cases s with
  | enter name =>
      by_cases known : name ∈ b.classes.keys
      · obtain ⟨c, found⟩ := OrderedMap.mem_keys_iff.mp known
        exact accounts_enter_known accounts found (named.keyed name c found)
      · exact accounts_enter_unknown accounts known
  | ready => exact accounts_ready accounts
  | declare member => exact accounts_declare member accounts
  | close => exact accounts_close accounts
  | relate r => exact accounts_relate r accounts

/-- Along every run the classes of the builder are what the ledger says. -/
theorem accounts_run {steps : List Step} (proper : ∀ s ∈ steps, s.IsProper)
    (accounts : Accounts settings l b) (named : b.IsNamed) :
    Accounts settings (run settings b l steps) (b.run settings steps) := by
  induction steps generalizing l b with
  | nil => exact accounts
  | cons s rest ih =>
      have properFirst := proper s List.mem_cons_self
      exact ih (fun t member => proper t (List.mem_cons_of_mem _ member))
        (accounts_step accounts named) (Builder.isNamed_step named properFirst)

/-- What is dropped at the end of input leaves the kept copy behind. -/
theorem files_restored (accounts : Accounts settings l b) (named : b.IsNamed)
    (unflushed : settings.flushUnterminated = false) {name : Text}
    (saved : b.savedName = some name) :
    Files settings (l.move (Location.atEnd settings b)) (b.finish settings).classes := by
  obtain ⟨o, opened, copy, held, rfl⟩ := named.copy_of_savedName saved
  have back : ∀ key place, Location.atEnd settings b place = .filed key ↔ _ := fun key place =>
    Location.atEnd_eq_filed_iff unflushed place
  rw [Builder.classes_finish_of_copy unflushed opened held]
  refine accounts.files.insert ?_ fun key place other => ?_
  · -- What a relation put under the name meanwhile is younger than all of the copy.
    rw [eventsAt_eq_append (p := (· = .opened true)) (q := (· = .filed copy.name))
      (fun place => by rw [Bool.eq_iff_iff]; simp [back, saved, or_comm])
      (fun place inCopy => by simp_all)
      (by simpa using accounts.older copy.name saved)]
    have keeps := accounts.kept o copy opened held
    cases put : b.classes.get? copy.name with
    | some c => exact keeps.absorb (accounts.files.filed copy.name c put)
    | none =>
        have missing := OrderedMap.get?_eq_none_iff.mp put
        rw [eventsAt_eq_nil (p := (· = .filed copy.name)) fun entry member => by
          simpa using accounts.files.absent copy.name missing entry member, List.append_nil]
        exact keeps
  · rw [back, saved, Option.some.injEq]
    exact ⟨fun either => either.resolve_right fun both => other both.1.symm, Or.inl⟩

/-- At the end of input the classes of the builder are still what the ledger says. -/
theorem files_finish (accounts : Accounts settings l b) (named : b.IsNamed) :
    Files settings (l.move (Location.atEnd settings b)) (b.finish settings).classes := by
  cases flush : settings.flushUnterminated with
  | true =>
      have closes : Location.atEnd settings b = Location.after b .close := by
        funext place
        exact if_pos flush
      rw [closes, Builder.finish_of_flush flush]
      exact files_close accounts
  | false =>
      cases saved : b.savedName with
      | none =>
          have left : ∀ key place,
              Location.atEnd settings b place = .filed key ↔ place = .filed key := by
            intro key place
            simp [Location.atEnd_eq_filed_iff flush, saved]
          rw [Builder.finish_of_unsaved flush saved]
          exact accounts.files.move left
      | some name => exact files_restored accounts named flush saved

/-- The classes that are read from a text consist of the events that the ledger of the text files
under their keys. -/
theorem files_ofText {text : Text}
    (accepted : (Builder.start.readText settings text).error = none) :
    Files settings (ofText settings text)
      (Builder.start.readText settings text).builder.classes := by
  have proper : ∀ s ∈ Builder.stepsOf settings (documentLines text), s.IsProper :=
    Builder.stepsOf_isProper _
  rw [Builder.readText_eq_run accepted]
  exact files_finish (accounts_run proper accounts_start Builder.isNamed_start)
    (Builder.isNamed_run proper Builder.isNamed_start)

end Ledger

end ClassDiagram
