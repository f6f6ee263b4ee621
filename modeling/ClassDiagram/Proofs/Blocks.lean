import ClassDiagram.Proofs.Accounts

/-!
# The blocks that members are declared in

A member is declared in the block of the class that was named last, unless a brace has come since.
It should be in that class when the reading is over. There is one thing that moves members to
another class: a header with a new name gives that name to the class that is open, with all the
members that are in it. So members are in the classes of their blocks exactly if the ones that were
moved are lost later or come back.
-/

namespace ClassDiagram

namespace Line

/-- The block of the member of a line, if `block` is the one before the line: the last name that the
line opens counts. -/
def block (block : Option Text) (line : Text) : Option Text :=
  (openedNames line).getLast?.or block

/-- The block after a line, if `block` is the one before it. -/
def blockAfter (marker : Text) (block : Option Text) (line : Text) : Option Text :=
  if isSectionMarker marker line then block
  else if isClassClose line then none
  else Line.block block line

end Line

/-- The block of an event. What a relation adds is in no block. -/
def Event.inBlock (block : Option Text) : Event → Option Text
  | .declared _ => block
  | .injected _ _ => none

/-- The blocks of the events of lines, if `block` is the one before the lines. -/
def blocksOf (settings : Settings) (block : Option Text) : List Text → List (Option Text)
  | [] => []
  | line :: rest =>
      (Line.events settings line).map (Event.inBlock (Line.block block line))
        ++ blocksOf settings (Line.blockAfter settings.sectionMarker block line) rest

/-- The blocks of the events of a text. -/
def documentBlocks (settings : Settings) (text : Text) : List (Option Text) :=
  blocksOf settings none (documentLines text)

/-- The block after a step. -/
def Step.blockAfter (block : Option Text) : Step → Option Text
  | .enter name => some name
  | .close => none
  | _ => block

/-- The blocks of the events of steps, if `block` is the one before them. -/
def Step.blocks (suffix : Text) (block : Option Text) : List Step → List (Option Text)
  | [] => []
  | s :: rest =>
      (s.event? suffix).toList.map (Event.inBlock block) ++ blocks suffix (s.blockAfter block) rest

namespace Step

variable {suffix : Text} {block : Option Text}

theorem blocks_append (first second : List Step) :
    blocks suffix block (first ++ second)
      = blocks suffix block first ++ blocks suffix (first.foldl blockAfter block) second := by
  induction first generalizing block with
  | nil => rfl
  | cons s rest ih => simp [blocks, ih]

/-- Headers make no events, and the last name counts. -/
theorem blocks_enter (names : List Text) : blocks suffix block (names.map .enter) = [] := by
  induction names generalizing block with
  | nil => rfl
  | cons name rest ih => exact ih

theorem foldl_blockAfter_enter (names : List Text) :
    (names.map Step.enter).foldl blockAfter block = names.getLast?.or block := by
  induction names generalizing block with
  | nil => rfl
  | cons name rest ih =>
      rw [List.map_cons, List.foldl_cons, ih]
      cases rest <;> simp [blockAfter, List.getLast?_cons]

end Step

/-- The steps of a line have the blocks that the line gives them. -/
theorem Line.blocks_steps (settings : Settings) (block : Option Text) (line : Text) :
    Step.blocks settings.foreignKeySuffix block (steps settings.sectionMarker line)
        = (events settings line).map (Event.inBlock (Line.block block line)) ∧
      (steps settings.sectionMarker line).foldl Step.blockAfter block
        = Line.blockAfter settings.sectionMarker block line := by
  unfold steps events blockAfter
  split
  · exact ⟨rfl, rfl⟩
  · -- Kind by kind: the events of steps of that kind, and the block after them.
    have ready : ∀ block : Option Text,
        Step.blocks settings.foreignKeySuffix block
            (if isClassOpen (beforeClose line) then [.ready] else []) = [] ∧
          (if isClassOpen (beforeClose line) then [Step.ready] else []).foldl Step.blockAfter block
            = block := by
      intro block
      split <;> exact ⟨rfl, rfl⟩
    have declared : ∀ block : Option Text,
        Step.blocks settings.foreignKeySuffix block
            ((member? (memberSegment line)).toList.map .declare)
          = ((member? (memberSegment line)).toList.map .declared).map (Event.inBlock block) ∧
        ((member? (memberSegment line)).toList.map Step.declare).foldl Step.blockAfter block
            = block := by
      intro block
      cases member? (memberSegment line) <;> exact ⟨rfl, rfl⟩
    have closed : ∀ block : Option Text,
        Step.blocks settings.foreignKeySuffix block
            (if isClassClose line then [.close] else []) = [] ∧
          (if isClassClose line then [Step.close] else []).foldl Step.blockAfter block
            = if isClassClose line then none else block := by
      intro block
      split <;> exact ⟨rfl, rfl⟩
    have related : ∀ block other : Option Text,
        Step.blocks settings.foreignKeySuffix block ((relation? line).toList.map .relate)
          = ((relation? line).bind (Relation.event? settings.foreignKeySuffix)).toList.map
              (Event.inBlock other) ∧
        ((relation? line).toList.map Step.relate).foldl Step.blockAfter block = block := by
      intro block other
      cases relation? line with
      | none => exact ⟨rfl, rfl⟩
      | some r =>
          refine ⟨?_, rfl⟩
          cases made : r.injected settings.foreignKeySuffix <;>
            simp [Step.blocks, Step.event?, Relation.event?, made, Event.inBlock]
    have entered : (openedNames line).getLast?.or block = Line.block block line := rfl
    constructor
    · simp only [Step.blocks_append, List.foldl_append, Step.blocks_enter,
        Step.foldl_blockAfter_enter, ready, declared, closed,
        related _ (Line.block block line), List.map_append, List.nil_append, List.append_nil,
        entered]
    · simp only [List.foldl_append, Step.foldl_blockAfter_enter, ready, declared, closed,
        related _ none, entered]

theorem blocks_stepsOf (settings : Settings) (block : Option Text) (lines : List Text) :
    Step.blocks settings.foreignKeySuffix block (Builder.stepsOf settings lines)
      = blocksOf settings block lines := by
  induction lines generalizing block with
  | nil => rfl
  | cons line rest ih =>
      obtain ⟨here, after⟩ := Line.blocks_steps settings block line
      rw [Builder.stepsOf, List.flatMap_cons, Step.blocks_append, here, after, ← Builder.stepsOf,
        ih, blocksOf]

/-- Whether a header gives a new name to the class that is open. -/
def Builder.Renames (b : Builder) (name : Text) : Prop :=
  name ∉ b.classes.keys ∧ b.openClass.name ≠ name

/-- Whether an event of a block is where its block is: in the class of that name, in the open class
while it has that name, or nowhere. A kept copy goes back to the same class. -/
def Location.Agrees (b : Builder) (block : Option Text) : Location → Prop
  | .filed key => block = some key
  | .opened true => block = some b.openClass.name ∧ b.savedName = block
  | .opened false => block.getD [] = b.openClass.name
  | .gone => True

namespace Location

variable {settings : Settings} {b : Builder} {block : Option Text} {place : Location}

/-- A brace files an event of the open class under the name of its block. -/
theorem agrees_after_close (agrees : place.Agrees b block) {key : Text}
    (filed : after b .close place = .filed key) : block = some key := by
  cases place with
  | filed other =>
      simp only [after] at filed
      split at filed
      · cases filed
      · rw [agrees, Location.filed.inj filed]
  | opened kept =>
      simp only [after] at filed
      split at filed
      · cases filed
      · rename_i named
        obtain rfl := Location.filed.inj filed
        cases kept with
        | true => exact agrees.1
        | false =>
            cases block with
            | none => exact absurd agrees.symm named
            | some name => exact congrArg some agrees
  | gone => cases filed

/-- The end of input files an event under the name of its block. -/
theorem agrees_atEnd (agrees : place.Agrees b block) {key : Text}
    (filed : atEnd settings b place = .filed key) : block = some key := by
  cases flush : settings.flushUnterminated with
  | true =>
      have closes : atEnd settings b place = after b .close place := if_pos flush
      exact agrees_after_close agrees (closes ▸ filed)
  | false =>
      rcases (atEnd_eq_filed_iff flush place).mp filed with rfl | ⟨saved, rfl⟩
      · exact agrees
      · exact agrees.2.symm.trans saved

/-- At the end of input nothing is in an open class any more. -/
theorem atEnd_ne_opened (place : Location) (kept : Bool) :
    atEnd settings b place ≠ .opened kept := by
  intro opened
  cases flush : settings.flushUnterminated with
  | true =>
      have closes : atEnd settings b place = after b .close place := if_pos flush
      have shut := isOpened_after_close (b := b) place
      rw [← closes, opened] at shut
      cases shut
  | false =>
      cases place with
      | filed key => simp [atEnd, flush] at opened
      | opened other =>
          cases other with
          | true => cases saved : b.savedName <;> simp [atEnd, flush, saved] at opened
          | false => simp [atEnd, flush] at opened
      | gone => simp [atEnd, flush] at opened

/-- Where an event should be depends on the builder only by two names. -/
theorem Agrees.of_names {b' : Builder} (agrees : place.Agrees b block)
    (current : b'.openClass.name = b.openClass.name) (saved : b'.savedName = b.savedName) :
    place.Agrees b' block := by
  cases place with
  | filed key => exact agrees
  | opened kept =>
      cases kept with
      | true => exact ⟨agrees.1.trans (congrArg some current.symm), saved.trans agrees.2⟩
      | false => exact agrees.trans current.symm
  | gone => trivial

/-- A step leaves an event where its block is, unless it is a header that gives another name to the
open class and the event is there. -/
theorem agrees_step (keyed : b.classes.IsKeyed) {s : Step} (agrees : place.Agrees b block)
    (present : ∀ key, place = .filed key → key ∈ b.classes.keys)
    (unrenamed : ∀ name, s = .enter name → b.Renames name → place.isOpened = false) :
    (after b s place).Agrees (b.step settings s) block := by
  have current : (b.step settings s).openClass.name = _ := Builder.openClass_name_step keyed s
  have saved : (b.step settings s).savedName = _ := Builder.savedName_step keyed s
  cases s with
  | enter name =>
      cases place with
      | filed key =>
          simp only [after]
          split
          · rename_i same
            have known : name ∈ b.classes.keys := same ▸ present key rfl
            have own : block = some name := same ▸ agrees
            exact ⟨own.trans (congrArg some current.symm),
              saved.trans ((if_pos known).trans own.symm)⟩
          · exact agrees
      | opened kept =>
          simp only [after]
          split
          · trivial
          · rename_i absent
            have unknown : name ∉ b.classes.keys := fun known =>
              absent (OrderedMap.contains_iff.mpr known)
            have same : b.openClass.name = name := by
              apply Decidable.byContradiction
              intro other
              cases unrenamed name rfl ⟨unknown, other⟩
            exact agrees.of_names (current.trans same.symm) (saved.trans (if_neg unknown))
      | gone => trivial
  | ready => exact agrees.of_names current saved
  | declare m => exact agrees.of_names current saved
  | close =>
      cases filed : after b .close place with
      | filed key => exact agrees_after_close agrees filed
      | opened kept =>
          have shut := isOpened_after_close (b := b) place
          rw [filed] at shut
          cases shut
      | gone => trivial
  | relate r => exact agrees.of_names current saved

/-- A member is declared into the class of its block, or nowhere if no class is open. -/
theorem agrees_origin (keyed : b.classes.IsKeyed) (current : b.openClass.name = block.getD [])
    (m : Line.Member) :
    ((Event.declared m).origin b).Agrees (b.step settings (.declare m)) block := by
  have name : (b.step settings (.declare m)).openClass.name = _ :=
    Builder.openClass_name_step keyed (.declare m)
  cases opened : b.opened with
  | none => simp [Event.origin, opened, Agrees]
  | some o => simpa [Event.origin, opened, Agrees, name] using current.symm

end Location

namespace Ledger

variable {settings : Settings} {l : Ledger} {b : Builder}

/-- A step moves the entries of the ledger and may add one. -/
theorem getElem?_step {s : Step} {i : Nat} {e : Event} {place : Location}
    (found : (l.step settings b s)[i]? = some (e, place)) :
    (∃ before, l[i]? = some (e, before) ∧ place = Location.after b s before) ∨
      i = l.length ∧ s.event? settings.foreignKeySuffix = some e ∧ place = e.origin b := by
  rw [step, List.getElem?_append] at found
  split at found
  · left
    rw [move, List.getElem?_map] at found
    obtain ⟨⟨other, before⟩, here, moved⟩ := Option.map_eq_some_iff.mp found
    obtain ⟨rfl, rfl⟩ := Prod.mk.inj moved
    exact ⟨before, here, rfl⟩
  · rename_i later
    right
    cases made : s.event? settings.foreignKeySuffix with
    | none => simp [made] at found
    | some new =>
        rw [made, Option.toList_some, List.map_singleton, List.getElem?_singleton] at found
        split at found
        · rename_i last
          rw [move, List.length_map] at later last
          obtain ⟨rfl, rfl⟩ := Prod.mk.inj (Option.some.inj found)
          exact ⟨by omega, rfl, rfl⟩
        · cases found

theorem length_step (s : Step) : (l.step settings b s).length
    = l.length + (s.event? settings.foreignKeySuffix).toList.length := by
  simp [step, move]

/-- Whether the members in a ledger are where their blocks are, except those that satisfy `p`. -/
def Agrees (p : Nat → Prop) (blocks : List (Option Text)) (b : Builder) (l : Ledger) : Prop :=
  ∀ i member place, l[i]? = some (.declared member, place) →
    p i ∨ ∃ own, blocks[i]? = some own ∧ place.Agrees b own

/-- A step keeps members where their blocks are, except those that satisfy `p`, if each member that
it finds in an open class which it gives another name satisfies `p`. -/
theorem agrees_step {p : Nat → Prop} {blocks done later : List (Option Text)} {block : Option Text}
    {s : Step} (named : b.IsNamed) (accounts : Accounts settings l b)
    (current : b.openClass.name = block.getD [])
    (split : blocks
      = done ++ ((s.event? settings.foreignKeySuffix).toList.map (Event.inBlock block) ++ later))
    (aligned : done.length = l.length)
    (renamed : ∀ name, s = .enter name → b.Renames name → ∀ i member kept,
      l[i]? = some (.declared member, .opened kept) → p i)
    (agrees : l.Agrees p blocks b) : (l.step settings b s).Agrees p blocks (b.step settings s) := by
  intro i member place found
  rcases getElem?_step found with ⟨before, old, rfl⟩ | ⟨rfl, made, rfl⟩
  · rcases agrees i member before old with excused | ⟨own, here, stands⟩
    · exact Or.inl excused
    · -- Either the step leaves the place of the member as it was, or `renamed` speaks of it.
      by_cases unrenamed : ∀ name, s = .enter name → b.Renames name → before.isOpened = false
      · refine Or.inr ⟨own, here, Location.agrees_step named.keyed stands ?_ unrenamed⟩
        intro key filed
        apply Decidable.byContradiction
        intro absent
        exact accounts.files.absent key absent _ (List.mem_of_getElem? old) filed
      · simp only [not_forall] at unrenamed
        obtain ⟨name, rfl, renames, opened⟩ := unrenamed
        obtain ⟨kept, rfl⟩ := Location.isOpened_iff.mp (by simpa using opened)
        exact Or.inl (renamed name rfl renames i member kept old)
  · cases s with
    | declare m =>
        obtain rfl : m = member := Event.declared.inj (Option.some.inj made)
        refine Or.inr ⟨block, ?_, Location.agrees_origin named.keyed current m⟩
        rw [split, ← aligned, List.getElem?_append_right (Nat.le_refl _), Nat.sub_self]
        rfl
    | enter name => cases made
    | ready => cases made
    | close => cases made
    | relate r =>
        obtain ⟨field, -, same⟩ := Option.map_eq_some_iff.mp made
        cases same

/-- Along a run the members are where their blocks are, except those that satisfy `p`, if each
member that is in an open class when that class gets another name satisfies `p`. -/
theorem agrees_run (p : Nat → Prop) (blocks done : List (Option Text)) (block : Option Text)
    {steps : List Step} (proper : ∀ s ∈ steps, s.IsProper) (named : b.IsNamed)
    (accounts : Accounts settings l b) (current : b.openClass.name = block.getD [])
    (split : blocks = done ++ Step.blocks settings.foreignKeySuffix block steps)
    (aligned : done.length = l.length)
    (renamed : ∀ before name after, steps = before ++ .enter name :: after →
      (b.run settings before).Renames name → ∀ i member kept,
        (run settings b l before)[i]? = some (.declared member, .opened kept) → p i)
    (agrees : l.Agrees p blocks b) :
    (run settings b l steps).Agrees p blocks (b.run settings steps) := by
  induction steps generalizing b l block done with
  | nil => exact agrees
  | cons s rest ih =>
      have first : (l.step settings b s).Agrees p blocks (b.step settings s) :=
        agrees_step named accounts current split aligned
          (fun name same => renamed [] name rest (by rw [same]; rfl)) agrees
      refine ih (done ++ (s.event? settings.foreignKeySuffix).toList.map (Event.inBlock block))
        (s.blockAfter block) (fun t member => proper t (List.mem_cons_of_mem _ member))
        (Builder.isNamed_step named (proper s List.mem_cons_self)) (accounts_step accounts named)
        ?_ ?_ ?_ ?_ first
      · rw [Builder.openClass_name_step named.keyed]
        cases s <;> first | rfl | exact current
      · rw [split, Step.blocks, List.append_assoc]
      · rw [length_step, List.length_append, List.length_map, aligned]
      · intro before name after whole
        exact renamed (s :: before) name after (by rw [whole]; rfl)

/-- The place of an event at the end follows from its place after the last line. -/
theorem getElem?_ofText {text : Text} {i : Nat} {e : Event} {place : Location}
    (found : (ofText settings text)[i]? = some (e, place)) :
    ∃ before,
      (run settings .start [] (Builder.stepsOf settings (documentLines text)))[i]?
          = some (e, before) ∧
        Location.atEnd settings
          (.run settings .start (Builder.stepsOf settings (documentLines text))) before
            = place := by
  rw [ofText, move, List.getElem?_map] at found
  obtain ⟨⟨_, before⟩, here, same⟩ := Option.map_eq_some_iff.mp found
  obtain ⟨rfl, atEnd⟩ := Prod.mk.inj same
  exact ⟨before, here, atEnd⟩

theorem ofText_ne_opened {text : Text} (i : Nat) (e : Event) (kept : Bool) :
    (ofText settings text)[i]? ≠ some (e, .opened kept) := by
  intro found
  obtain ⟨before, -, atEnd⟩ := getElem?_ofText found
  exact Location.atEnd_ne_opened before kept atEnd

end Ledger

/-- Whether every member that is in a class at the end is in the class of the block that it was
declared in. -/
def MembersStay (settings : Settings) (text : Text) : Prop :=
  ∀ (i : Nat) member key, (Ledger.ofText settings text)[i]? = some (.declared member, .filed key) →
    (documentBlocks settings text)[i]? = some (some key)

/-- Whether a header gives another name to a class that is open and has the declared member at
position `i` of the events in it. -/
def RenamesClassOf (settings : Settings) (text : Text) (i : Nat) : Prop :=
  ∃ before name after,
    Builder.stepsOf settings (documentLines text) = before ++ .enter name :: after ∧
      (Builder.run settings .start before).Renames name ∧
        ∃ member kept,
          (Ledger.run settings .start [] before)[i]? = some (.declared member, .opened kept)

/-- The classes of a diagram are made of the events that the ledger files under their names. All
members are in the classes of their blocks exactly if every member whose class gets another name
while it is open is lost by the end, or is back in the class of its block. -/
theorem members_stay_iff_renamed_return {settings : Settings} {text : Text} {classes : ClassMap}
    (accepted : parse settings text = .ok classes) :
    (Ledger.ofText settings text).Files settings classes ∧
      (MembersStay settings text ↔
        ∀ i, RenamesClassOf settings text i → ∀ member place,
          (Ledger.ofText settings text)[i]? = some (.declared member, place) →
            place = .gone ∨
              ∃ key, place = .filed key ∧
                (documentBlocks settings text)[i]? = some (some key)) := by
  obtain ⟨unrefused, rfl⟩ := parse_eq_ok_iff.mp accepted
  refine ⟨Ledger.files_ofText unrefused, fun stays i _ member place found => ?_,
    fun return_ i member key found => ?_⟩
  · cases place with
    | filed key => exact Or.inr ⟨key, rfl, stays i member key found⟩
    | opened kept => exact absurd found (Ledger.ofText_ne_opened i _ kept)
    | gone => exact Or.inl rfl
  · have proper : ∀ s ∈ Builder.stepsOf settings (documentLines text), s.IsProper :=
      Builder.stepsOf_isProper _
    have stay := Ledger.agrees_run (RenamesClassOf settings text) (documentBlocks settings text)
      [] none proper Builder.isNamed_start Ledger.accounts_start rfl
      (blocks_stepsOf settings none _).symm rfl
      (fun before name after split renames i member kept here =>
        ⟨before, name, after, split, renames, member, kept, here⟩)
      (fun _ _ _ found => by cases found)
    obtain ⟨place, here, atEnd⟩ := Ledger.getElem?_ofText found
    rcases stay i member place here with renamed | ⟨own, block, agrees⟩
    · rcases return_ i renamed member (.filed key) found with gone | ⟨_, same, block⟩
      · cases gone
      · rw [block, Location.filed.inj same]
    · rw [block, Location.agrees_atEnd agrees atEnd]

/-- A class that is known and one that is not are named on the same line. -/
def renamedText : Text :=
  "class A \x7b\nint x\n\x7d\nclass A \x7b class B \x7b\n\x7d".toList

/-- The member of the first class is in the second one. -/
def renamedClasses : ClassMap :=
  ⟨[("B".toList, ⟨"B".toList, [⟨.primitive .integer, "x".toList⟩], []⟩)], by decide⟩

theorem member_moves_to_other_block :
    parse {} renamedText = .ok renamedClasses ∧
      documentEvents {} renamedText = [.declared ⟨"int".toList, "x".toList, false⟩] ∧
        documentBlocks {} renamedText = [some "A".toList] ∧
          ¬ MembersStay {} renamedText := by
  refine ⟨by decide +kernel, by decide +kernel, by decide +kernel, fun stays => ?_⟩
  have block := stays 0 ⟨"int".toList, "x".toList, false⟩ "B".toList (by decide +kernel)
  revert block
  decide +kernel

/-- Without the brace the class that was known comes back. -/
def unclosedText : Text :=
  "class A \x7b\nint x\n\x7d\nclass A \x7b class B \x7b\nint y".toList

/-- It has the member of its own block, and the other member is dropped. -/
def unclosedClasses : ClassMap :=
  ⟨[("A".toList, ⟨"A".toList, [⟨.primitive .integer, "x".toList⟩], []⟩)], by decide⟩

theorem members_stay_iff_renamed_return_unclosed :
    parse {} unclosedText = .ok unclosedClasses ∧
      (Ledger.ofText {} unclosedText).Files {} unclosedClasses ∧
        (MembersStay {} unclosedText ↔
          ∀ i, RenamesClassOf {} unclosedText i → ∀ member place,
            (Ledger.ofText {} unclosedText)[i]? = some (.declared member, place) →
              place = .gone ∨
                ∃ key, place = .filed key ∧
                  (documentBlocks {} unclosedText)[i]? = some (some key)) :=
  have accepted : parse {} unclosedText = .ok unclosedClasses := by decide +kernel
  ⟨accepted, members_stay_iff_renamed_return accepted⟩

end ClassDiagram
