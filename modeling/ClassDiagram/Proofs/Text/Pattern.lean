import ClassDiagram.Text.Basic
import Mathlib.Data.List.TakeWhile

/-!
# Patterns that are searched by trying

A pattern may fit the beginning of a text in several ways. They are listed in the order in which a
search tries them: a repetition takes as many characters as it can first and gives them back one by
one, and an optional part is tried before it is left out. A later part that does not fit makes the
search go back to the next way of an earlier part. A pattern is searched from the left, and the first
way to fit at the first place counts.
-/

namespace ClassDiagram

/-- A pattern of characters. -/
inductive Pattern where
  /-- A character of a kind. -/
  | one (p : Char → Bool)
  /-- Any number of characters of a kind, none included. -/
  | many (p : Char → Bool)
  /-- Two patterns one after the other. -/
  | seq (first second : Pattern)
  /-- A pattern that may be left out. -/
  | maybe (inner : Pattern)
  /-- A pattern whose text is kept. -/
  | group (inner : Pattern)

/-- A way to fit a pattern: the text that it takes, the texts of its groups, a group that was left
out having none, and the text that remains. -/
structure Fit where
  text : Text
  groups : List (Option Text)
  rest : Text
  deriving DecidableEq

/-- A fit of the next pattern put behind a fit. -/
def Fit.append (m next : Fit) : Fit :=
  ⟨m.text ++ next.text, m.groups ++ next.groups, next.rest⟩

namespace Pattern

/-- How many groups a pattern has. -/
def groupCount : Pattern → Nat
  | one _ => 0
  | many _ => 0
  | seq first second => first.groupCount + second.groupCount
  | maybe inner => inner.groupCount
  | group inner => inner.groupCount + 1

/-- The ways to take characters of a kind, with what remains, the longest first. -/
@[grind =]
def takes (p : Char → Bool) : Text → List (Text × Text)
  | [] => [([], [])]
  | c :: rest =>
      if p c then (takes p rest).map (fun split => (c :: split.1, split.2)) ++ [([], c :: rest)]
      else [([], c :: rest)]

/-- The ways to fit a pattern at the beginning of a text, in the order in which they are tried. -/
@[grind =]
def fits : Pattern → Text → List Fit
  | one _, [] => []
  | one p, c :: rest => if p c then [⟨[c], [], rest⟩] else []
  | many p, text => (takes p text).map fun split => ⟨split.1, [], split.2⟩
  | seq first second, text =>
      (first.fits text).flatMap fun m => (second.fits m.rest).map m.append
  | maybe inner, text =>
      inner.fits text ++ [⟨[], List.replicate inner.groupCount none, text⟩]
  | group inner, text =>
      (inner.fits text).map fun m => { m with groups := some m.text :: m.groups }

/-- The first way to fit a pattern at the first place of a text where there is one. -/
def search (pattern : Pattern) : Text → Option Fit
  | [] => (pattern.fits []).head?
  | c :: rest => (pattern.fits (c :: rest)).head? <|> pattern.search rest

/-- At least one character of a kind. -/
def atLeastOne (p : Char → Bool) : Pattern :=
  seq (one p) (many p)

variable {p : Char → Bool} {first second inner : Pattern} {text rest : Text}

/-- Only characters of the kind are taken, and every way to take some of them is tried. -/
theorem mem_takes_iff {taken : Text} :
    (taken, rest) ∈ takes p text ↔ text = taken ++ rest ∧ ∀ c ∈ taken, p c = true := by
  induction text generalizing taken with
  | nil =>
      simp only [takes, List.mem_singleton, Prod.mk.injEq, List.nil_eq, List.append_eq_nil_iff]
      constructor
      · rintro ⟨rfl, rfl⟩
        simp
      · exact And.left
  | cons c tail ih =>
      rw [takes]
      cases taken with
      | nil =>
          have nothing : (([] : Text), rest) = ([], c :: tail) ↔ c :: tail = rest :=
            ⟨fun same => (Prod.mk.inj same).2.symm, fun same => by rw [same]⟩
          split
          · simp [nothing]
          · simp [nothing]
      | cons d taken =>
          split
          · rename_i inside
            constructor
            · intro member
              obtain ⟨⟨taken', rest'⟩, tried, same⟩ : ∃ split ∈ takes p tail,
                  (c :: split.1, split.2) = (d :: taken, rest) := by simpa using member
              obtain ⟨⟨rfl, rfl⟩, rfl⟩ := by simpa using same
              obtain ⟨whole, all⟩ := ih.mp tried
              exact ⟨by rw [whole]; rfl, List.forall_mem_cons.mpr ⟨inside, all⟩⟩
            · rintro ⟨whole, all⟩
              obtain ⟨rfl, split⟩ := List.cons.inj whole
              have tried := ih.mpr ⟨split, (List.forall_mem_cons.mp all).2⟩
              exact List.mem_append_left _ (List.mem_map_of_mem tried)
          · rename_i outside
            constructor
            · intro member
              simp at member
            · rintro ⟨whole, all⟩
              obtain ⟨rfl, -⟩ := List.cons.inj whole
              exact absurd (all c List.mem_cons_self) outside

/-- All characters of the kind are taken first. Every later way leaves one of them. -/
theorem takes_append {taken : Text} (all : ∀ c ∈ taken, p c = true)
    (edge : ∀ c, rest.head? = some c → p c = false) :
    ∃ others, takes p (taken ++ rest) = (taken, rest) :: others ∧
      ∀ split ∈ others, ∃ c, split.2.head? = some c ∧ p c = true := by
  induction taken with
  | nil =>
      refine ⟨[], ?_, by simp⟩
      cases rest with
      | nil => rfl
      | cons c rest => simp [takes, edge c rfl]
  | cons c taken ih =>
      obtain ⟨inside, later⟩ := List.forall_mem_cons.mp all
      obtain ⟨others, split, leave⟩ := ih later
      refine ⟨others.map (fun split => (c :: split.1, split.2)) ++ [([], c :: (taken ++ rest))], ?_,
        ?_⟩
      · simp [takes, inside, split]
      · intro split member
        rcases List.mem_append.mp member with shorter | empty
        · obtain ⟨before, among, rfl⟩ := List.mem_map.mp shorter
          exact leave before among
        · rw [List.mem_singleton.mp empty]
          exact ⟨c, rfl, inside⟩

theorem mem_fits_one_iff {m : Fit} :
    m ∈ (one p).fits text ↔ ∃ c rest, text = c :: rest ∧ p c = true ∧ m = ⟨[c], [], rest⟩ := by
  cases text with
  | nil => simp [fits]
  | cons c rest =>
      rw [fits]
      split
      · rename_i inside
        constructor
        · intro member
          exact ⟨c, rest, rfl, inside, List.mem_singleton.mp member⟩
        · rintro ⟨d, more, same, -, rfl⟩
          obtain ⟨rfl, rfl⟩ := List.cons.inj same
          exact List.mem_singleton.mpr rfl
      · rename_i outside
        constructor
        · intro member
          cases member
        · rintro ⟨d, more, same, inside, -⟩
          obtain ⟨rfl, -⟩ := List.cons.inj same
          exact absurd inside outside

theorem mem_fits_many_iff {m : Fit} :
    m ∈ (many p).fits text ↔ ∃ taken rest, text = taken ++ rest ∧ (∀ c ∈ taken, p c = true) ∧
      m = ⟨taken, [], rest⟩ := by
  rw [fits, List.mem_map]
  constructor
  · rintro ⟨⟨taken, rest⟩, tried, rfl⟩
    obtain ⟨whole, all⟩ := mem_takes_iff.mp tried
    exact ⟨taken, rest, whole, all, rfl⟩
  · rintro ⟨taken, rest, whole, all, rfl⟩
    exact ⟨(taken, rest), mem_takes_iff.mpr ⟨whole, all⟩, rfl⟩

/-- What a repetition leaves when it takes all that it can does not go on with it. -/
theorem not_of_head?_dropWhile {c : Char} (first : (text.dropWhile p).head? = some c) :
    p c = false := by
  have stops := List.head?_dropWhile_not p text
  simpa [first] using stops

/-- A repetition first takes all that it can. -/
theorem head?_fits_many :
    ((many p).fits text).head? = some ⟨text.takeWhile p, [], text.dropWhile p⟩ := by
  obtain ⟨others, ways, -⟩ := takes_append
    (fun c (member : c ∈ text.takeWhile p) => List.mem_takeWhile_imp member)
    (fun c first => not_of_head?_dropWhile first)
  rw [List.takeWhile_append_dropWhile] at ways
  rw [fits, ways]
  rfl

theorem mem_fits_seq_iff {m : Fit} :
    m ∈ (seq first second).fits text ↔
      ∃ front ∈ first.fits text, ∃ next ∈ second.fits front.rest, m = front.append next := by
  rw [fits, List.mem_flatMap]
  refine exists_congr fun front => and_congr_right fun _ => ?_
  rw [List.mem_map]
  exact exists_congr fun next => and_congr_right fun _ => eq_comm

/-- Every way to fit a pattern tells of each of its groups. -/
theorem length_groups_of_mem_fits {pattern : Pattern} {m : Fit} (fit : m ∈ pattern.fits text) :
    m.groups.length = pattern.groupCount := by
  induction pattern generalizing text m with
  | one p =>
      obtain ⟨c, rest, -, -, rfl⟩ := mem_fits_one_iff.mp fit
      rfl
  | many p =>
      obtain ⟨taken, rest, -, -, rfl⟩ := mem_fits_many_iff.mp fit
      rfl
  | seq first second ihFirst ihSecond =>
      obtain ⟨front, fitFirst, next, fitSecond, rfl⟩ := mem_fits_seq_iff.mp fit
      rw [Fit.append, List.length_append, ihFirst fitFirst, ihSecond fitSecond, groupCount]
  | maybe inner ih =>
      rw [fits, List.mem_append, List.mem_singleton] at fit
      rcases fit with fit | rfl
      · exact ih fit
      · exact List.length_replicate
  | group inner ih =>
      obtain ⟨kept, within, rfl⟩ := List.mem_map.mp fit
      rw [List.length_cons, ih within, groupCount]

/-- If no way but the first leaves what the next pattern fits, that way is the only one. -/
theorem fits_seq_of_firm {m : Fit} {others : List Fit} (ways : first.fits text = m :: others)
    (fails : ∀ other ∈ others, second.fits other.rest = []) :
    (seq first second).fits text = (second.fits m.rest).map m.append := by
  have nothing : others.flatMap (fun m => (second.fits m.rest).map m.append) = [] := by
    apply List.flatMap_eq_nil_iff.mpr
    intro other member
    rw [fails other member, List.map_nil]
  rw [fits, ways, List.flatMap_cons, nothing, List.append_nil]

/-- If the first way leaves what the next pattern fits, nothing else is tried. -/
theorem head?_fits_seq {m next : Fit} (way : (first.fits text).head? = some m)
    (fit : (second.fits m.rest).head? = some next) :
    ((seq first second).fits text).head? = some (m.append next) := by
  obtain ⟨others, ways⟩ := List.head?_eq_some_iff.mp way
  obtain ⟨more, nextWays⟩ := List.head?_eq_some_iff.mp fit
  rw [fits, ways, List.flatMap_cons, nextWays]
  rfl

theorem fits_seq_eq_nil (ways : first.fits text = []) : (seq first second).fits text = [] := by
  rw [fits, ways, List.flatMap_nil]

theorem fits_atLeastOne_eq_nil (outside : ∀ c, text.head? = some c → p c = false) :
    (atLeastOne p).fits text = [] := by
  apply fits_seq_eq_nil
  cases text with
  | nil => rfl
  | cons c rest => simp [fits, outside c rfl]

/-- The first way to take at least one character of a kind takes all of them, and every other way
leaves one. -/
theorem fits_atLeastOne_append {taken : Text} (nonempty : taken ≠ [])
    (all : ∀ c ∈ taken, p c = true) (edge : ∀ c, rest.head? = some c → p c = false) :
    ∃ others, (atLeastOne p).fits (taken ++ rest) = ⟨taken, [], rest⟩ :: others ∧
      ∀ other ∈ others, ∃ c, other.rest.head? = some c ∧ p c = true := by
  cases taken with
  | nil => exact absurd rfl nonempty
  | cons c taken =>
      obtain ⟨inside, later⟩ := List.forall_mem_cons.mp all
      obtain ⟨others, ways, leave⟩ := takes_append later edge
      refine ⟨others.map fun split => ⟨c :: split.1, [], split.2⟩, ?_, ?_⟩
      · simp [atLeastOne, fits, inside, ways, Fit.append]
      · intro other member
        obtain ⟨split, among, rfl⟩ := List.mem_map.mp member
        exact leave split among

theorem search_append_of_fails {pattern : Pattern} {start : Text}
    (fails : ∀ ending, ending <:+ start → ending ≠ [] → pattern.fits (ending ++ rest) = []) :
    pattern.search (start ++ rest) = pattern.search rest := by
  induction start with
  | nil => rfl
  | cons c start ih =>
      have here := fails (c :: start) (List.suffix_refl _) (List.cons_ne_nil c start)
      rw [List.cons_append] at here
      rw [List.cons_append, search, here, ih fun ending inside =>
        fails ending (inside.trans (List.suffix_cons c start))]
      rfl

theorem search_of_head? {pattern : Pattern} {m : Fit}
    (way : (pattern.fits text).head? = some m) : pattern.search text = some m := by
  cases text with
  | nil => exact way
  | cons c rest => rw [search, way]; rfl

/-- What a fit takes and what remains are the text. -/
theorem whole_of_mem_fits {pattern : Pattern} {m : Fit} (fit : m ∈ pattern.fits text) :
    text = m.text ++ m.rest := by
  induction pattern generalizing text m with
  | one p =>
      obtain ⟨c, rest, whole, -, rfl⟩ := mem_fits_one_iff.mp fit
      exact whole
  | many p =>
      obtain ⟨taken, rest, whole, -, rfl⟩ := mem_fits_many_iff.mp fit
      exact whole
  | seq first second ihFirst ihSecond =>
      obtain ⟨front, fitFirst, next, fitSecond, rfl⟩ := mem_fits_seq_iff.mp fit
      calc text = front.text ++ front.rest := ihFirst fitFirst
        _ = front.text ++ (next.text ++ next.rest) := by rw [← ihSecond fitSecond]
        _ = front.text ++ next.text ++ next.rest := (List.append_assoc ..).symm
  | maybe inner ih =>
      rw [fits, List.mem_append, List.mem_singleton] at fit
      rcases fit with fit | rfl
      · exact ih fit
      · rfl
  | group inner ih =>
      obtain ⟨kept, within, rfl⟩ := List.mem_map.mp fit
      show text = kept.text ++ kept.rest
      exact ih within

/-- A fit that is searched stands somewhere in the text. -/
theorem exists_of_search {pattern : Pattern} {m : Fit} (found : pattern.search text = some m) :
    ∃ start, text = start ++ (m.text ++ m.rest) := by
  have here : ∀ {text : Text}, (pattern.fits text).head? = some m → text = m.text ++ m.rest :=
    fun way => whole_of_mem_fits (List.mem_of_head? way)
  induction text with
  | nil => exact ⟨[], here found⟩
  | cons c rest ih =>
      rw [search] at found
      cases way : (pattern.fits (c :: rest)).head? with
      | some first =>
          rw [way] at found
          cases found
          exact ⟨[], here way⟩
      | none =>
          rw [way] at found
          obtain ⟨start, whole⟩ := ih found
          exact ⟨c :: start, by rw [whole]; rfl⟩

/-- A fit that takes something leaves less than the text. -/
theorem length_rest_lt {pattern : Pattern} {m : Fit} (found : pattern.search text = some m)
    (taken : m.text ≠ []) : m.rest.length < text.length := by
  obtain ⟨start, whole⟩ := exists_of_search found
  have positive := List.length_pos_iff.mpr taken
  rw [whole, List.length_append, List.length_append]
  omega

/-- All fits that are found when the search goes on behind each one. It does not go on behind a fit
that takes nothing. -/
def findAll (pattern : Pattern) (text : Text) : List Fit :=
  match found : pattern.search text with
  | none => []
  | some m =>
      if taken : m.text = [] then [m]
      else
        have : m.rest.length < text.length := length_rest_lt found taken
        m :: pattern.findAll m.rest
termination_by text.length

/-- What is found follows from the first fit. -/
theorem findAll_eq (pattern : Pattern) (text : Text) :
    pattern.findAll text = (pattern.search text).elim [] fun m =>
      if m.text = [] then [m] else m :: pattern.findAll m.rest := by
  rw [findAll]
  split
  · rename_i missing
    rw [missing]
    rfl
  · rename_i m found
    simp only [found, Option.elim_some, dite_eq_ite]

theorem findAll_congr {pattern : Pattern} {other : Text}
    (same : pattern.search text = pattern.search other) :
    pattern.findAll text = pattern.findAll other := by
  rw [findAll_eq, findAll_eq, same]

end Pattern

end ClassDiagram
