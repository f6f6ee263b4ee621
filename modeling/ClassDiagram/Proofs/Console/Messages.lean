import ClassDiagram.Console.Report

/-!
# Messages are printed

A message stands between two tags of its level. It can be refused only for tags of its own, so a
message without tags is printed, and so is every text after it was escaped: each tag of the text
comes to stand after an odd number of backslashes, where it is shown and opens or closes nothing.
-/

namespace ClassDiagram.Markup

/-- A piece that opens and closes nothing: plain text, or a tag that is shown. -/
def Piece.IsInert : Piece → Prop
  | .plain _ => True
  | .tag backslashes _ _ => backslashes % 2 = 1

/-- Backslashes at the front of a text. -/
def backslashesBefore (text : Text) : Nat :=
  (text.takeWhile (· = '\\')).length

theorem take_backslashesBefore (text : Text) :
    List.replicate (backslashesBefore text) '\\' ++ text.drop (backslashesBefore text) = text := by
  induction text with
  | nil => rfl
  | cons c rest ih =>
      unfold backslashesBefore at ih ⊢
      by_cases backslash : c = '\\'
      · simp [backslash, List.replicate_succ, ih]
      · simp [backslash]

theorem backslashesBefore_of_head? {text : Text} (starts : text.head? ≠ some '\\') :
    backslashesBefore text = 0 := by
  cases text with
  | nil => rfl
  | cons c rest =>
      have other : c ≠ '\\' := fun same => starts (same ▸ rfl)
      simp [backslashesBefore, other]

/-- Backslashes in front of a text that has some already. -/
theorem backslashesBefore_append {text base : Text} (ends : base.head? ≠ some '\\') (n : Nat) :
    backslashesBefore (List.replicate n '\\' ++ (text ++ base)) = n + backslashesBefore text := by
  have shared : backslashesBefore (text ++ base) = backslashesBefore text := by
    induction text with
    | nil => exact backslashesBefore_of_head? ends
    | cons c rest ih =>
        unfold backslashesBefore at ih ⊢
        by_cases backslash : c = '\\'
        · simp [backslash, ih]
        · simp [backslash]
  induction n with
  | zero => simpa using shared
  | succ n ih =>
      rw [List.replicate_succ, List.cons_append]
      unfold backslashesBefore at ih ⊢
      rw [List.takeWhile_cons_of_pos (by simp), List.length_cons, ih]
      omega

/-- The content of a tag as it may stand between brackets. -/
structure IsTagContent (content : Text) : Prop where
  starts : ∃ c rest, content = c :: rest ∧ startsTag c = true
  inside : ∀ c ∈ content, c ≠ '[' ∧ c ≠ ']'

theorem isTagContent_singleton {c : Char} (starts : startsTag c = true) : IsTagContent [c] where
  starts := ⟨c, [], rfl, starts⟩
  inside := by
    rw [List.forall_mem_singleton]
    refine ⟨?_, ?_⟩ <;>
    · rintro rfl
      revert starts
      decide

theorem IsTagContent.concat {content : Text} {c : Char} (tag : IsTagContent content)
    (inside : c ≠ '[' ∧ c ≠ ']') : IsTagContent (content ++ [c]) where
  starts := by
    obtain ⟨first, rest, rfl, starts⟩ := tag.starts
    exact ⟨first, rest ++ [c], rfl, starts⟩
  inside := List.forall_mem_append.mpr ⟨tag.inside, List.forall_mem_singleton.mpr inside⟩

namespace Scan

/-- What has been read after more characters. -/
def read (s : Scan) (text : Text) : Scan :=
  text.foldl step s

@[simp] theorem read_nil (s : Scan) : s.read [] = s :=
  rfl

@[simp] theorem read_cons (s : Scan) (c : Char) (text : Text) :
    s.read (c :: text) = (s.step c).read text :=
  rfl

@[simp] theorem read_append (s : Scan) (first second : Text) :
    s.read (first ++ second) = (s.read first).read second :=
  List.foldl_append

variable {s t : Scan} {c : Char} {text content : Text}

/-- A character other than one that completes a tag becomes text. -/
theorem step_of_incomplete (incomplete : c = ']' → ∀ d content, s.opened ≠ some (d :: content)) :
    (s.step c).text = c :: s.text ∧ (s.step c).pieces = s.pieces := by
  obtain ⟨pieces, plain, opened, position⟩ := s
  unfold step
  by_cases bracket : c = '['
  · simp [bracket, Scan.text]
  · rw [if_neg bracket]
    cases opened with
    | none => exact ⟨rfl, rfl⟩
    | some content =>
        cases content with
        | nil =>
            dsimp only
            split <;> exact ⟨rfl, rfl⟩
        | cons d content =>
            have other : c ≠ ']' := fun same => incomplete same d content rfl
            simp [other, Scan.text]

/-- A closing bracket completes the tag that is open. -/
theorem step_of_complete {d : Char} (opened : s.opened = some (d :: content)) :
    ∃ position, s.step ']'
      = ⟨.tag (backslashesBefore s.plain) position (d :: content).reverse
          :: withPlain (s.plain.drop (backslashesBefore s.plain)) s.pieces, [], none,
        s.position + 1⟩ := by
  have closing : ']' ≠ '[' := by decide
  unfold step
  rw [if_neg closing, opened]
  exact ⟨_, if_pos rfl⟩

/-- A tag that is open after a character is begun by it, or goes on with it. -/
theorem step_opens (opened : (s.step c).opened = some content) :
    (s.step c).pieces = s.pieces ∧
      (content = [] ∧ (s.step c).plain = s.text ∨
        ∃ earlier, s.opened = some earlier ∧ content = c :: earlier ∧ (s.step c).plain = s.plain ∧
          c ≠ '[' ∧ (earlier = [] → startsTag c = true) ∧ (earlier ≠ [] → c ≠ ']')) := by
  obtain ⟨pieces, plain, before, position⟩ := s
  unfold step at opened ⊢
  by_cases bracket : c = '['
  · rw [if_pos bracket] at opened ⊢
    exact ⟨rfl, Or.inl ⟨(Option.some.inj opened).symm, rfl⟩⟩
  · rw [if_neg bracket] at opened ⊢
    cases before with
    | none => cases opened
    | some earlier =>
        cases earlier with
        | nil =>
            by_cases starts : startsTag c = true
            · dsimp only at opened ⊢
              rw [if_pos starts] at opened ⊢
              exact ⟨rfl, Or.inr ⟨[], rfl, (Option.some.inj opened).symm, rfl, bracket,
                fun _ => starts, fun nonempty => absurd rfl nonempty⟩⟩
            · simp [starts] at opened
        | cons d earlier =>
            by_cases closing : c = ']'
            · simp [closing] at opened
            · dsimp only at opened ⊢
              rw [if_neg closing] at opened ⊢
              exact ⟨rfl, Or.inr ⟨d :: earlier, rfl, (Option.some.inj opened).symm, rfl, bracket,
                fun empty => absurd empty (List.cons_ne_nil _ _), fun _ => closing⟩⟩

/-- Which tag is open after a character depends on the one that was open before it. -/
theorem opened_step_congr (same : t.opened = s.opened) (c : Char) :
    (t.step c).opened = (s.step c).opened := by
  unfold step
  rw [same]
  split
  · rfl
  · split
    · rfl
    · split <;> rfl
    · split <;> rfl

/-- Characters other than brackets bring in no pieces. -/
theorem read_of_no_closing (plain : ∀ c ∈ text, c ≠ ']') :
    (s.read text).text = text.reverse ++ s.text ∧ (s.read text).pieces = s.pieces := by
  induction text generalizing s with
  | nil => exact ⟨rfl, rfl⟩
  | cons c rest ih =>
      obtain ⟨first, others⟩ := List.forall_mem_cons.mp plain
      obtain ⟨text, pieces⟩ := step_of_incomplete (s := s) fun same => absurd same first
      obtain ⟨text', pieces'⟩ := ih (s := s.step c) others
      simp [text, pieces, text', pieces']

/-- Without an opening bracket no tag is opened. -/
theorem read_of_no_opening (closed : s.opened = none) (plain : '[' ∉ text) :
    (s.read text).opened = none ∧ (s.read text).plain = text.reverse ++ s.plain ∧
      (s.read text).pieces = s.pieces := by
  induction text generalizing s with
  | nil => exact ⟨closed, rfl, rfl⟩
  | cons c rest ih =>
      rw [List.mem_cons, not_or] at plain
      have first : s.step c = ⟨s.pieces, c :: s.plain, none, s.position + 1⟩ := by
        simp [step, Ne.symm plain.1, closed]
      obtain ⟨opened, text, pieces⟩ := ih (s := s.step c) (by rw [first]) plain.2
      refine ⟨opened, ?_, ?_⟩
      · rw [read_cons, text, first]
        simp
      · rw [read_cons, pieces, first]

/-- Characters inside a tag go on with the content that is open. -/
theorem read_content {more : Text} (inside : ∀ c ∈ more, c ≠ '[' ∧ c ≠ ']') (pieces : List Piece)
    (plain : Text) (d : Char) (content : Text) (count : Nat) :
    ∃ next, (Scan.mk pieces plain (some (d :: content)) count).read more
      = ⟨pieces, plain, some (more.reverse ++ d :: content), next⟩ := by
  induction more generalizing d content count with
  | nil => exact ⟨count, rfl⟩
  | cons e more ih =>
      obtain ⟨first, others⟩ := List.forall_mem_cons.mp inside
      obtain ⟨next, rest⟩ := ih others e (d :: content) (count + 1)
      refine ⟨next, ?_⟩
      rw [read_cons]
      simp only [step, first.1, first.2, if_false]
      rw [rest]
      simp

/-- A tag is read as a piece, with the backslashes that stand before it. -/
theorem read_tag (s : Scan) (tag : IsTagContent content) :
    ∃ position next, s.read ('[' :: (content ++ [']']))
      = ⟨.tag (backslashesBefore s.text) position content
          :: withPlain (s.text.drop (backslashesBefore s.text)) s.pieces, [], none, next⟩ := by
  obtain ⟨⟨c, rest, rfl, starts⟩, inside⟩ := tag
  obtain ⟨⟨opening, _⟩, others⟩ := List.forall_mem_cons.mp inside
  have begun : (s.step '[').step c = ⟨s.pieces, s.text, some [c], s.position + 1 + 1⟩ := by
    simp [step, opening, starts]
  obtain ⟨next, middle⟩ := read_content others s.pieces s.text c [] (s.position + 1 + 1)
  rw [read_cons, List.cons_append, read_cons, begun, read_append, middle, read_cons, read_nil]
  have nonempty : ∃ d content, rest.reverse ++ [c] = d :: content := by
    cases h : rest.reverse ++ [c] with
    | nil => simp at h
    | cons d content => exact ⟨d, content, rfl⟩
  obtain ⟨d, opened, whole⟩ := nonempty
  rw [whole]
  obtain ⟨position, done⟩ :=
    step_of_complete (s := ⟨s.pieces, s.text, some (d :: opened), next⟩) rfl
  rw [done, ← whole]
  exact ⟨position, next + 1, by simp⟩

/-- Whether a state goes on from another one with inert pieces only, and has a text after them whose
backslashes at the end are those of `text`. -/
structure IsQuiet (start : Scan) (text : Text) (t : Scan) : Prop where
  pieces : ∃ more, t.pieces = more ++ start.pieces ∧ ∀ piece ∈ more, piece.IsInert
  text : ∃ base, t.text = text ++ base ∧ base.head? ≠ some '\\'

/-- The escape of what has been read. -/
def escaped (s : Scan) : Text :=
  s.pieces.reverse.flatMap escapePiece ++ s.text.reverse

/-- The escape of what has been read up to the tag that may be open. -/
def escapedBefore (s : Scan) : Text :=
  s.pieces.reverse.flatMap escapePiece ++ s.plain.reverse

/-- How a reading of a text and one of its escape belong together: the second one has only inert
pieces, and the same tag is open in both. -/
structure Mirrors (start s : Scan) : Prop where
  quiet : IsQuiet start s.text (start.read s.escaped)
  opened : (start.read s.escaped).opened = s.opened
  before : ∀ content, s.opened = some content → IsQuiet start s.plain (start.read s.escapedBefore)
  content : ∀ d content, s.opened = some (d :: content) → IsTagContent (d :: content).reverse

theorem flatMap_withPlain (plain : Text) (pieces : List Piece) :
    (withPlain plain pieces).reverse.flatMap escapePiece
      = pieces.reverse.flatMap escapePiece ++ plain.reverse := by
  unfold withPlain
  split
  · rename_i empty
    simp [empty]
  · simp [escapePiece]

/-- Inert pieces stay inert with plain text and a tag after an odd number of backslashes. -/
theorem IsQuiet.tag {start : Scan} (quiet : IsQuiet start text t) (tag : IsTagContent content) :
    ∃ next, (t.read (List.replicate (backslashesBefore text + 1) '\\')).read
        ('[' :: (content ++ [']'])) = next ∧ next.opened = none ∧ IsQuiet start [] next := by
  obtain ⟨⟨more, pieces, inert⟩, base, ends, apart⟩ := quiet
  have plain : ∀ c ∈ List.replicate (backslashesBefore text + 1) '\\', c ≠ ']' := by
    intro c member
    rw [List.eq_of_mem_replicate member]
    decide
  obtain ⟨doubled, kept⟩ := read_of_no_closing (s := t) plain
  obtain ⟨position, next, complete⟩ :=
    read_tag (t.read (List.replicate (backslashesBefore text + 1) '\\')) tag
  rw [List.reverse_replicate, ends] at doubled
  have odd : (backslashesBefore (t.read
      (List.replicate (backslashesBefore text + 1) '\\')).text) % 2 = 1 := by
    rw [doubled, backslashesBefore_append apart]
    omega
  refine ⟨_, complete, rfl, ⟨?_, ⟨[], rfl, by simp⟩⟩⟩
  rw [kept, pieces]
  unfold withPlain
  split
  · exact ⟨_ :: more, rfl, List.forall_mem_cons.mpr ⟨odd, inert⟩⟩
  · exact ⟨_ :: _ :: more, rfl,
      List.forall_mem_cons.mpr ⟨odd, List.forall_mem_cons.mpr ⟨trivial, inert⟩⟩⟩

/-- The tag that a character completes is inert in the reading of the escape. -/
theorem Mirrors.complete {start : Scan} (mirrors : Mirrors start s) {d : Char}
    (opened : s.opened = some (d :: content)) :
    IsQuiet start [] (start.read (s.step ']').escaped) ∧
      (start.read (s.step ']').escaped).opened = (s.step ']').opened ∧
        (s.step ']').text = [] := by
  obtain ⟨position, done⟩ := step_of_complete opened
  have before : s.escapedBefore = (s.pieces.reverse.flatMap escapePiece
      ++ (s.plain.drop (backslashesBefore s.plain)).reverse)
        ++ List.replicate (backslashesBefore s.plain) '\\' := by
    have whole := congrArg List.reverse (take_backslashesBefore s.plain)
    rw [List.reverse_append, List.reverse_replicate] at whole
    rw [escapedBefore, ← whole, List.append_assoc]
  have escaped : (s.step ']').escaped = s.escapedBefore
      ++ (List.replicate (backslashesBefore s.plain + 1) '\\'
        ++ ('[' :: ((d :: content).reverse ++ [']']))) := by
    have count : 2 * backslashesBefore s.plain + 1
        = backslashesBefore s.plain + (backslashesBefore s.plain + 1) := by omega
    rw [before, done]
    simp only [Scan.escaped, Scan.text, List.reverse_cons, List.flatMap_append,
      flatMap_withPlain, List.flatMap_cons, List.flatMap_nil, escapePiece, count,
      ← List.replicate_append_replicate]
    simp
  obtain ⟨next, same, closed, quiet⟩ :=
    (mirrors.before _ opened).tag (mirrors.content d content opened)
  have reads : start.read (s.step ']').escaped = next := by
    rw [escaped, read_append, read_append, same]
  rw [reads, closed, done]
  exact ⟨quiet, rfl, rfl⟩

/-- A character that completes no tag is read alike in the escape. -/
theorem read_escaped_of_incomplete (start : Scan)
    (incomplete : c = ']' → ∀ d content, s.opened ≠ some (d :: content)) :
    start.read (s.step c).escaped = (start.read s.escaped).step c := by
  obtain ⟨text, pieces⟩ := step_of_incomplete incomplete
  have escaped : (s.step c).escaped = s.escaped ++ [c] := by
    simp [Scan.escaped, text, pieces]
  rw [escaped, read_append]
  rfl

/-- One more character keeps the two readings together. -/
theorem Mirrors.step {start : Scan} (mirrors : Mirrors start s) (c : Char) :
    Mirrors start (s.step c) where
  quiet := by
    by_cases complete : c = ']' ∧ ∃ d content, s.opened = some (d :: content)
    · obtain ⟨rfl, d, content, opened⟩ := complete
      obtain ⟨quiet, -, text⟩ := mirrors.complete opened
      rw [text]
      exact quiet
    · have incomplete : c = ']' → ∀ d content, s.opened ≠ some (d :: content) :=
        fun same d content opened => complete ⟨same, d, content, opened⟩
      have incomplete' : c = ']' →
          ∀ d content, (start.read s.escaped).opened ≠ some (d :: content) :=
        fun same => mirrors.opened ▸ incomplete same
      obtain ⟨text, pieces⟩ := step_of_incomplete incomplete
      obtain ⟨text', pieces'⟩ := step_of_incomplete incomplete'
      obtain ⟨inert, base, ends, apart⟩ := mirrors.quiet
      rw [read_escaped_of_incomplete start incomplete]
      refine ⟨pieces' ▸ inert, base, ?_, apart⟩
      rw [text', text, ends, List.cons_append]
  opened := by
    by_cases complete : c = ']' ∧ ∃ d content, s.opened = some (d :: content)
    · obtain ⟨rfl, d, content, opened⟩ := complete
      exact (mirrors.complete opened).2.1
    · have incomplete : c = ']' → ∀ d content, s.opened ≠ some (d :: content) :=
        fun same d content opened => complete ⟨same, d, content, opened⟩
      rw [read_escaped_of_incomplete start incomplete]
      exact opened_step_congr mirrors.opened c
  before := by
    intro content opened
    obtain ⟨pieces, ⟨-, plain⟩ | ⟨earlier, open_, -, plain, -⟩⟩ := step_opens opened
    · have same : (s.step c).escapedBefore = s.escaped := by
        simp [escapedBefore, Scan.escaped, pieces, plain]
      rw [same, plain]
      exact mirrors.quiet
    · have same : (s.step c).escapedBefore = s.escapedBefore := by
        simp [escapedBefore, pieces, plain]
      rw [same, plain]
      exact mirrors.before earlier open_
  content := by
    intro d content opened
    obtain ⟨-, ⟨empty, -⟩ | ⟨earlier, open_, whole, -, bracket, starts, closing⟩⟩ :=
      step_opens opened
    · cases empty
    · rw [whole, List.reverse_cons]
      cases earlier with
      | nil => exact isTagContent_singleton (starts rfl)
      | cons e earlier =>
          exact (mirrors.content e earlier open_).concat ⟨bracket, closing (List.cons_ne_nil _ _)⟩

/-- What a text was read as is what its escape is read as, but for tags, which are inert. -/
theorem Mirrors.read {start : Scan} (mirrors : Mirrors start s) (text : Text) :
    Mirrors start (s.read text) := by
  induction text generalizing s with
  | nil => exact mirrors
  | cons c rest ih => exact ih (mirrors.step c)

end Scan

/-- Plain text before pieces is a piece or none. -/
theorem withPlain_eq_append (plain : Text) (pieces : List Piece) :
    ∃ more, withPlain plain pieces = more ++ pieces ∧ ∀ piece ∈ more, piece.IsInert := by
  unfold withPlain
  split
  · exact ⟨[], rfl, by simp⟩
  · exact ⟨[.plain plain.reverse], rfl, List.forall_mem_singleton.mpr trivial⟩

/-- The reading of a text from its beginning. -/
def Scan.start : Scan :=
  ⟨[], [], none, 0⟩

/-- A text that ends with a tag has the pieces that were read. -/
theorem pieces_of_read {text : Text} {found : List Piece} {count : Nat}
    (read : Scan.start.read text = ⟨found, [], none, count⟩) : pieces text = found.reverse := by
  have whole : pieces text
      = (withPlain (Scan.start.read text).text (Scan.start.read text).pieces).reverse := rfl
  rw [whole, read]
  rfl

theorem Scan.mirrors_start {s : Scan} (closed : s.opened = none)
    (apart : s.plain.head? ≠ some '\\') : Scan.Mirrors s Scan.start where
  quiet := ⟨⟨[], rfl, by simp⟩, s.plain, by simp [Scan.start, Scan.text, closed, Scan.escaped],
    apart⟩
  opened := closed
  before content opened := by cases opened
  content d content opened := by cases opened

theorem escape_eq (text : Text) :
    ∃ ending, escape text = (Scan.start.read text).escaped ++ ending ∧
      ∀ c ∈ ending, c = '\\' := by
  have escaped : (pieces text).flatMap escapePiece = (Scan.start.read text).escaped :=
    Scan.flatMap_withPlain _ _
  unfold escape
  rw [escaped]
  dsimp only
  split
  · exact ⟨[], (List.append_nil _).symm, by simp⟩
  · exact ⟨['\\'], rfl, by simp⟩
  · exact ⟨[], (List.append_nil _).symm, by simp⟩

/-- Text whose reading brings in inert pieces only, unless a backslash stands before it. -/
def IsInert (text : Text) : Prop :=
  ∀ s : Scan, s.opened = none → s.plain.head? ≠ some '\\' →
    ∃ more, (s.read text).pieces = more ++ s.pieces ∧ ∀ piece ∈ more, piece.IsInert

/-- Text without an opening bracket is inert. -/
theorem isInert_of_no_bracket {text : Text} (plain : '[' ∉ text) : IsInert text := by
  intro s closed _
  exact ⟨[], (Scan.read_of_no_opening closed plain).2.2, by simp⟩

/-- Every text is inert after it was escaped. -/
theorem isInert_escape (text : Text) : IsInert (escape text) := by
  intro s closed apart
  obtain ⟨ending, whole, backslashes⟩ := escape_eq text
  have mirrors := (Scan.mirrors_start closed apart).read text
  have plain : ∀ c ∈ ending, c ≠ ']' := by
    intro c member
    rw [backslashes c member]
    decide
  rw [whole, Scan.read_append, (Scan.read_of_no_closing plain).2]
  exact mirrors.quiet.pieces

/-- Inert text stays so behind text without an opening bracket. -/
theorem IsInert.append_left {before text : Text} (inert : IsInert text) (plain : '[' ∉ before)
    {c : Char} (ends : before.getLast? = some c) (other : c ≠ '\\') : IsInert (before ++ text) := by
  intro s closed _
  obtain ⟨opened, read, pieces⟩ := Scan.read_of_no_opening closed plain
  have apart : (s.read before).plain.head? ≠ some '\\' := by
    rw [read, List.head?_append, List.head?_reverse, ends]
    simpa using other
  rw [Scan.read_append, ← pieces]
  exact inert _ opened apart

/-- Inert pieces are shown, whatever is open. -/
theorem renderPieces_of_inert {inert : List Piece} (all : ∀ piece ∈ inert, piece.IsInert)
    (opened : List OpenTag) (rest : List Piece) :
    ∃ shown, renderPieces opened (inert ++ rest)
      = (renderPieces opened rest).map (shown ++ ·) := by
  induction inert with
  | nil => exact ⟨[], by cases h : renderPieces opened rest <;> simp [h, Except.map]⟩
  | cons piece others ih =>
      obtain ⟨first, later⟩ := List.forall_mem_cons.mp all
      obtain ⟨shown, rendered⟩ := ih later
      cases piece with
      | plain text =>
          refine ⟨Emoji.replaceCodes (unescapeBrackets text) ++ shown, ?_⟩
          rw [List.cons_append, renderPieces, rendered]
          cases renderPieces opened rest <;> simp [Except.map]
      | tag backslashes position content =>
          have odd : backslashes % 2 = 1 := first
          refine ⟨List.replicate (backslashes / 2) '\\'
            ++ Emoji.replaceCodes (['['] ++ content ++ [']']) ++ shown, ?_⟩
          rw [List.cons_append, renderPieces]
          simp only [odd, if_true]
          rw [rendered]
          cases renderPieces opened rest <;> simp [Except.map]

/-- A tag that is not shown changes what is open. -/
theorem renderPieces_tag {backslashes position : Nat} {content : Text} {opened next : List OpenTag}
    (even : ¬ backslashes % 2 = 1) (applied : applyTag position content opened = .ok next)
    (rest : List Piece) :
    renderPieces opened (.tag backslashes position content :: rest)
      = (renderPieces next rest).map (List.replicate (backslashes / 2) '\\' ++ ·) := by
  rw [renderPieces]
  simp only [even, if_false, applied]
  rfl

/-- A tag with the name of a style opens it, and the closing tag for it is accepted. -/
theorem applyTag_style (level : Level) :
    ∃ tag : OpenTag, (∀ position opened,
        applyTag position level.style opened = .ok (tag :: opened)) ∧
      ∀ position, applyTag position ('/' :: level.style) [tag] = .ok [] := by
  have isName : tagName level.style = level.style ∧ tagArguments level.style = [] ∧
      tagName ('/' :: level.style) = '/' :: level.style ∧ Text.trim level.style ≠ [] ∧
      level.style.head? ≠ some '/' := by
    cases level <;> decide +kernel
  obtain ⟨name, arguments, closing, nonblank, opening⟩ := isName
  have normal : ∃ name, normalizeName level.style = .ok name := by
    have accepted : (normalizeName level.style).toOption.isSome = true := by
      cases level <;> decide +kernel
    cases normal : normalizeName level.style with
    | error e => simp [normal, Except.toOption] at accepted
    | ok name => exact ⟨name, rfl⟩
  obtain ⟨normal, normalized⟩ := normal
  refine ⟨⟨normal, []⟩, fun position opened => ?_, fun position => ?_⟩
  · unfold applyTag
    rw [name]
    split
    · rename_i rest same
      rw [same] at opening
      exact absurd rfl opening
    · rw [normalized, arguments]
      rfl
  · unfold applyTag
    rw [closing]
    simp [nonblank, normalized, OpenTag.check, bind, Except.bind, Except.map]

/-- What has been read after the opening tag of a level. -/
def styleScan (level : Level) (first next : Nat) : Scan :=
  ⟨[.tag 0 first level.style], [], none, next⟩

/-- What has been read after the opening tag of a level and a message. -/
def messageScan (level : Level) (message : Text) (first next : Nat) : Scan :=
  (styleScan level first next).read message

theorem isTagContent_style (level : Level) :
    IsTagContent level.style ∧ IsTagContent ('/' :: level.style) := by
  have starts : ∃ c rest, level.style = c :: rest ∧ startsTag c = true := by
    cases level <;> exact ⟨_, _, rfl, by decide⟩
  have inside : ∀ c ∈ level.style, c ≠ '[' ∧ c ≠ ']' := by
    have free : '[' ∉ level.style ∧ ']' ∉ level.style := by cases level <;> decide
    rintro c member
    exact ⟨fun opening => free.1 (opening ▸ member), fun closing => free.2 (closing ▸ member)⟩
  exact ⟨⟨starts, inside⟩, ⟨'/', level.style, rfl, by decide⟩,
    List.forall_mem_cons.mpr ⟨by decide, inside⟩⟩

end ClassDiagram.Markup

namespace ClassDiagram

open Markup

/-- A message as it is marked up: between the two tags of its level. -/
theorem Markup.pieces_message (level : Level) (message : Text) :
    ∃ first next last,
      pieces (['['] ++ level.style ++ [']'] ++ message ++ ['[', '/'] ++ level.style ++ [']'])
        = (Piece.tag (backslashesBefore (messageScan level message first next).text) last
              ('/' :: level.style)
            :: withPlain ((messageScan level message first next).text.drop
                (backslashesBefore (messageScan level message first next).text))
              (messageScan level message first next).pieces).reverse := by
  have split : ['['] ++ level.style ++ [']'] ++ message ++ ['[', '/'] ++ level.style ++ [']']
      = '[' :: (level.style ++ [']']) ++ message ++ ('[' :: ('/' :: level.style ++ [']'])) := by
    simp
  obtain ⟨opening, closing⟩ := isTagContent_style level
  obtain ⟨first, next, begun⟩ := Scan.start.read_tag opening
  have opened : Scan.start.read ('[' :: (level.style ++ [']'])) = styleScan level first next :=
    begun
  obtain ⟨last, final, closed⟩ := (messageScan level message first next).read_tag closing
  have whole : Scan.start.read ('[' :: (level.style ++ [']']) ++ message
        ++ ('[' :: ('/' :: level.style ++ [']'])))
      = (messageScan level message first next).read ('[' :: ('/' :: level.style ++ [']'])) := by
    rw [Scan.read_append, Scan.read_append, opened, messageScan]
  rw [← whole] at closed
  exact ⟨first, next, last, by rw [split, pieces_of_read closed]⟩

/-- The pieces of an inert message are its opening tag, inert pieces, and its closing tag. -/
theorem Markup.pieces_message_of_inert (level : Level) {message : Text} (inert : IsInert message) :
    ∃ first inner backslashes last,
      pieces (['['] ++ level.style ++ [']'] ++ message ++ ['[', '/'] ++ level.style ++ [']'])
        = .tag 0 first level.style
          :: (inner ++ [.tag backslashes last ('/' :: level.style)]) ∧
      ∀ piece ∈ inner, piece.IsInert := by
  obtain ⟨first, next, last, whole⟩ := pieces_message level message
  obtain ⟨more, body, all⟩ := inert (styleScan level first next) rfl (by simp [styleScan])
  have pieces : (messageScan level message first next).pieces
      = more ++ [.tag 0 first level.style] := body
  obtain ⟨plain, kept, still⟩ := withPlain_eq_append
    ((messageScan level message first next).text.drop
      (backslashesBefore (messageScan level message first next).text))
    (messageScan level message first next).pieces
  rw [whole, kept, pieces]
  refine ⟨first, (plain ++ more).reverse, _, last, by simp; rfl, fun piece member => ?_⟩
  rw [List.mem_reverse, List.mem_append] at member
  exact member.elim (still piece) (all piece)

/-- The closing tag of a level is accepted, or shown. -/
theorem Markup.renderPieces_closing {level : Level} {tag : OpenTag}
    (closes : ∀ position, applyTag position ('/' :: level.style) [tag] = .ok [])
    (backslashes position : Nat) :
    ∃ shown, renderPieces [tag] [.tag backslashes position ('/' :: level.style)] = .ok shown := by
  by_cases odd : backslashes % 2 = 1
  · exact ⟨_, by rw [renderPieces, if_pos odd]; rfl⟩
  · exact ⟨_, by rw [renderPieces_tag odd (closes position)]; rfl⟩

/-- A message whose tags are all inert is printed. -/
theorem printMessage_eq_ok (level : Level) {message : Text} (inert : IsInert message) :
    ∃ lines, printMessage level message = .ok lines := by
  obtain ⟨first, inner, backslashes, last, whole, all⟩ := pieces_message_of_inert level inert
  obtain ⟨tag, opens, closes⟩ := applyTag_style level
  obtain ⟨shown, rendered⟩ := renderPieces_of_inert all [tag]
    [.tag backslashes last ('/' :: level.style)]
  obtain ⟨text, ended⟩ := renderPieces_closing closes backslashes last
  have even : ¬ 0 % 2 = 1 := by decide
  unfold printMessage printMarkup render
  rw [whole, renderPieces_tag even (opens first []), rendered, ended]
  exact ⟨_, rfl⟩

/-- A message without an opening bracket is printed as the text that it is, but for backslashes at
its end, which belong to the closing tag. -/
theorem printMessage_of_no_bracket (level : Level) {message : Text} (plain : '[' ∉ message) :
    ∃ ending, printMessage level message
      = .ok (Wrap.wrap consoleWidth .fold
          ((Emoji.replaceCodes (unescapeBrackets
            (message.reverse.drop (backslashesBefore message.reverse)).reverse) ++ ending).filter
              fun c => !isDropped c)) := by
  obtain ⟨first, next, last, whole⟩ := pieces_message level message
  obtain ⟨closed, read, pieces⟩ := Scan.read_of_no_opening
    (show (styleScan level first next).opened = none from rfl) plain
  have text : (messageScan level message first next).text = message.reverse := by
    rw [messageScan, Scan.text, closed]
    exact read.trans (List.append_nil _)
  have found : (messageScan level message first next).pieces = [.tag 0 first level.style] := pieces
  obtain ⟨tag, opens, closes⟩ := applyTag_style level
  obtain ⟨ending, ended⟩ := renderPieces_closing closes (backslashesBefore message.reverse) last
  have even : ¬ 0 % 2 = 1 := by decide
  refine ⟨ending, ?_⟩
  unfold printMessage printMarkup render
  rw [whole, text, found, withPlain]
  split
  · rename_i empty
    rw [empty]
    have split : [Piece.tag (backslashesBefore message.reverse) last ('/' :: level.style),
        Piece.tag 0 first level.style].reverse = [Piece.tag 0 first level.style,
          Piece.tag (backslashesBefore message.reverse) last ('/' :: level.style)] := rfl
    rw [split, renderPieces_tag even (opens first []), ended]
    rfl
  · have split : ∀ body : Text, [Piece.tag (backslashesBefore message.reverse) last
          ('/' :: level.style), Piece.plain body, Piece.tag 0 first level.style].reverse
        = [Piece.tag 0 first level.style, Piece.plain body,
          Piece.tag (backslashesBefore message.reverse) last ('/' :: level.style)] := fun _ => rfl
    rw [split, renderPieces_tag even (opens first []), renderPieces, ended]
    rfl

end ClassDiagram
