import ClassDiagram.Files.Path
import ClassDiagram.Proofs.Text.Lines

/-!
# Paths and their spellings

A path that was read from a text is read again from its own spelling, so it does not matter whether
a path is handed on as it was given or as it is spelled.
-/

namespace ClassDiagram.Path

/-- Whether a path is one that texts spell. -/
structure IsSpelled (p : Path) : Prop where
  root : p.root = [] ∨ p.root = ['/'] ∨ p.root = ['/', '/']
  parts : ∀ part ∈ p.parts, part ≠ [] ∧ part ≠ ['.'] ∧ '/' ∉ part

theorem isSpelled_ofText (text : Text) : (ofText text).IsSpelled where
  root := by
    unfold ofText rootOf
    dsimp only
    split
    · exact Or.inl rfl
    · exact Or.inr (Or.inr rfl)
    · exact Or.inr (Or.inl rfl)
  parts := by
    intro part member
    obtain ⟨piece, kept⟩ := List.mem_filter.mp member
    have proper : part ≠ [] ∧ part ≠ ['.'] := by simpa using kept
    exact ⟨proper.1, proper.2, fun slash => (Text.mem_of_mem_splitOn piece slash).2 rfl⟩

/-- The names of a path are made of characters of its spelling. -/
theorem mem_of_mem_parts {text part : Text} (member : part ∈ (ofText text).parts) {c : Char}
    (inside : c ∈ part) : c ∈ text :=
  (Text.mem_of_mem_splitOn (List.mem_filter.mp member).1 inside).1

theorem mem_of_mem_name {text : Text} {c : Char} (inside : c ∈ (ofText text).name) : c ∈ text := by
  unfold name at inside
  rw [List.getLastD_eq_getLast?] at inside
  cases last : (ofText text).parts.getLast? with
  | none => simp [last] at inside
  | some part =>
      rw [last] at inside
      exact mem_of_mem_parts (List.mem_of_getLast? last) inside

namespace IsSpelled

variable {p : Path}

/-- The spelling of names does not begin with a slash. -/
theorem head?_joinWith (spelled : p.IsSpelled) {c : Char}
    (first : (Text.joinWith ['/'] p.parts).head? = some c) : c ≠ '/' := by
  obtain ⟨root, parts⟩ := p
  cases parts with
  | nil => cases first
  | cons part rest =>
      obtain ⟨nonempty, -, apart⟩ := spelled.parts part List.mem_cons_self
      cases part with
      | nil => exact absurd rfl nonempty
      | cons d part =>
          have same : d = c := by cases rest <;> exact Option.some.inj first
          rintro rfl
          exact apart (same ▸ List.mem_cons_self)

theorem takeWhile_slashes (spelled : p.IsSpelled) :
    (p.root ++ Text.joinWith ['/'] p.parts).takeWhile (· = '/') = p.root := by
  have names : (Text.joinWith ['/'] p.parts).takeWhile (· = '/') = [] := by
    cases joined : Text.joinWith ['/'] p.parts with
    | nil => rfl
    | cons c rest =>
        have different : c ≠ '/' := spelled.head?_joinWith (by rw [joined]; rfl)
        simp [different]
  rcases spelled.root with root | root | root <;> simp [root, names]

/-- The names of a path are the pieces of their spelling that are kept. -/
theorem filter_splitOn (spelled : p.IsSpelled) :
    (Text.splitOn '/' (p.root ++ Text.joinWith ['/'] p.parts)).filter
      (fun part => part ≠ [] ∧ part ≠ ['.']) = p.parts := by
  have names : (Text.splitOn '/' (Text.joinWith ['/'] p.parts)).filter
      (fun part => part ≠ [] ∧ part ≠ ['.']) = p.parts := by
    by_cases empty : p.parts = []
    · rw [empty]
      rfl
    · rw [Text.splitOn_joinWith empty fun part member => (spelled.parts part member).2.2]
      rw [List.filter_eq_self]
      intro part member
      obtain ⟨nonempty, other, -⟩ := spelled.parts part member
      simp [nonempty, other]
  rcases spelled.root with root | root | root <;>
    simpa [root, Text.splitOn] using names

/-- A path is read from its own spelling. -/
theorem ofText_toText (spelled : p.IsSpelled) : ofText p.toText = p := by
  unfold toText
  split
  · rename_i here
    obtain ⟨root, parts⟩ := p
    obtain ⟨rfl, rfl⟩ := here
    rfl
  · have root : rootOf (p.root ++ Text.joinWith ['/'] p.parts) = p.root := by
      unfold rootOf
      rw [spelled.takeWhile_slashes]
      rcases spelled.root with root | root | root <;> rw [root] <;> rfl
    unfold ofText
    rw [root, spelled.filter_splitOn]

end IsSpelled

end ClassDiagram.Path
