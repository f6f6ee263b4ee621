import ClassDiagram.Files.Tree

/-!
# Writing one file

To write a file makes the directories that are missing on the way and then the file. No other file
comes, goes or changes, every directory stays, and the path leads to the bytes that were written.
Whether a file can be written does not depend on its bytes.
-/

namespace ClassDiagram.FileTree

variable {tree after : FileTree} {path place other : Path} {node : Node} {bytes : List UInt8}

theorem lookup_put (place : Path) (node : Node) (nodes : List (Path × Node)) (other : Path) :
    (put place node nodes).lookup other
      = if other = place then some node else nodes.lookup other := by
  have apart : ∀ {a b : Path}, a ≠ b → (a == b) = false := beq_eq_false_iff_ne.mpr
  induction nodes with
  | nil =>
      by_cases same : other = place
      · simp [put, same]
      · simp [put, List.lookup_cons, same, apart same]
  | cons entry rest ih =>
      obtain ⟨here, old⟩ := entry
      by_cases replaced : here = place
      · subst replaced
        by_cases same : other = here
        · simp [put, same]
        · simp [put, List.lookup_cons, same, apart same]
      · by_cases same : other = here
        · subst same
          simp [put, replaced]
        · simp [put, List.lookup_cons, replaced, apart same, ih]

/-- What is at the places of a tree after one of its nodes was put. -/
theorem node?_put (tree : FileTree) (place : Path) (node : Node) (other : Path) :
    node? ⟨put place node tree.nodes⟩ other
      = if other.parts.all (· = back) then some .directory
        else if other = place then some node else tree.node? other := by
  unfold node?
  split
  · rfl
  · rw [lookup_put]

theorem node?_put_of_ne (different : other ≠ place) :
    node? ⟨put place node tree.nodes⟩ other = tree.node? other := by
  rw [node?_put, if_neg different]
  unfold node?
  split <;> rfl

theorem node?_put_self (inside : tree.node? place ≠ some .directory) :
    node? ⟨put place node tree.nodes⟩ place = some node := by
  have below : ¬ place.parts.all (· = back) = true := fun above => inside (if_pos above)
  rw [node?_put, if_neg below, if_pos rfl]

/-- Whether a tree has the files of an earlier one and no others, with the same bytes, and all of
its directories. -/
structure KeepsFiles (before after : FileTree) : Prop where
  files : ∀ place bytes, after.node? place = some (.file bytes) ↔
    before.node? place = some (.file bytes)
  directories : ∀ place, before.node? place = some .directory → after.node? place = some .directory

namespace KeepsFiles

theorem refl (tree : FileTree) : tree.KeepsFiles tree :=
  ⟨fun _ _ => Iff.rfl, fun _ => id⟩

theorem trans {middle : FileTree} (first : tree.KeepsFiles middle)
    (second : middle.KeepsFiles after) : tree.KeepsFiles after where
  files place bytes := (second.files place bytes).trans (first.files place bytes)
  directories place here := second.directories place (first.directories place here)

end KeepsFiles

/-- A directory is made where nothing was. -/
theorem keepsFiles_makeDirectory (made : tree.makeDirectory path = .ok after) :
    tree.KeepsFiles after := by
  unfold makeDirectory at made
  cases resolved : tree.resolve path with
  | error fault => simp [resolved] at made
  | ok place =>
      simp only [resolved] at made
      cases here : tree.node? place with
      | some node => simp [here] at made
      | none =>
          simp only [here, Except.ok.injEq] at made
          subst made
          have put : node? ⟨put place .directory tree.nodes⟩ place = some .directory :=
            node?_put_self (by simp [here])
          refine ⟨fun other bytes => ?_, fun other stands => ?_⟩
          · by_cases same : other = place
            · subst same
              simp [put, here]
            · rw [node?_put_of_ne same]
          · by_cases same : other = place
            · subst same
              exact put
            · rwa [node?_put_of_ne same]

theorem keepsFiles_ensureDirectory (ensured : tree.ensureDirectory path = .ok after) :
    tree.KeepsFiles after := by
  unfold ensureDirectory at ensured
  cases made : tree.makeDirectory path with
  | ok directory =>
      simp only [made, Except.ok.injEq] at ensured
      subst ensured
      exact keepsFiles_makeDirectory made
  | error fault =>
      simp only [made] at ensured
      split at ensured
      · cases ensured
        exact KeepsFiles.refl tree
      · cases ensured

theorem keepsFiles_ensureDirectoriesFrom (root : Text) {names : List Text}
    (ensured : ensureDirectoriesFrom root tree names = .ok after) : tree.KeepsFiles after := by
  induction names generalizing after with
  | nil => exact keepsFiles_ensureDirectory ensured
  | cons name before ih =>
      rw [ensureDirectoriesFrom] at ensured
      split at ensured
      · cases ready : ensureDirectoriesFrom root tree before with
        | error e =>
            rw [ready] at ensured
            cases ensured
        | ok outer =>
            rw [ready] at ensured
            exact (ih ready).trans (keepsFiles_ensureDirectory ensured)
      · exact keepsFiles_ensureDirectory ensured

/-- A walk along directories goes the same way in a tree that has them, too. -/
theorem walk_of_directories {target : Path}
    (stay : ∀ place, tree.node? place = some .directory → after.node? place = some .directory)
    {names : List Text} (walked : tree.walk place names = .ok target) :
    after.walk place names = .ok target := by
  induction names generalizing place with
  | nil => exact walked
  | cons name rest ih =>
      rw [walk] at walked ⊢
      cases here : tree.node? place with
      | none => simp [here] at walked
      | some node =>
          cases node with
          | file bytes => simp [here] at walked
          | directory =>
              simp only [here] at walked
              simp only [stay place here]
              exact ih walked

theorem write_eq_ok_iff :
    tree.write path bytes = .ok after ↔
      ∃ place, tree.resolve path = .ok place ∧ tree.node? place ≠ some .directory ∧
        after = ⟨put place (.file bytes) tree.nodes⟩ := by
  unfold write
  cases resolved : tree.resolve path with
  | error fault => simp
  | ok place =>
      cases here : tree.node? place with
      | none => simp [here, eq_comm]
      | some node => cases node <;> simp [here, eq_comm]

/-- Whether a tree differs from an earlier one in one file only, the one that a path leads to: it has
the given bytes. Directories may have been made. -/
structure WritesOnly (before after : FileTree) (path place : Path) (bytes : List UInt8) : Prop where
  leads : after.resolve path = .ok place
  written : after.node? place = some (.file bytes)
  others : ∀ other, other ≠ place → ∀ old, after.node? other = some (.file old) ↔
    before.node? other = some (.file old)
  directories : ∀ place, before.node? place = some .directory → after.node? place = some .directory

/-- The path leads to the bytes that were written. -/
theorem WritesOnly.read_eq (writes : WritesOnly tree after path place bytes) :
    after.read path = .ok bytes := by
  simp only [read, writes.leads, writes.written]

theorem writesOnly_of_write (written : tree.write path bytes = .ok after) :
    ∃ place, WritesOnly tree after path place bytes := by
  obtain ⟨place, resolved, inside, rfl⟩ := write_eq_ok_iff.mp written
  have stay : ∀ other, tree.node? other = some .directory →
      node? ⟨put place (.file bytes) tree.nodes⟩ other = some .directory := by
    intro other stands
    have different : other ≠ place := fun same => inside (same ▸ stands)
    rwa [node?_put_of_ne different]
  exact ⟨place, walk_of_directories stay resolved, node?_put_self inside,
    fun other different old => by rw [node?_put_of_ne different], stay⟩

theorem writesOnly_of_writeWithParents (written : tree.writeWithParents path bytes = .ok after) :
    ∃ place, WritesOnly tree after path place bytes := by
  unfold writeWithParents at written
  cases ready : tree.ensureDirectories path.parent with
  | error e =>
      rw [ready] at written
      cases written
  | ok outer =>
      rw [ready] at written
      have kept : tree.KeepsFiles outer := keepsFiles_ensureDirectoriesFrom _ ready
      obtain ⟨place, writes⟩ := writesOnly_of_write written
      exact ⟨place, writes.leads, writes.written,
        fun other different old => (writes.others other different old).trans (kept.files other old),
        fun other stands => writes.directories other (kept.directories other stands)⟩

/-- Whether a path can be written. -/
def IsWritable (tree : FileTree) (path : Path) : Prop :=
  ∃ bytes after, tree.writeWithParents path bytes = .ok after

/-- Where one file can be written, every other one can. -/
theorem IsWritable.writeWithParents_eq_ok (writable : tree.IsWritable path) (bytes : List UInt8) :
    ∃ after, tree.writeWithParents path bytes = .ok after := by
  obtain ⟨others, written, succeeded⟩ := writable
  unfold writeWithParents at succeeded ⊢
  cases ready : tree.ensureDirectories path.parent with
  | error e =>
      rw [ready] at succeeded
      cases succeeded
  | ok outer =>
      rw [ready] at succeeded
      obtain ⟨place, resolved, inside, rfl⟩ := write_eq_ok_iff.mp succeeded
      exact ⟨_, write_eq_ok_iff.mpr ⟨place, resolved, inside, rfl⟩⟩

end ClassDiagram.FileTree
