import ClassDiagram.Text.Basic

/-!
# Maps that remember their order

A map from texts lists its entries in the order in which their keys came in. To write to a key that
is there changes its value and keeps its place; a key that was erased and comes back goes to the
end. No key stands twice, so the value of a key is the value of its only entry.
-/

namespace ClassDiagram

/-- Entries with distinct keys, in the order in which the keys came in. -/
structure OrderedMap (α : Type) where
  entries : List (Text × α)
  nodup : (entries.map Prod.fst).Nodup
  deriving DecidableEq

namespace OrderedMap

variable {α β : Type}

/-- The map without entries. -/
def empty : OrderedMap α :=
  ⟨[], by simp⟩

instance : EmptyCollection (OrderedMap α) := ⟨empty⟩

instance : Inhabited (OrderedMap α) := ⟨empty⟩

/-- The keys in their order. -/
def keys (m : OrderedMap α) : List Text :=
  m.entries.map Prod.fst

/-- The values in the order of their keys. -/
def values (m : OrderedMap α) : List α :=
  m.entries.map Prod.snd

/-- The number of entries. -/
def size (m : OrderedMap α) : Nat :=
  m.entries.length

/-- The value of a key. -/
def get? (m : OrderedMap α) (key : Text) : Option α :=
  m.entries.lookup key

/-- Whether a key is in the map. -/
def contains (m : OrderedMap α) (key : Text) : Bool :=
  m.keys.contains key

/-- A value in place of the value that a key has. -/
def replace (m : OrderedMap α) (key : Text) (value : α) : OrderedMap α where
  entries := m.entries.map fun entry => if entry.1 = key then (key, value) else entry
  nodup := by
    have same : (m.entries.map fun entry => if entry.1 = key then (key, value) else entry).map
        Prod.fst = m.entries.map Prod.fst := by
      rw [List.map_map]
      apply List.map_congr_left
      intro entry _
      by_cases found : entry.1 = key <;> simp [found]
    rw [same]
    exact m.nodup

/-- A new entry at the end. -/
def append (m : OrderedMap α) (key : Text) (value : α) (absent : key ∉ m.keys) : OrderedMap α where
  entries := m.entries ++ [(key, value)]
  nodup := by
    rw [List.map_append, List.nodup_append]
    refine ⟨m.nodup, by simp, ?_⟩
    intro a ha b hb equal
    simp only [List.map_cons, List.map_nil, List.mem_singleton] at hb
    subst equal hb
    exact absent ha

/-- The map with a value for a key, in the place of the key or at the end if it is new. -/
def insert (m : OrderedMap α) (key : Text) (value : α) : OrderedMap α :=
  if present : key ∈ m.keys then m.replace key value else m.append key value present

/-- The map without a key. -/
def erase (m : OrderedMap α) (key : Text) : OrderedMap α where
  entries := m.entries.filter fun entry => entry.1 ≠ key
  nodup := (List.filter_sublist.map Prod.fst).nodup m.nodup

/-- The map that results from writing pairs one after another. -/
def ofList (pairs : List (Text × α)) : OrderedMap α :=
  pairs.foldl (fun m pair => m.insert pair.1 pair.2) empty

@[simp] theorem keys_replace (m : OrderedMap α) (key : Text) (value : α) :
    (m.replace key value).keys = m.keys := by
  simp only [keys, replace, List.map_map]
  apply List.map_congr_left
  intro entry _
  by_cases found : entry.1 = key <;> simp [found]

/-- A key keeps its place when its value changes, and a new key comes last. -/
theorem keys_insert (m : OrderedMap α) (key : Text) (value : α) :
    (m.insert key value).keys = if key ∈ m.keys then m.keys else m.keys ++ [key] := by
  unfold insert
  split
  · simp
  · simp [append, keys]

@[simp] theorem keys_erase (m : OrderedMap α) (key : Text) :
    (m.erase key).keys = m.keys.filter (· ≠ key) := by
  simp [keys, erase, List.filter_map, Function.comp_def]

/-- Two maps with the same entries in the same order are equal. -/
@[ext] theorem ext {m n : OrderedMap α} (same : m.entries = n.entries) : m = n := by
  cases m
  cases n
  simp_all

private theorem lookup_cons_ite (key first : Text) (value : α) (rest : List (Text × α)) :
    List.lookup key ((first, value) :: rest)
      = if key = first then some value else List.lookup key rest := by
  by_cases same : key = first
  · simp [same]
  · simp [List.lookup_cons, beq_false_of_ne same, same]

private theorem lookup_eq_none_iff (key : Text) (entries : List (Text × α)) :
    List.lookup key entries = none ↔ key ∉ entries.map Prod.fst := by
  induction entries with
  | nil => simp
  | cons entry rest ih =>
      obtain ⟨first, value⟩ := entry
      rw [lookup_cons_ite, List.map_cons, List.mem_cons, not_or]
      by_cases same : key = first
      · simp [same]
      · rw [if_neg same, ih]
        exact ⟨fun absent => ⟨same, absent⟩, And.right⟩

private theorem lookup_eq_some_iff (key : Text) (value : α) {entries : List (Text × α)}
    (nodup : (entries.map Prod.fst).Nodup) :
    List.lookup key entries = some value ↔ (key, value) ∈ entries := by
  induction entries with
  | nil => simp
  | cons entry rest ih =>
      obtain ⟨first, old⟩ := entry
      obtain ⟨apart, others⟩ := List.nodup_cons.mp nodup
      rw [lookup_cons_ite, List.mem_cons, Prod.mk.injEq]
      by_cases same : key = first
      · have later : (first, value) ∉ rest := fun member =>
          apart (List.mem_map.mpr ⟨_, member, rfl⟩)
        simp [same, later, eq_comm]
      · simp [same, ih others]

private theorem map_replace_eq_self {key : Text} {value : α} {entries : List (Text × α)}
    (absent : key ∉ entries.map Prod.fst) :
    (entries.map fun entry => if entry.1 = key then (key, value) else entry) = entries := by
  conv => rhs; rw [← List.map_id entries]
  apply List.map_congr_left
  intro entry member
  have different : entry.1 ≠ key := fun same => absent (same ▸ List.mem_map_of_mem member)
  simp [different]

private theorem lookup_map_replace (key other : Text) (value : α) (entries : List (Text × α))
    (present : key ∈ entries.map Prod.fst) :
    List.lookup other (entries.map fun entry => if entry.1 = key then (key, value) else entry)
      = if other = key then some value else List.lookup other entries := by
  induction entries with
  | nil => simp at present
  | cons entry rest ih =>
      obtain ⟨first, old⟩ := entry
      rw [List.map_cons, lookup_cons_ite]
      by_cases here : first = key
      · simp only [here, if_true, lookup_cons_ite]
        by_cases asked : other = key
        · simp [asked]
        · simp only [asked, if_false]
          by_cases later : key ∈ rest.map Prod.fst
          · rw [ih later, if_neg asked]
          · rw [map_replace_eq_self later]
      · have later : key ∈ rest.map Prod.fst := by
          simpa [Ne.symm here] using present
        simp only [here, if_false, lookup_cons_ite, ih later]
        by_cases asked : other = key
        · simp [asked, Ne.symm here]
        · simp [asked]

/-- A key has no value exactly if it is not in the map. -/
theorem get?_eq_none_iff {m : OrderedMap α} {key : Text} : m.get? key = none ↔ key ∉ m.keys :=
  lookup_eq_none_iff key m.entries

/-- The entries of a map are its keys with their values. -/
theorem get?_eq_some_iff {m : OrderedMap α} {key : Text} {value : α} :
    m.get? key = some value ↔ (key, value) ∈ m.entries :=
  lookup_eq_some_iff key value m.nodup

/-- A key that was written to has the new value, and every other key has the one it had. -/
theorem get?_insert (m : OrderedMap α) (key other : Text) (value : α) :
    (m.insert key value).get? other = if other = key then some value else m.get? other := by
  unfold insert
  split
  · exact lookup_map_replace key other value m.entries ‹_›
  · rename_i absent
    have unknown : m.get? key = none := get?_eq_none_iff.2 absent
    simp only [get?, append, List.lookup_append, lookup_cons_ite] at unknown ⊢
    by_cases asked : other = key
    · simp [asked, unknown]
    · simp [asked]

/-- A key that was erased has no value, and every other key has the one it had. -/
theorem get?_erase (m : OrderedMap α) (key other : Text) :
    (m.erase key).get? other = if other = key then none else m.get? other := by
  simp only [get?, erase]
  induction m.entries with
  | nil => simp
  | cons entry rest ih =>
      obtain ⟨first, value⟩ := entry
      by_cases here : first = key
      · rw [List.filter_cons_of_neg (by simp [here]), ih, lookup_cons_ite, here]
        by_cases asked : other = key <;> simp [asked]
      · rw [List.filter_cons_of_pos (by simp [here]), lookup_cons_ite, lookup_cons_ite, ih]
        by_cases asked : other = key
        · simp [asked, Ne.symm here]
        · simp [asked]

/-- To replace the value of a key that is not there changes nothing. -/
theorem replace_eq_self {m : OrderedMap α} {key : Text} {value : α} (absent : key ∉ m.keys) :
    m.replace key value = m :=
  ext (map_replace_eq_self absent)

/-- To write the value that a key has changes nothing. -/
theorem insert_eq_self {m : OrderedMap α} {key : Text} {value : α}
    (found : m.get? key = some value) : m.insert key value = m := by
  have present : key ∈ m.keys := List.mem_map_of_mem (get?_eq_some_iff.mp found)
  rw [insert, dif_pos present]
  refine ext ((List.map_congr_left fun entry member => ?_).trans (List.map_id m.entries))
  split
  · rename_i here
    have stood : m.get? key = some entry.2 := get?_eq_some_iff.mpr (here ▸ member)
    rw [found, Option.some.injEq] at stood
    rw [stood, ← here]
    rfl
  · rfl

/-- To erase a key that is not there changes nothing. -/
theorem erase_eq_self {m : OrderedMap α} {key : Text} (absent : key ∉ m.keys) :
    m.erase key = m := by
  refine ext (List.filter_eq_self.mpr fun entry member => ?_)
  have other : entry.1 ≠ key := fun same => absent (same ▸ List.mem_map_of_mem member)
  simpa using other

@[simp] theorem keys_empty : (empty : OrderedMap α).keys = [] :=
  rfl

@[simp] theorem get?_empty (key : Text) : (empty : OrderedMap α).get? key = none :=
  rfl

/-- A key is in the map exactly if it has a value. -/
theorem mem_keys_iff {m : OrderedMap α} {key : Text} :
    key ∈ m.keys ↔ ∃ value, m.get? key = some value := by
  rw [← Option.ne_none_iff_exists', ne_eq, get?_eq_none_iff, Decidable.not_not]

theorem mem_keys_of_get? {m : OrderedMap α} {key : Text} {value : α}
    (found : m.get? key = some value) : key ∈ m.keys :=
  mem_keys_iff.mpr ⟨value, found⟩

theorem contains_iff {m : OrderedMap α} {key : Text} : m.contains key = true ↔ key ∈ m.keys := by
  simp [contains]

theorem mem_keys_insert {m : OrderedMap α} {key other : Text} {value : α} :
    other ∈ (m.insert key value).keys ↔ other = key ∨ other ∈ m.keys := by
  rw [keys_insert]
  split
  · rename_i present
    exact ⟨Or.inr, fun either => either.elim (fun same => same ▸ present) id⟩
  · rw [List.mem_append, List.mem_singleton, or_comm]

theorem mem_keys_erase {m : OrderedMap α} {key other : Text} :
    other ∈ (m.erase key).keys ↔ other ∈ m.keys ∧ other ≠ key := by
  simp

end OrderedMap

end ClassDiagram
