import ClassDiagram.Proofs.Console.Messages

/-!
# Tables are printed

A table is refused only for one of the texts that stand in it: it is printed exactly if its title,
its headings and all of its cells can be. So the tables of classes are printed exactly if the names
of the classes and the names and types of their members can be, in whatever order the tables come.
-/

namespace ClassDiagram

section Traversals

variable {α β γ ε : Type}

theorem exists_map_eq_ok_iff {x : Except ε α} {f : α → β} :
    (∃ y, x.map f = .ok y) ↔ ∃ a, x = .ok a := by
  cases x <;> simp [Except.map]

theorem exists_bind_eq_ok_iff {x : Except ε α} {f : α → Except ε β} :
    (∃ y, (x >>= f) = .ok y) ↔ ∃ a, x = .ok a ∧ ∃ y, f a = .ok y := by
  cases x <;> simp [bind, Except.bind]

/-- A list is traversed without an error exactly if there is none at any of its elements. -/
theorem exists_mapM_eq_ok_iff {f : α → Except ε β} {xs : List α} :
    (∃ ys, xs.mapM f = .ok ys) ↔ ∀ x ∈ xs, ∃ y, f x = .ok y := by
  induction xs with
  | nil => simp [pure, Except.pure]
  | cons x rest ih =>
      rw [List.mapM_cons, exists_bind_eq_ok_iff, List.forall_mem_cons, ← ih]
      constructor
      · rintro ⟨y, first, others⟩
        obtain ⟨ys, traversed, -⟩ := exists_bind_eq_ok_iff.mp others
        exact ⟨⟨y, first⟩, ys, traversed⟩
      · rintro ⟨⟨y, first⟩, ys, traversed⟩
        exact ⟨y, first, exists_bind_eq_ok_iff.mpr ⟨ys, traversed, _, rfl⟩⟩

end Traversals

namespace Markup

/-- Whether a text can be printed: none of its tags is refused. -/
def IsPrintable (text : Text) : Prop :=
  ∃ shown, render text = .ok shown

instance (text : Text) : Decidable (IsPrintable text) :=
  match rendered : render text with
  | .ok shown => isTrue ⟨shown, rendered⟩
  | .error _ => isFalse fun ⟨_, shown⟩ => by
      rw [rendered] at shown
      cases shown

/-- Text without an opening bracket has no tags. -/
theorem isPrintable_of_no_bracket {text : Text} (plain : '[' ∉ text) : IsPrintable text := by
  have read : (Scan.start.read text).pieces = [] :=
    (Scan.read_of_no_opening (show Scan.start.opened = none from rfl) plain).2.2
  obtain ⟨more, whole, inert⟩ := withPlain_eq_append (Scan.start.read text).text []
  have pieces : pieces text = more.reverse ++ [] := by
    have found : Markup.pieces text
        = (withPlain (Scan.start.read text).text (Scan.start.read text).pieces).reverse := rfl
    rw [found, read, whole, List.append_nil, List.append_nil]
  obtain ⟨shown, rendered⟩ := renderPieces_of_inert
    (fun piece member => inert piece (List.mem_reverse.mp member)) [] []
  unfold IsPrintable render
  rw [pieces, rendered]
  exact ⟨_, rfl⟩

end Markup

open Markup (IsPrintable isPrintable_of_no_bracket)

namespace Table

theorem exists_layout_iff {column : Column} {cells : List Text} :
    (∃ made, layout column cells = .ok made) ↔
      ∀ cell ∈ column.heading :: cells, IsPrintable cell := by
  unfold layout
  rw [exists_bind_eq_ok_iff]
  refine Iff.trans ⟨?_, ?_⟩ exists_mapM_eq_ok_iff
  · rintro ⟨rendered, all, -⟩
    exact ⟨rendered, all⟩
  · rintro ⟨rendered, all⟩
    exact ⟨rendered, all, _, rfl⟩

theorem exists_titleLines_iff {width : Nat} {title : Text} :
    (∃ lines, titleLines width title = .ok lines) ↔ IsPrintable title := by
  unfold titleLines
  split
  · rename_i empty
    exact iff_of_true ⟨[], rfl⟩ (isPrintable_of_no_bracket (by rw [empty]; exact List.not_mem_nil))
  · exact exists_map_eq_ok_iff

/-- The texts in a column of a table, its heading first. -/
def textsAt (table : Table) (i : Nat) : List Text :=
  (table.columns.getD i ⟨[], true⟩).heading :: table.rows.map fun row => row.getD i []

/-- A table is printed exactly if all texts in it can be. -/
theorem exists_lines_iff {table : Table} :
    (∃ lines, table.lines = .ok lines) ↔
      (∀ i < table.columns.length, ∀ cell ∈ table.textsAt i, IsPrintable cell) ∧
        IsPrintable table.title := by
  have columns : (∃ made, (List.range table.columns.length).mapM (fun i =>
        layout (table.columns.getD i ⟨[], true⟩) (table.rows.map fun row => row.getD i []))
          = .ok made) ↔
      ∀ i < table.columns.length, ∀ cell ∈ table.textsAt i, IsPrintable cell := by
    rw [exists_mapM_eq_ok_iff]
    simp only [List.mem_range, exists_layout_iff]
    rfl
  unfold lines
  rw [exists_bind_eq_ok_iff, ← columns]
  constructor
  · rintro ⟨made, all, rest⟩
    obtain ⟨title, shown, -⟩ := exists_bind_eq_ok_iff.mp rest
    exact ⟨⟨made, all⟩, exists_titleLines_iff.mp ⟨title, shown⟩⟩
  · rintro ⟨⟨made, all⟩, title⟩
    obtain ⟨title, shown⟩ := exists_titleLines_iff.mpr title
    exact ⟨made, all, exists_bind_eq_ok_iff.mpr ⟨title, shown, _, rfl⟩⟩

end Table

/-- Whether a class can be shown in a table: all that stands there of it can be printed. -/
structure Class.IsShowable (title : Text) (c : Class) : Prop where
  title : IsPrintable title
  attributes : ∀ a ∈ c.attributes, IsPrintable a.name ∧ IsPrintable a.dataType.toText
  operations : ∀ o ∈ c.operations,
    IsPrintable (o.name ++ "()".toList) ∧ IsPrintable o.returnType.toText

/-- The names of the members of a class stand in the first column, their types in the third. -/
theorem Class.textsAt_table (title : Text) (c : Class) :
    (c.table title).textsAt 0 = "Member".toList :: (c.attributes.map Attribute.name
        ++ c.operations.map fun o => o.name ++ "()".toList) ∧
      (c.table title).textsAt 1 = "Kind".toList :: (c.attributes.map (fun _ => "attribute".toList)
        ++ c.operations.map fun _ => "function".toList) ∧
      (c.table title).textsAt 2 = "Type".toList
        :: (c.attributes.map (fun a => a.dataType.toText)
          ++ c.operations.map fun o => o.returnType.toText) := by
  simp [Table.textsAt, table, Function.comp_def]

theorem Class.forall_mem_column_iff {p : Text → Prop} {heading : Text} {c : Class}
    {ofAttribute : Attribute → Text} {ofOperation : Operation → Text} :
    (∀ text ∈ heading :: (c.attributes.map ofAttribute ++ c.operations.map ofOperation), p text) ↔
      p heading ∧ (∀ a ∈ c.attributes, p (ofAttribute a)) ∧
        ∀ o ∈ c.operations, p (ofOperation o) := by
  rw [List.forall_mem_cons, List.forall_mem_append, List.forall_mem_map, List.forall_mem_map]

/-- The table of a class is printed exactly if the class can be shown. -/
theorem Class.exists_lines_table_iff {title : Text} {c : Class} :
    (∃ lines, (c.table title).lines = .ok lines) ↔ c.IsShowable title := by
  obtain ⟨names, kinds, types⟩ := c.textsAt_table title
  rw [Table.exists_lines_iff]
  constructor
  · rintro ⟨columns, printable⟩
    have name := columns 0 (show 0 < 3 by decide)
    have type := columns 2 (show 2 < 3 by decide)
    rw [names, forall_mem_column_iff] at name
    rw [types, forall_mem_column_iff] at type
    exact ⟨printable, fun a inside => ⟨name.2.1 a inside, type.2.1 a inside⟩,
      fun o inside => ⟨name.2.2 o inside, type.2.2 o inside⟩⟩
  · rintro ⟨printable, attributes, operations⟩
    refine ⟨fun i bound => ?_, printable⟩
    have column : i < 3 := bound
    obtain rfl | rfl | rfl : i = 0 ∨ i = 1 ∨ i = 2 := by omega
    · rw [names, forall_mem_column_iff]
      exact ⟨isPrintable_of_no_bracket (by decide), fun a inside => (attributes a inside).1,
        fun o inside => (operations o inside).1⟩
    · rw [kinds, forall_mem_column_iff]
      exact ⟨isPrintable_of_no_bracket (by decide),
        fun _ _ => isPrintable_of_no_bracket (by decide),
        fun _ _ => isPrintable_of_no_bracket (by decide)⟩
    · rw [types, forall_mem_column_iff]
      exact ⟨isPrintable_of_no_bracket (by decide), fun a inside => (attributes a inside).2,
        fun o inside => (operations o inside).2⟩

namespace Printed

/-- Prints go on to the end exactly if none of them is refused. -/
theorem error_ofPrints_iff {prints : List Print} :
    (ofPrints prints).error = none ↔ ∀ print ∈ prints, ∃ lines, print = .ok lines := by
  induction prints with
  | nil => simp [ofPrints, nothing]
  | cons print rest ih =>
      rw [List.forall_mem_cons, ← ih]
      cases print <;> simp [ofPrints]

end Printed

section Sorting

variable {α : Type}

theorem insertByKey_perm (entry : Text × α) (entries : List (Text × α)) :
    (insertByKey entry entries).Perm (entry :: entries) := by
  induction entries with
  | nil => exact .refl _
  | cons other rest ih =>
      unfold insertByKey
      split
      · exact .refl _
      · exact (ih.cons other).trans (.swap entry other rest)

/-- Sorting keeps all entries. -/
theorem sortByKey_perm (entries : List (Text × α)) : (sortByKey entries).Perm entries := by
  induction entries with
  | nil => exact .refl _
  | cons entry rest ih => exact (insertByKey_perm entry _).trans (ih.cons entry)

end Sorting

/-- Whether all of the classes can be shown, each under its key. -/
def ClassMap.IsShowable (classes : ClassMap) : Prop :=
  ∀ key c, classes.get? key = some c → c.IsShowable key

/-- The tables of classes are printed exactly if all of the classes can be shown. -/
theorem error_printClasses_iff {classes : ClassMap} :
    (printClasses classes).error = none ↔ classes.IsShowable := by
  unfold printClasses tablePrints
  rw [Printed.error_ofPrints_iff]
  simp only [List.forall_mem_append, List.forall_mem_map, (sortByKey_perm _).mem_iff,
    Class.exists_lines_table_iff, List.forall_mem_singleton]
  constructor
  · rintro ⟨shown, -⟩ key c found
    exact shown (key, c) (OrderedMap.get?_eq_some_iff.mp found)
  · intro shown
    exact ⟨fun entry listed => shown entry.1 entry.2 (OrderedMap.get?_eq_some_iff.mpr listed),
      _, rfl⟩

/-- A table of labels and values without brackets is printed. -/
theorem error_printSummary {title : Text} {items : OrderedMap Text} (plainTitle : '[' ∉ title)
    (plain : ∀ item ∈ items.entries, '[' ∉ item.1 ∧ '[' ∉ item.2) :
    (printSummary title items).error = none := by
  have labels : ∀ item ∈ items.entries, IsPrintable item.1 :=
    fun item listed => isPrintable_of_no_bracket (plain item listed).1
  have values : ∀ item ∈ items.entries, IsPrintable item.2 :=
    fun item listed => isPrintable_of_no_bracket (plain item listed).2
  unfold printSummary
  rw [Printed.error_ofPrints_iff, List.forall_mem_cons, List.forall_mem_singleton,
    Table.exists_lines_iff]
  refine ⟨⟨fun i bound => ?_, isPrintable_of_no_bracket plainTitle⟩, _, rfl⟩
  have column : i < 2 := bound
  obtain rfl | rfl : i = 0 ∨ i = 1 := by omega
  · rw [Table.textsAt, List.forall_mem_cons, List.map_map, List.forall_mem_map]
    exact ⟨isPrintable_of_no_bracket (show '[' ∉ "Item".toList by decide), labels⟩
  · rw [Table.textsAt, List.forall_mem_cons, List.map_map, List.forall_mem_map]
    exact ⟨isPrintable_of_no_bracket (show '[' ∉ "Value".toList by decide), values⟩

end ClassDiagram
