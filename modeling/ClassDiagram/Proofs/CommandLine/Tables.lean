import ClassDiagram.Proofs.Brackets
import ClassDiagram.Proofs.CommandLine.Runs
import ClassDiagram.Proofs.Console.Tables
import ClassDiagram.Proofs.Naming

/-!
# Runs that show classes as tables

The names in a diagram's relations are put into tables as they stand, where they may be read as
style tags. A run on a diagram that is accepted ends well exactly if nothing in the tables of its
classes is refused, and only a name of a relation, or what is put behind it, can be. A stray byte in
the ending of names may end a run before, since the console does not take it.
-/

namespace ClassDiagram

open Markup (IsPrintable isPrintable_of_no_bracket)

/-- Whether what a relation brings into tables can be printed: the names of its classes, and the
attribute that it adds. -/
structure Relation.IsShowable (suffix : Text) (r : Relation) : Prop where
  left : IsPrintable r.left
  right : IsPrintable r.right
  field : ∀ target a, r.injected suffix = some (target, a) →
    IsPrintable a.name ∧ IsPrintable a.dataType.toText

theorem Attribute.isPrintable_of_no_bracket {a : Attribute} (plain : ¬ a.HasBracket) :
    IsPrintable a.name ∧ IsPrintable a.dataType.toText := by
  obtain ⟨name, type⟩ := not_or.mp plain
  exact ⟨Markup.isPrintable_of_no_bracket name, Markup.isPrintable_of_no_bracket type⟩

/-- Only brackets keep a relation from being shown. -/
theorem Relation.bracket_of_not_isShowable {suffix : Text} {r : Relation}
    (hidden : ¬ r.IsShowable suffix) : '[' ∈ r.left ∨ '[' ∈ r.right ∨ '[' ∈ suffix := by
  by_contra plain
  obtain ⟨left, others⟩ := not_or.mp plain
  obtain ⟨right, -⟩ := not_or.mp others
  apply hidden
  refine ⟨isPrintable_of_no_bracket left, isPrintable_of_no_bracket right, ?_⟩
  intro target a injected
  apply Attribute.isPrintable_of_no_bracket
  intro bracket
  exact plain (bracket_of_injected injected bracket)

/-- The classes of a diagram can be shown if its relations can: all else that stands in their tables
is made of words. -/
theorem isShowable_of_relations {settings : Settings} {text : Text} {classes : ClassMap}
    (parsed : parse settings text = .ok classes)
    (shown : ∀ r ∈ (Builder.start.readText settings text).builder.relations,
      r.IsShowable settings.foreignKeySuffix) : classes.IsShowable := by
  obtain ⟨accepted, rfl⟩ := parse_eq_ok_iff.mp parsed
  intro key c found
  obtain ⟨keys, attributes, operations⟩ := brackets_come_from_relations accepted found
  refine ⟨?_, ?_, ?_⟩
  · by_cases bracket : '[' ∈ key
    · obtain ⟨r, stated, rfl | rfl⟩ := keys bracket
      · exact (shown r stated).left
      · exact (shown r stated).right
    · exact isPrintable_of_no_bracket bracket
  · intro a inside
    by_cases bracket : a.HasBracket
    · obtain ⟨r, stated, target, injected⟩ := attributes a inside bracket
      exact (shown r stated).field target a injected
    · exact Attribute.isPrintable_of_no_bracket bracket
  · intro o inside
    obtain ⟨name, type⟩ := not_or.mp (operations o inside)
    have called : '[' ∉ o.name ++ "()".toList := by
      rw [List.mem_append, not_or]
      exact ⟨name, by decide⟩
    exact ⟨isPrintable_of_no_bracket called, isPrintable_of_no_bracket type⟩

namespace CommandLine

section Runs

variable {environment : Settings.Environment} {files : FileTree}
  {bytes : List UInt8} {classes : StandIn → ClassMap} {diagram : Text}

/-- The counts below the tables are printed. -/
theorem error_printSummary_counts (plain : '[' ∉ diagram) (classes : ClassMap) :
    (printSummary (Path.ofText diagram).name (counts classes)).error = none := by
  have title : '[' ∉ (Path.ofText diagram).name := by
    intro inside
    exact plain (Path.mem_of_mem_name inside)
  -- The three labels are fixed and different, so the pairs stay as they are listed.
  have entries : ∃ attributes operations, (counts classes).entries
      = [("Classes".toList, Text.ofNat classes.size), ("Attributes".toList, Text.ofNat attributes),
        ("Functions".toList, Text.ofNat operations)] := ⟨_, _, rfl⟩
  obtain ⟨attributes, operations, entries⟩ := entries
  apply error_printSummary title
  rw [entries]
  simp only [List.forall_mem_cons, Text.bracket_not_mem_ofNat]
  decide

/-- Prints one after another end in one of three ways: all of them are put on the console, or one is
refused, or a stray byte has come into one. -/
theorem afterPrints_ends (prints : List (StandIn → Print)) (files : FileTree) (next : Result) :
    ((∀ print ∈ prints, ∃ lines, print .first = .ok lines) ∧ ∃ printed,
        Result.afterPrints files next prints = { next with stdout := printed ++ next.stdout }) ∨
      ((¬ ∀ print ∈ prints, ∃ lines, print .first = .ok lines) ∧ ∃ e printed,
        Result.afterPrints files next prints = ⟨.failed (.unprintable e), printed, [], files⟩) ∨
      ((∃ print ∈ prints, print .second ≠ print .first) ∧ ∃ e printed,
        Result.afterPrints files next prints
          = ⟨.failed (.unencodable e), printed, [], files⟩) := by
  induction prints with
  | nil => exact Or.inl ⟨List.forall_mem_nil _, [], rfl⟩
  | cons print rest ih =>
      rw [List.forall_mem_cons]
      cases here : print .first with
      | error e =>
          refine Or.inr (Or.inl ⟨?_, e, [], by simp only [Result.afterPrints, here]; rfl⟩)
          rintro ⟨⟨lines, accepted⟩, -⟩
          cases accepted
      | ok lines =>
          simp only [Result.afterPrints, here, Except.ok.injEq, exists_eq', true_and]
          by_cases plain : ∃ text,
              RawText.restore (fun standIn => (print standIn).text) = .ofText text
          · rw [afterText_of_plain plain]
            rcases ih with ⟨accepted, printed, went⟩ | ⟨refused, e, printed, went⟩ |
              ⟨⟨other, listed, differs⟩, e, printed, went⟩
            · refine Or.inl ⟨accepted, (print .first).text ++ printed, ?_⟩
              rw [went, List.append_assoc]
            · exact Or.inr (Or.inl ⟨refused, e, _, by rw [went]⟩)
            · exact Or.inr (Or.inr ⟨⟨other, List.mem_cons_of_mem _ listed, differs⟩, e, _,
                by rw [went]⟩)
          · obtain ⟨e, ended⟩ := afterText_of_stray plain files (Result.afterPrints files next rest)
            refine Or.inr (Or.inr ⟨⟨print, List.mem_cons_self, ?_⟩, e, [], ended⟩)
            intro same
            exact plain ⟨_, RawText.restore_of_same (congrArg Print.text same)⟩

/-- There are as many prints for classes as there are classes, and one more. -/
theorem length_tablePrints (classes : ClassMap) :
    (tablePrints classes).length = classes.size + 1 := by
  rw [tablePrints, List.length_append, List.length_map, (sortByKey_perm _).length_eq]
  rfl

/-- The tables under both stand-ins go in pairs, of which the first ones are accepted exactly if the
classes can be shown. -/
theorem accepted_pairs_iff (size : (classes .second).size = (classes .first).size) :
    (∀ print ∈ List.zipWith StandIn.pair (tablePrints (classes .first))
      (tablePrints (classes .second)), ∃ lines, print .first = .ok lines) ↔
        (classes .first).IsShowable := by
  have long : (tablePrints (classes .first)).length = (tablePrints (classes .second)).length := by
    rw [length_tablePrints, length_tablePrints, size]
  rw [← error_printClasses_iff, printClasses, Printed.error_ofPrints_iff,
    ← List.map_uncurry_zip_eq_zipWith, List.forall_mem_map]
  conv_rhs => rw [← List.map_fst_zip long.le, List.forall_mem_map]
  rfl

/-- To show classes as tables ends in one of three ways: all of them can be shown, and it ends well;
or some cannot, and a text is refused; or a stray byte has come into a table. -/
theorem showClasses_tables {options : Options} (asked : options.output = none)
    (tables : options.json = false) (plain : '[' ∉ diagram)
    (size : (classes .second).size = (classes .first).size) (files : FileTree) :
    ((classes .first).IsShowable ∧ ∃ printed,
        showClasses options (Path.ofText diagram) classes files
          = ⟨.exited 0, printed, [], files⟩) ∨
      (¬ (classes .first).IsShowable ∧ ∃ e printed,
        showClasses options (Path.ofText diagram) classes files
          = ⟨.failed (.unprintable e), printed, [], files⟩) ∨
      (classes .second ≠ classes .first ∧ ∃ e printed,
        showClasses options (Path.ofText diagram) classes files
          = ⟨.failed (.unencodable e), printed, [], files⟩) := by
  have summary := error_printSummary_counts plain (classes .first)
  have shown : showClasses options (Path.ofText diagram) classes files
      = .afterPrints files (.afterPrint (printSummary (Path.ofText diagram).name
          (counts (classes .first))) files (.quiet (.exited 0) files))
        (List.zipWith StandIn.pair (tablePrints (classes .first))
          (tablePrints (classes .second))) := by
    simp only [showClasses, asked, tables, Option.getD_none, Bool.false_eq_true, if_false]
  rw [shown, ← accepted_pairs_iff size]
  simp only [Result.afterPrint, summary]
  rcases afterPrints_ends (List.zipWith StandIn.pair (tablePrints (classes .first))
      (tablePrints (classes .second))) files _ with
    ⟨accepted, printed, went⟩ | refused | ⟨⟨print, listed, differs⟩, ended⟩
  · exact Or.inl ⟨accepted, _, went⟩
  · exact Or.inr (Or.inl refused)
  · refine Or.inr (Or.inr ⟨?_, ended⟩)
    intro same
    rw [same, List.zipWith_self, List.mem_map] at listed
    obtain ⟨print, -, rfl⟩ := listed
    exact differs rfl

/-- Whatever stands for stray bytes, a diagram has the same number of classes. -/
theorem size_of_made {settings : StandIn → Settings}
    (made : ∀ standIn, Settings.ofEnvironment standIn environment = .ok (settings standIn))
    (found : files.find? (Path.ofText diagram) = some (.file bytes))
    (parsed : ∀ standIn, DiagramFile.parse (settings standIn) files diagram
      = .ok (classes standIn)) : (classes .second).size = (classes .first).size := by
  have alike := Settings.eq_of_ofEnvironment (made .first) (made .second)
  have marker : (settings .second).sectionMarker = (settings .first).sectionMarker := by
    rw [alike]
  have flush : (settings .second).flushUnterminated = (settings .first).flushUnterminated := by
    rw [alike]
  obtain ⟨text, decoded, read⟩ := DiagramFile.exists_text_of_parse found (parsed .first)
  obtain ⟨text', decoded', read'⟩ := DiagramFile.exists_text_of_parse found (parsed .second)
  obtain rfl : text = text' := Except.ok.inj (decoded.symm.trans decoded')
  have lengths := congrArg List.length (keys_parse_congr marker flush read read')
  rwa [OrderedMap.keys, OrderedMap.keys, List.length_map, List.length_map] at lengths

/-- If some classes of a diagram cannot be shown, one of its relations cannot be: it has an opening
bracket in a name or gets one from what is put behind the names. -/
theorem exists_relation_of_hidden {settings : Settings} {classes : ClassMap}
    (found : files.find? (Path.ofText diagram) = some (.file bytes))
    (parsed : DiagramFile.parse settings files diagram = .ok classes)
    (hidden : ¬ classes.IsShowable) :
    ∃ text, Text.Utf8.decode bytes = .ok text ∧
      ∃ r ∈ (Builder.start.readText settings (Text.normalizeNewlines text)).builder.relations,
        ¬ r.IsShowable settings.foreignKeySuffix ∧
          ('[' ∈ r.left ∨ '[' ∈ r.right ∨ '[' ∈ settings.foreignKeySuffix) := by
  obtain ⟨text, decoded, read⟩ := DiagramFile.exists_text_of_parse found parsed
  refine ⟨text, decoded, ?_⟩
  by_contra none
  apply hidden
  apply isShowable_of_relations read
  intro r stated
  by_contra unshown
  exact none ⟨r, stated, unshown, Relation.bracket_of_not_isShowable unshown⟩

/-- A run on a diagram that is accepted ends well if all of its classes can be shown. Otherwise it
ends with the error of a text that is refused, and leaves every file; then some relation of the
diagram cannot be shown, and it has an opening bracket in a name or gets one from what is put behind
the names. In both cases a stray byte may end the run before, which comes from the ending of names.
The tables of any classes are printed to the end exactly if all of them can be shown. -/
theorem run_prints_tables_iff {settings : StandIn → Settings} (plain : IsPlain diagram)
    (found : files.find? (Path.ofText diagram) = some (.file bytes))
    (made : ∀ standIn, Settings.ofEnvironment standIn environment = .ok (settings standIn))
    (parsed : ∀ standIn, DiagramFile.parse (settings standIn) files diagram
      = .ok (classes standIn)) :
    (∀ standIn, (printClasses (classes standIn)).error = none ↔ (classes standIn).IsShowable) ∧
      ((classes .first).IsShowable →
        (∃ printed, run [diagram] environment files = ⟨.exited 0, printed, [], files⟩) ∨
          (environment.HasStray Settings.suffixVariable ∧ classes .second ≠ classes .first ∧
            ∃ e printed, run [diagram] environment files
              = ⟨.failed (.unencodable e), printed, [], files⟩)) ∧
      (¬ (classes .first).IsShowable →
        ((∃ e printed,
            run [diagram] environment files = ⟨.failed (.unprintable e), printed, [], files⟩) ∨
          (environment.HasStray Settings.suffixVariable ∧ classes .second ≠ classes .first ∧
            ∃ e printed, run [diagram] environment files
              = ⟨.failed (.unencodable e), printed, [], files⟩)) ∧
        ∃ text, Text.Utf8.decode bytes = .ok text ∧
          ∃ r ∈ (Builder.start.readText (settings .first)
              (Text.normalizeNewlines text)).builder.relations,
            ¬ r.IsShowable (settings .first).foreignKeySuffix ∧
              ('[' ∈ r.left ∨ '[' ∈ r.right ∨ '[' ∈ (settings .first).foreignKeySuffix)) := by
  have asked := parse_tables plain.bare
  have ends := @showClasses_tables classes diagram ⟨diagram, false, none, none, false, false⟩
    rfl rfl plain.untagged (size_of_made made found parsed) files
  have origin := hasStray_of_parse (f := id) made parsed
  have relation := exists_relation_of_hidden found (parsed .first)
  obtain ⟨warning, ran, -⟩ := run_of_classes asked rfl plain made found parsed rfl
  refine ⟨fun _ => error_printClasses_iff, ?_⟩
  rcases ends with ⟨showable, printed, shown⟩ | ⟨hidden, e, printed, shown⟩ |
    ⟨differs, e, printed, shown⟩
  · rw [shown] at ran
    exact ⟨fun _ => Or.inl ⟨_, ran⟩, fun hidden => absurd showable hidden⟩
  · rw [shown] at ran
    exact ⟨fun showable => absurd showable hidden, fun _ => ⟨Or.inl ⟨e, _, ran⟩, relation hidden⟩⟩
  · rw [shown] at ran
    exact ⟨fun _ => Or.inr ⟨origin differs, differs, e, _, ran⟩,
      fun hidden => ⟨Or.inr ⟨origin differs, differs, e, _, ran⟩, relation hidden⟩⟩

end Runs

/-- A relation with brackets that make no tag in upper case. -/
def bracketText : Text :=
  "[a] \"1\" -- \"N\" B".toList

/-- The classes of that relation. -/
def bracketClasses : ClassMap :=
  ⟨[("[A]".toList, ⟨"[A]".toList, [], []⟩),
    ("B".toList, ⟨"B".toList, [⟨.foreignKey "[A]".toList, "[A]_fk".toList⟩], []⟩)], by decide⟩

theorem run_prints_tables_iff_bracket :
    IsPlain "d.mmd".toList ∧
      (diagramTree bracketText).find? (Path.ofText "d.mmd".toList)
        = some (.file (Text.Utf8.encode bracketText)) ∧
      (∀ standIn, Settings.ofEnvironment standIn [] = .ok {}) ∧
      DiagramFile.parse {} (diagramTree bracketText) "d.mmd".toList = .ok bracketClasses ∧
      bracketClasses.IsShowable ∧
      ∃ printed, run ["d.mmd".toList] [] (diagramTree bracketText)
        = ⟨.exited 0, printed, [], diagramTree bracketText⟩ := by
  have plain : IsPlain "d.mmd".toList := ⟨by decide, by decide⟩
  have found : (diagramTree bracketText).find? (Path.ofText "d.mmd".toList)
      = some (.file (Text.Utf8.encode bracketText)) := by decide +kernel
  have made : ∀ standIn, Settings.ofEnvironment standIn [] = .ok {} := fun _ => rfl
  have parsed : DiagramFile.parse {} (diagramTree bracketText) "d.mmd".toList
      = .ok bracketClasses := by decide +kernel
  obtain ⟨tables, ends, -⟩ := run_prints_tables_iff plain found made (fun _ => parsed)
  have showable : bracketClasses.IsShowable := (tables .first).mp (by decide +kernel)
  refine ⟨plain, found, made, parsed, showable, ?_⟩
  rcases ends showable with ended | ⟨⟨raw, here, -⟩, -⟩
  · exact ended
  · cases here

/-- A relation of a class whose name is a closing tag. -/
def closingText : Text :=
  "[/] \"1\" -- \"1\" [/]".toList

/-- The class of that relation. -/
def closingClasses : ClassMap :=
  ⟨[("[/]".toList, ⟨"[/]".toList, [], []⟩)], by decide⟩

/-- The diagram is accepted, and the title of the only table is refused. -/
theorem closing_tag_in_title_is_refused :
    IsPlain "d.mmd".toList ∧
      (diagramTree closingText).find? (Path.ofText "d.mmd".toList)
        = some (.file (Text.Utf8.encode closingText)) ∧
      Settings.ofEnvironment .first [] = .ok {} ∧
      DiagramFile.parse {} (diagramTree closingText) "d.mmd".toList = .ok closingClasses ∧
      (printClasses closingClasses).error = some (.nothingToClose 0) ∧
      run ["d.mmd".toList] [] (diagramTree closingText)
        = ⟨.failed (.unprintable (.nothingToClose 0)), [], [], diagramTree closingText⟩ :=
  ⟨⟨by decide, by decide⟩, by decide +kernel, rfl, by decide +kernel, by decide +kernel,
    by decide +kernel⟩

end CommandLine

end ClassDiagram
