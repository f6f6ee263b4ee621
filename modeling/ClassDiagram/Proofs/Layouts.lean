import ClassDiagram.Proofs.DroppedBlocks
import ClassDiagram.Proofs.Text.Words

/-!
# Blocks on one line or on several

A block whose body is one piece of text can stand on one line. The line may also be broken after the
opening brace, before the closing one, or at both places. A line is cut differently in each of these
layouts: before its first closing brace, after its last opening one, or not at all. All of them are
the same steps, so they lead to the same builder from every state.
-/

namespace ClassDiagram

namespace Line

/-- A header and the body that follows it, without the closing brace. -/
structure IsBlock (head body : Text) : Prop where
  /-- The header has the word `class`. -/
  opens : isClassOpen head = true
  ends : head.getLast? = some '\x7b'
  unclosed : '\x7d' ∉ head
  bodyUnopened : '\x7b' ∉ body
  bodyUnclosed : '\x7d' ∉ body
  bodyOpens : isClassOpen body = false
  unrelated : isRelation (head ++ body) = false

/-- The ways to break a block into lines. -/
def layouts (head body : Text) : List (List Text) :=
  [[head ++ body ++ brace], [head, body, brace], [head ++ body, brace], [head, body ++ brace]]

variable {marker line head body : Text}

theorem isClassClose_eq_false_iff : isClassClose line = false ↔ '\x7d' ∉ line := by
  rw [isClassClose, Bool.eq_false_iff, ne_eq, List.contains_iff_mem]

/-- A part of a line that states no relation states none. -/
theorem isRelation_of_infix {part : Text} (inside : part <:+: line)
    (unrelated : isRelation line = false) : isRelation part = false := by
  rw [Bool.eq_false_iff] at unrelated ⊢
  intro stated
  apply unrelated
  exact Text.mentions_iff.mpr ((Text.mentions_iff.mp stated).trans inside)

theorem isRelation_append_brace (unrelated : isRelation line = false) :
    isRelation (line ++ brace) = false := by
  rw [Bool.eq_false_iff] at unrelated ⊢
  intro stated
  apply unrelated
  apply Text.mentions_of_append _ (by decide) stated
  intro c hyphen inBrace
  simp_all [brace]

theorem beforeClose_append_brace (unclosed : '\x7d' ∉ line) :
    beforeClose (line ++ brace) = line := by
  rw [beforeClose, List.takeWhile_append_of_pos (Text.decide_ne_of_not_mem unclosed)]
  simp [brace]

/-- A closing brace at the end of a line is one more step. -/
theorem steps_append_brace (unclosed : '\x7d' ∉ line) (unrelated : isRelation line = false)
    (unmarked : isSectionMarker marker line = false)
    (unmarkedBrace : isSectionMarker marker (line ++ brace) = false) :
    steps marker (line ++ brace) = steps marker line ++ [.close] := by
  have closes : isClassClose (line ++ brace) = true := by simp [isClassClose, brace]
  have open_ : isClassClose line = false := isClassClose_eq_false_iff.mpr unclosed
  have stated : isRelation (line ++ brace) = false := isRelation_append_brace unrelated
  simp [steps, openedNames, memberSegment, relation?, beforeClose_append_brace unclosed,
    beforeClose_eq_self open_, unmarked, unmarkedBrace, closes, open_, unrelated, stated]

/-- A line without closing brace and relation is a header or a member. -/
theorem steps_of_unclosed (unclosed : '\x7d' ∉ line) (unrelated : isRelation line = false)
    (unmarked : isSectionMarker marker line = false) :
    steps marker line =
      if isClassOpen line then
        (classNames line).map .enter ++ [.ready]
          ++ (member? (splitHeader line).2).toList.map .declare
      else (member? line).toList.map .declare := by
  have open_ : isClassClose line = false := isClassClose_eq_false_iff.mpr unclosed
  cases opens : isClassOpen line <;>
    simp [steps, openedNames, memberSegment, relation?, beforeClose_eq_self open_, unmarked, open_,
      unrelated, opens]

namespace IsBlock

variable (block : IsBlock head body)

include block

theorem unrelated_head : isRelation head = false :=
  isRelation_of_infix (List.prefix_append head body).isInfix block.unrelated

theorem unrelated_body : isRelation body = false :=
  isRelation_of_infix (List.suffix_append head body).isInfix block.unrelated

theorem unclosed_append : '\x7d' ∉ head ++ body := by
  simp [block.unclosed, block.bodyUnclosed]

/-- A header with its body on the same line is a header. -/
theorem isClassOpen_append : isClassOpen (head ++ body) = true := by
  obtain ⟨start, rfl⟩ := List.getLast?_eq_some_iff.mp block.ends
  have kept : Text.isCaseIgnorable '\x7b' = false := by decide +kernel
  have uncased : Text.isCased '\x7b' = false := by decide +kernel
  have brace : Text.lowerChar '\x7b' = ['\x7b'] := by decide +kernel
  have edge : Text.inWord (some '\x7b') = false := by decide +kernel
  have keyword : Text.IsWord "class".toList := by decide +kernel
  obtain ⟨lowered, cut⟩ := Text.exists_lower_append_cons kept uncased start
  have alone : Text.lower (start ++ ['\x7b']) = lowered ++ ['\x7b'] := by
    rw [cut [], brace]
    rfl
  have whole : Text.lower (start ++ ['\x7b'] ++ body)
      = Text.lower (start ++ ['\x7b']) ++ Text.lower body := by
    rw [alone, List.append_assoc, List.singleton_append, cut body, brace, List.append_assoc]
  rw [isClassOpen, whole]
  apply Text.containsWhole_append_of_edge keyword _ _ block.opens
  rw [alone, List.getLast?_concat]
  exact edge

/-- A body on the line of its header is read as it is on a line of its own. -/
theorem steps_append (marker : Text) (unmarkedHead : isSectionMarker marker head = false)
    (unmarkedBody : isSectionMarker marker body = false)
    (unmarkedBoth : isSectionMarker marker (head ++ body) = false) :
    steps marker (head ++ body) = steps marker head ++ steps marker body := by
  obtain ⟨start, ends⟩ := List.getLast?_eq_some_iff.mp block.ends
  have whole : head ++ body = start ++ '\x7b' :: body := by simp [ends]
  -- The body has no brace, so it adds no name, and it is what the header leaves of the line.
  have names : classNames (head ++ body) = classNames head := by
    rw [whole, classNames_append_brace, classNames_eq_nil block.bodyUnopened, List.append_nil, ends]
  have bodyOfBoth : (splitHeader (head ++ body)).2 = body := by
    rw [whole, splitHeader, splitLastBrace_append block.bodyUnopened]
    rfl
  have bodyOfHead : (splitHeader head).2 = [] := by
    rw [ends, splitHeader, splitLastBrace_append List.not_mem_nil]
    rfl
  have nothing : member? [] = none := rfl
  rw [steps_of_unclosed block.unclosed_append block.unrelated unmarkedBoth,
    steps_of_unclosed block.unclosed block.unrelated_head unmarkedHead,
    steps_of_unclosed block.bodyUnclosed block.unrelated_body unmarkedBody,
    if_pos block.isClassOpen_append, if_pos block.opens, if_neg (by simp [block.bodyOpens]), names,
    bodyOfBoth, bodyOfHead, nothing]
  simp

/-- Every layout of a block is the steps of its header, those of its body and a close. -/
theorem steps_of_layout {marker : Text} {layout : List Text}
    (unmarked : ∀ lines ∈ layouts head body, ∀ line ∈ lines, isSectionMarker marker line = false)
    (among : layout ∈ layouts head body) :
    layout.flatMap (steps marker) = steps marker head ++ steps marker body ++ [.close] := by
  simp only [layouts, List.forall_mem_cons, List.not_mem_nil, false_imp_iff, implies_true,
    and_true] at unmarked
  obtain ⟨unmarkedAll, ⟨unmarkedHead, unmarkedBody, -⟩, ⟨unmarkedBoth, -⟩, -, unmarkedEnd⟩ :=
    unmarked
  have both := block.steps_append marker unmarkedHead unmarkedBody unmarkedBoth
  have all := steps_append_brace block.unclosed_append block.unrelated unmarkedBoth unmarkedAll
  have end_ := steps_append_brace block.bodyUnclosed block.unrelated_body unmarkedBody unmarkedEnd
  simp only [layouts, List.mem_cons, List.not_mem_nil, or_false] at among
  rcases among with rfl | rfl | rfl | rfl
  · rw [List.flatMap_singleton, all, both]
  · simp [steps_brace]
  · simp [both, steps_brace]
  · simp [end_]

/-- No line of a layout states a relation. -/
theorem unrelated_of_layout {layout : List Text} (among : layout ∈ layouts head body) :
    ∀ line ∈ layout, isRelation line = false := by
  have all := isRelation_append_brace block.unrelated
  have end_ := isRelation_append_brace block.unrelated_body
  have alone : isRelation brace = false := by decide
  simp only [layouts, List.mem_cons, List.not_mem_nil, or_false] at among
  rcases among with rfl | rfl | rfl | rfl
  · exact List.forall_mem_singleton.mpr all
  · simp [block.unrelated_head, block.unrelated_body, alone]
  · simp [block.unrelated, alone]
  · simp [block.unrelated_head, end_]

end IsBlock

end Line

namespace Builder

variable {settings : Settings} {head body : Text}

/-- A block in any of its layouts runs the steps of its header and of its body and closes. -/
theorem session_of_layout (block : Line.IsBlock head body)
    (unmarked : ∀ layout ∈ Line.layouts head body, ∀ line ∈ layout,
      Line.isSectionMarker settings.sectionMarker line = false)
    (calls : List Call) {lines : List (Option Int × Text)}
    (layout : lines.map Prod.snd ∈ Line.layouts head body) :
    session settings (calls ++ Call.feeds lines)
      = run settings (session settings calls)
          (Line.steps settings.sectionMarker head ++ Line.steps settings.sectionMarker body
            ++ [.close]) := by
  rw [session, List.foldl_append, foldl_perform_feeds, stepsOf,
    block.steps_of_layout unmarked layout]
  rfl

/-- A block leads to the same builder in all of its layouts. Its header may open a known class,
several classes or none, and may follow any session, also one that leaves another class open. No
line of a layout is refused. -/
theorem block_layouts_agree (block : Line.IsBlock head body)
    (unmarked : ∀ layout ∈ Line.layouts head body, ∀ line ∈ layout,
      Line.isSectionMarker settings.sectionMarker line = false)
    (calls : List Call) {lines other : List (Option Int × Text)}
    (layout : lines.map Prod.snd ∈ Line.layouts head body)
    (otherLayout : other.map Prod.snd ∈ Line.layouts head body) :
    session settings (calls ++ Call.feeds lines) = session settings (calls ++ Call.feeds other) ∧
      Workbench.session settings (calls ++ Call.feeds lines)
        = Workbench.session settings (calls ++ Call.feeds other) ∧
      ∀ l ∈ lines, ∀ b : Builder, (feed settings l.1 l.2 b).error = none := by
  have same : session settings (calls ++ Call.feeds lines)
      = session settings (calls ++ Call.feeds other) := by
    rw [session_of_layout block unmarked calls layout,
      session_of_layout block unmarked calls otherLayout]
  refine ⟨same, ?_, ?_⟩
  · rw [Workbench.session_eq_ofBuilder, Workbench.session_eq_ofBuilder, same]
  · intro l member b
    have unrelated := block.unrelated_of_layout layout l.2 (List.mem_map_of_mem member)
    exact feed_accepted_iff.mpr (Or.inr (Or.inl unrelated))

/-- Lines after which one class is known and another one is open. -/
def pendingLines : List (Option Int × Text) :=
  [(none, "class A \x7b int y \x7d".toList), (none, "class C \x7b".toList)]

/-- A header that names the open class and the known one, and a body with more than two words. -/
theorem block_layouts_agree_pending :
    Line.IsBlock "class c \x7b class a\x7b".toList " int x of a".toList ∧
      session {} (Call.feeds pendingLines
          ++ Call.feeds [(none, "class c \x7b class a\x7b int x of a\x7d".toList)])
        = session {} (Call.feeds pendingLines
          ++ Call.feeds [(some 3, "class c \x7b class a\x7b".toList),
            (some 4, " int x of a".toList), (some 5, "\x7d".toList)]) ∧
      (session {} (Call.feeds pendingLines
          ++ Call.feeds [(none, "class c \x7b class a\x7b int x of a\x7d".toList)])).classes.get?
          "A".toList
        = some ⟨"A".toList,
            [⟨.primitive .integer, "y".toList⟩, ⟨.primitive .integer, "x".toList⟩], []⟩ := by
  have block : Line.IsBlock "class c \x7b class a\x7b".toList " int x of a".toList :=
    ⟨by decide +kernel, by decide, by decide, by decide, by decide, by decide +kernel, by decide⟩
  have agree := @block_layouts_agree {} _ _ block (by decide +kernel) (Call.feeds pendingLines)
    [(none, "class c \x7b class a\x7b int x of a\x7d".toList)]
    [(some 3, "class c \x7b class a\x7b".toList), (some 4, " int x of a".toList),
      (some 5, "\x7d".toList)] (by decide) (by decide)
  exact ⟨block, agree.1, by decide +kernel⟩

end Builder

end ClassDiagram
