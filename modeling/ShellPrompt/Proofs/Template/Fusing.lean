import ShellPrompt.Proofs.Style.Merging
import ShellPrompt.Proofs.Template.Nesting
import ShellPrompt.Proofs.Template.Segments

/-!
Blocks that fill other blocks. Style strings behind each other come to styles over each other, and
so do the styles of a block and of the block around it: a block that fills another one says as much
as one block with both style strings. The two only differ in how deep their content lies, and that
does not show as long as the blocks inside it may lie as deep as they do.
-/

namespace ShellPrompt.Template

/-- A text in which every bracket has its counterpart and every backslash a character behind it.
A bracket behind a backslash counts for nothing. -/
inductive BracketsClose : List Char → Prop where
  | nil : BracketsClose []
  | plain {c : Char} {rest : List Char} (noEscape : c ≠ '\\') (noOpen : c ≠ '[')
      (noClose : c ≠ ']') : BracketsClose rest → BracketsClose (c :: rest)
  | escape (c : Char) {rest : List Char} : BracketsClose rest → BracketsClose ('\\' :: c :: rest)
  | enclosed {inner rest : List Char} :
      BracketsClose inner → BracketsClose rest → BracketsClose ('[' :: (inner ++ ']' :: rest))

theorem BracketsClose.closesNothing {text : List Char} (closed : BracketsClose text) :
    ClosesNothing text := by
  induction closed with
  | nil => exact closesNothing_nil
  | plain noEscape noOpen noClose _ inductionHypothesis =>
      exact inductionHypothesis.cons noEscape noOpen noClose
  | escape c _ inductionHypothesis => exact inductionHypothesis.escape c
  | enclosed _ _ innerHypothesis restHypothesis => exact innerHypothesis.enclosed restHypothesis

/-- How many blocks of a text lie inside each other. -/
def blockDepth : List Char → Nat
  | [] => 0
  | ['\\'] => 0
  | '\\' :: _ :: rest => blockDepth rest
  | '[' :: rest =>
      match _found : readBlock rest with
      | some block => max (blockDepth block.content + 1) (blockDepth block.after)
      | none => blockDepth rest
  | _ :: rest => blockDepth rest
termination_by text => text.length
decreasing_by
  all_goals first
    | (have shorter := congrArg List.length (eq_append_of_readBlock _found)
       simp only [List.length_append, List.length_cons] at shorter ⊢
       omega)
    | simp only [List.length_cons]; omega

section Depth
variable (theme : Option Theme)

/-- How deep blocks may lie does not matter as long as none lies deeper. -/
theorem splitRun_of_blockDepth_le {text : List Char} {levels others : Nat}
    (shallow : blockDepth text ≤ levels) (alsoShallow : blockDepth text ≤ others) :
    splitRun theme levels text = splitRun theme others text := by
  fun_induction blockDepth text generalizing levels others with
  | case1 => rw [splitRun, splitRun]
  | case2 => rw [splitRun, splitRun]
  | case3 c rest inductionHypothesis =>
      rw [splitRun_escape, splitRun_escape, inductionHypothesis shallow alsoShallow]
  | case4 rest block found contentHypothesis afterHypothesis =>
      obtain ⟨contentShallow, afterShallow⟩ := Nat.max_le.mp shallow
      obtain ⟨contentToo, afterToo⟩ := Nat.max_le.mp alsoShallow
      obtain ⟨level, rfl⟩ : ∃ level, levels = level + 1 :=
        Nat.exists_eq_add_one_of_ne_zero (by omega)
      obtain ⟨other, rfl⟩ : ∃ other, others = other + 1 :=
        Nat.exists_eq_add_one_of_ne_zero (by omega)
      have contents : segments theme level block.content = segments theme other block.content := by
        rw [segments_eq, segments_eq, contentHypothesis (Nat.le_of_succ_le_succ contentShallow)
          (Nat.le_of_succ_le_succ contentToo)]
      rw [splitRun_block theme (level + 1) found, splitRun_block theme (other + 1) found,
        contentSegments, contentSegments, contents, afterHypothesis afterShallow afterToo]
  | case5 rest noBlock inductionHypothesis =>
      rw [splitRun_open theme levels noBlock, splitRun_open theme others noBlock,
        inductionHypothesis shallow alsoShallow]
  | case6 c rest noEnd noEscape noOpen inductionHypothesis =>
      have plain := ne_backslash noEnd noEscape
      rw [splitRun_plain theme levels plain noOpen, splitRun_plain theme others plain noOpen,
        inductionHypothesis shallow alsoShallow]

theorem segments_of_blockDepth_le {text : List Char} {levels others : Nat}
    (shallow : blockDepth text ≤ levels) (alsoShallow : blockDepth text ≤ others) :
    segments theme levels text = segments theme others text := by
  rw [segments_eq, segments_eq, splitRun_of_blockDepth_le theme shallow alsoShallow]

end Depth

section Fusing
variable (theme : Option Theme)

theorem parse_ofList_append_blank (outer inner : List Char) :
    Style.parse theme (String.ofList (outer ++ ' ' :: inner)) =
      (Style.parse theme (String.ofList inner)).above
        (Style.parse theme (String.ofList outer)) := by
  have apart : String.ofList (outer ++ ' ' :: inner) =
      String.ofList outer ++ " " ++ String.ofList inner := by
    rw [← String.toList_inj]
    simp
  rw [apart, Style.parse_append_blank]

theorem segments_nested_cons {styles : List (List Char)} {content style : List Char}
    (styled : StyleText style) (closes : ClosesNothing (nested styles content)) (levels : Nat) :
    segments theme (levels + 1) (nested (style :: styles) content) =
      (segments theme levels (nested styles content)).map
        (Segment.onto (Style.parse theme (String.ofList style))) :=
  contentSegments_nested_cons theme (levels + 1) styled closes

/-- A block that fills another one, as in `[[content](inner)](outer)`, comes to one block with both
style strings, `[content](outer inner)`. -/
theorem segments_nested_nested {content : List Char} (closed : BracketsClose content)
    {levels : Nat} (shallow : blockDepth content + 2 ≤ levels) {outer inner : List Char}
    (styledOuter : StyleText outer) (styledInner : StyleText inner) :
    segments theme levels (nested [outer, inner] content) =
      segments theme levels (nested [outer ++ ' ' :: inner] content) := by
  obtain ⟨level, rfl⟩ : ∃ level, levels = level + 2 := Nat.exists_eq_add_of_le' (by omega)
  have styled : StyleText (outer ++ ' ' :: inner) :=
    List.forall_mem_append.mpr ⟨styledOuter, List.forall_mem_cons.mpr ⟨by decide, styledInner⟩⟩
  have around : ClosesNothing (nested [] content) := by
    rw [nested_nil]
    exact closed.closesNothing
  have filled : ClosesNothing (nested [inner] content) :=
    closesNothing_nested (List.forall_mem_singleton.mpr styledInner) closed.closesNothing
  have sameContent : segments theme level content = segments theme (level + 1) content :=
    segments_of_blockDepth_le theme (by omega) (by omega)
  calc segments theme (level + 2) (nested [outer, inner] content)
      = ((segments theme level content).map
            (Segment.onto (Style.parse theme (String.ofList inner)))).map
          (Segment.onto (Style.parse theme (String.ofList outer))) := by
        rw [segments_nested_cons theme styledOuter filled,
          segments_nested_cons theme styledInner around, nested_nil]
    _ = (segments theme level content).map
          (Segment.onto (Style.parse theme (String.ofList (outer ++ ' ' :: inner)))) := by
        rw [List.map_map, parse_ofList_append_blank]
        exact List.map_congr_left fun segment _ => segment.onto_onto _ _
    _ = segments theme (level + 2) (nested [outer ++ ' ' :: inner] content) := by
        rw [segments_nested_cons theme styled around, nested_nil, sameContent]

/-- They come apart where the blocks of the content may lie in one block but not in two. -/
example : segments none 1 (nested [[], []] "[a]()".toList) = [⟨"[a]()", {}⟩] ∧
    segments none 1 (nested [[' ']] "[a]()".toList) = [⟨"a", {}⟩] := by
  decide +kernel

end Fusing

/-- Styles that lie over each other are a monoid, and style strings behind each other come to styles
over each other. So a block that fills another one is shown like one block with both style strings,
if the blocks in its content do not lie deeper than blocks may. -/
theorem blocks_fuse (theme : Option Theme) :
    (∀ first second third : Style,
        (first.above second).above third = first.above (second.above third)) ∧
      (∀ style : Style, style.above {} = style ∧ Style.above {} style = style) ∧
      (∀ first second : String,
        Style.parse theme (first ++ " " ++ second) =
          (Style.parse theme second).above (Style.parse theme first)) ∧
      ∀ content outer inner : List Char, BracketsClose content → blockDepth content + 2 ≤ maxDepth →
        StyleText outer → StyleText inner →
          segments theme maxDepth (nested [outer, inner] content) =
            segments theme maxDepth (nested [outer ++ ' ' :: inner] content) := by
  refine ⟨Style.above_assoc, fun style => ⟨style.above_empty, style.empty_above⟩,
    Style.parse_append_blank theme, ?_⟩
  intro content outer inner closed shallow styledOuter styledInner
  exact segments_nested_nested theme closed shallow styledOuter styledInner

/-- A block with another one and an escaped bracket in it. -/
theorem blocks_fuse_escape :
    BracketsClose "[a](#0)\\]".toList ∧ blockDepth "[a](#0)\\]".toList = 1 ∧
      segments none maxDepth "[[[a](#0)\\]](bold #2)](italic #1)".toList =
        segments none maxDepth "[[a](#0)\\]](italic #1 bold #2)".toList ∧
      segments none maxDepth "[[a](#0)\\]](italic #1 bold #2)".toList =
        [⟨"a", { foreground := some "#0", bold := some true, italic := some true }⟩,
          ⟨"]", { foreground := some "#2", bold := some true, italic := some true }⟩] := by
  have closed : BracketsClose ('[' :: (['a'] ++ ']' :: "(#0)\\]".toList)) := by
    refine .enclosed (.plain (by decide) (by decide) (by decide) .nil) ?_
    refine .plain (by decide) (by decide) (by decide) ?_
    refine .plain (by decide) (by decide) (by decide) ?_
    refine .plain (by decide) (by decide) (by decide) ?_
    refine .plain (by decide) (by decide) (by decide) ?_
    exact .escape ']' .nil
  have depth : blockDepth "[a](#0)\\]".toList = 1 := by decide +kernel
  have shallow : blockDepth "[a](#0)\\]".toList + 2 ≤ maxDepth := by
    rw [depth]
    decide
  have fused := (blocks_fuse none).2.2.2 "[a](#0)\\]".toList "italic #1".toList "bold #2".toList
    closed shallow (by decide) (by decide)
  refine ⟨closed, depth, fused, ?_⟩
  decide +kernel

end ShellPrompt.Template
