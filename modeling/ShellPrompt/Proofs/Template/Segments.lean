import ShellPrompt.Proofs.Template.Rendering

/-!
The text that segments show. Splitting a text into segments makes nothing up and leaves no segment
empty: what is shown is a part of the text in its order. Where no bracket ends a block the text is
one run without a style, and only the backslashes of its escapes are missing, however its brackets
and parentheses are nested.
-/

namespace ShellPrompt.Template

/-- A text without the backslashes of its escapes. A last backslash escapes nothing and stays. -/
def unescaped : List Char → List Char
  | [] => []
  | ['\\'] => ['\\']
  | '\\' :: c :: rest => c :: unescaped rest
  | c :: rest => c :: unescaped rest

/-- Whether some closing bracket, not escaped, has a parenthesis right behind it, so that it could
end the content of a block. -/
def hasBlockEnd : List Char → Bool
  | [] => false
  | ['\\'] => false
  | '\\' :: _ :: rest => hasBlockEnd rest
  | ']' :: '(' :: _ => true
  | _ :: rest => hasBlockEnd rest

section Split
variable (theme : Option Theme) (levels : Nat)

theorem segments_eq (text : List Char) :
    segments theme levels text =
      flush (splitRun theme levels text).1 (splitRun theme levels text).2 := rfl

theorem segments_block {rest : List Char} {block : Block} (found : readBlock rest = some block) :
    segments theme levels ('[' :: rest) =
      (contentSegments theme levels block.content).map
          (Segment.onto (Style.parse theme (String.ofList block.style))) ++
        segments theme levels block.after := by
  rw [segments_eq, splitRun_block theme levels found]
  rfl

end Split

section Shown

/-- The characters that segments show. -/
def letters (segments : List Segment) : List Char :=
  segments.flatMap fun segment => segment.text.toList

theorem toList_plain (segments : List Segment) :
    (Segment.plain segments).toList = letters segments := by
  rw [Segment.plain, String.toList_join, List.flatMap_map, letters]

theorem letters_flush (run : List Char) (segments : List Segment) :
    letters (flush run segments) = run ++ letters segments := by
  unfold flush
  split
  · rename_i empty
    rw [empty, List.nil_append]
  · rw [letters, List.flatMap_cons, String.toList_ofList, letters]

/-- Segments that show a part of a text, each of them at least one character. -/
structure ShowPart (text : List Char) (segments : List Segment) : Prop where
  part : (letters segments).Sublist text
  filled : ∀ segment ∈ segments, segment.text ≠ ""

namespace ShowPart
variable {text more : List Char} {segments others : List Segment}

theorem nil : ShowPart [] [] := ⟨.refl [], by simp⟩

theorem widen (shown : ShowPart text segments) (inside : text.Sublist more) :
    ShowPart more segments :=
  ⟨shown.part.trans inside, shown.filled⟩

theorem append (shown : ShowPart text segments) (next : ShowPart more others) :
    ShowPart (text ++ more) (segments ++ others) := by
  constructor
  · rw [letters, List.flatMap_append]
    exact shown.part.append next.part
  · intro segment member
    rcases List.mem_append.mp member with first | second
    · exact shown.filled segment first
    · exact next.filled segment second

theorem behindRun (shown : ShowPart text segments) (run : List Char) :
    ShowPart (run ++ text) (flush run segments) := by
  constructor
  · rw [letters_flush]
    exact shown.part.append_left run
  · unfold flush
    split
    · exact shown.filled
    · rename_i filled
      exact List.forall_mem_cons.mpr ⟨mt String.ofList_eq_empty_iff.mp filled, shown.filled⟩

/-- A character may be added to the run in front of segments. -/
theorem flush_cons {run : List Char} (shown : ShowPart text (flush run segments))
    (c : Char) : ShowPart (c :: text) (flush (c :: run) segments) := by
  constructor
  · have part := shown.part
    rw [letters_flush] at part ⊢
    exact part.cons_cons c
  · have filled := shown.filled
    unfold flush at filled ⊢
    rw [if_neg (List.cons_ne_nil _ _)]
    refine List.forall_mem_cons.mpr ⟨mt String.ofList_eq_empty_iff.mp (List.cons_ne_nil _ _), ?_⟩
    split at filled
    · exact filled
    · exact (List.forall_mem_cons.mp filled).2

theorem onto (shown : ShowPart text segments) (base : Style) :
    ShowPart text (segments.map (Segment.onto base)) := by
  constructor
  · rw [letters, List.flatMap_map]
    exact shown.part
  · intro segment member
    obtain ⟨inner, inside, rfl⟩ := List.mem_map.mp member
    exact shown.filled inner inside

end ShowPart

/-- The text of a segment is never made up, and never empty. -/
theorem showPart_segments (theme : Option Theme) (levels : Nat) (text : List Char) :
    ShowPart text (segments theme levels text) := by
  induction levels, text using splitRun.induct theme with
  | case1 levels =>
      rw [segments_eq, splitRun]
      exact ShowPart.nil
  | case2 levels =>
      rw [segments_eq, splitRun]
      exact ShowPart.nil.behindRun ['\\']
  | case3 levels c rest _ _ _ inductionHypothesis =>
      rw [segments_eq, splitRun_escape]
      exact (inductionHypothesis.flush_cons c).widen (List.sublist_cons_self _ _)
  | case4 levels rest block found _ _ _ contentHypothesis afterHypothesis =>
      have inner : ShowPart block.content (contentSegments theme levels block.content) := by
        cases levels with
        | zero =>
            have whole := ShowPart.nil.behindRun block.content
            rwa [List.append_nil] at whole
        | succ levels => exact contentHypothesis levels
      have behind : block.after.Sublist (']' :: '(' :: (block.style ++ ')' :: block.after)) :=
        (((List.sublist_cons_self ')' block.after).trans
          (List.sublist_append_right block.style _)).cons '(').cons ']'
      have inside : (block.content ++ block.after).Sublist ('[' :: rest) := by
        rw [eq_append_of_readBlock found]
        exact (behind.append_left block.content).cons '['
      rw [segments_block theme levels found]
      exact ((inner.onto _).append afterHypothesis).widen inside
  | case5 levels rest noBlock _ _ _ inductionHypothesis =>
      rw [segments_eq, splitRun_open theme levels noBlock]
      exact inductionHypothesis.flush_cons '['
  | case6 levels c rest noEnd noEscape noOpen _ _ _ inductionHypothesis =>
      rw [segments_eq, splitRun_plain theme levels (ne_backslash noEnd noEscape) noOpen]
      exact inductionHypothesis.flush_cons c

end Shown

section Unblocked

theorem hasBlockEnd_cons {c : Char} {rest : List Char} (noEscape : c ≠ '\\')
    (ends : hasBlockEnd rest = true) : hasBlockEnd (c :: rest) = true := by
  unfold hasBlockEnd
  split
  · contradiction
  · rename_i same
    exact absurd (List.cons.inj same).1 noEscape
  · rename_i same
    exact absurd (List.cons.inj same).1 noEscape
  · rfl
  · rename_i same
    rwa [← (List.cons.inj same).2]

/-- If what closes a content has a parenthesis behind it, a block could end there. -/
theorem hasBlockEnd_of_closeBracket {depth : Nat} {text inner more : List Char}
    (closed : closeBracket depth text = some (inner, '(' :: more)) : hasBlockEnd text = true := by
  fun_induction closeBracket depth text generalizing inner with
  | case1 => cases closed
  | case2 => cases closed
  | case3 depth c rest inductionHypothesis =>
      obtain ⟨⟨first, last⟩, here, same⟩ := Option.map_eq_some_iff.mp closed
      cases same
      exact inductionHypothesis here
  | case4 depth rest inductionHypothesis =>
      obtain ⟨⟨first, last⟩, here, same⟩ := Option.map_eq_some_iff.mp closed
      cases same
      exact hasBlockEnd_cons (by decide) (inductionHypothesis here)
  | case5 rest =>
      cases closed
      rfl
  | case6 rest depth inductionHypothesis =>
      obtain ⟨⟨first, last⟩, here, same⟩ := Option.map_eq_some_iff.mp closed
      cases same
      exact hasBlockEnd_cons (by decide) (inductionHypothesis here)
  | case7 depth c rest noEnd noEscape _ _ inductionHypothesis =>
      obtain ⟨⟨first, last⟩, here, same⟩ := Option.map_eq_some_iff.mp closed
      cases same
      exact hasBlockEnd_cons (ne_backslash noEnd noEscape) (inductionHypothesis here)

theorem hasBlockEnd_of_readBlock {text : List Char} {block : Block}
    (found : readBlock text = some block) : hasBlockEnd text = true := by
  unfold readBlock at found
  split at found
  · rename_i closed
    exact hasBlockEnd_of_closeBracket closed
  · cases found

theorem hasBlockEnd_tail {c : Char} {rest : List Char} (noEscape : c ≠ '\\')
    (unblocked : hasBlockEnd (c :: rest) = false) : hasBlockEnd rest = false := by
  rw [Bool.eq_false_iff] at unblocked ⊢
  exact mt (hasBlockEnd_cons noEscape) unblocked

theorem unescaped_cons {c : Char} (noEscape : c ≠ '\\') (rest : List Char) :
    unescaped (c :: rest) = c :: unescaped rest := by
  rw [unescaped]
  · intro same
    exact absurd same noEscape
  · exact fun _ _ same => absurd same noEscape

/-- Without an end of a block, all of a text is one run. -/
theorem splitRun_of_hasBlockEnd_eq_false (theme : Option Theme) (levels : Nat) {text : List Char}
    (unblocked : hasBlockEnd text = false) :
    splitRun theme levels text = (unescaped text, []) := by
  induction levels, text using splitRun.induct theme with
  | case1 levels => rw [splitRun, unescaped]
  | case2 levels => rw [splitRun, unescaped]
  | case3 levels c rest _ _ _ inductionHypothesis =>
      rw [splitRun_escape, inductionHypothesis unblocked, unescaped]
  | case4 levels rest block found _ _ _ contentHypothesis afterHypothesis =>
      have later := hasBlockEnd_tail (by decide) unblocked
      rw [hasBlockEnd_of_readBlock found] at later
      cases later
  | case5 levels rest noBlock _ _ _ inductionHypothesis =>
      have later := hasBlockEnd_tail (by decide) unblocked
      rw [splitRun_open theme levels noBlock, inductionHypothesis later,
        unescaped_cons (by decide)]
  | case6 levels c rest noEnd noEscape noOpen _ _ _ inductionHypothesis =>
      have plain := ne_backslash noEnd noEscape
      rw [splitRun_plain theme levels plain noOpen,
        inductionHypothesis (hasBlockEnd_tail plain unblocked), unescaped_cons plain]

theorem unescaped_ne_nil {text : List Char} (filled : text ≠ []) : unescaped text ≠ [] := by
  unfold unescaped
  split
  · exact absurd rfl filled
  · exact List.cons_ne_nil _ _
  · exact List.cons_ne_nil _ _
  · exact List.cons_ne_nil _ _

end Unblocked

/-- Segments are never empty and show nothing but a part of the text. Where no bracket ends a block,
they are one segment without a style that shows all of the text but the backslashes of its escapes,
or none if there is no text. -/
theorem plain_segments_sublist (theme : Option Theme) (levels : Nat) (text : List Char) :
    (∀ segment ∈ segments theme levels text, segment.text ≠ "") ∧
      (Segment.plain (segments theme levels text)).toList.Sublist text ∧
      (hasBlockEnd text = false →
        segments theme levels text =
          if text = [] then [] else [⟨String.ofList (unescaped text), {}⟩]) := by
  have shown := showPart_segments theme levels text
  refine ⟨shown.filled, ?_, ?_⟩
  · rw [toList_plain]
    exact shown.part
  · intro unblocked
    rw [segments_eq, splitRun_of_hasBlockEnd_eq_false theme levels unblocked]
    split
    · rename_i empty
      rw [empty, unescaped]
      rfl
    · rename_i filled
      exact if_neg (unescaped_ne_nil filled)

/-- Brackets and parentheses that belong to nothing, an escaped end of a block, and a backslash at
the end. -/
theorem plain_segments_sublist_unblocked :
    hasBlockEnd "(a]\\[b\\](c) [\\".toList = false ∧
      segments none maxDepth "(a]\\[b\\](c) [\\".toList = [⟨"(a][b](c) [\\", {}⟩] := by
  have unblocked : hasBlockEnd "(a]\\[b\\](c) [\\".toList = false := by decide
  refine ⟨unblocked, ?_⟩
  rw [(plain_segments_sublist none maxDepth _).2.2 unblocked]
  decide

end ShellPrompt.Template
