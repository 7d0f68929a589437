import ShellPrompt.Proofs.Template.Rendering

/-!
Blocks that lie inside each other. Rendering takes off as many of them as may, the outermost first,
and lays their styles over each other; what lies deeper stays as it is written.
-/

namespace ShellPrompt.Template

/-- A text with none of the characters that have a meaning in templates. -/
def Unmarked (text : List Char) : Prop := ∀ c ∈ text, c ≠ '\\' ∧ c ≠ '$' ∧ isBracket c = false

instance (text : List Char) : Decidable (Unmarked text) := List.decidableBAll _ _

theorem Unmarked.styleText {text : List Char} (unmarked : Unmarked text) : StyleText text :=
  fun c member => ⟨(unmarked c member).1, (unmarked c member).2.2⟩

/-- A text inside blocks, one for each style, the outermost first. -/
def nested (styles : List (List Char)) (text : List Char) : List Char :=
  List.replicate styles.length '[' ++
    (text ++ styles.reverse.flatMap fun style => ']' :: '(' :: (style ++ [')']))

theorem nested_nil (text : List Char) : nested [] text = text := List.append_nil text

theorem nested_cons (style : List Char) (styles : List (List Char)) (text : List Char) :
    nested (style :: styles) text =
      '[' :: (nested styles text ++ ']' :: '(' :: (style ++ [')'])) := by
  rw [nested, nested, List.length_cons, List.replicate_succ, List.reverse_cons,
    List.flatMap_append, List.flatMap_singleton]
  simp

/-- The styles of blocks inside each other, the outermost first: each lies under those further
inside. -/
def layered (theme : Option Theme) : List (List Char) → Style
  | [] => {}
  | style :: styles => (layered theme styles).above (Style.parse theme (String.ofList style))

section Blocks
variable (theme : Option Theme) {styles : List (List Char)} {text : List Char}

theorem nested_ne_nil (filled : text ≠ []) : nested styles text ≠ [] := by
  cases styles with
  | nil => rwa [nested_nil]
  | cons style styles =>
      rw [nested_cons]
      exact List.cons_ne_nil _ _

theorem closesNothing_nested (styled : ∀ style ∈ styles, StyleText style)
    (closes : ClosesNothing text) : ClosesNothing (nested styles text) := by
  induction styles with
  | nil =>
      rw [nested_nil]
      exact closes
  | cons style styles inductionHypothesis =>
      obtain ⟨styledOuter, innerStyles⟩ := List.forall_mem_cons.mp styled
      have inner := inductionHypothesis innerStyles
      have closing : ClosesNothing [')'] :=
        closesNothing_nil.cons (by decide) (by decide) (by decide)
      rw [nested_cons]
      exact inner.enclosed ((styledOuter.plain.closesNothing.append closing).cons (by decide)
        (by decide) (by decide))

theorem flush_of_ne_nil (filled : text ≠ []) (segments : List Segment) :
    flush text segments = ⟨String.ofList text, {}⟩ :: segments := if_neg filled

theorem contentSegments_of_plain (plain : PlainText text) (filled : text ≠ []) (levels : Nat) :
    contentSegments theme levels text = [⟨String.ofList text, {}⟩] := by
  cases levels with
  | zero => exact flush_of_ne_nil filled []
  | succ levels =>
      have split := splitRun_append_plain theme levels plain []
      rw [List.append_nil, splitRun, List.append_nil] at split
      rw [contentSegments, segments, split]
      exact flush_of_ne_nil filled []

/-- Where blocks may lie that deep, the outermost one is taken off. -/
theorem contentSegments_nested_cons (levels : Nat) {style : List Char} (styled : StyleText style)
    (closes : ClosesNothing (nested styles text)) :
    contentSegments theme (levels + 1) (nested (style :: styles) text) =
      (contentSegments theme levels (nested styles text)).map
        (Segment.onto (Style.parse theme (String.ofList style))) := by
  have found := readBlock_append closes styled []
  rw [contentSegments, segments, nested_cons, splitRun_block theme levels found, splitRun]
  exact List.append_nil _

/-- As many blocks are taken off as may lie inside each other. -/
theorem contentSegments_nested (plainStyles : ∀ style ∈ styles, Unmarked style)
    (plain : Unmarked text) (filled : text ≠ []) (levels : Nat) :
    contentSegments theme levels (nested styles text) =
      [⟨String.ofList (nested (styles.drop levels) text),
        layered theme (styles.take levels)⟩] := by
  induction styles generalizing levels with
  | nil =>
      rw [List.drop_nil, List.take_nil, nested_nil]
      exact contentSegments_of_plain theme plain.styleText.plain filled levels
  | cons style styles inductionHypothesis =>
      obtain ⟨plainStyle, innerStyles⟩ := List.forall_mem_cons.mp plainStyles
      cases levels with
      | zero => exact flush_of_ne_nil (nested_ne_nil filled) []
      | succ levels =>
          have closes : ClosesNothing (nested styles text) :=
            closesNothing_nested (fun style member => (innerStyles style member).styleText)
              plain.styleText.plain.closesNothing
          rw [contentSegments_nested_cons theme levels plainStyle.styleText closes,
            inductionHypothesis innerStyles]
          rfl

end Blocks

section Tokens
variable {styles : List (List Char)} {text : List Char}

theorem noMark_nested (plainStyles : ∀ style ∈ styles, Unmarked style) (plain : Unmarked text) :
    ∀ c ∈ nested styles text, c ≠ '\\' ∧ c ≠ '$' := by
  induction styles with
  | nil =>
      rw [nested_nil]
      exact fun c member => ⟨(plain c member).1, (plain c member).2.1⟩
  | cons style styles inductionHypothesis =>
      obtain ⟨plainStyle, innerStyles⟩ := List.forall_mem_cons.mp plainStyles
      have inner := inductionHypothesis innerStyles
      rw [nested_cons]
      intro c member
      simp only [List.mem_cons, List.mem_append, List.not_mem_nil, or_false] at member
      rcases member with rfl | member | rfl | rfl | member | rfl
      · decide
      · exact inner c member
      · decide
      · decide
      · exact ⟨(plainStyle c member).1, (plainStyle c member).2.1⟩
      · decide

/-- The parentheses of blocks open no groups. -/
theorem resolves_nested (bindings : Bindings) (plainStyles : ∀ style ∈ styles, Unmarked style)
    (plain : Unmarked text) :
    Resolves bindings ((nested styles text).map Token.plain)
      ((nested styles text).map Token.plain) := by
  have resolvesText {words : List Char} (unmarked : Unmarked words) :
      Resolves bindings (words.map Token.plain) (words.map Token.plain) :=
    BlockStyle.resolves (show (BlockStyle.words words).WellFormed from unmarked)
  induction styles with
  | nil =>
      rw [nested_nil]
      exact resolvesText plain
  | cons style styles inductionHypothesis =>
      obtain ⟨plainStyle, innerStyles⟩ := List.forall_mem_cons.mp plainStyles
      have inner := inductionHypothesis innerStyles
      have closing : Resolves bindings [.plain ')'] [.plain ')'] :=
        resolves_nil.cons (by decide) (by decide)
      have styled := ((resolvesText plainStyle).append closing).style
      rw [nested_cons, List.map_cons, List.map_append, List.map_cons, List.map_cons,
        List.map_append]
      exact (inner.append styled).cons (by decide) (by decide)

end Tokens

/-- Blocks inside each other come to one segment. The styles of as many as may lie inside each other
are laid over each other, and what lies deeper is the text of the segment as it is written. -/
theorem render_nested {styles : List (List Char)} (plainStyles : ∀ style ∈ styles, Unmarked style)
    {text : List Char} (plain : Unmarked text) (filled : text ≠ []) (bindings : Bindings)
    (style : String) (theme : Option Theme) :
    render (String.ofList (nested styles text)) bindings style theme =
      [⟨String.ofList (nested (styles.drop (maxDepth + 1)) text),
        layered theme (styles.take (maxDepth + 1))⟩] := by
  have tokens := scan_append_plain (noMark_nested plainStyles plain) []
  rw [List.append_nil, scan_nil, List.append_nil] at tokens
  have left := (resolves_nested bindings plainStyles plain).resolveGroups_eq
  have written := BlockStyle.substituteTokens bindings style.toList (.words (nested styles text))
  rw [← contentSegments_nested theme plainStyles plain filled, render, String.toList_ofList]
  simp only [tokens, left]
  exact congrArg (segments theme maxDepth) written

/-- Of twelve blocks the innermost stays as it is written. -/
theorem render_nested_twelve :
    render (String.ofList (nested ("bold #111111".toList ::
        (List.replicate 9 "italic".toList ++ ["#222222".toList, "underline".toList])) ['x']))
        .empty "" none =
      [⟨"[x](underline)",
        { foreground := some "#222222", bold := some true, italic := some true }⟩] := by
  have plainStyles : ∀ style ∈ "bold #111111".toList ::
      (List.replicate 9 "italic".toList ++ ["#222222".toList, "underline".toList]),
      Unmarked style := by
    decide +kernel
  refine (render_nested plainStyles (by decide) (by decide) .empty "" none).trans ?_
  decide +kernel

end ShellPrompt.Template
