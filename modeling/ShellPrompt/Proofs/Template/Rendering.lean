import ShellPrompt.Proofs.OrderedMap
import ShellPrompt.Proofs.Template.Groups

/-!
Rendering a printed layout gives what the layout stands for. Once the groups are resolved and the
variables replaced, the brackets of the text are those of the blocks, so that the blocks are found
again with the text of their contents.
-/

namespace ShellPrompt.Template

/-- A text that can stand in the content of a block as it is. -/
def PlainText (text : List Char) : Prop := ∀ c ∈ text, c ≠ '\\' ∧ c ≠ '[' ∧ c ≠ ']'

instance (text : List Char) : Decidable (PlainText text) := List.decidableBAll _ _

/-- A text that can stand in the parentheses of a style. -/
def StyleText (text : List Char) : Prop := ∀ c ∈ text, c ≠ '\\' ∧ isBracket c = false

instance (text : List Char) : Decidable (StyleText text) := List.decidableBAll _ _

namespace Layout

/-- The text of a layout once its groups are resolved and its variables replaced. -/
def filledIn (bindings : Bindings) (base : List Char) : Layout → List Char
  | empty => []
  | literal text rest => text.flatMap (fun c => ['\\', c]) ++ rest.filledIn bindings base
  | reference name rest => bindings.lookUp name ++ rest.filledIn bindings base
  | block style content rest =>
      '[' :: (content.filledIn bindings base ++
        ']' :: '(' :: (style.value base ++ ')' :: rest.filledIn bindings base))
  | group content rest =>
      (if content.shown bindings then content.filledIn bindings base else []) ++
        rest.filledIn bindings base

end Layout

section Substitute
variable (bindings : Bindings) (base : List Char)

theorem substituteTokens_append (first second : List Token) :
    substituteTokens bindings base (first ++ second) =
      substituteTokens bindings base first ++ substituteTokens bindings base second :=
  List.flatMap_append

theorem substituteTokens_cons (token : Token) (rest : List Token) :
    substituteTokens bindings base (token :: rest) =
      token.substituted bindings base ++ substituteTokens bindings base rest :=
  List.flatMap_cons

theorem substituteTokens_plain (c : Char) (rest : List Token) :
    substituteTokens bindings base (.plain c :: rest) =
      c :: substituteTokens bindings base rest := rfl

theorem BlockStyle.substituteTokens (style : BlockStyle) :
    Template.substituteTokens bindings base style.tokens = style.value base := by
  cases style with
  | base => exact List.append_nil base
  | words text =>
      rw [tokens, value]
      induction text with
      | nil => rfl
      | cons c text inductionHypothesis =>
          rw [List.map_cons, substituteTokens_plain, inductionHypothesis]

theorem substituteTokens_escapes (text : List Char) :
    substituteTokens bindings base (text.map fun c => .escape (some c)) =
      text.flatMap fun c => ['\\', c] := by
  rw [substituteTokens, List.flatMap_map]
  rfl

theorem Layout.substituteTokens {layout : Layout} (wellFormed : layout.WellFormed) :
    Template.substituteTokens bindings base (layout.kept bindings) =
      layout.filledIn bindings base := by
  induction layout with
  | empty => rfl
  | literal text next inductionHypothesis =>
      rw [kept, substituteTokens_append, substituteTokens_escapes, inductionHypothesis wellFormed,
        filledIn]
  | reference name next inductionHypothesis =>
      obtain ⟨⟨_, _, other⟩, wellFormed⟩ := wellFormed
      have value : Token.substituted bindings base (.reference name) = bindings.lookUp name :=
        if_neg other
      rw [kept, substituteTokens_cons, value, inductionHypothesis wellFormed]
      rfl
  | block style content next contentHypothesis nextHypothesis =>
      obtain ⟨_, contentFormed, nextFormed⟩ := wellFormed
      rw [kept, substituteTokens_plain, substituteTokens_append, substituteTokens_plain,
        substituteTokens_plain, substituteTokens_append, substituteTokens_plain,
        contentHypothesis contentFormed, style.substituteTokens, nextHypothesis nextFormed,
        filledIn]
  | group content next contentHypothesis nextHypothesis =>
      rw [kept, substituteTokens_append, nextHypothesis wellFormed.2, filledIn]
      split
      · rw [contentHypothesis wellFormed.1]
      · rfl

end Substitute

theorem closeBracket_plain {c : Char} (noEscape : c ≠ '\\') (noOpen : c ≠ '[') (noClose : c ≠ ']')
    (depth : Nat) (rest : List Char) :
    closeBracket depth (c :: rest) =
      (closeBracket depth rest).map fun (inner, after) => (c :: inner, after) := by
  rw [closeBracket]
  · intro same
    exact absurd same noEscape
  · exact fun _ _ same => absurd same noEscape
  · exact noOpen
  · exact noClose

theorem closeStyle_plain {c : Char} (noEscape : c ≠ '\\') (noClose : c ≠ ')') (rest : List Char) :
    closeStyle (c :: rest) =
      (closeStyle rest).map fun (inner, after) => (c :: inner, after) := by
  rw [closeStyle]
  · intro same
    exact absurd same noEscape
  · exact fun _ _ same => absurd same noEscape
  · exact noClose

/-- A text in which every bracket has its counterpart: it closes no block around it. -/
def ClosesNothing (text : List Char) : Prop :=
  ∀ depth rest, closeBracket depth (text ++ rest) =
    (closeBracket depth rest).map fun (inner, after) => (text ++ inner, after)

theorem closesNothing_nil : ClosesNothing [] := by
  intro depth rest
  exact Option.map_id'.symm

theorem ClosesNothing.append {first second : List Char} (closes : ClosesNothing first)
    (next : ClosesNothing second) : ClosesNothing (first ++ second) := by
  intro depth rest
  rw [List.append_assoc, closes, next, Option.map_map]
  simp [Function.comp_def]

theorem ClosesNothing.cons {c : Char} (noEscape : c ≠ '\\') (noOpen : c ≠ '[') (noClose : c ≠ ']')
    {text : List Char} (closes : ClosesNothing text) : ClosesNothing (c :: text) := by
  intro depth rest
  rw [List.cons_append, closeBracket_plain noEscape noOpen noClose, closes, Option.map_map]
  rfl

theorem ClosesNothing.escape (c : Char) {text : List Char} (closes : ClosesNothing text) :
    ClosesNothing ('\\' :: c :: text) := by
  intro depth rest
  rw [List.cons_append, List.cons_append, closeBracket, closes, Option.map_map]
  rfl

/-- The brackets of a block close each other. -/
theorem ClosesNothing.enclosed {inner after : List Char} (closes : ClosesNothing inner)
    (next : ClosesNothing after) : ClosesNothing ('[' :: (inner ++ ']' :: after)) := by
  intro depth rest
  have layout : inner ++ ']' :: after ++ rest = inner ++ (']' :: (after ++ rest)) := by
    simp
  rw [List.cons_append, layout, closeBracket, closes, closeBracket, next depth rest,
    Option.map_map, Option.map_map, Option.map_map]
  simp [Function.comp_def]

theorem PlainText.closesNothing {text : List Char} (plain : PlainText text) :
    ClosesNothing text := by
  induction text with
  | nil => exact closesNothing_nil
  | cons c text inductionHypothesis =>
      obtain ⟨noEscape, noOpen, noClose⟩ := plain c List.mem_cons_self
      exact (inductionHypothesis fun d member => plain d (.tail _ member)).cons noEscape noOpen
        noClose

theorem closesNothing_escapes (text : List Char) :
    ClosesNothing (text.flatMap fun c => ['\\', c]) := by
  induction text with
  | nil => exact closesNothing_nil
  | cons c text inductionHypothesis => exact inductionHypothesis.escape c

/-- No value can be taken for an escape or for a part of a block. -/
def PlainValues (bindings : Bindings) : Prop :=
  ∀ entry ∈ bindings.entries, PlainText entry.2.toText.toList

instance (bindings : Bindings) : Decidable (PlainValues bindings) := List.decidableBAll _ _

theorem PlainValues.lookUp {bindings : Bindings} (plain : PlainValues bindings)
    (name : List Char) : PlainText (bindings.lookUp name) := by
  have bound {key : String} {value : Value} (found : bindings.bound? key = some value) :
      PlainText value.toText.toList := by
    obtain ⟨held, _⟩ := Option.filter_eq_some_iff.mp found
    exact plain (key, value) (OrderedMap.mem_of_find held)
  unfold Bindings.lookUp
  split
  · rename_i value found
    rcases Option.or_eq_some_iff.mp found with found | ⟨_, found⟩
    · exact bound found
    · exact bound found
  · exact fun _ member => (List.not_mem_nil member).elim

theorem StyleText.plain {text : List Char} (style : StyleText text) : PlainText text := by
  intro c member
  obtain ⟨noEscape, noBracket⟩ := style c member
  refine ⟨noEscape, ?_, ?_⟩
  · rintro rfl
    cases noBracket
  · rintro rfl
    cases noBracket

theorem BlockStyle.styleText {style : BlockStyle} (wellFormed : style.WellFormed)
    {base : List Char} (plainBase : StyleText base) : StyleText (style.value base) := by
  cases style with
  | base => exact plainBase
  | words text =>
      intro c member
      obtain ⟨noEscape, _, noBracket⟩ := wellFormed c member
      exact ⟨noEscape, noBracket⟩

section Blocks
variable {bindings : Bindings} {base : List Char}

/-- The brackets of a text that a layout is filled in to are balanced. -/
theorem Layout.closesNothing (plain : PlainValues bindings) (plainBase : StyleText base)
    {layout : Layout} (wellFormed : layout.WellFormed) :
    ClosesNothing (layout.filledIn bindings base) := by
  induction layout with
  | empty => exact closesNothing_nil
  | literal text next inductionHypothesis =>
      exact (closesNothing_escapes text).append (inductionHypothesis wellFormed)
  | reference name next inductionHypothesis =>
      exact (plain.lookUp name).closesNothing.append (inductionHypothesis wellFormed.2)
  | block style content next contentHypothesis nextHypothesis =>
      obtain ⟨styleFormed, contentFormed, nextFormed⟩ := wellFormed
      have closing : ClosesNothing (')' :: next.filledIn bindings base) :=
        (nextHypothesis nextFormed).cons (by decide) (by decide) (by decide)
      have styled := (style.styleText styleFormed plainBase).plain.closesNothing.append closing
      exact (contentHypothesis contentFormed).enclosed
        (styled.cons (by decide) (by decide) (by decide))
  | group content next contentHypothesis nextHypothesis =>
      rw [filledIn]
      refine ClosesNothing.append ?_ (nextHypothesis wellFormed.2)
      split
      · exact contentHypothesis wellFormed.1
      · exact closesNothing_nil

theorem closeStyle_append {text : List Char} (style : StyleText text) (rest : List Char) :
    closeStyle (text ++ ')' :: rest) = some (text, rest) := by
  induction text with
  | nil => rw [List.nil_append, closeStyle]
  | cons c text inductionHypothesis =>
      obtain ⟨noEscape, noBracket⟩ := style c List.mem_cons_self
      have noClose : c ≠ ')' := by
        rintro rfl
        cases noBracket
      rw [List.cons_append, closeStyle_plain noEscape noClose,
        inductionHypothesis fun d member => style d (.tail _ member)]
      rfl

/-- A block is found with its content, its style and what stands behind it. -/
theorem readBlock_append {content style : List Char} (closes : ClosesNothing content)
    (styled : StyleText style) (rest : List Char) :
    readBlock (content ++ ']' :: '(' :: (style ++ ')' :: rest)) =
      some ⟨content, style, rest⟩ := by
  have closed : closeBracket 0 (content ++ ']' :: '(' :: (style ++ ')' :: rest)) =
      some (content, '(' :: (style ++ ')' :: rest)) := by
    rw [closes, closeBracket]
    simp only [Option.map_some, List.append_nil]
  rw [readBlock, closed]
  simp only [closeStyle_append styled, Option.map_some]

end Blocks

section Split
variable (theme : Option Theme) (levels : Nat)

theorem splitRun_escape (c : Char) (rest : List Char) :
    splitRun theme levels ('\\' :: c :: rest) =
      (c :: (splitRun theme levels rest).1, (splitRun theme levels rest).2) := by
  rw [splitRun]

theorem splitRun_plain {c : Char} (noEscape : c ≠ '\\') (noOpen : c ≠ '[') (rest : List Char) :
    splitRun theme levels (c :: rest) =
      (c :: (splitRun theme levels rest).1, (splitRun theme levels rest).2) := by
  rw [splitRun]
  · intro same
    exact absurd same noEscape
  · exact fun _ _ same => absurd same noEscape
  · exact noOpen

/-- A bracket that no block starts with is a character like any other. -/
theorem splitRun_open {rest : List Char} (noBlock : readBlock rest = none) :
    splitRun theme levels ('[' :: rest) =
      ('[' :: (splitRun theme levels rest).1, (splitRun theme levels rest).2) := by
  rw [splitRun]
  split
  · rename_i found
    rw [noBlock] at found
    cases found
  · rfl

theorem splitRun_append_plain {text : List Char} (plain : PlainText text) (rest : List Char) :
    splitRun theme levels (text ++ rest) =
      (text ++ (splitRun theme levels rest).1, (splitRun theme levels rest).2) := by
  induction text with
  | nil => rfl
  | cons c text inductionHypothesis =>
      obtain ⟨noEscape, noOpen, _⟩ := plain c List.mem_cons_self
      rw [List.cons_append, splitRun_plain theme levels noEscape noOpen,
        inductionHypothesis fun d member => plain d (.tail _ member)]
      rfl

theorem splitRun_escapes (text rest : List Char) :
    splitRun theme levels (text.flatMap (fun c => ['\\', c]) ++ rest) =
      (text ++ (splitRun theme levels rest).1, (splitRun theme levels rest).2) := by
  induction text with
  | nil => rfl
  | cons c text inductionHypothesis =>
      change splitRun theme levels ('\\' :: c ::
        (text.flatMap (fun c => ['\\', c]) ++ rest)) = _
      rw [splitRun_escape, inductionHypothesis]
      rfl

/-- The segments of what lies in a block of a text whose blocks may lie `levels` deep. -/
def contentSegments : Nat → List Char → List Segment
  | 0, content => flush content []
  | levels + 1, content => segments theme levels content

theorem splitRun_block {rest : List Char} {block : Block} (found : readBlock rest = some block) :
    splitRun theme levels ('[' :: rest) =
      ([], (contentSegments theme levels block.content).map
          (Segment.onto (Style.parse theme (String.ofList block.style))) ++
        flush (splitRun theme levels block.after).1 (splitRun theme levels block.after).2) := by
  rw [splitRun]
  split
  · rename_i block' found'
    rw [found] at found'
    cases found'
    cases levels <;> rfl
  · rename_i missing
    rw [found] at missing
    cases missing

end Split

/-- The text that a layout is filled in to splits into the parts that the layout comes to, whatever
stands behind it. -/
theorem Layout.splitRun_filledIn {bindings : Bindings} {base : List Char} (theme : Option Theme)
    (plain : PlainValues bindings) (plainBase : StyleText base) {layout : Layout}
    (wellFormed : layout.WellFormed) {levels : Nat} (shallow : layout.nesting ≤ levels)
    (rest : List Char) :
    splitRun theme levels (layout.filledIn bindings base ++ rest) =
      prepend (layout.parts bindings base theme) (splitRun theme levels rest) := by
  induction layout generalizing levels rest with
  | empty => rfl
  | literal text next inductionHypothesis =>
      rw [filledIn, List.append_assoc, splitRun_escapes,
        inductionHypothesis wellFormed shallow, parts, prepend]
  | reference name next inductionHypothesis =>
      rw [filledIn, List.append_assoc, splitRun_append_plain theme levels (plain.lookUp name),
        inductionHypothesis wellFormed.2 shallow, parts, prepend]
  | block style content next contentHypothesis nextHypothesis =>
      obtain ⟨styleFormed, contentFormed, nextFormed⟩ := wellFormed
      obtain ⟨contentShallow, nextShallow⟩ := Nat.max_le.mp shallow
      obtain ⟨inner, rfl⟩ : ∃ inner, levels = inner + 1 :=
        Nat.exists_eq_add_one_of_ne_zero (by omega)
      have layout : (block style content next).filledIn bindings base ++ rest =
          '[' :: (content.filledIn bindings base ++ ']' :: '(' ::
            (style.value base ++ ')' :: (next.filledIn bindings base ++ rest))) := by
        simp [filledIn]
      have found := readBlock_append (content.closesNothing plain plainBase contentFormed)
        (style.styleText styleFormed plainBase) (next.filledIn bindings base ++ rest)
      have contents : contentSegments theme (inner + 1) (content.filledIn bindings base) =
          collect (content.parts bindings base theme) := by
        have split := contentHypothesis contentFormed (Nat.le_of_succ_le_succ contentShallow) []
        rw [List.append_nil] at split
        rw [contentSegments, segments, split, splitRun, collect]
      rw [layout, splitRun_block theme (inner + 1) found]
      simp only [contents, nextHypothesis nextFormed nextShallow]
      rw [parts, prepend]
  | group content next contentHypothesis nextHypothesis =>
      obtain ⟨contentShallow, nextShallow⟩ := Nat.max_le.mp shallow
      rw [filledIn, parts, List.append_assoc]
      split
      · rw [contentHypothesis wellFormed.1 contentShallow,
          nextHypothesis wellFormed.2 nextShallow, prepend_append]
      · exact nextHypothesis wellFormed.2 nextShallow rest

/-- Rendering the printed form of a layout gives the segments that the layout stands for. -/
theorem render_print {layout : Layout} (wellFormed : layout.WellFormed)
    (shallow : layout.nesting ≤ maxDepth) {bindings : Bindings} (plain : PlainValues bindings)
    {style : String} (plainStyle : StyleText style.toList) (theme : Option Theme) :
    render (String.ofList layout.print) bindings style theme =
      layout.evaluate bindings style.toList theme := by
  have split := layout.splitRun_filledIn theme plain plainStyle wellFormed shallow []
  rw [List.append_nil] at split
  rw [render, String.toList_ofList]
  simp only [resolveGroups_scan_print bindings wellFormed,
    layout.substituteTokens bindings style.toList wellFormed]
  rw [segments, split, splitRun, Layout.evaluate, collect]

theorem render_print_branch :
    render "([$branch]($style)\\!)" (.ofList [("branch", .text "main")]) "bold" none =
      [⟨"main", { bold := some true }⟩, ⟨"!", {}⟩] := by
  have wellFormed : (Layout.group (.block .base (.reference ['b', 'r', 'a', 'n', 'c', 'h'] .empty)
      (.literal ['!'] .empty)) .empty).WellFormed :=
    ⟨⟨trivial, ⟨⟨by decide, List.all_eq_true.mp (by decide), by decide⟩, trivial⟩, trivial⟩,
      trivial⟩
  have plain : PlainValues (.ofList [("branch", .text "main")]) := by decide
  have plainStyle : StyleText "bold".toList := by decide
  have rendered := render_print wellFormed (by decide) plain plainStyle none
  have printed : String.ofList (Layout.group
      (.block .base (.reference ['b', 'r', 'a', 'n', 'c', 'h'] .empty)
        (.literal ['!'] .empty)) .empty).print = "([$branch]($style)\\!)" := by
    decide
  rw [printed] at rendered
  rw [rendered]
  decide

end ShellPrompt.Template
