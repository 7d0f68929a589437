import ShellPrompt.Proofs.Template.Layout

/-!
Resolving the groups of a printed layout. The printed form has the tokens of the layout; the
parentheses in them are balanced, so that each group ends where it was meant to; and what is left
are the tokens of the layout without its groups' parentheses and without the groups that are not
shown.
-/

namespace ShellPrompt.Template

namespace Layout

/-- The tokens of the printed form. -/
def tokens : Layout → List Token
  | empty => []
  | literal text rest => text.map (fun c => .escape (some c)) ++ rest.tokens
  | reference name rest => .reference name :: rest.tokens
  | block style content rest =>
      .plain '[' :: (content.tokens ++
        .plain ']' :: .plain '(' :: (style.tokens ++ .plain ')' :: rest.tokens))
  | group content rest => .plain '(' :: (content.tokens ++ .plain ')' :: rest.tokens)

/-- The tokens that are left once the groups are resolved. -/
def kept (bindings : Bindings) : Layout → List Token
  | empty => []
  | literal text rest => text.map (fun c => .escape (some c)) ++ rest.kept bindings
  | reference name rest => .reference name :: rest.kept bindings
  | block style content rest =>
      .plain '[' :: (content.kept bindings ++
        .plain ']' :: .plain '(' :: (style.tokens ++ .plain ')' :: rest.kept bindings))
  | group content rest =>
      (if content.shown bindings then content.kept bindings else []) ++ rest.kept bindings

end Layout

theorem startsApart_cons {c : Char} (apart : isNameChar c = false) (rest : List Char) :
    StartsApart (c :: rest) := by
  intro d first
  cases first
  exact apart

theorem Layout.startsApart (layout : Layout) {rest : List Char} (apart : StartsApart rest) :
    StartsApart (layout.print ++ rest) := by
  induction layout with
  | empty => exact apart
  | literal text next inductionHypothesis =>
      cases text with
      | nil => exact inductionHypothesis
      | cons c text => exact startsApart_cons rfl _
  | reference name next => exact startsApart_cons rfl _
  | block style content next => exact startsApart_cons rfl _
  | group content next => exact startsApart_cons rfl _

theorem scan_escapes (text rest : List Char) :
    scan (text.flatMap (fun c => ['\\', c]) ++ rest) =
      text.map (fun c => .escape (some c)) ++ scan rest := by
  induction text with
  | nil => rfl
  | cons c text inductionHypothesis =>
      change scan ('\\' :: c :: (text.flatMap (fun c => ['\\', c]) ++ rest)) = _
      rw [scan, inductionHypothesis]
      rfl

theorem BlockStyle.scan_print {style : BlockStyle} (wellFormed : style.WellFormed)
    {rest : List Char} (apart : StartsApart rest) :
    scan (style.print ++ rest) = style.tokens ++ scan rest := by
  cases style with
  | base =>
      have plain : ∀ c ∈ styleName, isNameChar c = true := List.all_eq_true.mp (by decide)
      exact scan_reference (by decide) plain apart
  | words text =>
      apply scan_append_plain
      intro c member
      obtain ⟨noEscape, noDollar, _⟩ := wellFormed c member
      exact ⟨noEscape, noDollar⟩

/-- A printed layout is read token by token, whatever stands behind it. -/
theorem Layout.scan_print {layout : Layout} (wellFormed : layout.WellFormed) {rest : List Char}
    (apart : StartsApart rest) : scan (layout.print ++ rest) = layout.tokens ++ scan rest := by
  induction layout generalizing rest with
  | empty => rfl
  | literal text next inductionHypothesis =>
      rw [print, List.append_assoc, scan_escapes, inductionHypothesis wellFormed apart, tokens,
        List.append_assoc]
  | reference name next inductionHypothesis =>
      obtain ⟨⟨filled, plain, _⟩, wellFormed⟩ := wellFormed
      rw [print, List.cons_append, List.append_assoc,
        scan_reference filled plain (next.startsApart apart),
        inductionHypothesis wellFormed apart]
      rfl
  | block style content next contentHypothesis nextHypothesis =>
      obtain ⟨styleFormed, contentFormed, nextFormed⟩ := wellFormed
      have layout : (block style content next).print ++ rest =
          '[' :: (content.print ++
            ']' :: '(' :: (style.print ++ ')' :: (next.print ++ rest))) := by
        simp [print]
      have closing : StartsApart (')' :: (next.print ++ rest)) := startsApart_cons rfl _
      have behind : StartsApart (']' :: '(' :: (style.print ++ ')' :: (next.print ++ rest))) :=
        startsApart_cons rfl _
      rw [layout, scan_plain (by decide) (by decide), contentHypothesis contentFormed behind,
        scan_plain (by decide) (by decide), scan_plain (by decide) (by decide),
        style.scan_print styleFormed closing, scan_plain (by decide) (by decide),
        nextHypothesis nextFormed apart]
      simp [tokens]
  | group content next contentHypothesis nextHypothesis =>
      obtain ⟨contentFormed, nextFormed⟩ := wellFormed
      have layout : (group content next).print ++ rest =
          '(' :: (content.print ++ ')' :: (next.print ++ rest)) := by
        simp [print]
      have closing : StartsApart (')' :: (next.print ++ rest)) := startsApart_cons rfl _
      rw [layout, scan_plain (by decide) (by decide), contentHypothesis contentFormed closing,
        scan_plain (by decide) (by decide), nextHypothesis nextFormed apart]
      simp [tokens]

section CloseGroup
variable (depth : Nat) (rest : List Token)

theorem closeGroup_open : closeGroup depth (.plain '(' :: rest) =
    (closeGroup (depth + 1) rest).map fun (inner, after) => (.plain '(' :: inner, after) := by
  simp only [closeGroup, if_true]

theorem closeGroup_close_zero : closeGroup 0 (.plain ')' :: rest) = some ([], rest) := by
  simp [closeGroup]

theorem closeGroup_close_succ : closeGroup (depth + 1) (.plain ')' :: rest) =
    (closeGroup depth rest).map fun (inner, after) => (.plain ')' :: inner, after) := by
  simp [closeGroup]

theorem closeGroup_other {token : Token} (noOpen : token ≠ .plain '(')
    (noClose : token ≠ .plain ')') : closeGroup depth (token :: rest) =
      (closeGroup depth rest).map fun (inner, after) => (token :: inner, after) := by
  simp only [closeGroup, if_neg noOpen, if_neg noClose]

end CloseGroup

/-- Tokens in which every parenthesis has its counterpart: they close no group around them. -/
def Balanced (tokens : List Token) : Prop :=
  ∀ depth rest, closeGroup depth (tokens ++ rest) =
    (closeGroup depth rest).map fun (inner, after) => (tokens ++ inner, after)

theorem balanced_nil : Balanced [] := by
  intro depth rest
  exact Option.map_id'.symm

theorem Balanced.append {first second : List Token} (balanced : Balanced first)
    (next : Balanced second) : Balanced (first ++ second) := by
  intro depth rest
  rw [List.append_assoc, balanced, next, Option.map_map]
  simp [Function.comp_def]

theorem Balanced.cons {token : Token} (noOpen : token ≠ .plain '(') (noClose : token ≠ .plain ')')
    {tokens : List Token} (balanced : Balanced tokens) : Balanced (token :: tokens) := by
  intro depth rest
  rw [List.cons_append, closeGroup_other depth _ noOpen noClose, balanced depth rest,
    Option.map_map]
  rfl

/-- The parentheses of a group or of a style close each other. -/
theorem Balanced.enclosed {inner after : List Token} (balanced : Balanced inner)
    (next : Balanced after) : Balanced (.plain '(' :: (inner ++ .plain ')' :: after)) := by
  intro depth rest
  have layout : inner ++ .plain ')' :: after ++ rest =
      inner ++ (.plain ')' :: (after ++ rest)) := by
    simp
  rw [List.cons_append, layout, closeGroup_open, balanced, closeGroup_close_succ,
    next depth rest, Option.map_map, Option.map_map, Option.map_map]
  simp [Function.comp_def]

theorem plain_ne {c bracket : Char} (noBracket : isBracket c = false)
    (isBracket : isBracket bracket = true) : Token.plain c ≠ .plain bracket := by
  rintro same
  cases same
  rw [noBracket] at isBracket
  cases isBracket

theorem BlockStyle.balanced {style : BlockStyle} (wellFormed : style.WellFormed) :
    Balanced style.tokens := by
  cases style with
  | base => exact balanced_nil.cons (by decide) (by decide)
  | words text =>
      rw [tokens]
      induction text with
      | nil => exact balanced_nil
      | cons c text inductionHypothesis =>
          have noBracket := (wellFormed c List.mem_cons_self).2.2
          have later := inductionHypothesis fun d member => wellFormed d (.tail _ member)
          exact later.cons (plain_ne noBracket rfl) (plain_ne noBracket rfl)

theorem Layout.balanced {layout : Layout} (wellFormed : layout.WellFormed) :
    Balanced layout.tokens := by
  induction layout with
  | empty => exact balanced_nil
  | literal text next inductionHypothesis =>
      have escapes : Balanced (text.map fun c => .escape (some c)) := by
        clear wellFormed
        induction text with
        | nil => exact balanced_nil
        | cons c text textHypothesis => exact textHypothesis.cons (by simp) (by simp)
      exact escapes.append (inductionHypothesis wellFormed)
  | reference name next inductionHypothesis =>
      exact (inductionHypothesis wellFormed.2).cons (by simp) (by simp)
  | block style content next contentHypothesis nextHypothesis =>
      obtain ⟨styleFormed, contentFormed, nextFormed⟩ := wellFormed
      have enclosed := (style.balanced styleFormed).enclosed (nextHypothesis nextFormed)
      have closing : Balanced (.plain ']' :: .plain '(' ::
          (style.tokens ++ .plain ')' :: next.tokens)) :=
        enclosed.cons (by decide) (by decide)
      exact ((contentHypothesis contentFormed).append closing).cons (by decide) (by decide)
  | group content next contentHypothesis nextHypothesis =>
      exact (contentHypothesis wellFormed.1).enclosed (nextHypothesis wellFormed.2)

/-- The group that the printed form of a layout makes in parentheses ends where the layout does. -/
theorem closeGroup_tokens {layout : Layout} (wellFormed : layout.WellFormed)
    (after : List Token) :
    closeGroup 0 (layout.tokens ++ .plain ')' :: after) = some (layout.tokens, after) := by
  rw [layout.balanced wellFormed, closeGroup_close_zero]
  simp only [Option.map_some, List.append_nil]

section Resolve
variable (bindings : Bindings)

theorem resolveGroups_other {token : Token} (noOpen : token ≠ .plain '(') (behindBracket : Bool)
    (rest : List Token) : resolveGroups bindings behindBracket (token :: rest) =
      token :: resolveGroups bindings (token = .plain ']') rest := by
  rw [resolveGroups, if_neg]
  exact fun opens => noOpen opens.1

/-- The parenthesis behind a closing bracket opens no group. -/
theorem resolveGroups_style (rest : List Token) :
    resolveGroups bindings true (.plain '(' :: rest) =
      .plain '(' :: resolveGroups bindings false rest := by
  rw [resolveGroups, if_neg (by simp)]
  rfl

theorem resolveGroups_group {rest inner after : List Token}
    (closed : closeGroup 0 rest = some (inner, after)) :
    resolveGroups bindings false (.plain '(' :: rest) =
      (if isVisible bindings inner then resolveGroups bindings false inner else []) ++
        resolveGroups bindings false after := by
  rw [resolveGroups, if_pos ⟨rfl, rfl⟩]
  split
  · rename_i inner' after' closed'
    rw [closed] at closed'
    cases closed'
    rfl
  · rename_i unclosed
    rw [closed] at unclosed
    cases unclosed

/-- Tokens of which exactly some others are left, whatever stands behind them. -/
def Resolves (tokens left : List Token) : Prop :=
  ∀ rest, resolveGroups bindings false (tokens ++ rest) =
    left ++ resolveGroups bindings false rest

variable {bindings}

theorem Resolves.resolveGroups_eq {tokens left : List Token}
    (resolves : Resolves bindings tokens left) : resolveGroups bindings false tokens = left := by
  have alone := resolves []
  rwa [List.append_nil, resolveGroups, List.append_nil] at alone

theorem resolves_nil : Resolves bindings [] [] := fun _ => rfl

theorem Resolves.append {first second left right : List Token}
    (resolves : Resolves bindings first left) (next : Resolves bindings second right) :
    Resolves bindings (first ++ second) (left ++ right) := by
  intro rest
  rw [List.append_assoc, resolves, next, List.append_assoc]

theorem Resolves.cons {token : Token} (noOpen : token ≠ .plain '(')
    (noBracket : token ≠ .plain ']') {tokens left : List Token}
    (resolves : Resolves bindings tokens left) :
    Resolves bindings (token :: tokens) (token :: left) := by
  intro rest
  rw [List.cons_append, resolveGroups_other bindings noOpen, decide_eq_false noBracket, resolves,
    List.cons_append]

/-- The parentheses of a style stay. -/
theorem Resolves.style {tokens left : List Token} (resolves : Resolves bindings tokens left) :
    Resolves bindings (.plain ']' :: .plain '(' :: tokens) (.plain ']' :: .plain '(' :: left) := by
  intro rest
  rw [List.cons_append, List.cons_append, resolveGroups_other bindings (by decide),
    decide_eq_true rfl, resolveGroups_style, resolves]
  rfl

theorem BlockStyle.resolves {style : BlockStyle} (wellFormed : style.WellFormed) :
    Resolves bindings style.tokens style.tokens := by
  cases style with
  | base => exact resolves_nil.cons (by decide) (by decide)
  | words text =>
      rw [tokens]
      induction text with
      | nil => exact resolves_nil
      | cons c text inductionHypothesis =>
          have noBracket := (wellFormed c List.mem_cons_self).2.2
          have later := inductionHypothesis fun d member => wellFormed d (.tail _ member)
          exact later.cons (plain_ne noBracket rfl) (plain_ne noBracket rfl)

theorem names_append (first second : List Token) :
    names (first ++ second) = names first ++ names second := List.filterMap_append

theorem names_plain (text : List Char) : names (text.map Token.plain) = [] := by
  rw [names, List.filterMap_map]
  exact List.filterMap_eq_nil_iff.mpr fun _ _ => rfl

theorem names_escapes (text : List Char) :
    names (text.map fun c => Token.escape (some c)) = [] := by
  rw [names, List.filterMap_map]
  exact List.filterMap_eq_nil_iff.mpr fun _ _ => rfl

theorem BlockStyle.names_tokens (style : BlockStyle) :
    Template.names style.tokens = style.names := by
  cases style with
  | base => rfl
  | words text => exact names_plain text

/-- The tokens of a layout refer to the names that the layout refers to. -/
theorem Layout.names_tokens (layout : Layout) : Template.names layout.tokens = layout.names := by
  have plain (c : Char) (rest : List Token) :
      Template.names (.plain c :: rest) = Template.names rest := rfl
  induction layout with
  | empty => rfl
  | literal text next inductionHypothesis =>
      rw [tokens, names_append, names_escapes, inductionHypothesis]
      rfl
  | reference name next inductionHypothesis =>
      exact congrArg (name :: ·) inductionHypothesis
  | block style content next contentHypothesis nextHypothesis =>
      rw [tokens, plain, names_append, plain, plain, names_append, plain, contentHypothesis,
        style.names_tokens, nextHypothesis, names]
  | group content next contentHypothesis nextHypothesis =>
      rw [tokens, plain, names_append, plain, contentHypothesis, nextHypothesis, names]

theorem isVisible_tokens (content : Layout) :
    isVisible bindings content.tokens = content.shown bindings := by
  rw [isVisible, content.names_tokens, Layout.shown]

/-- Of the tokens of a layout those are left that its meaning counts. -/
theorem Layout.resolves {layout : Layout} (wellFormed : layout.WellFormed) :
    Resolves bindings layout.tokens (layout.kept bindings) := by
  induction layout with
  | empty => exact resolves_nil
  | literal text next inductionHypothesis =>
      have escapes : Resolves bindings (text.map fun c => .escape (some c))
          (text.map fun c => .escape (some c)) := by
        clear wellFormed
        induction text with
        | nil => exact resolves_nil
        | cons c text textHypothesis => exact textHypothesis.cons (by simp) (by simp)
      exact escapes.append (inductionHypothesis wellFormed)
  | reference name next inductionHypothesis =>
      exact (inductionHypothesis wellFormed.2).cons (by simp) (by simp)
  | block style content next contentHypothesis nextHypothesis =>
      obtain ⟨styleFormed, contentFormed, nextFormed⟩ := wellFormed
      have closing : Resolves bindings (.plain ')' :: next.tokens)
          (.plain ')' :: next.kept bindings) :=
        (nextHypothesis nextFormed).cons (by decide) (by decide)
      have styled := ((style.resolves styleFormed).append closing).style
      exact ((contentHypothesis contentFormed).append styled).cons (by decide) (by decide)
  | group content next contentHypothesis nextHypothesis =>
      intro rest
      have layout : (group content next).tokens ++ rest =
          .plain '(' :: (content.tokens ++ .plain ')' :: (next.tokens ++ rest)) := by
        simp [tokens]
      rw [layout, resolveGroups_group bindings (closeGroup_tokens wellFormed.1 _),
        (contentHypothesis wellFormed.1).resolveGroups_eq, nextHypothesis wellFormed.2,
        isVisible_tokens, kept, List.append_assoc]

end Resolve

/-- The tokens that are left of a printed layout once its groups are resolved. -/
theorem resolveGroups_scan_print (bindings : Bindings) {layout : Layout}
    (wellFormed : layout.WellFormed) :
    resolveGroups bindings false (scan layout.print) = layout.kept bindings := by
  have tokens := layout.scan_print wellFormed startsApart_nil
  rw [List.append_nil, scan, List.append_nil] at tokens
  rw [tokens, (layout.resolves wellFormed).resolveGroups_eq]

end ShellPrompt.Template
