import ShellPrompt.Proofs.Template.Rescanning

/-!
Templates without groups. Resolving the groups of a template leaves none: whatever parenthesis is
left opens a style, or stays open up to the end as it did before. The text that is left may be
scanned into longer names, but names hold no parentheses, so there are no groups in it either and
resolving it again changes nothing.
-/

namespace ShellPrompt.Template

section Depth

/-- The depth falls nowhere below a bound. -/
def StaysAbove (bound : Int) (tokens : List Token) : Prop :=
  ∀ position, bound ≤ depthAt tokens position

theorem StaysAbove.nonpos {bound : Int} {tokens : List Token} (above : StaysAbove bound tokens) :
    bound ≤ 0 := by
  have start := above 0
  rwa [depthAt_zero] at start

theorem depthAt_append_length (first second : List Token) :
    depthAt (first ++ second) (first ++ second).length =
      depthAt first first.length + depthAt second second.length := by
  rw [List.length_append, depthAt_append_right]

theorem staysAbove_append_iff {bound : Int} {first second : List Token} :
    StaysAbove bound (first ++ second) ↔
      StaysAbove bound first ∧ StaysAbove (bound - depthAt first first.length) second := by
  constructor
  · intro above
    constructor
    · intro position
      rcases Nat.le_total position first.length with inside | behind
      · rw [← depthAt_append_left second inside]
        exact above position
      · have whole : depthAt first position = depthAt first first.length := by
          rw [depthAt, List.take_of_length_le behind, depthAt, List.take_length]
        rw [whole, ← depthAt_append_left second (Nat.le_refl _)]
        exact above first.length
    · intro position
      have here := above (first.length + position)
      rw [depthAt_append_right] at here
      omega
  · rintro ⟨aboveFirst, aboveSecond⟩ position
    rcases Nat.le_total position first.length with inside | behind
    · rw [depthAt_append_left second inside]
      exact aboveFirst position
    · obtain ⟨offset, rfl⟩ := Nat.exists_eq_add_of_le behind
      have here := aboveSecond offset
      rw [depthAt_append_right]
      omega

/-- Nothing closes the groups that are open exactly if the depth never falls below them. -/
theorem closeGroup_eq_none_iff {depth : Nat} {tokens : List Token} :
    closeGroup depth tokens = none ↔ StaysAbove (-depth) tokens := by
  constructor
  · exact depthAt_of_closeGroup_eq_none
  · intro above
    cases closed : closeGroup depth tokens with
    | none => rfl
    | some parts =>
        obtain ⟨inner, after⟩ := parts
        obtain ⟨_, total⟩ := depthAt_of_closeGroup closed
        have here := above (inner.length + 1)
        rw [eq_append_of_closeGroup closed, depthAt_append_right, depthAt_close,
          depthAt_zero] at here
        omega

/-- A token that neither makes a group nor keeps one from being made. -/
def Token.Inert (token : Token) : Prop :=
  token ≠ .plain '(' ∧ token ≠ .plain ')' ∧ token ≠ .plain ']'

theorem depthAt_of_inert {tokens : List Token} (inert : ∀ token ∈ tokens, token.Inert)
    (position : Nat) : depthAt tokens position = 0 := by
  have noOpen : (tokens.take position).count (.plain '(') = 0 := by
    rw [List.count_eq_zero]
    exact fun member => (inert _ (List.mem_of_mem_take member)).1 rfl
  have noClose : (tokens.take position).count (.plain ')') = 0 := by
    rw [List.count_eq_zero]
    exact fun member => (inert _ (List.mem_of_mem_take member)).2.1 rfl
  rw [depthAt, noOpen, noClose]
  rfl

/-- Tokens that may stand in the place of others: they come to the same depth and fall no lower on
the way. -/
structure KeepsDepth (tokens other : List Token) : Prop where
  total : depthAt other other.length = depthAt tokens tokens.length
  above : ∀ bound, StaysAbove bound tokens → StaysAbove bound other

theorem KeepsDepth.refl (tokens : List Token) : KeepsDepth tokens tokens :=
  ⟨rfl, fun _ above => above⟩

theorem KeepsDepth.append {first second other next : List Token} (keeps : KeepsDepth first other)
    (keepsNext : KeepsDepth second next) : KeepsDepth (first ++ second) (other ++ next) := by
  constructor
  · rw [depthAt_append_length, depthAt_append_length, keeps.total, keepsNext.total]
  · intro bound above
    obtain ⟨aboveFirst, aboveSecond⟩ := staysAbove_append_iff.mp above
    refine staysAbove_append_iff.mpr ⟨keeps.above bound aboveFirst, ?_⟩
    rw [keeps.total]
    exact keepsNext.above _ aboveSecond

theorem KeepsDepth.closeGroup_eq_none {tokens other : List Token} (keeps : KeepsDepth tokens other)
    {depth : Nat} (unclosed : closeGroup depth tokens = none) : closeGroup depth other = none :=
  closeGroup_eq_none_iff.mpr (keeps.above _ (closeGroup_eq_none_iff.mp unclosed))

/-- Tokens that do not fall below their start may stand for others that come to the same depth. -/
theorem keepsDepth_of_staysAbove {tokens other : List Token} (above : StaysAbove 0 other)
    (total : depthAt other other.length = depthAt tokens tokens.length) :
    KeepsDepth tokens other :=
  ⟨total, fun _ bounded position => Int.le_trans bounded.nonpos (above position)⟩

theorem keepsDepth_of_inert {tokens other : List Token} (inert : ∀ token ∈ tokens, token.Inert)
    (inertOther : ∀ token ∈ other, token.Inert) : KeepsDepth tokens other := by
  apply keepsDepth_of_staysAbove
  · exact fun position => Int.le_of_eq (depthAt_of_inert inertOther position).symm
  · rw [depthAt_of_inert inert, depthAt_of_inert inertOther]

/-- Resolving groups keeps the depth: a group with its parentheses comes to nothing, and so do the
tokens inside it. -/
theorem keepsDepth_resolveGroups (bindings : Bindings) (behindBracket : Bool)
    (tokens : List Token) : KeepsDepth tokens (resolveGroups bindings behindBracket tokens) := by
  induction behindBracket, tokens using resolveGroups.induct with
  | case1 behindBracket =>
      rw [resolveGroups]
      exact KeepsDepth.refl []
  | case2 behindBracket token rest opens inner after closed innerHypothesis afterHypothesis =>
      obtain ⟨rfl, rfl⟩ := opens
      obtain ⟨above, total⟩ := depthAt_of_closeGroup closed
      have enclosed : depthAt (.plain '(' :: (inner ++ [.plain ')']))
          (Token.plain '(' :: (inner ++ [.plain ')'])).length = 0 := by
        rw [List.length_cons, depthAt_open, depthAt_append_length, total]
        rfl
      rw [resolveGroups_group bindings closed, open_cons_eq closed]
      refine KeepsDepth.append ?_ afterHypothesis
      split
      · refine keepsDepth_of_staysAbove (innerHypothesis.above 0 above) ?_
        rw [innerHypothesis.total, total, enclosed]
        rfl
      · refine keepsDepth_of_staysAbove (fun position => by simp [depthAt]) ?_
        rw [enclosed]
        rfl
  | case3 behindBracket token rest opens unclosed inductionHypothesis =>
      obtain ⟨rfl, rfl⟩ := opens
      rw [resolveGroups_unclosed bindings unclosed]
      exact (KeepsDepth.refl [.plain '(']).append inductionHypothesis
  | case4 behindBracket token rest opensNothing inductionHypothesis =>
      rw [resolveGroups, if_neg opensNothing]
      exact (KeepsDepth.refl [token]).append inductionHypothesis

end Depth

section GroupFree

/-- No parenthesis opens a group. -/
def GroupFree (behindBracket : Bool) (tokens : List Token) : Prop :=
  ∀ start finish, ¬ IsGroup behindBracket tokens start finish

theorem groupFree_nil (behindBracket : Bool) : GroupFree behindBracket [] := by
  intro start finish group
  exact absurd group.closes.within (Nat.not_lt_zero _)

/-- Where no bracket stands in front, there are no fewer groups. -/
theorem IsGroup.behindNothing {behindBracket : Bool} {tokens : List Token} {start finish : Nat}
    (group : IsGroup behindBracket tokens start finish) : IsGroup false tokens start finish := by
  refine ⟨group.opens, ?_, group.closes⟩
  cases start with
  | zero => rfl
  | succ start => exact group.noStyle

theorem groupFree_cons_iff {behindBracket : Bool} {token : Token} {rest : List Token} :
    GroupFree behindBracket (token :: rest) ↔
      (token = .plain '(' → behindBracket = false → closeGroup 0 rest = none) ∧
        GroupFree (token = .plain ']') rest := by
  have follows : followsBracket behindBracket [token] 1 = decide (token = .plain ']') := by
    simp [followsBracket]
  have behind (start finish : Nat) :
      IsGroup behindBracket (token :: rest) (1 + start) (1 + finish) ↔
        IsGroup (token = .plain ']') rest start finish := by
    rw [← follows]
    exact isGroup_append_right [token] rest
  constructor
  · intro free
    refine ⟨?_, fun start finish group => free _ _ ((behind start finish).mpr group)⟩
    rintro rfl rfl
    cases closed : closeGroup 0 rest with
    | none => rfl
    | some parts => exact absurd (isGroup_outer closed) (free 0 _)
  · rintro ⟨unclosed, free⟩ start finish group
    cases start with
    | zero =>
        have opens : token = .plain '(' := Option.some.inj group.opens
        have none := unclosed opens group.noStyle
        subst opens
        exact not_closes_of_closeGroup_eq_none none finish group.closes
    | succ start =>
        obtain ⟨last, rfl⟩ : ∃ last, finish = 1 + last :=
          Nat.exists_eq_add_of_le (Nat.one_le_of_lt group.closes.behind)
        rw [Nat.add_comm start] at group
        exact free start last ((behind start last).mp group)

/-- Tokens that end at their lowest depth leave nothing open to those behind them. -/
theorem GroupFree.append {behindBracket : Bool} {first second : List Token}
    (free : GroupFree behindBracket first)
    (lowest : StaysAbove (depthAt first first.length) first) (next : GroupFree false second) :
    GroupFree behindBracket (first ++ second) := by
  intro start finish group
  rcases Nat.lt_or_ge start first.length with inside | behind
  · have opens := group.opens
    rw [List.getElem?_append_left inside] at opens
    obtain ⟨last, closes, within⟩ := exists_closes opens inside (Nat.le_refl _) (lowest start)
    obtain rfl := group.closes.unique ((closes_append_left second within).mpr closes)
    exact free start finish ((isGroup_append_left second within).mp group)
  · have later := group.closes.behind
    obtain ⟨offset, rfl⟩ := Nat.exists_eq_add_of_le behind
    obtain ⟨last, rfl⟩ : ∃ last, finish = first.length + last :=
      Nat.exists_eq_add_of_le (by omega)
    exact next offset last ((isGroup_append_right first second).mp group).behindNothing

theorem groupFree_inert_append_iff {behindBracket : Bool} {first second : List Token}
    (filled : first ≠ []) (inert : ∀ token ∈ first, token.Inert) :
    GroupFree behindBracket (first ++ second) ↔ GroupFree false second := by
  induction first generalizing behindBracket with
  | nil => exact absurd rfl filled
  | cons token first inductionHypothesis =>
      obtain ⟨⟨noOpen, _, noBracket⟩, inertRest⟩ := List.forall_mem_cons.mp inert
      rw [List.cons_append, groupFree_cons_iff, decide_eq_false noBracket,
        and_iff_right fun opens => absurd opens noOpen]
      cases first with
      | nil => exact Iff.rfl
      | cons next first => exact inductionHypothesis (List.cons_ne_nil _ _) inertRest

variable {bindings : Bindings} {behindBracket : Bool}

theorem GroupFree.resolveGroups_eq {tokens : List Token} (free : GroupFree behindBracket tokens) :
    resolveGroups bindings behindBracket tokens = tokens := by
  induction tokens generalizing behindBracket with
  | nil => rw [resolveGroups]
  | cons token rest inductionHypothesis =>
      obtain ⟨unclosed, freeRest⟩ := groupFree_cons_iff.mp free
      have later := inductionHypothesis freeRest
      by_cases opens : token = .plain '(' ∧ behindBracket = false
      · obtain ⟨rfl, rfl⟩ := opens
        rw [resolveGroups_unclosed bindings (unclosed rfl rfl)]
        exact congrArg (.plain '(' :: ·) later
      · rw [resolveGroups, if_neg opens, later]

/-- Nothing that is left of a template is a group. -/
theorem groupFree_resolveGroups (bindings : Bindings) (behindBracket : Bool)
    (tokens : List Token) :
    GroupFree behindBracket (resolveGroups bindings behindBracket tokens) := by
  induction behindBracket, tokens using resolveGroups.induct with
  | case1 behindBracket =>
      rw [resolveGroups]
      exact groupFree_nil behindBracket
  | case2 behindBracket token rest opens inner after closed innerHypothesis afterHypothesis =>
      obtain ⟨rfl, rfl⟩ := opens
      rw [resolveGroups_group bindings closed]
      split
      · -- The tokens inside a group close all they open, and so do those that are left of them.
        obtain ⟨above, total⟩ := depthAt_of_closeGroup closed
        have keeps := keepsDepth_resolveGroups bindings false inner
        refine innerHypothesis.append ?_ afterHypothesis
        rw [keeps.total, total]
        exact keeps.above 0 above
      · exact afterHypothesis
  | case3 behindBracket token rest opens unclosed inductionHypothesis =>
      obtain ⟨rfl, rfl⟩ := opens
      rw [resolveGroups_unclosed bindings unclosed]
      have keeps := keepsDepth_resolveGroups bindings false rest
      exact groupFree_cons_iff.mpr ⟨fun _ _ => keeps.closeGroup_eq_none unclosed,
        inductionHypothesis⟩
  | case4 behindBracket token rest opensNothing inductionHypothesis =>
      rw [resolveGroups, if_neg opensNothing]
      exact groupFree_cons_iff.mpr ⟨fun opens noStyle => absurd ⟨opens, noStyle⟩ opensNothing,
        inductionHypothesis⟩

end GroupFree

section Spelled

/-- A reference as the characters it is written with. -/
def Token.spelled : Token → List Token
  | .reference name => .plain '$' :: name.map .plain
  | token => [token]

/-- The tokens of a text in which references are not told from other characters. -/
def spelled (tokens : List Token) : List Token := tokens.flatMap Token.spelled

theorem spelled_cons (token : Token) (rest : List Token) :
    spelled (token :: rest) = token.spelled ++ spelled rest := rfl

theorem spelled_append (first second : List Token) :
    spelled (first ++ second) = spelled first ++ spelled second := List.flatMap_append

theorem spelled_plain (text : List Char) : spelled (text.map .plain) = text.map .plain := by
  rw [spelled, List.flatMap_map]
  exact List.map_eq_flatMap.symm

theorem ne_of_isNameChar {c d : Char} (inName : isNameChar c = true)
    (noName : isNameChar d = false) : c ≠ d := by
  rintro rfl
  rw [noName] at inName
  cases inName

theorem spelled_scan_append {name : List Char} (plain : ∀ c ∈ name, isNameChar c = true)
    (rest : List Char) :
    spelled (scan (name ++ rest)) = name.map .plain ++ spelled (scan rest) := by
  have noMark : ∀ c ∈ name, c ≠ '\\' ∧ c ≠ '$' := by
    intro c member
    exact ⟨ne_of_isNameChar (plain c member) rfl, ne_of_isNameChar (plain c member) rfl⟩
  rw [scan_append_plain noMark, spelled_append, spelled_plain]

/-- A dollar sign is one, whatever name is read behind it. -/
theorem spelled_scan_dollar (text : List Char) :
    spelled (scan ('$' :: text)) = .plain '$' :: spelled (scan text) := by
  rw [scan]
  split
  · rfl
  · have plain : ∀ c ∈ text.takeWhile isNameChar, isNameChar c = true :=
      List.all_eq_true.mp List.all_takeWhile
    have again := spelled_scan_append plain (text.dropWhile isNameChar)
    rw [List.takeWhile_append_dropWhile] at again
    rw [again]
    rfl

/-- Scanning the text of tokens again gives them back, but for what is a reference. -/
theorem spelled_scan_joined {tokens : List Token} (sound : ∀ token ∈ tokens, token.Sound)
    (ends : EscapesEnd tokens) : spelled (scan (Token.joined tokens)) = spelled tokens := by
  induction tokens with
  | nil => rw [Token.joined, List.flatMap_nil, scan_nil]
  | cons token rest inductionHypothesis =>
      obtain ⟨soundToken, soundRest⟩ := List.forall_mem_cons.mp sound
      obtain ⟨last, laterEnds⟩ := List.pairwise_cons.mp ends
      have later := inductionHypothesis soundRest laterEnds
      rw [spelled_cons, ← later, Token.joined, List.flatMap_cons, ← Token.joined]
      cases token with
      | escape c =>
          cases c with
          | none =>
              have ended : rest = [] :=
                List.eq_nil_iff_forall_not_mem.mpr fun next member => last next member rfl
              rw [ended, Token.joined, List.flatMap_nil, List.append_nil, Token.text, scan_nil,
                scan]
              rfl
          | some c =>
              change spelled (scan ('\\' :: c :: Token.joined rest)) = _
              rw [scan]
              rfl
      | reference name =>
          rw [Token.text, List.cons_append, spelled_scan_dollar, spelled_scan_append soundToken.2]
          rfl
      | plain c =>
          rw [Token.text, List.singleton_append]
          by_cases dollar : c = '$'
          · rw [dollar, spelled_scan_dollar]
            rfl
          · rw [scan_plain soundToken dollar]
            rfl

theorem inert_plain {c : Char} (inName : isNameChar c = true) : (Token.plain c).Inert := by
  have other {d : Char} (noName : isNameChar d = false) : Token.plain c ≠ .plain d :=
    fun same => ne_of_isNameChar inName noName (Token.plain.inj same)
  exact ⟨other rfl, other rfl, other rfl⟩

theorem inert_reference (name : List Char) : (Token.reference name).Inert :=
  ⟨nofun, nofun, nofun⟩

theorem inert_spelled {name : List Char} (plain : ∀ c ∈ name, isNameChar c = true) :
    ∀ token ∈ Token.spelled (.reference name), token.Inert := by
  refine List.forall_mem_cons.mpr ⟨⟨by decide, by decide, by decide⟩, ?_⟩
  exact List.forall_mem_map.mpr fun c member => inert_plain (plain c member)

theorem keepsDepth_spelled_token {token : Token} (sound : token.Sound) :
    KeepsDepth [token] token.spelled ∧ KeepsDepth token.spelled [token] := by
  cases token with
  | escape c => exact ⟨KeepsDepth.refl _, KeepsDepth.refl _⟩
  | plain c => exact ⟨KeepsDepth.refl _, KeepsDepth.refl _⟩
  | reference name =>
      have inert := List.forall_mem_singleton.mpr (inert_reference name)
      have inertSpelled := inert_spelled sound.2
      exact ⟨keepsDepth_of_inert inert inertSpelled, keepsDepth_of_inert inertSpelled inert⟩

theorem keepsDepth_spelled {tokens : List Token} (sound : ∀ token ∈ tokens, token.Sound) :
    KeepsDepth tokens (spelled tokens) ∧ KeepsDepth (spelled tokens) tokens := by
  induction tokens with
  | nil => exact ⟨KeepsDepth.refl [], KeepsDepth.refl []⟩
  | cons token rest inductionHypothesis =>
      obtain ⟨soundToken, soundRest⟩ := List.forall_mem_cons.mp sound
      obtain ⟨there, back⟩ := keepsDepth_spelled_token soundToken
      obtain ⟨restThere, restBack⟩ := inductionHypothesis soundRest
      exact ⟨there.append restThere, back.append restBack⟩

theorem closeGroup_spelled_eq_none_iff {depth : Nat} {tokens : List Token}
    (sound : ∀ token ∈ tokens, token.Sound) :
    closeGroup depth (spelled tokens) = none ↔ closeGroup depth tokens = none := by
  obtain ⟨there, back⟩ := keepsDepth_spelled sound
  exact ⟨back.closeGroup_eq_none, there.closeGroup_eq_none⟩

/-- Names make no groups. -/
theorem groupFree_spelled_iff {behindBracket : Bool} {tokens : List Token}
    (sound : ∀ token ∈ tokens, token.Sound) :
    GroupFree behindBracket (spelled tokens) ↔ GroupFree behindBracket tokens := by
  induction tokens generalizing behindBracket with
  | nil => exact Iff.rfl
  | cons token rest inductionHypothesis =>
      obtain ⟨soundToken, soundRest⟩ := List.forall_mem_cons.mp sound
      have single : GroupFree behindBracket (token :: spelled rest) ↔
          GroupFree behindBracket (token :: rest) := by
        rw [groupFree_cons_iff, groupFree_cons_iff, closeGroup_spelled_eq_none_iff soundRest,
          inductionHypothesis soundRest]
      cases token with
      | escape c => exact single
      | plain c => exact single
      | reference name =>
          have inert := List.forall_mem_singleton.mpr (inert_reference name)
          rw [← single]
          exact (groupFree_inert_append_iff (List.cons_ne_nil _ _)
              (inert_spelled soundToken.2)).trans
            (groupFree_inert_append_iff (List.cons_ne_nil _ _) inert).symm

end Spelled

/-- The text of tokens without groups is scanned into tokens without groups. -/
theorem GroupFree.scan_joined {behindBracket : Bool} {tokens : List Token}
    (free : GroupFree behindBracket tokens) (sound : ∀ token ∈ tokens, token.Sound)
    (ends : EscapesEnd tokens) : GroupFree behindBracket (scan (Token.joined tokens)) := by
  rw [← groupFree_spelled_iff fun token => sound_of_mem_scan, spelled_scan_joined sound ends,
    groupFree_spelled_iff sound]
  exact free

/-- Resolving the groups of a template leaves a text without groups: resolving it again, whatever
has a text then, changes nothing. -/
theorem resolveOptionalGroups_resolveOptionalGroups (template : String)
    (first second : Bindings) :
    resolveOptionalGroups (resolveOptionalGroups template first) second =
      resolveOptionalGroups template first := by
  have part := resolveGroups_sublist first false (scan template.toList)
  have free : GroupFree false (scan (resolveOptionalGroups template first).toList) := by
    rw [resolveOptionalGroups, String.toList_ofList]
    apply (groupFree_resolveGroups first false (scan template.toList)).scan_joined
    · exact fun token member => sound_of_mem_scan (part.subset member)
    · exact (escapesEnd_scan template.toList).sublist part
  have same : resolveOptionalGroups (resolveOptionalGroups template first) second =
      String.ofList (Token.joined (scan (resolveOptionalGroups template first).toList)) :=
    congrArg (fun tokens => String.ofList (Token.joined tokens)) free.resolveGroups_eq
  rw [same, joined_scan, String.ofList_toList]

/-- A bracket out of a group makes a style of the parenthesis behind it. -/
example : resolveOptionalGroups "$a(b])(c" .empty = "$ab](c" := by
  decide +kernel

end ShellPrompt.Template
