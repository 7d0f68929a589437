import ShellPrompt.Proofs.Config.Format
import ShellPrompt.Proofs.Template.Rendering
import ShellPrompt.Proofs.Template.Rescanning

/-!
Closing the escape at the end of a text. It gives the lone backslash, if the tokens of the text end
with one, a second one to escape. Then no text behind it has its first character escaped, and the
text by itself looks as before: a backslash that escapes nothing shows as the one that is escaped.
-/

namespace ShellPrompt.Template

section Groups

/-- A change of tokens that touches neither single characters nor the names of references. -/
structure KeepsGroups (change : Token → Token) : Prop where
  plain : ∀ token c, change token = .plain c ↔ token = .plain c
  name : ∀ token, (change token).name? = token.name?

variable {change : Token → Token}

theorem closeGroup_map (keeps : KeepsGroups change) (depth : Nat) (tokens : List Token) :
    closeGroup depth (tokens.map change) =
      (closeGroup depth tokens).map fun (inner, after) =>
        (inner.map change, after.map change) := by
  induction tokens generalizing depth with
  | nil => rfl
  | cons token rest inductionHypothesis =>
      simp only [List.map_cons, closeGroup, keeps.plain, inductionHypothesis]
      split
      · simp only [Option.map_map, Function.comp_def, List.map_cons]
      · split
        · cases depth with
          | zero => rfl
          | succ depth => simp only [Option.map_map, Function.comp_def, List.map_cons]
        · simp only [Option.map_map, Function.comp_def, List.map_cons]

theorem isVisible_map (keeps : KeepsGroups change) (bindings : Bindings) (inner : List Token) :
    isVisible bindings (inner.map change) = isVisible bindings inner := by
  have same : names (inner.map change) = names inner := by
    rw [names, List.filterMap_map]
    exact List.filterMap_congr fun token _ => keeps.name token
  rw [isVisible, same, isVisible]

/-- The same tokens are left of a changed template as of the template, changed in the same way. -/
theorem resolveGroups_map (keeps : KeepsGroups change) (bindings : Bindings)
    (behindBracket : Bool) (tokens : List Token) :
    resolveGroups bindings behindBracket (tokens.map change) =
      (resolveGroups bindings behindBracket tokens).map change := by
  have opening : change (.plain '(') = .plain '(' := (keeps.plain _ _).mpr rfl
  induction behindBracket, tokens using resolveGroups.induct with
  | case1 behindBracket => simp only [List.map_nil, resolveGroups]
  | case2 behindBracket token rest opens inner after closed innerHypothesis afterHypothesis =>
      obtain ⟨rfl, rfl⟩ := opens
      have changed := closeGroup_map keeps 0 rest
      rw [closed] at changed
      rw [List.map_cons, opening, resolveGroups_group bindings changed,
        resolveGroups_group bindings closed, isVisible_map keeps, innerHypothesis,
        afterHypothesis, List.map_append]
      split <;> rfl
  | case3 behindBracket token rest opens unclosed inductionHypothesis =>
      obtain ⟨rfl, rfl⟩ := opens
      have changed := closeGroup_map keeps 0 rest
      rw [unclosed] at changed
      rw [List.map_cons, opening, resolveGroups_unclosed bindings changed,
        resolveGroups_unclosed bindings unclosed, inductionHypothesis, List.map_cons, opening]
  | case4 behindBracket token rest opensNothing inductionHypothesis =>
      have changed : ¬ (change token = .plain '(' ∧ behindBracket = false) := by
        rwa [keeps.plain]
      rw [List.map_cons, resolveGroups, if_neg changed, resolveGroups, if_neg opensNothing,
        List.map_cons]
      simp only [keeps.plain, inductionHypothesis]

end Groups

end ShellPrompt.Template

namespace ShellPrompt.Config

open Template

/-- Whatever stands behind a text, no escape starts in the text and ends behind it. -/
def Isolated (text : List Char) : Prop :=
  ∀ rest before c after, scan (text ++ rest) = before ++ .escape c :: after →
    (Token.joined before).length < text.length →
      (Token.joined before ++ (Token.escape c).text).length ≤ text.length

/-- A text is isolated exactly if its last token is no lone backslash. -/
theorem isolated_iff {text : List Char} : Isolated text ↔ .escape none ∉ scan text := by
  constructor
  · intro isolated member
    obtain ⟨before, after, read⟩ := List.append_of_mem member
    have ends := escapesEnd_scan text
    rw [read] at ends
    obtain rfl : after = [] := EscapesEnd.eq_nil (List.pairwise_append.mp ends).2.1
    have whole : text = Token.joined before ++ ['\\'] := eq_of_scan read
    have longer := scan_joined_escape read (some 'x')
    have within := isolated ['x'] before (some 'x') []
    rw [whole, List.append_assoc] at within
    have beyond := within longer (by simp)
    simp [Token.text] at beyond
  · intro noLone rest before c after read starts
    have whole := eq_of_scan read
    cases c with
    | none =>
        rw [List.length_append]
        exact starts
    | some d =>
        by_contra beyond
        rw [List.length_append, Token.text, List.length_cons, List.length_singleton] at beyond
        have regrouped : text ++ rest =
            Token.joined before ++ ['\\'] ++ d :: Token.joined after := by
          rw [whole]
          simp [Token.text]
        have length : text.length = (Token.joined before ++ ['\\']).length := by
          rw [List.length_append, List.length_singleton]
          omega
        have ends := (List.append_inj regrouped length).1
        have read := scan_joined_escape read none
        rw [Token.text, ← ends] at read
        exact noLone (read ▸ List.mem_append_right _ (List.mem_singleton_self _))

/-- The token with which a closed text ends in place of a lone backslash. -/
def closedToken : Token → Token
  | .escape none => .escape (some '\\')
  | token => token

theorem keepsGroups_closedToken : KeepsGroups closedToken where
  plain := by
    intro token c
    rcases token with (_ | _) | _ | _ <;> simp [closedToken]
  name := by
    intro token
    rcases token with (_ | _) | _ | _ <;> rfl

theorem map_closedToken {tokens : List Token} (noLone : .escape none ∉ tokens) :
    tokens.map closedToken = tokens := by
  have same : ∀ token ∈ tokens, closedToken token = token := by
    rintro ((_ | _) | _ | _) member
    · exact absurd member noLone
    all_goals rfl
  rw [List.map_congr_left same, List.map_id']

/-- Closing the escape at the end of a text changes its last token. -/
theorem scan_closeEscape (text : List Char) :
    scan (closeEscape text) = (scan text).map closedToken := by
  fun_induction scan text with
  | case1 => rw [show closeEscape [] = [] from rfl, scan_nil, List.map_nil]
  | case2 =>
      rw [show closeEscape ['\\'] = ['\\', '\\'] from rfl, scan, scan_nil]
      rfl
  | case3 c rest inductionHypothesis =>
      rw [closeEscape_escape, scan, inductionHypothesis]
      rfl
  | case4 rest nameless inductionHypothesis =>
      have apart := startsApart_closeEscape (startsApart_of_takeWhile nameless)
      rw [closeEscape_cons (by decide), scan, if_pos apart.takeWhile, inductionHypothesis]
      rfl
  | case5 rest named inductionHypothesis =>
      have plain : ∀ c ∈ rest.takeWhile isNameChar, isNameChar c = true :=
        List.all_eq_true.mp List.all_takeWhile
      have apart := startsApart_closeEscape (startsApart_dropWhile rest)
      rw [closeEscape_cons (by decide), closeEscape_eq_takeWhile_append,
        scan_reference named plain apart, inductionHypothesis]
      rfl
  | case6 c rest noEnd noEscape noDollar inductionHypothesis =>
      have plain := ne_backslash noEnd noEscape
      rw [closeEscape_cons plain, scan_plain plain noDollar, inductionHypothesis]
      rfl

theorem escape_none_not_mem_scan_closeEscape (text : List Char) :
    .escape none ∉ scan (closeEscape text) := by
  rw [scan_closeEscape]
  intro member
  obtain ⟨token, _, lone⟩ := List.mem_map.mp member
  rcases token with (_ | _) | _ | _ <;> cases lone

theorem closeEscape_eq_self_iff {text : List Char} :
    closeEscape text = text ↔ .escape none ∉ scan text := by
  constructor
  · intro closed
    rw [← closed]
    exact escape_none_not_mem_scan_closeEscape text
  · intro noLone
    have same := scan_closeEscape text
    rw [map_closedToken noLone] at same
    rw [← joined_scan (closeEscape text), same, joined_scan]

/-- Where no variable has a text, replacing them keeps the end of a text. -/
theorem substituteTokens_map_closedToken {tokens : List Token}
    (sound : ∀ token ∈ tokens, token.Sound) (ends : EscapesEnd tokens) :
    substituteTokens .empty [] (tokens.map closedToken) =
      closeEscape (substituteTokens .empty [] tokens) := by
  induction tokens with
  | nil => rfl
  | cons token rest inductionHypothesis =>
      have later := inductionHypothesis (fun other member => sound other (.tail _ member)) ends.tail
      rw [List.map_cons, substituteTokens_cons, substituteTokens_cons, later]
      rcases token with (_ | c) | name | c
      · obtain rfl : rest = [] := ends.eq_nil
        rfl
      · exact (closeEscape_escape c _).symm
      · have absent : Token.substituted .empty [] (.reference name) = [] := by
          rw [Token.substituted]
          split <;> rfl
        have unchanged : closedToken (.reference name) = .reference name := rfl
        rw [unchanged, absent, List.nil_append, List.nil_append]
      · exact (closeEscape_cons (sound (.plain c) List.mem_cons_self) _).symm

section Blocks

theorem closeBracket_closeEscape (depth : Nat) (text : List Char) :
    closeBracket depth (closeEscape text) =
      (closeBracket depth text).map fun (inner, after) => (inner, closeEscape after) := by
  fun_induction closeBracket depth text with
  | case1 => rfl
  | case2 => rfl
  | case3 depth c rest inductionHypothesis =>
      rw [closeEscape_escape, closeBracket, inductionHypothesis, Option.map_map, Option.map_map]
      rfl
  | case4 depth rest inductionHypothesis =>
      rw [closeEscape_cons (by decide), closeBracket, inductionHypothesis, Option.map_map,
        Option.map_map]
      rfl
  | case5 rest =>
      rw [closeEscape_cons (by decide), closeBracket]
      rfl
  | case6 rest depth inductionHypothesis =>
      rw [closeEscape_cons (by decide), closeBracket, inductionHypothesis, Option.map_map,
        Option.map_map]
      rfl
  | case7 depth c rest noEnd noEscape noOpen noClose inductionHypothesis =>
      have plain := ne_backslash noEnd noEscape
      rw [closeEscape_cons plain, closeBracket_plain plain noOpen noClose, inductionHypothesis,
        Option.map_map, Option.map_map]
      rfl

theorem closeStyle_closeEscape (text : List Char) :
    closeStyle (closeEscape text) =
      (closeStyle text).map fun (inner, after) => (inner, closeEscape after) := by
  fun_induction closeStyle text with
  | case1 => rfl
  | case2 => rfl
  | case3 c rest inductionHypothesis =>
      rw [closeEscape_escape, closeStyle, inductionHypothesis, Option.map_map, Option.map_map]
      rfl
  | case4 rest =>
      rw [closeEscape_cons (by decide), closeStyle]
      rfl
  | case5 c rest noEnd noEscape noClose inductionHypothesis =>
      have plain := ne_backslash noEnd noEscape
      rw [closeEscape_cons plain, closeStyle_plain plain noClose, inductionHypothesis,
        Option.map_map, Option.map_map]
      rfl

theorem readBlock_closeEscape (text : List Char) :
    readBlock (closeEscape text) =
      (readBlock text).map fun block => { block with after := closeEscape block.after } := by
  rw [readBlock, closeBracket_closeEscape, readBlock]
  rcases closeBracket 0 text with _ | ⟨content, _ | ⟨c, after⟩⟩
  · rfl
  · rfl
  · by_cases opens : c = '('
    · subst opens
      simp only [Option.map_some, closeEscape_cons (show '(' ≠ '\\' by decide),
        closeStyle_closeEscape, Option.map_map, Function.comp_def]
    · obtain ⟨rest, written⟩ := closeEscape_cons_head c after
      simp [written, opens]

/-- A lone backslash and one behind another come to the same text at the end of a run. -/
theorem splitRun_closeEscape (theme : Option Theme) (levels : Nat) (text : List Char) :
    splitRun theme levels (closeEscape text) = splitRun theme levels text := by
  induction levels, text using splitRun.induct theme with
  | case1 levels => rfl
  | case2 levels =>
      rw [show closeEscape ['\\'] = ['\\', '\\'] from rfl, splitRun_escape, splitRun, splitRun]
  | case3 levels c rest _ _ _ inductionHypothesis =>
      rw [closeEscape_escape, splitRun_escape, splitRun_escape, inductionHypothesis]
  | case4 levels rest block found _ _ _ _ afterHypothesis =>
      have closed := readBlock_closeEscape rest
      rw [found, Option.map_some] at closed
      rw [closeEscape_cons (by decide), splitRun_block theme levels closed,
        splitRun_block theme levels found, afterHypothesis]
  | case5 levels rest missing _ _ _ inductionHypothesis =>
      have closed := readBlock_closeEscape rest
      rw [missing, Option.map_none] at closed
      rw [closeEscape_cons (by decide), splitRun_open theme levels closed,
        splitRun_open theme levels missing, inductionHypothesis]
  | case6 levels c rest noEnd noEscape noOpen _ _ _ inductionHypothesis =>
      have plain := ne_backslash noEnd noEscape
      rw [closeEscape_cons plain, splitRun_plain theme levels plain noOpen,
        splitRun_plain theme levels plain noOpen, inductionHypothesis]

end Blocks

/-- By itself a text looks the same with its end closed. -/
theorem render_closeEscape (text : String) (theme : Option Theme) :
    render (String.ofList (closeEscape text.toList)) .empty "" theme =
      render text .empty "" theme := by
  have part := resolveGroups_sublist .empty false (scan text.toList)
  have filled := substituteTokens_map_closedToken
    (fun token member => sound_of_mem_scan (part.subset member))
    ((escapesEnd_scan text.toList).sublist part)
  simp only [render, String.toList_ofList, scan_closeEscape,
    resolveGroups_map keepsGroups_closedToken, String.toList_empty, filled, segments,
    splitRun_closeEscape]

/-- Closing the escape at the end of a text takes at most one more backslash, which a text takes
exactly if it is not isolated. It isolates the text, and changes nothing about its looks. -/
theorem isolated_closeEscape_and_render_eq (text : String) :
    Isolated (closeEscape text.toList) ∧
    (closeEscape text.toList = text.toList ∨ closeEscape text.toList = text.toList ++ ['\\']) ∧
    (closeEscape text.toList = text.toList ↔ Isolated text.toList) ∧
    ∀ theme, render (String.ofList (closeEscape text.toList)) .empty "" theme =
      render text .empty "" theme := by
  refine ⟨?_, closeEscape_cases _, ?_, render_closeEscape text⟩
  · exact isolated_iff.mpr (escape_none_not_mem_scan_closeEscape text.toList)
  · rw [closeEscape_eq_self_iff, isolated_iff]

end ShellPrompt.Config
