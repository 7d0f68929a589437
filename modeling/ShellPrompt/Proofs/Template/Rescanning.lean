import Mathlib.Data.List.Chain
import ShellPrompt.Proofs.Template.Staying
import ShellPrompt.Template

/-!
Scanning the text of tokens again. It gives the tokens back exactly if a scan can give each of them,
none but the last is a lone backslash, and none joins the one behind it: a name or a lone dollar
sign with a character of a name behind it. The tokens that are left of a template meet the first two
conditions in any case, so where none join, the text in which groups are resolved may as well be
scanned again before variables are replaced.
-/

namespace ShellPrompt.Template

/-- A token that a scan can give. -/
def Token.Sound : Token → Prop
  | .escape _ => True
  | .reference name => name ≠ [] ∧ ∀ c ∈ name, isNameChar c = true
  | .plain c => c ≠ '\\'

/-- A backslash that escapes nothing stands at the end. -/
def EscapesEnd (tokens : List Token) : Prop := tokens.Pairwise fun token _ => token ≠ .escape none

/-- No reference and no lone dollar sign has a character of a name behind it. -/
def NoneJoin (tokens : List Token) : Prop :=
  tokens.IsChain fun token next =>
    token.name?.isSome ∨ token = .plain '$' → StartsApart next.text

instance (tokens : List Token) : Decidable (NoneJoin tokens) :=
  inferInstanceAs (Decidable (tokens.IsChain _))

section Scan

theorem sound_of_mem_scan {text : List Char} {token : Token} (member : token ∈ scan text) :
    token.Sound := by
  fun_induction scan text with
  | case1 => cases member
  | case2 =>
      rcases List.mem_singleton.mp member with rfl
      trivial
  | case3 c rest inductionHypothesis =>
      rcases List.mem_cons.mp member with rfl | member
      · trivial
      · exact inductionHypothesis member
  | case4 rest nameless inductionHypothesis =>
      rcases List.mem_cons.mp member with rfl | member
      · exact (by decide : '$' ≠ '\\')
      · exact inductionHypothesis member
  | case5 rest named inductionHypothesis =>
      rcases List.mem_cons.mp member with rfl | member
      · exact ⟨named, List.all_eq_true.mp List.all_takeWhile⟩
      · exact inductionHypothesis member
  | case6 c rest noEnd noEscape noDollar inductionHypothesis =>
      rcases List.mem_cons.mp member with rfl | member
      · exact ne_backslash noEnd noEscape
      · exact inductionHypothesis member

theorem escapesEnd_scan (text : List Char) : EscapesEnd (scan text) := by
  fun_induction scan text with
  | case1 => exact .nil
  | case2 => exact List.pairwise_singleton _ _
  | case3 c rest inductionHypothesis => exact .cons (fun _ _ => by simp) inductionHypothesis
  | case4 rest nameless inductionHypothesis => exact .cons (fun _ _ => by simp) inductionHypothesis
  | case5 rest named inductionHypothesis => exact .cons (fun _ _ => by simp) inductionHypothesis
  | case6 c rest _ _ _ inductionHypothesis => exact .cons (fun _ _ => by simp) inductionHypothesis

/-- The first token of a text starts apart from what stands in front if the text does. -/
theorem startsApart_head?_scan {text : List Char} (apart : StartsApart text) {next : Token}
    (first : (scan text).head? = some next) : StartsApart next.text := by
  obtain ⟨rest, read⟩ := List.head?_eq_some_iff.mp first
  have whole := joined_scan text
  rw [read, Token.joined, List.flatMap_cons] at whole
  rw [← whole, startsApart_append_iff next.text_ne_nil] at apart
  exact apart

theorem noneJoin_scan (text : List Char) : NoneJoin (scan text) := by
  fun_induction scan text with
  | case1 => exact .nil
  | case2 => exact .singleton _
  | case3 c rest inductionHypothesis =>
      apply List.IsChain.cons inductionHypothesis
      rintro next _ (named | dollar)
      · cases named
      · cases dollar
  | case4 rest nameless inductionHypothesis =>
      apply List.IsChain.cons inductionHypothesis
      exact fun next first _ => startsApart_head?_scan (startsApart_of_takeWhile nameless) first
  | case5 rest named inductionHypothesis =>
      apply List.IsChain.cons inductionHypothesis
      exact fun next first _ => startsApart_head?_scan (startsApart_dropWhile rest) first
  | case6 c rest _ _ noDollar inductionHypothesis =>
      apply List.IsChain.cons inductionHypothesis
      rintro next _ (named | dollar)
      · cases named
      · exact absurd (Token.plain.inj dollar) noDollar

end Scan

section Joined
variable {token : Token} {rest : List Token}

theorem EscapesEnd.tail (ends : EscapesEnd (token :: rest)) : EscapesEnd rest :=
  List.Pairwise.of_cons ends

/-- Nothing stands behind a backslash that escapes nothing. -/
theorem EscapesEnd.eq_nil (ends : EscapesEnd (.escape none :: rest)) : rest = [] :=
  List.eq_nil_iff_forall_not_mem.mpr fun next member =>
    (List.pairwise_cons.mp ends).1 next member rfl

theorem NoneJoin.tail (apart : NoneJoin (token :: rest)) : NoneJoin rest :=
  List.IsChain.tail apart

theorem NoneJoin.startsApart (apart : NoneJoin (token :: rest))
    (grows : token.name?.isSome ∨ token = .plain '$') : StartsApart (Token.joined rest) := by
  cases rest with
  | nil => exact startsApart_nil
  | cons next rest =>
      rw [Token.joined, List.flatMap_cons, startsApart_append_iff next.text_ne_nil]
      exact (List.isChain_cons_cons.mp apart).1 grows

/-- The first of some tokens is found again in front of their text. -/
theorem scan_text_append (sound : token.Sound) (ended : token = .escape none → rest = [])
    (apart : NoneJoin (token :: rest)) :
    scan (token.text ++ Token.joined rest) = token :: scan (Token.joined rest) := by
  cases token with
  | escape c =>
      cases c with
      | none =>
          rw [ended rfl, Token.joined, List.flatMap_nil, scan_nil, Token.text, List.append_nil,
            scan]
      | some c =>
          change scan ('\\' :: c :: Token.joined rest) = _
          rw [scan]
  | reference name => exact scan_reference sound.1 sound.2 (apart.startsApart (.inl rfl))
  | plain c =>
      by_cases dollar : c = '$'
      · subst dollar
        have nameless := (apart.startsApart (.inr rfl)).takeWhile
        rw [Token.text, List.singleton_append, scan, if_pos nameless]
      · exact scan_plain sound dollar _

end Joined

/-- The lists of tokens that scans give. -/
theorem scan_joined_iff {tokens : List Token} :
    scan (Token.joined tokens) = tokens ↔
      (∀ token ∈ tokens, token.Sound) ∧ EscapesEnd tokens ∧ NoneJoin tokens := by
  constructor
  · intro same
    rw [← same]
    exact ⟨fun token => sound_of_mem_scan, escapesEnd_scan _, noneJoin_scan _⟩
  · rintro ⟨sound, ends, apart⟩
    induction tokens with
    | nil => exact scan_nil
    | cons token rest inductionHypothesis =>
        have ended : token = .escape none → rest = [] := by
          rintro rfl
          exact ends.eq_nil
        have later := inductionHypothesis (fun other member => sound other (.tail _ member))
          ends.tail apart.tail
        rw [Token.joined, List.flatMap_cons, ← Token.joined,
          scan_text_append (sound token List.mem_cons_self) ended apart, later]

section Escape
variable {text : List Char} {before after : List Token}

theorem eq_of_scan {token : Token} (read : scan text = before ++ token :: after) :
    text = Token.joined before ++ (token.text ++ Token.joined after) := by
  rw [← joined_scan text, read, Token.joined, List.flatMap_append, List.flatMap_cons]
  rfl

/-- The tokens in front of an escape are the same, whatever is escaped there. -/
theorem scan_joined_escape {c : Option Char} (read : scan text = before ++ .escape c :: after)
    (d : Option Char) :
    scan (Token.joined before ++ (Token.escape d).text) = before ++ [.escape d] := by
  have whole : Token.joined (before ++ [.escape d]) =
      Token.joined before ++ (Token.escape d).text := by
    simp only [Token.joined, List.flatMap_append, List.flatMap_singleton]
  have ends := escapesEnd_scan text
  have apart := noneJoin_scan text
  rw [read] at ends apart
  rw [← whole, scan_joined_iff]
  refine ⟨?_, ?_, ?_⟩
  · intro token member
    rcases List.mem_append.mp member with member | member
    · exact sound_of_mem_scan (read ▸ List.mem_append_left _ member)
    · rcases List.mem_singleton.mp member with rfl
      trivial
  · obtain ⟨front, _, last⟩ := List.pairwise_append.mp ends
    refine List.pairwise_append.mpr ⟨front, List.pairwise_singleton _ _, ?_⟩
    exact fun token member _ _ => last token member _ List.mem_cons_self
  · obtain ⟨front, _, _⟩ := List.isChain_append.mp apart
    refine List.isChain_append.mpr ⟨front, .singleton _, ?_⟩
    rintro token _ next first _
    cases first
    cases d with
    | none => exact startsApart_cons rfl []
    | some d => exact startsApart_cons rfl [d]

end Escape

/-- The text of a template with its groups resolved is scanned into the tokens that are left exactly
if none of them join. -/
theorem scan_resolveOptionalGroups_iff {template : String} {bindings : Bindings} :
    scan (resolveOptionalGroups template bindings).toList =
        resolveGroups bindings false (scan template.toList) ↔
      NoneJoin (resolveGroups bindings false (scan template.toList)) := by
  have part := resolveGroups_sublist bindings false (scan template.toList)
  rw [resolveOptionalGroups, String.toList_ofList, scan_joined_iff]
  constructor
  · exact fun both => both.2.2
  · intro apart
    refine ⟨fun token member => sound_of_mem_scan (part.subset member), ?_, apart⟩
    exact (escapesEnd_scan template.toList).sublist part

/-- What is left of a group may lengthen the name in front of it. -/
example : scan (resolveOptionalGroups "$a(b)" .empty).toList ≠
    resolveGroups .empty false (scan "$a(b)".toList) :=
  mt scan_resolveOptionalGroups_iff.mp (by decide +kernel)

/-- Where none of the tokens that are left join, the steps of rendering may be taken one by one on
texts: resolving the groups, replacing the variables, and splitting into segments. -/
theorem render_eq_segments_substitute {template : String} {bindings : Bindings}
    (apart : NoneJoin (resolveGroups bindings false (scan template.toList))) (style : String)
    (theme : Option Theme) :
    scan (resolveOptionalGroups template bindings).toList =
        resolveGroups bindings false (scan template.toList) ∧
      render template bindings style theme =
        segments theme maxDepth
          (substitute (resolveOptionalGroups template bindings) bindings style).toList := by
  have same := scan_resolveOptionalGroups_iff.mpr apart
  refine ⟨same, ?_⟩
  rw [render, substitute, same, String.toList_ofList]

/-- References and dollar signs side by side, escapes, a group that goes, and a lone backslash. -/
theorem render_eq_segments_substitute_dollars :
    resolveOptionalGroups "$a($b)( $)\\$c[($x) $](bold)\\"
        (.ofList [("a", .text "A"), ("b", .text "$")]) = "$a$b $\\$c[ $](bold)\\" ∧
      scan "$a$b $\\$c[ $](bold)\\".toList =
        resolveGroups (.ofList [("a", .text "A"), ("b", .text "$")]) false
          (scan "$a($b)( $)\\$c[($x) $](bold)\\".toList) ∧
      render "$a($b)( $)\\$c[($x) $](bold)\\" (.ofList [("a", .text "A"), ("b", .text "$")]) ""
          none =
        segments none maxDepth
          (substitute "$a$b $\\$c[ $](bold)\\" (.ofList [("a", .text "A"), ("b", .text "$")])
            "").toList := by
  have apart : NoneJoin (resolveGroups (.ofList [("a", .text "A"), ("b", .text "$")]) false
      (scan "$a($b)( $)\\$c[($x) $](bold)\\".toList)) := by
    decide +kernel
  have text : resolveOptionalGroups "$a($b)( $)\\$c[($x) $](bold)\\"
      (.ofList [("a", .text "A"), ("b", .text "$")]) = "$a$b $\\$c[ $](bold)\\" := by
    decide +kernel
  have passes := render_eq_segments_substitute apart "" none
  rw [text] at passes
  exact ⟨text, passes⟩

end ShellPrompt.Template
