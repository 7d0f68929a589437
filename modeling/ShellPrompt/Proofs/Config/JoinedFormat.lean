import ShellPrompt.Proofs.Config.Format
import ShellPrompt.Proofs.Text.Newlines

/-!
Line ends in a master format. A format whose carriage returns in front of line feeds are left out
has the same pieces, but for these carriage returns in its free texts.
-/

namespace ShellPrompt.Config

open Template Text

def Piece.joined : Piece → Piece
  | .literal text => .literal (joinBreaks text)
  | .reference name => .reference name

section Pieces
variable {text rest : List Char}

/-- A text that starts with a line feed starts with free text that does. -/
theorem exists_pieces_feed (rest : List Char) :
    ∃ next others, pieces ('\n' :: rest) = .literal ('\n' :: next) :: others := by
  rw [pieces_plain (by decide) (by decide)]
  unfold growText
  split
  · exact ⟨_, _, rfl⟩
  · exact ⟨[], _, rfl⟩

theorem joined_growText (apart : Apart text rest)
    (later : pieces (joinBreaks rest) = (pieces rest).map Piece.joined) :
    growText (joinBreaks text) (pieces (joinBreaks rest)) =
      (growText text (pieces rest)).map Piece.joined := by
  rw [later]
  cases all : pieces rest with
  | nil => rfl
  | cons piece others =>
      cases piece with
      | reference name => rfl
      | literal next =>
          have apartNext : Apart text next := fun last first =>
            apart last (head?_of_pieces all first)
          simp only [growText, List.map_cons, Piece.joined, joinBreaks_append apartNext]

/-- A carriage return in front of a line feed is left out of the free text that both belong to. -/
theorem joined_growText_pair (plain : '\r' ∉ text) (rest : List Char) :
    growText text ((pieces ('\n' :: rest)).map Piece.joined) =
      (growText (text ++ ['\r']) (pieces ('\n' :: rest))).map Piece.joined := by
  obtain ⟨next, others, same⟩ := exists_pieces_feed rest
  have whole : joinBreaks (text ++ '\r' :: '\n' :: next) = text ++ '\n' :: joinBreaks next :=
    joinBreaks_append_of_plain plain
  rw [same]
  simp only [growText, List.map_cons, Piece.joined, List.append_assoc, List.cons_append,
    List.nil_append, whole, joinBreaks_cons (show '\n' ≠ '\r' by decide)]

theorem startsApart_joinBreaks (apart : StartsApart text) : StartsApart (joinBreaks text) := by
  intro c first
  cases text with
  | nil => cases first
  | cons d rest =>
      by_cases pair : d = '\r' ∧ rest.head? = some '\n'
      · obtain ⟨rfl, feed⟩ := pair
        obtain ⟨later, rfl⟩ := List.head?_eq_some_iff.mp feed
        cases first
        rfl
      · have same : joinBreaks (d :: rest) = d :: joinBreaks rest := by
          by_cases back : d = '\r'
          · subst back
            exact joinBreaks_return fun feed => pair ⟨rfl, feed⟩
          · exact joinBreaks_cons back
        rw [same] at first
        exact apart c first

/-- A name is no line end, so it stays in front of what follows it. -/
theorem joinBreaks_takeWhile (rest : List Char) :
    joinBreaks rest = rest.takeWhile isNameChar ++ joinBreaks (rest.dropWhile isNameChar) := by
  have plain : '\r' ∉ rest.takeWhile isNameChar := by
    intro member
    cases List.all_eq_true.mp List.all_takeWhile _ member
  have parts : joinBreaks (rest.takeWhile isNameChar ++ rest.dropWhile isNameChar) =
      rest.takeWhile isNameChar ++ joinBreaks (rest.dropWhile isNameChar) :=
    joinBreaks_append_of_plain plain
  rwa [List.takeWhile_append_dropWhile] at parts

section Steps
variable {c : Char} (later : pieces (joinBreaks rest) = (pieces rest).map Piece.joined)
include later

/-- An escape keeps the character behind it, unless that is a carriage return that goes. -/
theorem pieces_joinBreaks_escape : pieces (joinBreaks ('\\' :: c :: rest)) =
    (growText ['\\', c] (pieces rest)).map Piece.joined := by
  by_cases pair : c = '\r' ∧ rest.head? = some '\n'
  · obtain ⟨rfl, feed⟩ := pair
    obtain ⟨more, rfl⟩ := List.head?_eq_some_iff.mp feed
    have joined : joinBreaks ('\\' :: '\r' :: '\n' :: more) = '\\' :: '\n' :: joinBreaks more := rfl
    have feedFirst : joinBreaks ('\n' :: more) = '\n' :: joinBreaks more := rfl
    have step := joined_growText_pair (show '\r' ∉ ['\\'] by decide) more
    rw [List.cons_append, List.nil_append] at step
    have inner := pieces_plain (show '\n' ≠ '\\' by decide) (by decide) (joinBreaks more)
    rw [← step, ← later, joined, feedFirst, pieces, inner, growText_append]
    rfl
  · have apart : Apart ['\\', c] rest := fun last feed => pair ⟨Option.some.inj last, feed⟩
    have escape : joinBreaks ['\\', c] = ['\\', c] := by
      rw [joinBreaks_cons (by decide), joinBreaks_singleton]
    have joined : joinBreaks ('\\' :: c :: rest) = '\\' :: c :: joinBreaks rest := by
      have parts := joinBreaks_append apart
      rwa [escape] at parts
    rw [← joined_growText apart later, joined, escape, pieces]

theorem pieces_joinBreaks_plain (noEscape : c ≠ '\\') (noDollar : c ≠ '$') :
    pieces (joinBreaks (c :: rest)) = (growText [c] (pieces rest)).map Piece.joined := by
  by_cases pair : c = '\r' ∧ rest.head? = some '\n'
  · obtain ⟨rfl, feed⟩ := pair
    obtain ⟨more, rfl⟩ := List.head?_eq_some_iff.mp feed
    have step := joined_growText_pair (show '\r' ∉ [] from List.not_mem_nil) more
    obtain ⟨next, others, first⟩ := exists_pieces_feed more
    rw [List.nil_append, first] at step
    rw [first] at later ⊢
    rw [← step]
    exact later
  · have apart : Apart [c] rest := fun last feed => pair ⟨Option.some.inj last, feed⟩
    have joined : joinBreaks (c :: rest) = c :: joinBreaks rest := by
      have parts := joinBreaks_append apart
      rwa [joinBreaks_singleton] at parts
    rw [← joined_growText apart later, joined, joinBreaks_singleton,
      pieces_plain noEscape noDollar]

end Steps

/-- The pieces of a format that is read from a file. -/
theorem pieces_joinBreaks (text : List Char) :
    pieces (joinBreaks text) = (pieces text).map Piece.joined := by
  fun_induction pieces text with
  | case1 => rw [joinBreaks, withPairs, pieces]; rfl
  | case2 =>
      have same : joinBreaks ['\\'] = ['\\'] := rfl
      rw [same, pieces]
      rfl
  | case3 c rest inductionHypothesis => exact pieces_joinBreaks_escape inductionHypothesis
  | case4 rest nameless inductionHypothesis =>
      have apart : Apart ['$'] rest := fun last => by cases last
      have noName := (startsApart_joinBreaks (startsApart_of_takeWhile nameless)).takeWhile
      rw [← joined_growText apart inductionHypothesis, joinBreaks_cons (by decide),
        joinBreaks_singleton, pieces, if_pos noName]
  | case5 rest named inductionHypothesis =>
      have plain : ∀ c ∈ rest.takeWhile isNameChar, isNameChar c = true :=
        List.all_eq_true.mp List.all_takeWhile
      have apart := startsApart_joinBreaks (startsApart_dropWhile rest)
      rw [joinBreaks_cons (by decide), joinBreaks_takeWhile, pieces_reference named plain apart,
        inductionHypothesis]
      rfl
  | case6 c rest noEnd noEscape noDollar inductionHypothesis =>
      exact pieces_joinBreaks_plain inductionHypothesis (ne_backslash noEnd noEscape) noDollar

end Pieces

end ShellPrompt.Config
