import Mathlib.Data.List.Chain
import ShellPrompt.Config.Format
import ShellPrompt.Proofs.Template.Token
import ShellPrompt.Proofs.Text.Pattern

/-!
The regular expression of master formats. Its matches are the pieces of a format, one right behind
the other over the whole text, and the names in them are those that the template scanner finds.
-/

namespace ShellPrompt.Config

open Text Template

/-- `\$([A-Za-z0-9_]+)` -/
def referencePattern : Pattern :=
  .both (.one (· = '$')) (.group 1 (.repeated (.one isNameChar)))

/-- `\\.|\\\Z|[^$\\]|\$(?![A-Za-z0-9_])`, where the point stands for line breaks too. -/
def unitPattern : Pattern :=
  .either (.both (.one (· = '\\')) (.one fun _ => true))
    (.either (.both (.one (· = '\\')) .atEnd)
      (.either (.one fun c => c ≠ '$' ∧ c ≠ '\\') (.both (.one (· = '$')) (.notAhead isNameChar))))

def freeTextPattern : Pattern := .repeated unitPattern

/-- A reference, or else as many units of free text as there are. -/
def formatPattern : Pattern := .either referencePattern (.group 2 freeTextPattern)

section Units

theorem ways_unitPattern_nil : unitPattern.ways [] = [] := rfl

theorem ways_unitPattern_end : unitPattern.ways ['\\'] = [(⟨['\\'], []⟩, [])] := by
  decide

theorem ways_unitPattern_escape (c : Char) (rest : List Char) :
    unitPattern.ways ('\\' :: c :: rest) = [(⟨['\\', c], []⟩, rest)] := by
  simp [unitPattern, Match.append]

theorem any_head?_of_takeWhile {rest : List Char} :
    rest.head?.any isNameChar = !(rest.takeWhile isNameChar).isEmpty := by
  cases rest with
  | nil => rfl
  | cons c rest => cases name : isNameChar c <;> simp [name]

theorem ways_unitPattern_dollar {rest : List Char} (nameless : rest.takeWhile isNameChar = []) :
    unitPattern.ways ('$' :: rest) = [(⟨['$'], []⟩, rest)] := by
  have apart : rest.head?.any isNameChar = false := by rw [any_head?_of_takeWhile, nameless]; rfl
  simp [unitPattern, Match.append, apart]

theorem ways_unitPattern_reference {rest : List Char} (named : rest.takeWhile isNameChar ≠ []) :
    unitPattern.ways ('$' :: rest) = [] := by
  have ahead : rest.head?.any isNameChar = true := by
    rw [any_head?_of_takeWhile, List.isEmpty_eq_false_iff.mpr named]
    rfl
  simp [unitPattern, ahead]

theorem ways_unitPattern_plain {c : Char} (noEscape : c ≠ '\\') (noDollar : c ≠ '$')
    (rest : List Char) : unitPattern.ways (c :: rest) = [(⟨[c], []⟩, rest)] := by
  simp [unitPattern, noEscape, noDollar]

/-- What units of free text make of the start of a text with the given pieces. -/
def UnitsRead (text : List Char) : List Piece → Prop
  | .literal found :: more =>
      ∃ rest, (freeTextPattern.ways text).head? = some (⟨found, []⟩, rest) ∧
        rest.length < text.length ∧ pieces rest = more
  | _ => freeTextPattern.ways text = []

theorem unitsRead_growText {text unit rest : List Char}
    (only : unitPattern.ways text = [(⟨unit, []⟩, rest)]) (shorter : rest.length < text.length)
    (read : UnitsRead rest (pieces rest)) : UnitsRead text (growText unit (pieces rest)) := by
  unfold growText
  split
  · rename_i more others same
    rw [same] at read
    obtain ⟨after, found, further, last⟩ := read
    exact ⟨after, head?_ways_repeated_again only shorter found, by omega, last⟩
  · rename_i noText
    have ended : freeTextPattern.ways rest = [] := by
      unfold UnitsRead at read
      split at read
      · rename_i same
        exact absurd same (noText _ _)
      · exact read
    exact ⟨rest, head?_ways_repeated_last only shorter ended, shorter, rfl⟩

/-- Free text at the start of a text is taken as a whole. -/
theorem unitsRead_pieces (text : List Char) : UnitsRead text (pieces text) := by
  fun_induction pieces text with
  | case1 => exact ways_repeated_eq_nil ways_unitPattern_nil
  | case2 =>
      have ended := ways_repeated_eq_nil ways_unitPattern_nil
      exact ⟨[], head?_ways_repeated_last ways_unitPattern_end (by simp) ended, by simp,
        by rw [pieces]⟩
  | case3 c rest inductionHypothesis =>
      have shorter : rest.length < ('\\' :: c :: rest).length := by
        simp only [List.length_cons]
        omega
      exact unitsRead_growText (ways_unitPattern_escape c rest) shorter inductionHypothesis
  | case4 rest nameless inductionHypothesis =>
      exact unitsRead_growText (ways_unitPattern_dollar nameless) (by simp) inductionHypothesis
  | case5 rest named inductionHypothesis =>
      exact ways_repeated_eq_nil (ways_unitPattern_reference named)
  | case6 c rest noEnd noEscape noDollar inductionHypothesis =>
      exact unitsRead_growText (ways_unitPattern_plain (ne_backslash noEnd noEscape) noDollar rest)
        (by simp) inductionHypothesis

end Units

section References

theorem growText_ne_reference {text name : List Char} {rest more : List Piece} :
    growText text rest ≠ .reference name :: more := by
  unfold growText
  split <;> exact nofun

theorem eq_dollar_cons_of_pieces {text name : List Char} {more : List Piece}
    (read : pieces text = .reference name :: more) :
    ∃ rest, text = '$' :: rest ∧ rest.takeWhile isNameChar = name ∧
      rest.takeWhile isNameChar ≠ [] ∧ pieces (rest.dropWhile isNameChar) = more := by
  rw [pieces.eq_def] at read
  split at read
  · cases read
  · cases read
  · exact absurd read growText_ne_reference
  · rename_i rest
    split at read
    · exact absurd read growText_ne_reference
    · rename_i named
      cases read
      exact ⟨rest, rfl, rfl, named, rfl⟩
  · exact absurd read growText_ne_reference

theorem ways_referencePattern_of_literal {text found : List Char} {more : List Piece}
    (read : pieces text = .literal found :: more) : referencePattern.ways text = [] := by
  cases text with
  | nil => rfl
  | cons c rest =>
      by_cases dollar : c = '$'
      · subst dollar
        by_cases nameless : rest.takeWhile isNameChar = []
        · have noName := ways_repeated_one_eq_nil isNameChar nameless
          simp [referencePattern, noName]
        · rw [pieces, if_neg nameless] at read
          cases read
      · simp [referencePattern, dollar]

theorem head?_ways_referencePattern {rest : List Char} (named : rest.takeWhile isNameChar ≠ []) :
    (referencePattern.ways ('$' :: rest)).head? =
      some (⟨'$' :: rest.takeWhile isNameChar, [(1, rest.takeWhile isNameChar)]⟩,
        rest.dropWhile isNameChar) := by
  have name := head?_ways_group (head?_ways_repeated_one isNameChar named) 1
  have sign : (Pattern.one (· = '$')).ways ('$' :: rest) = [(⟨['$'], []⟩, rest)] := rfl
  rw [referencePattern, ways_both_of_eq sign, List.head?_map, name]
  rfl

end References

/-- The match that a piece is. -/
def Piece.found : Piece → Match
  | .reference name => ⟨'$' :: name, [(1, name)]⟩
  | .literal text => ⟨text, [(2, text)]⟩

theorem head?_ways_formatPattern {text : List Char} {piece : Piece} {more : List Piece}
    (read : pieces text = piece :: more) :
    ∃ rest, (formatPattern.ways text).head? = some (piece.found, rest) ∧
      rest.length < text.length ∧ pieces rest = more := by
  cases piece with
  | literal found =>
      have units := unitsRead_pieces text
      rw [read] at units
      obtain ⟨rest, first, shorter, same⟩ := units
      refine ⟨rest, ?_, shorter, same⟩
      rw [formatPattern, ways_either, ways_referencePattern_of_literal read, List.nil_append]
      exact head?_ways_group first 2
  | reference name =>
      obtain ⟨rest, rfl, rfl, named, same⟩ := eq_dollar_cons_of_pieces read
      exact ⟨rest.dropWhile isNameChar, head?_ways_either (head?_ways_referencePattern named),
        length_dropWhile_lt _ _, same⟩

/-- Pieces as matches, from a place on. -/
def placed (start : Nat) : List Piece → List Found
  | [] => []
  | piece :: rest => ⟨start, piece.found⟩ :: placed (start + piece.written.length) rest

theorem ways_formatPattern_nil : formatPattern.ways [] = [] := by
  have noText := ways_repeated_eq_nil ways_unitPattern_nil
  simp [formatPattern, referencePattern, freeTextPattern, noText]

theorem written_eq_text (piece : Piece) : piece.written = piece.found.text := by
  cases piece <;> rfl

theorem findFrom_formatPattern {all : List Piece} {text : List Char} (read : pieces text = all)
    (start : Nat) : formatPattern.findFrom start false text = placed start all := by
  induction all generalizing text start with
  | nil =>
      have written := written_pieces text
      rw [read] at written
      subst written
      exact findFrom_nil ways_formatPattern_nil start
  | cons piece more inductionHypothesis =>
      obtain ⟨rest, first, shorter, same⟩ := head?_ways_formatPattern read
      rw [findFrom_of_head? first shorter, inductionHypothesis same, placed, written_eq_text]

section Pieces

def Piece.name? : Piece → Option (List Char)
  | .reference name => some name
  | .literal _ => none

def Piece.isLiteral : Piece → Bool
  | .reference _ => false
  | .literal _ => true

theorem filterMap_name?_growText (text : List Char) (rest : List Piece) :
    (growText text rest).filterMap Piece.name? = rest.filterMap Piece.name? := by
  unfold growText
  split <;> rfl

/-- Pieces and tokens split a text at different places, but refer to the same names. -/
theorem filterMap_name?_pieces (text : List Char) :
    (pieces text).filterMap Piece.name? = names (scan text) := by
  fun_induction pieces text with
  | case1 => rw [scan]; rfl
  | case2 => rw [scan]; rfl
  | case3 c rest inductionHypothesis =>
      rw [scan, filterMap_name?_growText, inductionHypothesis]
      rfl
  | case4 rest nameless inductionHypothesis =>
      rw [scan, if_pos nameless, filterMap_name?_growText, inductionHypothesis]
      rfl
  | case5 rest named inductionHypothesis =>
      rw [scan, if_neg named]
      exact congrArg (_ :: ·) inductionHypothesis
  | case6 c rest noEnd noEscape noDollar inductionHypothesis =>
      rw [scan_plain (ne_backslash noEnd noEscape) noDollar, filterMap_name?_growText,
        inductionHypothesis]
      rfl

/-- No two of them side by side are free text. -/
def NoneAdjacent (flags : List Bool) : Prop :=
  flags.IsChain fun first second => ¬(first = true ∧ second = true)

theorem noneAdjacent_growText {rest : List Piece}
    (apart : NoneAdjacent (rest.map Piece.isLiteral)) (text : List Char) :
    NoneAdjacent ((growText text rest).map Piece.isLiteral) := by
  unfold growText
  split
  · exact apart
  · rename_i noText
    apply List.IsChain.cons apart
    intro flag first
    cases rest with
    | nil => cases first
    | cons next more =>
        cases next with
        | reference name =>
            cases first
            exact fun both => Bool.false_ne_true both.2
        | literal found => exact absurd rfl (noText found more)

theorem noneAdjacent_pieces (text : List Char) :
    NoneAdjacent ((pieces text).map Piece.isLiteral) := by
  fun_induction pieces text with
  | case1 => exact .nil
  | case2 => exact .singleton _
  | case3 c rest inductionHypothesis => exact noneAdjacent_growText inductionHypothesis _
  | case4 rest nameless inductionHypothesis => exact noneAdjacent_growText inductionHypothesis _
  | case5 rest named inductionHypothesis =>
      apply List.IsChain.cons inductionHypothesis
      exact fun _ _ both => Bool.false_ne_true both.1
  | case6 c rest noEnd noEscape noDollar inductionHypothesis =>
      exact noneAdjacent_growText inductionHypothesis _

end Pieces

section Placed

/-- A match of free text, by the group that it fills. -/
def isFreeText (found : Found) : Bool := (found.group? 2).isSome

theorem contiguous_placed (start : Nat) (all : List Piece) :
    Contiguous start (placed start all) (start + (all.flatMap Piece.written).length) := by
  induction all generalizing start with
  | nil => rfl
  | cons piece rest inductionHypothesis =>
      refine ⟨rfl, ?_⟩
      rw [Found.stop, Found.text, ← written_eq_text, List.flatMap_cons, List.length_append,
        ← Nat.add_assoc]
      exact inductionHypothesis (start + piece.written.length)

theorem flatMap_text_placed (start : Nat) (all : List Piece) :
    (placed start all).flatMap Found.text = all.flatMap Piece.written := by
  induction all generalizing start with
  | nil => rfl
  | cons piece rest inductionHypothesis =>
      rw [placed, List.flatMap_cons, List.flatMap_cons, inductionHypothesis, written_eq_text]
      rfl

theorem filterMap_group?_placed (start : Nat) (all : List Piece) :
    ((placed start all).filterMap fun found => found.group? 1) =
      all.filterMap Piece.name? := by
  induction all generalizing start with
  | nil => rfl
  | cons piece rest inductionHypothesis =>
      have later := inductionHypothesis (start + piece.written.length)
      cases piece with
      | reference name => exact congrArg (name :: ·) later
      | literal text => exact later

theorem isFreeText_placed (start : Nat) (all : List Piece) :
    (placed start all).map isFreeText = all.map Piece.isLiteral := by
  induction all generalizing start with
  | nil => rfl
  | cons piece rest inductionHypothesis =>
      have later := inductionHypothesis (start + piece.written.length)
      cases piece with
      | reference name => exact congrArg (false :: ·) later
      | literal text => exact congrArg (true :: ·) later

end Placed

/-- The matches of the expression in any text are the pieces of it. They follow each other without
gaps from its start to its end and give it back, no two of free text are neighbours, and the names
in them are those that the text refers to, also in the eyes of the scanner, which loses nothing
either. -/
theorem findAll_formatPattern (text : String) :
    formatPattern.findAll text.toList = placed 0 (pieces text.toList) ∧
      Contiguous 0 (formatPattern.findAll text.toList) text.length ∧
      (formatPattern.findAll text.toList).flatMap Found.text = text.toList ∧
      NoneAdjacent ((formatPattern.findAll text.toList).map isFreeText) ∧
      ((formatPattern.findAll text.toList).filterMap fun found => found.group? 1) =
        (references text).map (fun reference => reference.toList.drop 1) ∧
      Token.joined (scan text.toList) = text.toList := by
  have found : formatPattern.findAll text.toList = placed 0 (pieces text.toList) :=
    findFrom_formatPattern rfl 0
  rw [found]
  refine ⟨rfl, ?_, ?_, ?_, ?_, joined_scan text.toList⟩
  · have whole := contiguous_placed 0 (pieces text.toList)
    rw [written_pieces, Nat.zero_add, String.length_toList] at whole
    exact whole
  · rw [flatMap_text_placed, written_pieces]
  · rw [isFreeText_placed]
    exact noneAdjacent_pieces text.toList
  · rw [filterMap_group?_placed, filterMap_name?_pieces, references, List.map_map]
    simp [Function.comp_def]

end ShellPrompt.Config
