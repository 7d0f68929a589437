import ShellPrompt.Proofs.Config.FreeText
import ShellPrompt.Proofs.Config.Pattern

/-!
Master formats that are written again from the modules read from them. Where every name in a format
stands for a module nothing is lost on the way, and an escape that is open at the end is closed.
-/

namespace ShellPrompt.Config

open Template

section Closing

theorem closed_growText {text : List Char} (even : trailingEscapes text % 2 = 0)
    (rest : List Piece) :
    (growText text rest).flatMap Piece.closed = text ++ rest.flatMap Piece.closed := by
  unfold growText
  split
  · rw [List.flatMap_cons, List.flatMap_cons, Piece.closed, Piece.closed, closeEscape_append even,
      List.append_assoc]
  · rw [List.flatMap_cons, Piece.closed, closeEscape_of_even even]

/-- Of the pieces of a text only the last one can end in an open escape. -/
theorem flatMap_closed_pieces (text : List Char) :
    (pieces text).flatMap Piece.closed = closeEscape text := by
  fun_induction pieces text with
  | case1 => rfl
  | case2 => rfl
  | case3 c rest inductionHypothesis =>
      rw [closed_growText (trailingEscapes_escape c), inductionHypothesis, closeEscape_escape]
      rfl
  | case4 rest nameless inductionHypothesis =>
      rw [closed_growText rfl, inductionHypothesis, closeEscape_cons (by decide)]
      rfl
  | case5 rest named inductionHypothesis =>
      rw [List.flatMap_cons, inductionHypothesis, closeEscape_cons (by decide),
        closeEscape_eq_takeWhile_append rest]
      rfl
  | case6 c rest noEnd noEscape noDollar inductionHypothesis =>
      have plain := ne_backslash noEnd noEscape
      rw [closed_growText (trailingEscapes_plain plain), inductionHypothesis,
        closeEscape_cons plain]
      rfl

end Closing

section Pieces
variable {data : Data} {registry : Registry}

/-- A module that was made of a piece is written as that piece again. -/
theorem pieceOf_of_ofPiece? (noText : Module.textType ∉ registry.names) {piece : Piece}
    {mod : Module} (made : ofPiece? data registry piece = some mod) : pieceOf mod = piece := by
  cases piece with
  | literal text =>
      cases made
      rw [pieceOf_ofText, String.toList_ofList]
  | reference name =>
      obtain ⟨sameType, other⟩ := not_isText_of_named noText made
      rw [pieceOf, if_neg other, sameType, String.toList_ofList]

theorem isSome_ofPiece? {piece : Piece}
    (known : ∀ name, piece.name? = some name →
      String.ofList name = Module.lineBreakType ∨ String.ofList name ∈ registry.names) :
    (ofPiece? data registry piece).isSome := by
  cases piece with
  | literal text => rfl
  | reference name => exact isSome_named? (known name rfl)

theorem map_pieceOf_pieceModules (noText : Module.textType ∉ registry.names) {all : List Piece}
    (known : ∀ name ∈ all.filterMap Piece.name?,
      String.ofList name = Module.lineBreakType ∨ String.ofList name ∈ registry.names) :
    (pieceModules data registry all).map pieceOf = all := by
  induction all with
  | nil => rfl
  | cons piece rest inductionHypothesis =>
      have first : (ofPiece? data registry piece).isSome :=
        isSome_ofPiece? fun name named =>
          known name (List.mem_filterMap.mpr ⟨piece, List.mem_cons_self, named⟩)
      have later : (pieceModules data registry rest).map pieceOf = rest := by
        refine inductionHypothesis fun name member => known name ?_
        obtain ⟨other, inRest, named⟩ := List.mem_filterMap.mp member
        exact List.mem_filterMap.mpr ⟨other, .tail _ inRest, named⟩
      obtain ⟨mod, made⟩ := Option.isSome_iff_exists.mp first
      rw [pieceModules_cons, made, Option.toList_some, List.singleton_append, List.map_cons,
        pieceOf_of_ofPiece? noText made, later]

end Pieces

end ShellPrompt.Config
