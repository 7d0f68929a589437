import ShellPrompt.Module
import ShellPrompt.Template.Token

/-!
The master format of a prompt: module names with a dollar sign in front, and free text between
them. A text that ends in an open escape is closed, so that it cannot swallow the dollar sign of
the module behind it.
-/

namespace ShellPrompt.Config

inductive Piece where
  | reference (type : List Char)
  | literal (text : List Char)
  deriving DecidableEq, Repr

def Piece.written : Piece → List Char
  | .reference type => '$' :: type
  | .literal text => text

/-- Puts free text in front of pieces, as one piece with free text that is there. -/
def growText (text : List Char) : List Piece → List Piece
  | .literal rest :: pieces => .literal (text ++ rest) :: pieces
  | pieces => .literal text :: pieces

/-- The pieces of a master format. No two texts are neighbours. -/
def pieces : List Char → List Piece
  | [] => []
  | ['\\'] => [.literal ['\\']]
  | '\\' :: c :: rest => growText ['\\', c] (pieces rest)
  | '$' :: rest =>
      if rest.takeWhile Template.isNameChar = [] then growText ['$'] (pieces rest)
      else .reference (rest.takeWhile Template.isNameChar) ::
        pieces (rest.dropWhile Template.isNameChar)
  | c :: rest => growText [c] (pieces rest)
termination_by text => text.length
decreasing_by
  all_goals first
    | exact Template.length_dropWhile_lt _ _
    | simp only [List.length_cons]; omega

theorem written_growText (text : List Char) (rest : List Piece) :
    (growText text rest).flatMap Piece.written = text ++ rest.flatMap Piece.written := by
  unfold growText
  split <;> simp [Piece.written]

/-- The pieces of a text give it back. -/
theorem written_pieces (text : List Char) : (pieces text).flatMap Piece.written = text := by
  fun_induction pieces text with
  | case1 => rfl
  | case2 => rfl
  | case3 c rest inductionHypothesis => simp [written_growText, inductionHypothesis]
  | case4 rest _ inductionHypothesis => simp [written_growText, inductionHypothesis]
  | case5 rest _ inductionHypothesis =>
      simp only [List.flatMap_cons, Piece.written, inductionHypothesis, List.cons_append,
        List.takeWhile_append_dropWhile]
  | case6 c rest _ _ _ inductionHypothesis => simp [written_growText, inductionHypothesis]

def trailingEscapes (text : List Char) : Nat := (text.reverse.takeWhile (· = '\\')).length

/-- The text with an odd run of backslashes at its end made even. -/
def closeEscape (text : List Char) : List Char :=
  if trailingEscapes text % 2 = 1 then text ++ ['\\'] else text

def formatPart (mod : Module) : List Char :=
  if mod.isLineBreak then '$' :: Module.lineBreakType.toList
  else if mod.isText then closeEscape mod.freeText.toList
  else '$' :: mod.type.toList

def masterFormat (modules : List Module) : String := String.ofList (modules.flatMap formatPart)

/-- Whether the master format can be written: what stands for free text has a text. -/
def hasFormat (modules : List Module) : Bool :=
  modules.all fun mod => !mod.isText || mod.freeValue.isWritable

end ShellPrompt.Config
