import ShellPrompt.Proofs.Text.Words
import ShellPrompt.Style.Parse

/-!
Style strings one behind the other. Blanks keep their words apart, and as later words count over
earlier ones, the style of the second string lies over that of the first.
-/

namespace ShellPrompt

namespace Style

/-- What words set lies over the style in front of them. -/
theorem foldl_above (theme : Option Theme) (words : List String) (base : Style) :
    words.foldl (fun style word => (ofWord theme word).above style) base =
      (words.foldl (fun style word => (ofWord theme word).above style) {}).above base := by
  induction words generalizing base with
  | nil => exact (empty_above base).symm
  | cons word words inductionHypothesis =>
      rw [List.foldl_cons, inductionHypothesis, List.foldl_cons,
        inductionHypothesis ((ofWord theme word).above {}), above_empty, above_assoc]

theorem parse_append_blank (theme : Option Theme) (first second : String) :
    parse theme (first ++ " " ++ second) = (parse theme second).above (parse theme first) := by
  rw [parse, Text.wordsOf_append_blank, List.foldl_append, foldl_above]
  rfl

end Style

end ShellPrompt
