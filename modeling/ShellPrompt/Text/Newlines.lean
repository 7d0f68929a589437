/-!
Line ends of text files: whatever ends a line in a file, a line feed ends it in the text.
-/

namespace ShellPrompt.Text

/-- Turns carriage returns, alone or before a line feed, into line feeds. -/
def unifyNewlines : List Char → List Char
  | '\r' :: '\n' :: rest => '\n' :: unifyNewlines rest
  | '\r' :: rest => '\n' :: unifyNewlines rest
  | c :: rest => c :: unifyNewlines rest
  | [] => []

theorem unifyNewlines_eq_self {text : List Char} (plain : '\r' ∉ text) :
    unifyNewlines text = text := by
  fun_induction unifyNewlines text with
  | case1 => simp at plain
  | case2 => simp at plain
  | case3 c rest _ _ inductionHypothesis =>
      rw [inductionHypothesis fun member => plain (List.mem_cons_of_mem c member)]
  | case4 => rfl

/-- The text of a file with the given content, if that is valid UTF-8. -/
def ofFile? (content : ByteArray) : Option String :=
  (String.fromUTF8? content).map fun text => String.ofList (unifyNewlines text.toList)

end ShellPrompt.Text
