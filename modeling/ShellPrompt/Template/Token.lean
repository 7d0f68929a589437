/-!
The tokens of a prompt template: characters behind a backslash, `$name` references, and single
characters. Every text is a sequence of tokens, and the texts of its tokens give it back.
-/

namespace ShellPrompt.Template

def isNameChar (c : Char) : Bool := c.isAlphanum || c == '_'

inductive Token where
  /-- A backslash and the character behind it, if the text goes on. -/
  | escape (c : Option Char)
  | reference (name : List Char)
  | plain (c : Char)
  deriving DecidableEq, Repr

namespace Token

def text : Token → List Char
  | .escape none => ['\\']
  | .escape (some c) => ['\\', c]
  | .reference name => '$' :: name
  | .plain c => [c]

def name? : Token → Option (List Char)
  | .reference name => some name
  | _ => none

def joined (tokens : List Token) : List Char := tokens.flatMap text

end Token

theorem length_dropWhile_lt {c : Char} (test : Char → Bool) (text : List Char) :
    (text.dropWhile test).length < (c :: text).length := by
  have := (List.dropWhile_sublist (p := test) (l := text)).length_le
  simp only [List.length_cons]
  omega

/-- The tokens of a text. A dollar sign that no name follows is a character like any other. -/
def scan : List Char → List Token
  | [] => []
  | ['\\'] => [.escape none]
  | '\\' :: c :: rest => .escape (some c) :: scan rest
  | '$' :: rest =>
      if rest.takeWhile isNameChar = [] then .plain '$' :: scan rest
      else .reference (rest.takeWhile isNameChar) :: scan (rest.dropWhile isNameChar)
  | c :: rest => .plain c :: scan rest
termination_by text => text.length
decreasing_by
  all_goals first
    | exact length_dropWhile_lt _ _
    | simp only [List.length_cons]; omega

theorem joined_scan (text : List Char) : Token.joined (scan text) = text := by
  fun_induction scan text with
  | case1 => rfl
  | case2 => rfl
  | case3 c rest inductionHypothesis =>
      simpa [Token.joined, Token.text] using inductionHypothesis
  | case4 rest nameless inductionHypothesis =>
      simpa [Token.joined, Token.text] using inductionHypothesis
  | case5 rest _ inductionHypothesis =>
      simp only [Token.joined, List.flatMap_cons, Token.text] at inductionHypothesis ⊢
      rw [inductionHypothesis, List.cons_append, List.takeWhile_append_dropWhile]
  | case6 c rest _ _ _ inductionHypothesis =>
      simpa [Token.joined, Token.text] using inductionHypothesis

def names (tokens : List Token) : List (List Char) := tokens.filterMap Token.name?

def references (text : String) : List String :=
  (names (scan text.toList)).map fun name => String.ofList ('$' :: name)

end ShellPrompt.Template
