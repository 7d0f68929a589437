import ShellPrompt.Terminal.Text
import ShellPrompt.Text.Width

/-!
Text as it is written to a console that is no terminal: without the characters that a terminal
leaves out, and with tabs turned into blanks up to the next column that is a multiple of eight.
Lines that are longer than the console is wide are not broken here, although the program has those
of a preview and of a message broken, and only those of an exported configuration not.
-/

namespace ShellPrompt.Terminal

def tabSize : Nat := 8

/-- The blanks that a tab turns into behind some columns: at least one. -/
def tabBlanks (columns : Nat) : Nat := tabSize - columns % tabSize

def isTabOrBreak (c : Char) : Bool := c == '\t' || c == '\n'

/-- A text with its tabs turned into blanks, where its first line has some columns before it. -/
def expandFrom (columns : Nat) (text : List Char) : List Char :=
  let part := text.takeWhile fun c => !isTabOrBreak c
  match _behind : text.dropWhile fun c => !isTabOrBreak c with
  | [] => part
  | '\t' :: rest =>
      let reached := columns + Text.width part
      let blanks := tabBlanks reached
      part ++ List.replicate blanks ' ' ++ expandFrom (reached + blanks) rest
  | c :: rest => part ++ c :: expandFrom 0 rest
termination_by text.length
decreasing_by
  all_goals
    have := (List.dropWhile_sublist (p := fun c => !isTabOrBreak c) (l := text)).length_le
    rw [_behind, List.length_cons] at this
    omega

def expandTabs (text : List Char) : List Char := expandFrom 0 text

def shown (text : String) : String :=
  String.ofList (expandTabs (text.toList.filter fun c => !isDropped c))

/-- What a console shows of a text on lines of its own. -/
def shownLine (text : String) : String := shown text ++ "\n"

end ShellPrompt.Terminal
