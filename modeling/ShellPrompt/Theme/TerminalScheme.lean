import ShellPrompt.Theme

/-!
Themes from the colour schemes of terminals: a scheme gives colours under the names that terminals
use, and whatever it leaves out is as in the default theme.
-/

namespace ShellPrompt

/-- The names under which a scheme may hold the colour of a slot; the first one set counts. -/
def Slot.schemeNames : Slot → List String
  | .bg => ["background"]
  | .fg => ["foreground"]
  | .black => ["black"]
  | .red => ["red"]
  | .green => ["green"]
  | .yellow => ["yellow"]
  | .blue => ["blue"]
  | .purple => ["purple", "magenta"]
  | .cyan => ["cyan"]
  | .white => ["white"]
  | .orange => ["brightYellow", "yellow"]
  | .gray => ["brightBlack"]

namespace Theme

/-- A scheme holds something other than a text where a colour belongs. -/
structure UnusableColor where
  slot : Slot
  deriving DecidableEq, Repr

def firstSet? (scheme : List (Value × Value)) (names : List String) : Option Value :=
  names.findSome? fun name => (Value.field? name scheme).filter Value.isSet

def schemeColor (scheme : List (Value × Value)) (slot : Slot) : Except UnusableColor String :=
  match firstSet? scheme slot.schemeNames with
  | none => .ok (default.colors slot)
  | some (.text color) => .ok (hashColor color)
  | some _ => .error ⟨slot⟩

def ofTerminalScheme (name : String) (scheme : List (Value × Value)) :
    Except UnusableColor Theme := do
  let color := schemeColor scheme
  let colors := Colors.ofHex (← color .bg) (← color .fg) (← color .black) (← color .red)
    (← color .green) (← color .yellow) (← color .blue) (← color .purple) (← color .cyan)
    (← color .white) (← color .orange) (← color .gray)
  return { name := .text name, colors }

end Theme

end ShellPrompt
