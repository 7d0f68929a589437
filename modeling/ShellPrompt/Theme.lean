import ShellPrompt.Value

/-!
Themes: a colour for each of twelve named slots, and possibly a palette of further named colours.
The details of a theme are the values that its scheme gave for them, whatever these are.
-/

namespace ShellPrompt

inductive Slot where
  | bg | fg | black | red | green | yellow | blue | purple | cyan | white | orange | gray
  deriving DecidableEq, Repr

namespace Slot

def all : List Slot :=
  [.bg, .fg, .black, .red, .green, .yellow, .blue, .purple, .cyan, .white, .orange, .gray]

theorem mem_all (slot : Slot) : slot ∈ all := by
  cases slot <;> decide

def name : Slot → String
  | .bg => "bg"
  | .fg => "fg"
  | .black => "black"
  | .red => "red"
  | .green => "green"
  | .yellow => "yellow"
  | .blue => "blue"
  | .purple => "purple"
  | .cyan => "cyan"
  | .white => "white"
  | .orange => "orange"
  | .gray => "gray"

def ofName? (name : String) : Option Slot := all.find? fun slot => slot.name = name

end Slot

abbrev Colors := Slot → String

def Colors.ofHex (bg fg black red green yellow blue purple cyan white orange gray : String) :
    Colors
  | .bg => bg
  | .fg => fg
  | .black => black
  | .red => red
  | .green => green
  | .yellow => yellow
  | .blue => blue
  | .purple => purple
  | .cyan => cyan
  | .white => white
  | .orange => orange
  | .gray => gray

abbrev Palette := OrderedMap String String

structure Theme where
  name : Value
  colors : Colors
  palette : Option Palette := none
  author : Value := .null
  variant : Value := .null
  system : Value := .null

namespace Theme

def builtIn (name : String) (colors : Colors) : Theme := { name := .text name, colors }

def default : Theme :=
  builtIn "Default" (.ofHex "#1e1e1e" "#d4d4d4" "#000000" "#ef4444" "#22c55e" "#eab308"
    "#3b82f6" "#a855f7" "#06b6d4" "#ffffff" "#f97316" "#6b7280")

instance : Inhabited Theme := ⟨default⟩

def catppuccinMocha : Theme :=
  builtIn "Catppuccin Mocha" (.ofHex "#1e1e2e" "#cdd6f4" "#45475a" "#f38ba8" "#a6e3a1" "#f9e2af"
    "#89b4fa" "#cba6f7" "#89dceb" "#bac2de" "#fab387" "#585b70")

def tokyoNight : Theme :=
  builtIn "Tokyo Night" (.ofHex "#1a1b26" "#c0caf5" "#414868" "#f7768e" "#9ece6a" "#e0af68"
    "#7aa2f7" "#bb9af7" "#7dcfff" "#a9b1d6" "#ff9e64" "#565f89")

def gruvboxDark : Theme :=
  builtIn "Gruvbox Dark" (.ofHex "#282828" "#ebdbb2" "#928374" "#cc241d" "#98971a" "#d79921"
    "#458588" "#b16286" "#689d6a" "#a89984" "#d65d0e" "#a89984")

def dracula : Theme :=
  builtIn "Dracula" (.ofHex "#282a36" "#f8f8f2" "#6272a4" "#ff5555" "#50fa7b" "#f1fa8c"
    "#bd93f9" "#ff79c6" "#8be9fd" "#f8f8f2" "#ffb86c" "#44475a")

def builtIns : List Theme := [default, catppuccinMocha, tokyoNight, gruvboxDark, dracula]

end Theme

/-- A colour with a number sign in front, unless it is empty or has one. -/
def hashColor (color : String) : String :=
  match color.toList with
  | [] => color
  | '#' :: _ => color
  | _ => "#" ++ color

end ShellPrompt
