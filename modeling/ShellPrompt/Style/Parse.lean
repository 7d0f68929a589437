import ShellPrompt.Style
import ShellPrompt.Theme.Palette

/-!
Style strings such as `bold red bg:#1e1e2e`: words that each set one attribute, with colours
resolved against a theme.
-/

namespace ShellPrompt

def slotAlias (name : String) : String := if name = "magenta" then "purple" else name

/-- A slot's colour if the name, in any letter case, is a slot's and the colour is not empty. -/
def namedColor? (colors : Colors) (token : String) : Option String :=
  match Slot.ofName? (slotAlias (Text.lower token)) with
  | none => none
  | some slot => if colors slot = "" then none else some (colors slot)

/-- The palette's colour under exactly this name, if it is not empty. -/
def paletteColor? (palette : Option Palette) (token : String) : Option String :=
  (palette.bind fun entries => entries.get? token).filter fun color => color != ""

/-- The colour that a word of a style string names: itself if it is a hexadecimal colour, else the
theme's slot of that name, else the entry of the theme's palette, else the default theme's slot,
else the word itself. -/
def resolveColor (theme : Option Theme) (token : String) : String :=
  match token.toList with
  | [] => "inherit"
  | '#' :: _ => token
  | _ =>
      ((theme.bind fun theme =>
          (namedColor? theme.colors token).or (paletteColor? theme.palette token)).or
        (namedColor? Theme.default.colors token)).getD token

namespace Style

def ofWord (theme : Option Theme) (word : String) : Style :=
  if word = "bold" then { bold := some true }
  else if word = "italic" then { italic := some true }
  else if word = "underline" then { underline := some true }
  else
    match word.toList with
    | 'b' :: 'g' :: ':' :: color =>
        { background := some (resolveColor theme (String.ofList color)) }
    | 'f' :: 'g' :: ':' :: color =>
        { foreground := some (resolveColor theme (String.ofList color)) }
    | _ => { foreground := some (resolveColor theme word) }

/-- The style that a style string describes. Later words count over earlier ones. -/
def parse (theme : Option Theme) (text : String) : Style :=
  (Text.wordsOf text).foldl (fun style word => (ofWord theme word).above style) {}

end Style

end ShellPrompt
