import ShellPrompt.Text.Lower
import ShellPrompt.Text.Words
import ShellPrompt.Theme

/-!
Moving palettes between themes and configurations: what a theme contributes, under which name, and
how a configuration's palette takes the place of a theme's own.
-/

namespace ShellPrompt.Theme

/-- The entries of the theme's palette that hold a colour, if the palette has entries at all. -/
def sharedPalette? (theme : Theme) : Option Palette :=
  match theme.palette with
  | none => none
  | some palette =>
      if palette.isEmpty then none else some (palette.filterValues fun color => color != "")

def slug (name : String) : String := "_".intercalate (Text.wordsOf (Text.lower name))

/-- The key under which a configuration holds the theme's palette. Only a theme whose name is a
text has one. -/
def paletteName? (theme : Theme) : Option String := theme.name.asText?.map slug

/-- The theme with the palette that a configuration selects among its own, if it selects one. The
colours of the slots stay. -/
def withPalette (theme : Theme) (selected : Option String)
    (palettes : OrderedMap String Palette) : Theme :=
  match selected with
  | none => theme
  | some name =>
      if name = "" then theme
      else
        match palettes.get? name with
        | none => theme
        | some palette => { theme with name := .text name, palette := some palette }

end ShellPrompt.Theme
