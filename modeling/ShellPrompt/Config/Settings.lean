import ShellPrompt.Theme.Palette

/-!
The settings of a configuration beside its modules. What is left out is `none`.
-/

namespace ShellPrompt.Config

structure Settings where
  addNewline : Option Bool := none
  commandTimeout : Option Int := none
  scanTimeout : Option Int := none
  palette : Option String := none
  rightFormat : Option String := none
  continuationPrompt : Option String := none
  palettes : OrderedMap String Palette := .empty
  deriving DecidableEq, Inhabited

/-- The settings with the theme's palette among theirs and selected. A theme without a palette, or
without a name to hold it under, changes nothing. -/
def Settings.embed (settings : Settings) (theme : Theme) : Settings :=
  match theme.sharedPalette?, theme.paletteName? with
  | some palette, some name =>
      if palette.isEmpty then settings
      else { settings with palette := some name, palettes := settings.palettes.insert name palette }
  | _, _ => settings

end ShellPrompt.Config
