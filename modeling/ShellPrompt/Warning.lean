/-!
What a run warns of. A warning never stops anything: the part it speaks of is left out or ignored.
-/

namespace ShellPrompt

inductive Warning where
  /-- The format names a module that is not registered. -/
  | unknownModule (type : String)
  /-- A module's value is not a table. -/
  | notATable (type : String)
  /-- A property's value is of no kind that properties have. -/
  | unsupportedProperty (type key : String)
  /-- Only the first of several modules of one type gets a section. -/
  | repeatedModule (type : String)
  /-- A module cannot be shown in the preview. -/
  | unshownModule (type : String)
  | brokenScheme
  | schemeWithoutPalette
  | missingColors (keys : List String)
  | unusableScheme
  | missingThemesFile (path : String)
  | brokenThemesFile
  | themesFileWithoutMap (path : String)
  | unreadablePreferences
  | preferencesWithoutObject (path : String)
  deriving DecidableEq, Repr

/-- What to say when a colour scheme cannot be used. -/
def schemeHint : String :=
  "Invalid Base16 YAML. Please ensure it matches standard structure (palette: base00..base0F)."

def Warning.message : Warning → String
  | .unknownModule type => "Skipping unknown module '$" ++ type ++ "' in format"
  | .notATable type => "Ignoring non-table value for module '" ++ type ++ "'"
  | .unsupportedProperty type key => "Dropping unsupported value for " ++ type ++ "." ++ key
  | .repeatedModule type =>
      "Module '" ++ type ++ "' appears more than once; only the first section is written"
  | .unshownModule type =>
      "Skipping module in preview: No module definition for '" ++ type ++ "'"
  | .brokenScheme => "Failed to parse theme YAML"
  | .schemeWithoutPalette => "Invalid Base16/Base24 YAML format: no palette mapping"
  | .missingColors keys =>
      "Theme palette is missing required keys: " ++ ", ".intercalate keys
  | .unusableScheme => schemeHint
  | .missingThemesFile path => "Themes file not found: " ++ path
  | .brokenThemesFile => "Invalid themes JSON"
  | .themesFileWithoutMap path => "Themes file must map theme names to schemes: " ++ path
  | .unreadablePreferences => "Failed to load preferences"
  | .preferencesWithoutObject path =>
      "Ignoring preferences file without a JSON object: " ++ path

end ShellPrompt
