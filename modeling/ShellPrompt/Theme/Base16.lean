import ShellPrompt.Theme

/-!
Themes from Base16 and Base24 schemes. A scheme is a map with a palette, in which each of sixteen
keys has a colour; a Base24 scheme may give colours under eight further keys. The theme keeps these
colours as its palette, and takes those of its slots from them.
-/

namespace ShellPrompt

/-- The key under which a scheme holds the colour of a slot. -/
def Slot.schemeKey : Slot → String
  | .bg => "base00"
  | .fg => "base05"
  | .black => "base01"
  | .red => "base08"
  | .green => "base0B"
  | .yellow => "base0A"
  | .blue => "base0D"
  | .purple => "base0E"
  | .cyan => "base0C"
  | .white => "base07"
  | .orange => "base09"
  | .gray => "base03"

namespace Theme

namespace Base16

/-- The keys that every scheme gives a colour. -/
def requiredKeys : List String :=
  ["base00", "base01", "base02", "base03", "base04", "base05", "base06", "base07",
    "base08", "base09", "base0A", "base0B", "base0C", "base0D", "base0E", "base0F"]

/-- The keys that only a Base24 scheme may give a colour. -/
def furtherKeys : List String :=
  ["base10", "base11", "base12", "base13", "base14", "base15", "base16", "base17"]

theorem schemeKey_mem_requiredKeys (slot : Slot) : slot.schemeKey ∈ requiredKeys := by
  cases slot <;> decide

inductive Defect where
  | noPalette
  | missingColors (keys : List String)
  deriving DecidableEq, Repr

def given? (key : String) (entries : List (Value × Value)) : Option Value :=
  (Value.field? key entries).filter Value.isSet

def givenOr (fallback key : String) (entries : List (Value × Value)) : Value :=
  (given? key entries).getD (.text fallback)

def isBase24 : Value → Bool
  | .text name => name = "base24"
  | _ => false

/-- The colours under some keys, each with a number sign in front. -/
def colorsUnder (keys : List String) (entries : List (Value × Value)) : List (String × String) :=
  keys.filterMap fun key => (given? key entries).map fun value => (key, hashColor value.toText)

def paletteOf (system : Value) (entries : List (Value × Value)) : Palette :=
  .ofList (colorsUnder (requiredKeys ++ if isBase24 system then furtherKeys else []) entries)

def themeOf (scheme entries : List (Value × Value)) : Theme :=
  let system := givenOr "base16" "system" scheme
  let palette := paletteOf system entries
  { name := givenOr "Custom Theme" "name" scheme
    colors := fun slot => (palette.get? slot.schemeKey).getD ""
    palette := some palette
    author := (Value.field? "author" scheme).getD .null
    variant := givenOr "dark" "variant" scheme
    system }

def missingKeys (entries : List (Value × Value)) : List String :=
  requiredKeys.filter fun key => (given? key entries).isNone

end Base16

open Base16 in
def ofScheme : Value → Except Defect Theme
  | .map scheme =>
      match Value.field? "palette" scheme with
      | some (.map entries) =>
          if missingKeys entries = [] then .ok (themeOf scheme entries)
          else .error (.missingColors (missingKeys entries))
      | _ => .error .noPalette
  | _ => .error .noPalette

end Theme

end ShellPrompt
