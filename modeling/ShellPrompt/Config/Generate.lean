import ShellPrompt.Config.Format
import ShellPrompt.Config.Settings
import ShellPrompt.Report
import ShellPrompt.Toml.Sheet

/-!
Writing a configuration: the settings and the master format as top-level lines, a section for the
first module of every type, and the palettes. A module type that is a key already gets no section.
-/

namespace ShellPrompt.Config

def headerLines : List String := ["Starship Configuration", "Generated by Starship Architect"]

def optionalLine {α : Type} (key : String) (item : α → Toml.Item) (setting : Option α) :
    List Toml.Line :=
  match setting with
  | none => []
  | some value => [(key, item value)]

/-- A text setting that is there and not empty. -/
def filled (setting : Option String) : Option String := setting.filter fun text => text != ""

def topLines (modules : List Module) (settings : Settings) : List Toml.Line :=
  optionalLine "add_newline" .flag settings.addNewline ++
    optionalLine "command_timeout" .integer settings.commandTimeout ++
    optionalLine "scan_timeout" .integer settings.scanTimeout ++
    optionalLine "palette" .short (filled settings.palette) ++
    [("format", .long (masterFormat modules))] ++
    optionalLine "right_format" .long (filled settings.rightFormat) ++
    optionalLine "continuation_prompt" .short (filled settings.continuationPrompt)

/-- Whether the top-level lines can be written. -/
def hasTopLines (modules : List Module) (settings : Settings) : Bool :=
  settings.commandTimeout.all Text.isWritable && settings.scanTimeout.all Text.isWritable &&
    hasFormat modules

/-- The lines of a module's section, but for its first one. -/
def propertyLines : List (String × Value) → Except UnwritableValue (List Toml.Line)
  | [] => .ok []
  | (key, value) :: rest =>
      if key = "disabled" then propertyLines rest
      else
        match Toml.Item.ofValue value with
        | .error fault => .error fault
        | .ok item => (propertyLines rest).map fun lines => (key, item) :: lines

def moduleSection (mod : Module) : Except UnwritableValue Toml.Section :=
  (propertyLines mod.properties.entries).map fun lines =>
    ⟨[mod.type], ("disabled", .flag mod.disabled) :: lines⟩

/-- The sections of the modules whose type is not among the keys written before them. -/
def moduleSections (written : List String) :
    List Module → Report UnwritableValue (List Toml.Section)
  | [] => pure []
  | mod :: rest =>
      if mod.isLineBreak || mod.isText then moduleSections written rest
      else if written.contains mod.type then do
        Report.warn [.repeatedModule mod.type]
        moduleSections written rest
      else do
        let part ← Report.ofExcept (moduleSection mod)
        let parts ← moduleSections (mod.type :: written) rest
        pure (part :: parts)

def palettesKey : String := "palettes"

def paletteSection (entry : String × Palette) : Toml.Section :=
  ⟨[palettesKey, entry.1], entry.2.entries.map fun color => (color.1, .short color.2)⟩

def paletteSections (settings : Settings) : List Toml.Section :=
  settings.palettes.entries.map paletteSection

/-- The sections of a configuration. The palettes come last, or in place of a module that goes by
their key. -/
def arrange (parts palettes : List Toml.Section) : List Toml.SectionGroup :=
  if palettes = [] then parts.map fun part => { sections := [part] }
  else if parts.any fun part => part.path = [palettesKey] then
    parts.map fun part =>
      if part.path = [palettesKey] then { sections := palettes, spaced := true }
      else { sections := [part] }
  else (parts.map fun part => { sections := [part] }) ++ [{ sections := palettes }]

def sheet (modules : List Module) (settings : Settings) : Report UnwritableValue Toml.Sheet :=
  if hasTopLines modules settings then do
    let lines := topLines modules settings
    let parts ← moduleSections (lines.map Prod.fst) modules
    pure { comments := headerLines, lines, groups := arrange parts (paletteSections settings) }
  else Report.fail (.long {})

def generate (modules : List Module) (settings : Settings) : Report UnwritableValue String := do
  let written ← sheet modules settings
  pure (String.ofList written.write)

end ShellPrompt.Config
