import ShellPrompt.CommandLine.Invocation
import ShellPrompt.Config.Storage
import ShellPrompt.Preferences
import ShellPrompt.Preview
import ShellPrompt.Registry.Standard
import ShellPrompt.Terminal.Console
import ShellPrompt.Theme.Catalog

/-!
Running a command line: what it writes to the two output streams, its exit status, and the files
that it leaves behind. A run ends with a status unless one of the faults below stops it.

Left out is what the program takes from the system that runs it: a bound on how deeply values may
lie in each other, and texts with halves of surrogate pairs, which an escape in a JSON or YAML file
can make and which cannot be written to the output or to a file. Here the replacement character
stands for such a half.
-/

namespace ShellPrompt.CommandLine

structure Ended where
  status : Nat
  output : String := ""
  errors : String := ""
  files : Files

/-- What stops a run before its end. -/
inductive Fault where
  | themesFile (fault : Theme.Catalog.LoadFault)
  | preferences (fault : Preferences.LoadFault)
  | scheme (fault : Theme.Catalog.AdoptFault)
  | themeName (fault : Theme.UnusableName)
  | config (fault : Undecodable)
  | configValue (fault : LongInteger)
  | starter (fault : UnknownModule)
  | preview (fault : LongInteger)
  | color (fault : Terminal.BrokenColor)
  | text (fault : UnwritableValue)
  | output (fault : Config.SaveFault)

def doneStatus : Nat := 0

def invalidConfigStatus : Nat := 1

def invalidThemeStatus : Nat := 2

/-- The end of a run that changes no file, with a complaint. -/
def complain (host : Host) (status : Nat) (complaint : String) : Ended :=
  { status, errors := Terminal.shownLine ("❌ " ++ complaint), files := host.files }

/-- A step of a run, which may end it. -/
abbrev Step (α : Type) := Report Fault (Except Ended α)

def Step.goOn {α : Type} (value : α) : Step α := Report.noted [] (.ok value)

def Step.stop {α : Type} (ended : Ended) : Step α := Report.noted [] (.error ended)

/-- Goes on with a step's result, unless the step has ended the run. -/
def Step.andThen {α : Type} (step : Step α) (next : α → Report Fault Ended) :
    Report Fault Ended :=
  step.bind fun result =>
    match result with
    | .ok value => next value
    | .error ended => pure ended

def preferred? (preferences : List (Value × Value)) (name : String) : Option Value :=
  (Value.field? name preferences).filter Value.isSet

def nonempty? (given : Option String) : Option Value :=
  (given.filter fun text => text != "").map .text

def adoptTheme (host : Host) (catalog : Theme.Catalog) (path : Path) : Step Theme :=
  let adopted := catalog.adoptFile host path
  match adopted.outcome with
  | .ok (_, some theme) => Report.noted adopted.warnings (.ok theme)
  | .ok (_, none) =>
      Report.noted adopted.warnings (.error (complain host invalidThemeStatus schemeHint))
  | .error (.read (.file fault)) =>
      Report.noted adopted.warnings (.error (complain host invalidThemeStatus
        ("Could not read theme file: " ++ fault.message)))
  | .error fault => { warnings := adopted.warnings, outcome := .error (.scheme fault) }

def findTheme (host : Host) (catalog : Theme.Catalog) (name : Value) : Step Theme :=
  match catalog.find name with
  | .error fault => Report.fail (.themeName fault)
  | .ok (some theme) => Step.goOn theme
  | .ok none =>
      Step.stop (complain host invalidThemeStatus
        ("Unknown theme '" ++ name.toText ++ "'. Available: " ++
          ", ".intercalate catalog.names))

/-- The theme of a run: by a file, or by a name given, preferred or built in. -/
def selectTheme (host : Host) (catalog : Theme.Catalog) (preferences : List (Value × Value))
    (choice : ThemeChoice) : Step Theme :=
  match choice.file with
  | some path => adoptTheme host catalog path
  | none =>
      findTheme host catalog
        (((nonempty? choice.name).or (preferred? preferences "theme")).getD Theme.default.name)

/-- The configuration of a run. Where none was named and there is none, the starter modules make up
one. -/
def selectConfig (host : Host) (registry : Registry) (given : Option Path) :
    Step Config.Parsed :=
  let path := given.getD (Config.location host)
  let refuse := fun complaint => Step.stop (complain host invalidConfigStatus complaint)
  if host.holds path then
    let loaded := Config.load host path registry
    match loaded.outcome with
    | .ok parsed => Report.noted loaded.warnings (.ok parsed)
    | .error (.parse (.invalid fault)) => refuse fault.message
    | .error (.parse (.long fault)) =>
        { warnings := loaded.warnings, outcome := .error (.configValue fault) }
    | .error (.read (.file fault)) => refuse ("Could not load config: " ++ fault.message)
    | .error (.read (.undecodable fault)) => Report.fail (.config fault)
  else if given.isSome then refuse ("Config not found: " ++ path.toText)
  else
    match Config.starterModules registry with
    | .error fault => Report.fail (.starter fault)
    | .ok modules => Step.goOn { modules, settings := { addNewline := some true } }

/-- The surroundings of a preview: those given, those preferred, or home. -/
def surroundings? (preferences : List (Value × Value)) (id : Option String) :
    Option Preview.Context :=
  let wanted := ((nonempty? id).or (preferred? preferences "context")).getD
    (.text Preview.Context.home.id)
  wanted.asText?.bind Preview.Context.find?

/-- What a preview shows: the modules in the theme, with the palette that the settings select. -/
def previewed (registry : Registry) (theme : Theme) (parsed : Config.Parsed)
    (context : Preview.Context) : Report LongInteger (List Segment) :=
  let shown := theme.withPalette parsed.settings.palette parsed.settings.palettes
  Preview.renderPrompt parsed.modules registry (some shown) context

def preview (host : Host) (registry : Registry) (preferences : List (Value × Value))
    (theme : Theme) (parsed : Config.Parsed) (id : Option String) : Report Fault Ended :=
  match surroundings? preferences id with
  | none =>
      let shown := ((Value.field? "context" preferences).map Value.toText).getD ""
      pure (complain host invalidThemeStatus ("Unknown preview context '" ++ shown ++ "'"))
  | some context => do
      let segments ← (previewed registry theme parsed context).mapFault .preview
      let styled ← Report.ofExcept ((Terminal.StyledText.ofSegments segments).mapError .color)
      pure {
        status := doneStatus
        output := Terminal.shownLine (String.ofList styled.plain)
        files := host.files }

/-- The settings to write, with the palette of the theme if it is to be embedded, and a complaint
if it has none. -/
def writtenSettings (theme : Theme) (settings : Config.Settings) (embed : Bool) :
    Config.Settings × String :=
  if embed then
    let complaint :=
      if (theme.palette.map OrderedMap.isEmpty).getD true then
        Terminal.shownLine ("⚠️ Theme '" ++ theme.name.toText ++ "' has no palette to embed")
      else ""
    (settings.embed theme, complaint)
  else (settings, "")

/-- Writes the configuration anew, to a file or to the output. -/
def write (host : Host) (theme : Theme) (parsed : Config.Parsed) (output : Option Path)
    (embed : Bool) : Report Fault Ended := do
  let (settings, errors) := writtenSettings theme parsed.settings embed
  match output with
  | some path =>
      let (files, saved) := Config.save host path parsed.modules settings
      saved.mapFault .output
      pure {
        status := doneStatus
        output := Terminal.shownLine ("✅ Exported to: " ++ path.toText)
        errors, files }
  | none =>
      let text ← (Config.generate parsed.modules settings).mapFault .text
      pure { status := doneStatus, output := Terminal.shown text, errors, files := host.files }

def withThemeAndConfig (host : Host) (catalog : Theme.Catalog)
    (preferences : List (Value × Value)) (choice : ThemeChoice) (config : Option Path)
    (next : Registry → Theme → Config.Parsed → Report Fault Ended) : Report Fault Ended :=
  (selectTheme host catalog preferences choice).andThen fun theme =>
    (selectConfig host Registry.standard config).andThen fun parsed =>
      next Registry.standard theme parsed

def paths (host : Host) (invocation : Invocation) : List Path :=
  let always := Preferences.location host :: invocation.themesFile.toList
  let configs := fun (given : Option Path) =>
    match given with
    | some path => [path]
    | none => Config.location host :: Config.candidates host
  match invocation.command with
  | .themes => always
  | .preview config choice _ => always ++ choice.file.toList ++ configs config
  | .write config choice output _ =>
      always ++ choice.file.toList ++ configs config ++ output.toList

/-- What a run does for its command, with the themes and the preferences that it has loaded. -/
def proceed (host : Host) (catalog : Theme.Catalog) (preferences : List (Value × Value)) :
    Command → Report Fault Ended
  | .themes =>
      pure {
        status := doneStatus
        output := String.join (catalog.names.map Terminal.shownLine)
        files := host.files }
  | .preview config choice context =>
      withThemeAndConfig host catalog preferences choice config fun registry theme parsed =>
        preview host registry preferences theme parsed context
  | .write config choice output embed =>
      withThemeAndConfig host catalog preferences choice config fun _ theme parsed =>
        write host theme parsed output embed

def run (host : Host) (invocation : Invocation) : Report Fault Ended := do
  let catalog ← (Theme.Catalog.load host invocation.themesFile).mapFault .themesFile
  let preferences ← (Preferences.load host (Preferences.location host)).mapFault .preferences
  proceed host catalog preferences invocation.command

end ShellPrompt.CommandLine
