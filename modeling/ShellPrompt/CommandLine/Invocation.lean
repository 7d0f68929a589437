import ShellPrompt.CommandLine.Arguments
import ShellPrompt.Files.Path
import ShellPrompt.Preview.Context

/-!
What a command line asks for: showing a prompt, writing its configuration anew, or listing the
themes.
-/

namespace ShellPrompt.CommandLine

/-- Which theme to use: that of a scheme in a file, or else one by its name. -/
structure ThemeChoice where
  file : Option Path := none
  name : Option String := none
  deriving DecidableEq, Repr

inductive Command where
  | preview (config : Option Path) (theme : ThemeChoice) (context : Option String)
  | write (config : Option Path) (theme : ThemeChoice) (output : Option Path) (embed : Bool)
  | themes
  deriving DecidableEq, Repr

structure Invocation where
  themesFile : Option Path := none
  command : Command
  deriving DecidableEq, Repr

inductive Choice where
  | verbose
  | themesFile (path : Path)
  | theme (name : String)
  | themeFile (path : Path)
  | context (id : String)
  | output (path : Path)
  | embed
  deriving DecidableEq, Repr

def helpSwitch : Switch Choice := ⟨["-h", "--help"], .help⟩

def globalSwitches : List (Switch Choice) :=
  [helpSwitch, ⟨["-v", "--verbose"], .alone .verbose⟩,
    ⟨["--themes-file"], .valued fun text => some (.themesFile (.ofText text))⟩]

def themeSwitches : List (Switch Choice) :=
  [⟨["--theme"], .valued fun text => some (.theme text)⟩,
    ⟨["--theme-file"], .valued fun text => some (.themeFile (.ofText text))⟩]

/-- The context option takes the names of the predefined surroundings only. -/
def contextSwitch : Switch Choice :=
  ⟨["--context"], .valued fun text =>
    (Preview.Context.find? text).map fun context => .context context.id⟩

def previewSwitches : List (Switch Choice) := helpSwitch :: (themeSwitches ++ [contextSwitch])

def exportSwitches : List (Switch Choice) :=
  helpSwitch ::
    ([⟨["-o", "--output"], .valued fun text => some (.output (.ofText text))⟩,
      ⟨["--embed-palette"], .alone .embed⟩] ++ themeSwitches)

/-- The last of the values that a reader finds among options. -/
def lastOf {α : Type} (read : Choice → Option α) (items : List (Item Choice)) : Option α :=
  (items.filterMap fun item =>
    match item with
    | .option choice => read choice
    | _ => none).getLast?

/-- The free argument, if there is one. Nothing else may be there but options; two dashes may stand
before the free argument or right behind it. -/
def freeArgument : List (Item Choice) → Except Refusal (Option String)
  | [] => .ok none
  | .option _ :: rest => freeArgument rest
  | .separator :: rest => freeArgument rest
  | .stray :: _ => .error .usage
  | .free text :: rest =>
      let others := match rest with
        | .separator :: rest => rest
        | rest => rest
      if others.all fun item => item matches .option _ then .ok (some text) else .error .usage

def themeChoice (items : List (Item Choice)) : ThemeChoice where
  file := lastOf (fun | .themeFile path => some path | _ => none) items
  name := lastOf (fun | .theme name => some name | _ => none) items

def Command.ofArguments (name : String) (arguments : List String) : Except Refusal Command := do
  match name with
  | "preview" =>
      let items ← readAll previewSwitches arguments
      let config ← freeArgument items
      return .preview (config.map .ofText) (themeChoice items)
        (lastOf (fun | .context id => some id | _ => none) items)
  | "export" =>
      let items ← readAll exportSwitches arguments
      let config ← freeArgument items
      return .write (config.map .ofText) (themeChoice items)
        (lastOf (fun | .output path => some path | _ => none) items)
        (items.any fun item => item matches .option .embed)
  | "themes" =>
      let items ← readAll [helpSwitch] arguments
      if items.isEmpty then return .themes else throw .usage
  | _ => throw .usage

def Invocation.ofArguments (arguments : List String) : Except Refusal Invocation := do
  let (items, rest) ← readLeading globalSwitches arguments
  match rest with
  | [] => throw .usage
  | name :: rest =>
      let command ← Command.ofArguments name rest
      if items.any fun item => item matches .stray then throw .usage
      let themesFile := lastOf (fun | .themesFile path => some path | _ => none) items
      return { command, themesFile }

end ShellPrompt.CommandLine
