import ShellPrompt.Host
import ShellPrompt.Json
import ShellPrompt.Report
import ShellPrompt.Theme.Base16
import ShellPrompt.Theme.TerminalScheme
import ShellPrompt.Yaml.Document

/-!
Catalogs of themes by name. A catalog starts with the built-in themes, takes in those of a file of
terminal colour schemes, and grows by the themes that are added to it.
-/

namespace ShellPrompt.Theme

structure Catalog where
  themes : OrderedMap String Theme

/-- A list or a map where the name of a theme belongs. -/
structure UnusableName where
  name : Value

namespace Catalog

def put (catalog : Catalog) (name : String) (theme : Theme) : Catalog :=
  ⟨catalog.themes.insert name theme⟩

def add (catalog : Catalog) (theme : Theme) : Except UnusableName Catalog :=
  match theme.name with
  | .text name => .ok (catalog.put name theme)
  | name => .error ⟨name⟩

def builtIn : Catalog :=
  ⟨.ofList (Theme.builtIns.map fun theme => (theme.name.toText, theme))⟩

def names (catalog : Catalog) : List String :=
  catalog.themes.keys.mergeSort fun first second => decide (first ≤ second)

def get? (catalog : Catalog) (name : String) : Option Theme := catalog.themes.get? name

/-- The theme that a value names. Values that are no texts name none. -/
def find (catalog : Catalog) (name : Value) : Except UnusableName (Option Theme) :=
  match name with
  | .text name => .ok (catalog.get? name)
  | name => if name.isKey then .ok none else .error ⟨name⟩

end Catalog

/-- The theme of a scheme in YAML. What is no complete scheme gives a warning. -/
def ofYaml (text : String) : Report Yaml.Fault (Option Theme) :=
  match Yaml.read text with
  | .error .invalid => Report.noted [.brokenScheme] none
  | .error fault => Report.fail fault
  | .ok scheme =>
      match ofScheme scheme with
      | .ok theme => pure (some theme)
      | .error .noPalette => Report.noted [.schemeWithoutPalette] none
      | .error (.missingColors keys) => Report.noted [.missingColors keys] none

namespace Catalog

/-- Why no theme could be taken in, other than for a scheme that is not complete. -/
inductive AdoptFault where
  | read (fault : ReadFault)
  | scheme (fault : Yaml.Fault)
  | name (fault : UnusableName)

/-- The catalog with the theme of a scheme, and that theme, if there is one. -/
def adopt (catalog : Catalog) (text : String) : Report AdoptFault (Catalog × Option Theme) := do
  match ← (ofYaml text).mapFault AdoptFault.scheme with
  | none => Report.noted [.unusableScheme] (catalog, none)
  | some theme =>
      let grown ← Report.ofExcept ((catalog.add theme).mapError AdoptFault.name)
      pure (grown, some theme)

/-- The catalog with the theme of the scheme in a file, and that theme, if there is one. -/
def adoptFile (catalog : Catalog) (host : Host) (path : Path) :
    Report AdoptFault (Catalog × Option Theme) :=
  match host.readText path with
  | .error fault => Report.fail (.read fault)
  | .ok text => catalog.adopt text

/-- The catalog with a terminal colour scheme for every entry that is a map. -/
def withSchemes (catalog : Catalog) : List (Value × Value) → Except UnusableColor Catalog
  | [] => .ok catalog
  | (name, .map scheme) :: rest => do
      let theme ← ofTerminalScheme name.toText scheme
      (catalog.put name.toText theme).withSchemes rest
  | _ :: rest => catalog.withSchemes rest

/-- Why a file of terminal colour schemes stops the program. -/
inductive LoadFault where
  | read (fault : ReadFault)
  | long (fault : LongInteger)
  | color (fault : UnusableColor)

/-- The built-in themes, with those of a file of terminal colour schemes. -/
def ofFile (host : Host) (path : Path) : Report LoadFault Catalog :=
  match host.readText path with
  | .error (.file fault) =>
      if fault.problem = .missing then Report.noted [.missingThemesFile path.toText] builtIn
      else Report.fail (.read (.file fault))
  | .error fault => Report.fail (.read fault)
  | .ok text =>
      match Json.read text with
      | .error .invalid => Report.noted [.brokenThemesFile] builtIn
      | .error (.long fault) => Report.fail (.long fault)
      | .ok (.map schemes) => Report.ofExcept ((builtIn.withSchemes schemes).mapError .color)
      | .ok _ => Report.noted [.themesFileWithoutMap path.toText] builtIn

/-- The themes of a run, with or without a file of terminal colour schemes. -/
def load (host : Host) (path : Option Path) : Report LoadFault Catalog :=
  match path with
  | none => pure builtIn
  | some path => ofFile host path

end Catalog

end ShellPrompt.Theme
