import ShellPrompt.Config.Format
import ShellPrompt.Config.Settings
import ShellPrompt.Registry
import ShellPrompt.Report
import ShellPrompt.Toml.Document

/-!
Reading a configuration: the modules in the order of the master format, or of their sections where
there is no format, with the properties of their sections over those of their definitions; and the
settings. Whatever has no meaning here is left out, in some cases with a warning. An integer of too
many digits where a text belongs stops the reading.
-/

namespace ShellPrompt.Config

structure InvalidConfig where

def InvalidConfig.message (_ : InvalidConfig) : String := "Invalid TOML format"

inductive ParseFault where
  | invalid (fault : InvalidConfig)
  | long (fault : LongInteger)

abbrev Data := OrderedMap String Value

structure Parsed where
  modules : List Module
  settings : Settings

/-- A table whose values are turned into texts. -/
def textTable (entries : List (Value × Value)) : Palette :=
  .ofList (entries.map fun entry => (entry.1.toText, entry.2.toText))

/-- The property that a value makes, if it can be one. -/
def accepted : Value → Option Value
  | .map entries => some (.table ((textTable entries).mapValues Value.text).entries)
  | value => if value.kind?.isSome then some value else none

/-- Whether a property can be read from a value: an integer is taken as it is, and all others have
to have a text. -/
def isReadable : Value → Bool
  | .integer _ => true
  | value => value.isWritable

def property (type key : String) (value : Value) : Report LongInteger (Option Value) :=
  if isReadable value then
    match accepted value with
    | some result => pure (some result)
    | none => Report.noted [.unsupportedProperty type key] none
  else Report.fail {}

def addProperties (type : String) (properties : Properties) :
    List (Value × Value) → Report LongInteger Properties
  | [] => pure properties
  | (key, value) :: rest =>
      let name := key.toText
      if name = "disabled" then addProperties type properties rest
      else do
        match ← property type name value with
        | none => addProperties type properties rest
        | some value => addProperties type (properties.insert name value) rest

/-- The entries of a module's section, none if there is no table under its name. -/
def sectionOf (data : Data) (type : String) : Report LongInteger (List (Value × Value)) :=
  match data.get? type with
  | none => pure []
  | some (.map entries) => pure entries
  | some _ => Report.noted [.notATable type] []

/-- Whether a section switches its module off: only the value true does. -/
def isDisabled (entries : List (Value × Value)) : Bool :=
  match Value.field? "disabled" entries with
  | some (.flag value) => value
  | _ => false

/-- The module of a type as its section and its definition describe it. -/
def readModule (data : Data) (type : String) (definition : Definition) :
    Report LongInteger Module := do
  let entries ← sectionOf data type
  let properties ← addProperties type definition.defaults entries
  pure { type, disabled := isDisabled entries, properties }

/-- The module that a type names in a configuration, if there is one. -/
def namedModule (data : Data) (registry : Registry) (type : String) :
    Report LongInteger (Option Module) :=
  if type = Module.lineBreakType then pure (some Module.lineBreak)
  else
    match registry.get? type with
    | some definition => do
        let mod ← readModule data type definition
        pure (some mod)
    | none => Report.noted [.unknownModule type] none

def gather {α : Type} (read : α → Report LongInteger (Option Module)) :
    List α → Report LongInteger (List Module)
  | [] => pure []
  | item :: rest => do
      let mod ← read item
      let modules ← gather read rest
      pure (mod.toList ++ modules)

def pieceModule (data : Data) (registry : Registry) : Piece → Report LongInteger (Option Module)
  | .literal text => pure (some (Module.ofText (String.ofList text)))
  | .reference type => namedModule data registry (String.ofList type)

def modulesOfFormat (format : String) (data : Data) (registry : Registry) :
    Report LongInteger (List Module) :=
  gather (pieceModule data registry) (pieces format.toList)

/-- The modules of the sections, for a document without a master format. -/
def modulesOfSections (data : Data) (registry : Registry) : Report LongInteger (List Module) :=
  gather (namedModule data registry) (data.keys.filter registry.contains)

def readPalettes (entries : List (Value × Value)) : OrderedMap String Palette :=
  .ofList (entries.filterMap fun entry => match entry.2 with
    | .map colors => some (entry.1.toText, textTable colors)
    | _ => none)

/-- Whether the colours of all palettes have texts. -/
def hasPalettes (data : Data) : Bool :=
  match data.get? "palettes" with
  | some (.map entries) => entries.all fun entry => match entry.2 with
    | .map colors => (Value.map colors).isWritable
    | _ => true
  | _ => true

def readSettings (data : Data) : Settings where
  addNewline := match data.get? "add_newline" with
    | some (.flag value) => some value
    | _ => none
  commandTimeout := match data.get? "command_timeout" with
    | some (.integer value) => some value
    | _ => none
  scanTimeout := match data.get? "scan_timeout" with
    | some (.integer value) => some value
    | _ => none
  palette := (data.get? "palette").bind Value.asText?
  rightFormat := (data.get? "right_format").bind Value.asText?
  continuationPrompt := (data.get? "continuation_prompt").bind Value.asText?
  palettes := match data.get? "palettes" with
    | some (.map entries) => readPalettes entries
    | _ => .empty

/-- The modules that a document holds: those of its master format, if it has one. -/
def modulesOf (data : Data) (registry : Registry) : Report LongInteger (List Module) :=
  match (data.get? "format").bind Value.asText? with
  | some format => modulesOfFormat format data registry
  | none => modulesOfSections data registry

def ofData (data : Data) (registry : Registry) : Report LongInteger Parsed := do
  let modules ← modulesOf data registry
  if hasPalettes data then pure { modules, settings := readSettings data } else Report.fail {}

def parse (text : String) (registry : Registry) : Report ParseFault Parsed :=
  match Toml.read text with
  | none => Report.fail (.invalid {})
  | some data => (ofData data registry).mapFault .long

end ShellPrompt.Config
