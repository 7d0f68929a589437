import ShellPrompt.Value

/-!
Modules of a prompt: what kind each one is, whether it is switched off, and its properties. Two
kinds are special: line breaks, and free text between the other modules.
-/

namespace ShellPrompt

abbrev Properties := OrderedMap String Value

/-- What is known of a kind of module: the properties that a new one starts with, and the variables
that its layout may refer to, each with its dollar sign. -/
structure Definition where
  name : String
  description : String := ""
  defaults : Properties := .empty
  references : List String := []

structure Module where
  type : String
  disabled : Bool := false
  properties : Properties := .empty

namespace Module

def lineBreakType : String := "line_break"

def textType : String := "text"

def isLineBreak (mod : Module) : Bool := mod.type = lineBreakType

def isText (mod : Module) : Bool := mod.type = textType

def lineBreak : Module := { type := lineBreakType }

def setProperty (mod : Module) (key : String) (value : Value) : Module :=
  { mod with properties := mod.properties.insert key value }

def eraseProperty (mod : Module) (key : String) : Module :=
  { mod with properties := mod.properties.erase key }

/-- Writes an entry into a property that is a map. -/
def setInMap? (mod : Module) (property key text : String) : Option Module :=
  match mod.properties.get? property with
  | some (.map entries) =>
      some (mod.setProperty property (.map (Value.putField key (.text text) entries)))
  | _ => none

def ofText (text : String) : Module :=
  { type := textType, properties := .ofList [("format", .text text)] }

/-- The value that free text is the text of. -/
def freeValue (mod : Module) : Value := (mod.properties.get? "format").getD (.text "")

def freeText (mod : Module) : String := mod.freeValue.toText

end Module

end ShellPrompt
