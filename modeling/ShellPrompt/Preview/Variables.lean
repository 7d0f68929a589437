import ShellPrompt.Module
import ShellPrompt.Preview.Context
import ShellPrompt.Template.Bindings

/-!
The values of a module's variables in a preview: from the surroundings, else from a property of the
same name, else an example.
-/

namespace ShellPrompt.Preview

def languageModules : List String :=
  ["nodejs", "golang", "rust", "python", "java", "kotlin", "dotnet", "terraform"]

def gitModules : List String := ["git_branch", "git_status"]

def filled (text : Option String) : Option String := text.filter fun text => text != ""

/-- Whether a type of module appears at all in the given surroundings. -/
def isShown (type : String) (context : Context) : Bool :=
  if gitModules.contains type then context.git.isSome
  else if type = "package" then (filled context.packageVersion).isSome
  else if languageModules.contains type then (filled (context.languages.get? type)).isSome
  else true

def contextValue (type reference : String) (context : Context) : Option String :=
  if type = "directory" ∧ reference = "$path" then some context.path
  else if type = "git_branch" ∧ reference = "$branch" then
    some ((context.git.map GitState.branch).getD "")
  else if type = "git_status" ∧ (reference = "$all_status" ∨ reference = "$ahead_behind") then
    some ((context.git.map GitState.status).getD "")
  else
    let version := if reference = "$version" then filled (context.languages.get? type) else none
    match version with
    | some version => some version
    | none =>
        if type = "package" ∧ reference = "$version" then some (context.packageVersion.getD "")
        else if type = "time" ∧ reference = "$time" then some context.time
        else if type = "docker_context" ∧ reference = "$context" then filled context.dockerContext
        else none

/-- Examples for variables that nothing else gives a value. -/
def exampleTable : List (String × List (String × String)) := [
  ("directory", [("$path", "~/projects/starship-architect"), ("$read_only", "🔒")]),
  ("git_branch", [("$symbol", " "), ("$branch", "main")]),
  ("git_status", [("$all_status", "!"), ("$ahead_behind", "⇡1")]),
  ("nodejs", [("$symbol", " "), ("$version", "v18.16.0")]),
  ("rust", [("$symbol", " "), ("$version", "1.70.0")]),
  ("python", [("$symbol", "🐍 "), ("$version", "3.11.3"), ("$virtualenv", "venv"),
    ("$pyenv_prefix", "")]),
  ("docker_context", [("$symbol", " "), ("$context", "default")]),
  ("aws", [("$symbol", "☁\ufe0f  "), ("$profile", "dev-account"), ("$region", "us-east-1")]),
  ("cmd_duration", [("$duration", "2s")]),
  ("character", [("$symbol", "❯")])]

def exampleValue (type reference : String) : String :=
  ((OrderedMap.find type exampleTable).bind (OrderedMap.find reference)).getD ""

/-- Whether a property can stand for a variable: a text or a number that counts as set. -/
def isShownValue (value : Value) : Bool :=
  match value with
  | .text _ | .integer _ | .decimal _ => value.isSet
  | _ => false

/-- A property of a module that counts as set, else the default of its definition that does, else
the given text. -/
def effective (mod : Module) (definition : Definition) (key default : String) : Value :=
  (((mod.properties.get? key).filter Value.isSet).or
    ((definition.defaults.get? key).filter Value.isSet)).getD (.text default)

/-- The value of one variable. The symbol of the character module is its success symbol. -/
def variableValue (mod : Module) (definition : Definition) (context : Context)
    (reference : String) : Value :=
  if mod.type = "character" ∧ reference = "$symbol" then
    effective mod definition "success_symbol" "❯"
  else
    let name := String.ofList (reference.toList.drop 1)
    (((contextValue mod.type reference context).map Value.text).or
        ((mod.properties.get? name).filter isShownValue)).getD
      (.text (exampleValue mod.type reference))

/-- The texts of a module's variables. -/
def valuesOf (mod : Module) (definition : Definition) (context : Context) :
    Except LongInteger (OrderedMap String String) := do
  let values ← definition.references.mapM fun reference => do
    let text ← (variableValue mod definition context reference).write
    return (reference, text)
  return .ofList values

end ShellPrompt.Preview
