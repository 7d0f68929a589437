import ShellPrompt.Module

/-!
Registries of module definitions. A definition that replaces another one of its name takes that
one's place in the order.
-/

namespace ShellPrompt

structure UnknownModule where
  type : String
  deriving DecidableEq, Repr

def UnknownModule.message (fault : UnknownModule) : String :=
  "No module definition for '" ++ fault.type ++ "'"

structure Registry where
  definitions : OrderedMap String Definition

namespace Registry

def empty : Registry := ⟨.empty⟩

def register (registry : Registry) (definition : Definition) : Registry :=
  ⟨registry.definitions.insert definition.name definition⟩

def ofList (definitions : List Definition) : Registry := definitions.foldl register empty

def get? (registry : Registry) (type : String) : Option Definition := registry.definitions.get? type

def contains (registry : Registry) (type : String) : Bool := (registry.get? type).isSome

def names (registry : Registry) : List String := registry.definitions.keys

def all (registry : Registry) : List Definition := registry.definitions.entries.map Prod.snd

def size (registry : Registry) : Nat := registry.definitions.size

def require (registry : Registry) (type : String) : Except UnknownModule Definition :=
  match registry.get? type with
  | some definition => .ok definition
  | none => .error ⟨type⟩

/-- A new module of a registered kind, with the properties that its definition gives it. -/
def create (registry : Registry) (type : String) : Except UnknownModule Module :=
  (registry.require type).map fun definition => { type, properties := definition.defaults }

end Registry

end ShellPrompt
