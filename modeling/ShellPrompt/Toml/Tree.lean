import ShellPrompt.Value

/-!
The tables of a TOML document while it is read. Every table remembers how it came about, because
that decides what may still be added to it: a table may be opened by a header only once, a table
made by dotted keys takes further dotted keys but no header of its own, and a value is never
touched again.
-/

namespace ShellPrompt.Toml

/-- How a table came about. -/
inductive Origin where
  /-- By a header of its own. -/
  | opened
  /-- By a longer header. -/
  | implied
  /-- By a dotted key. -/
  | dotted
  deriving DecidableEq, Repr

inductive Node where
  | leaf (value : Value)
  | table (origin : Origin) (entries : List (String × Node))
  | array (tables : List (List (String × Node)))

abbrev Entries := List (String × Node)

namespace Entries

def find? (name : String) (entries : Entries) : Option Node := OrderedMap.find name entries

def put (name : String) (node : Node) (entries : Entries) : Entries :=
  OrderedMap.put name node entries

/-- Gives a dotted key a value. The key must be new; the tables on its way are new, or made by
dotted keys. -/
def assign (value : Value) : List String → Entries → Option Entries
  | [], _ => none
  | [name], entries =>
      match entries.find? name with
      | none => some (entries.put name (.leaf value))
      | some _ => none
  | name :: path, entries =>
      match entries.find? name with
      | none => (assign value path []).map fun inner => entries.put name (.table .dotted inner)
      | some (.table .dotted inner) =>
          (assign value path inner).map fun inner => entries.put name (.table .dotted inner)
      | some _ => none

/-- Changes the table that a path of headers leads to. Missing tables on the way are made; of an
array of tables the last one is meant. -/
def within (change : Entries → Option Entries) : List String → Entries → Option Entries
  | [], entries => change entries
  | name :: path, entries =>
      match entries.find? name with
      | none => (within change path []).map fun inner => entries.put name (.table .implied inner)
      | some (.table origin inner) =>
          (within change path inner).map fun inner => entries.put name (.table origin inner)
      | some (.array tables) =>
          match tables.getLast? with
          | none => none
          | some last =>
              (within change path last).map fun last =>
                entries.put name (.array (tables.dropLast ++ [last]))
      | some (.leaf _) => none

/-- Opens a table by its own header. -/
def openTable (name : String) (entries : Entries) : Option Entries :=
  match entries.find? name with
  | none => some (entries.put name (.table .opened []))
  | some (.table .implied inner) => some (entries.put name (.table .opened inner))
  | some _ => none

/-- Adds a table to an array of tables. -/
def openArray (name : String) (entries : Entries) : Option Entries :=
  match entries.find? name with
  | none => some (entries.put name (.array [[]]))
  | some (.array tables) => some (entries.put name (.array (tables ++ [[]])))
  | some _ => none

end Entries

mutual

def Node.toValue : Node → Value
  | .leaf value => value
  | .table _ entries => .table (Entries.toValues entries)
  | .array tables => .list (Entries.listValues tables)

/-- The entries with the values that their nodes stand for. -/
def Entries.toValues : Entries → List (String × Value)
  | [] => []
  | (name, node) :: rest => (name, node.toValue) :: Entries.toValues rest

def Entries.listValues : List Entries → List Value
  | [] => []
  | entries :: rest => .table (Entries.toValues entries) :: Entries.listValues rest

end

end ShellPrompt.Toml
