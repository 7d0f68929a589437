import ShellPrompt.Decimal
import ShellPrompt.Moment
import ShellPrompt.OrderedMap

/-!
The values that configuration files, colour schemes and preferences hold, the four kinds of them
that a module property may have, and how each value reads as text. An integer of too many digits has
no text, and nothing that it is part of has one.
-/

namespace ShellPrompt

inductive Value where
  | null
  | flag (value : Bool)
  | integer (value : Int)
  | decimal (value : Decimal)
  | text (value : String)
  | moment (value : Moment)
  | list (items : List Value)
  | map (entries : List (Value × Value))
  deriving Inhabited

namespace Value

def isText : Value → Bool
  | .text _ => true
  | _ => false

def asText? : Value → Option String
  | .text value => some value
  | _ => none

/-- A map from names. -/
def table (entries : List (String × Value)) : Value :=
  .map (entries.map fun entry => (.text entry.1, entry.2))

/-- The value under a name in a list of entries. -/
def field? (name : String) : List (Value × Value) → Option Value
  | [] => none
  | (key, value) :: rest =>
      match key with
      | .text written => if written = name then some value else field? name rest
      | _ => field? name rest

/-- The entries with the value under a name replaced, or with that name added at the end. -/
def putField (name : String) (value : Value) : List (Value × Value) → List (Value × Value)
  | [] => [(.text name, value)]
  | (key, old) :: rest =>
      if key.asText? = some name then (key, value) :: rest
      else (key, old) :: putField name value rest

/-- A value counts as set unless it is null, false, zero or empty. -/
def isSet : Value → Bool
  | .null => false
  | .flag value => value
  | .integer value => value != 0
  | .decimal value => !value.isZero
  | .text value => value != ""
  | .moment _ => true
  | .list items => !items.isEmpty
  | .map entries => !entries.isEmpty

/-- Whether a value can serve as the key of a map: lists and maps cannot. -/
def isKey : Value → Bool
  | .list _ => false
  | .map _ => false
  | _ => true

/-- The kinds of value that a module property may have. -/
inductive Kind where
  | string
  | number
  | boolean
  | stringMap
  deriving DecidableEq, Repr

def Kind.name : Kind → String
  | .string => "string"
  | .number => "number"
  | .boolean => "boolean"
  | .stringMap => "string_map"

/-- The kind of a value, or `none` if no module property may have it. -/
def kind? : Value → Option Kind
  | .flag _ => some .boolean
  | .integer _ => some .number
  | .decimal _ => some .number
  | .text _ => some .string
  | .map entries => if entries.all fun entry => entry.1.isText then some .stringMap else none
  | _ => none

def commaJoin : List (List Char) → List Char := List.intercalate [',', ' ']

mutual

/-- The text of a value inside another one: texts are quoted. -/
def quoted : Value → List Char
  | .null => "None".toList
  | .flag true => "True".toList
  | .flag false => "False".toList
  | .integer value => Text.integerChars value
  | .decimal value => value.toChars
  | .text value => Text.quoteChars value.toList
  | .moment value => value.quoted.toList
  | .list items => '[' :: (commaJoin (quotedItems items) ++ [']'])
  | .map entries => '\x7b' :: (commaJoin (quotedEntries entries) ++ ['\x7d'])

def quotedItems : List Value → List (List Char)
  | [] => []
  | item :: rest => quoted item :: quotedItems rest

def quotedEntries : List (Value × Value) → List (List Char)
  | [] => []
  | (key, value) :: rest => (quoted key ++ ':' :: ' ' :: quoted value) :: quotedEntries rest

end

mutual

/-- Whether a value has a text: no integer in it is too long to be written. -/
def isWritable : Value → Bool
  | .integer value => Text.isWritable value
  | .list items => itemsWritable items
  | .map entries => entriesWritable entries
  | _ => true

def itemsWritable : List Value → Bool
  | [] => true
  | item :: rest => isWritable item && itemsWritable rest

def entriesWritable : List (Value × Value) → Bool
  | [] => true
  | (key, value) :: rest => isWritable key && isWritable value && entriesWritable rest

end

/-- The text that a value stands for: a text is itself. -/
def toText : Value → String
  | .text value => value
  | .moment value => value.toText
  | value => String.ofList value.quoted

@[simp]
theorem toText_text (value : String) : (Value.text value).toText = value := rfl

/-- The text of a value, if it has one. -/
def write (value : Value) : Except LongInteger String :=
  if value.isWritable then .ok value.toText else .error {}

end Value

/-- A value of no kind that a module property may have. -/
structure UnsupportedValue where
  value : Value

def UnsupportedValue.message (fault : UnsupportedValue) : String :=
  "Unsupported property value: " ++ String.ofList fault.value.quoted

/-- Why a value cannot be written into a configuration. -/
inductive UnwritableValue where
  | unsupported (fault : UnsupportedValue)
  | long (fault : LongInteger)

end ShellPrompt
