import ShellPrompt.Toml.Text
import ShellPrompt.Value

/-!
Writing TOML documents: top-level lines, then sections with a header each. Every item has one
written form.
-/

namespace ShellPrompt.Toml

inductive Item where
  | short (text : String)
  | long (text : String)
  | flag (value : Bool)
  | integer (value : Int)
  | decimal (value : Decimal)
  | table (entries : OrderedMap String String)

namespace Item

def toValue : Item → Value
  | .short text => .text text
  | .long text => .text text
  | .flag value => .flag value
  | .integer value => .integer value
  | .decimal value => .decimal value
  | .table entries => .table (entries.mapValues Value.text).entries

/-- A value of a supported kind as a document holds it: the entries of a map become texts. -/
def ofSupported (value : Value) : Except UnsupportedValue Item :=
  match value with
  | .text content => .ok (.short content)
  | .flag content => .ok (.flag content)
  | .integer number => .ok (.integer number)
  | .decimal number => .ok (.decimal number)
  | .map entries =>
      if entries.all fun entry => entry.1.isText then
        .ok (.table (.ofList (entries.map fun entry => (entry.1.toText, entry.2.toText))))
      else .error ⟨value⟩
  | _ => .error ⟨value⟩

/-- A property's value as a document holds it. Even the complaint about a value of no supported kind
needs the text of that value. -/
def ofValue (value : Value) : Except UnwritableValue Item :=
  if value.isWritable then (ofSupported value).mapError .unsupported else .error (.long {})

end Item

def writePair (key : String) (value : List Char) : List Char :=
  writeKey key.toList ++ ' ' :: '=' :: ' ' :: value

def writeEntries (entries : List (String × String)) : List Char :=
  List.intercalate [',', ' ']
    (entries.map fun entry => writePair entry.1 (writeString entry.2.toList))

def Item.write : Item → List Char
  | .short text => writeString text.toList
  | .long text => writeLong text.toList
  | .flag true => ['t', 'r', 'u', 'e']
  | .flag false => ['f', 'a', 'l', 's', 'e']
  | .integer value => Text.integerChars value
  | .decimal value => value.toChars
  | .table entries => '\x7b' :: (writeEntries entries.entries ++ ['\x7d'])

abbrev Line := String × Item

def writeLine (line : Line) : List Char := writePair line.1 line.2.write ++ ['\n']

structure Section where
  path : List String
  lines : List Line

/-- An empty line, the header, and the lines of a section. -/
def Section.write (part : Section) : List Char :=
  '\n' :: '[' :: (List.intercalate ['.'] (part.path.map fun key => writeKey key.toList) ++
    ']' :: '\n' :: part.lines.flatMap writeLine)

/-- Some sections that belong together. After a group that is not the last one, one more empty line
may be asked for. -/
structure SectionGroup where
  sections : List Section
  spaced : Bool := false

def writeGroups : List SectionGroup → List Char
  | [] => []
  | [group] => group.sections.flatMap Section.write
  | group :: rest =>
      group.sections.flatMap Section.write ++ ((if group.spaced then ['\n'] else []) ++
        writeGroups rest)

structure Sheet where
  comments : List String
  lines : List Line
  groups : List SectionGroup

def writeComment (comment : String) : List Char := '#' :: ' ' :: (comment.toList ++ ['\n'])

/-- The comments, an empty line, the top-level lines, and the sections. -/
def Sheet.write (sheet : Sheet) : List Char :=
  sheet.comments.flatMap writeComment ++ '\n' :: (sheet.lines.flatMap writeLine ++
    writeGroups sheet.groups)

end ShellPrompt.Toml
