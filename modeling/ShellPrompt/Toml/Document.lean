import ShellPrompt.Toml.Scalar
import ShellPrompt.Toml.Tree

/-!
Reading TOML documents: values with arrays and inline tables, the statements of a document one by
one, and the table that its statements make up. A document that breaks a rule anywhere has no
table at all.
-/

namespace ShellPrompt.Toml

/-- The text behind a comment. Only control characters cannot stand in a comment. -/
def skipComment : List Char → Option (List Char)
  | [] => some []
  | '\n' :: rest => some ('\n' :: rest)
  | '\r' :: rest => some ('\r' :: rest)
  | c :: rest => if isControl c then none else skipComment rest

/-- The text behind blanks, line breaks and comments; `inComment` says whether it starts inside a
comment. -/
def skipLines (inComment : Bool) : List Char → Option (List Char)
  | [] => some []
  | c :: rest =>
      if inComment then
        if c = '\n' ∨ c = '\r' then skipLines false rest
        else if isControl c then none
        else skipLines true rest
      else if isLineBlank c then skipLines false rest
      else if c = '#' then skipLines true rest
      else some (c :: rest)

mutual

/-- A value at the front of a text. The first argument bounds how many steps the values inside it
may take; the length of the text is enough. -/
def readValueWithin : Nat → List Char → Option (Value × List Char)
  | 0, _ => none
  | steps + 1, text =>
      match text with
      | '"' :: _ =>
          (readString text).map fun (written, rest) => (.text (String.ofList written), rest)
      | '\x27' :: _ =>
          (readString text).map fun (written, rest) => (.text (String.ofList written), rest)
      | '[' :: rest => (readItems steps rest).map fun (items, rest) => (.list items, rest)
      | '\x7b' :: rest =>
          match rest.dropWhile isSpace with
          | '\x7d' :: rest => some (.map [], rest)
          | rest =>
              (readEntries steps [] rest).map fun (entries, rest) =>
                (.table (Entries.toValues entries), rest)
      | text => readScalar text

def readItems : Nat → List Char → Option (List Value × List Char)
  | 0, _ => none
  | steps + 1, text =>
      match skipLines false text with
      | none => none
      | some (']' :: rest) => some ([], rest)
      | some text =>
          match readValueWithin steps text with
          | none => none
          | some (item, rest) =>
              match skipLines false rest with
              | some (',' :: rest) =>
                  (readItems steps rest).map fun (items, rest) => (item :: items, rest)
              | some (']' :: rest) => some ([item], rest)
              | _ => none

/-- The entries of an inline table up to its closing brace, added to those before them. -/
def readEntries : Nat → Entries → List Char → Option (Entries × List Char)
  | 0, _, _ => none
  | steps + 1, before, text =>
      match readKey text with
      | some (path, '=' :: rest) =>
          match readValueWithin steps (rest.dropWhile isSpace) with
          | none => none
          | some (value, rest) =>
              match before.assign value path with
              | none => none
              | some entries =>
                  match rest.dropWhile isSpace with
                  | ',' :: rest => readEntries steps entries rest
                  | '\x7d' :: rest => some (entries, rest)
                  | _ => none
      | _ => none

end

def readValue (text : List Char) : Option (Value × List Char) :=
  readValueWithin (text.length + 1) text

inductive Statement where
  | assign (path : List String) (value : Value)
  | openTable (path : List String)
  | openArray (path : List String)

def isMargin (c : Char) : Bool := isSpace c || c == '\r'

/-- What follows a statement on its line: blanks and a comment, up to the line break. -/
def endLine (text : List Char) : Option (List Char) :=
  match text.dropWhile isMargin with
  | [] => some []
  | '\n' :: rest => some rest
  | '#' :: rest => skipComment rest
  | _ => none

def readStatement (text : List Char) : Option (Statement × List Char) :=
  match text with
  | '[' :: '[' :: rest =>
      match readKey rest with
      | some (path, ']' :: rest) => some (.openArray path, rest.drop 1)
      | _ => none
  | '[' :: rest =>
      match readKey rest with
      | some (path, ']' :: rest) => some (.openTable path, rest)
      | _ => none
  | text =>
      match readKey text with
      | some (path, '=' :: rest) =>
          (readValue (rest.dropWhile isSpace)).map fun (value, rest) => (.assign path value, rest)
      | _ => none

/-- The statements of a text. The first argument bounds the number of lines; the length of the text
is enough. -/
def readStatementsWithin : Nat → List Char → Option (List Statement)
  | 0, _ => none
  | lines + 1, text =>
      match text.dropWhile isMargin with
      | [] => some []
      | '\n' :: rest => readStatementsWithin lines rest
      | '#' :: rest => (skipComment rest).bind (readStatementsWithin lines)
      | text => do
          let (statement, rest) ← readStatement text
          let rest ← endLine rest
          let statements ← readStatementsWithin lines rest
          some (statement :: statements)

def readStatements (text : List Char) : Option (List Statement) :=
  readStatementsWithin (text.length + 1) text

/-- A document while it is read: its entries, and the header that the next keys belong to. -/
structure Document where
  entries : Entries := []
  header : List String := []

namespace Document

/-- Adds what a statement says, if the statements before it leave room for that. -/
def add (document : Document) : Statement → Option Document
  | .assign path value =>
      (document.entries.within (Entries.assign value path) document.header).map fun entries =>
        { document with entries }
  | .openTable path =>
      match path.getLast? with
      | none => none
      | some name =>
          (document.entries.within (Entries.openTable name) path.dropLast).map fun entries =>
            ⟨entries, path⟩
  | .openArray path =>
      match path.getLast? with
      | none => none
      | some name =>
          (document.entries.within (Entries.openArray name) path.dropLast).map fun entries =>
            ⟨entries, path⟩

def ofStatements (statements : List Statement) : Option Document :=
  statements.foldlM add {}

end Document

/-- The top-level table of a document, in the order in which its keys first occur. -/
def read (text : String) : Option (OrderedMap String Value) :=
  (readStatements text.toList).bind fun statements =>
    (Document.ofStatements statements).map fun document =>
      .ofList (Entries.toValues document.entries)

end ShellPrompt.Toml
