import ShellPrompt.Text.Quoted

/-!
The four forms of TOML strings, and keys. A literal string holds its characters as they are; a
basic string holds escapes; each has a form with triple quotes that may run over lines. Every
reader stands on the character behind the opening quotes, and answers the text and what follows
the closing quotes. The writers choose a form that can hold the text.
-/

namespace ShellPrompt.Toml

open ShellPrompt.Text

/-- A control character that no string or comment may hold as it is. -/
def isControl (c : Char) : Bool := (c.toNat < 32 && c != '\t') || c.toNat == 127

/-- A control character that a string over several lines may not hold as it is. -/
def isLineControl (c : Char) : Bool := isControl c && c != '\n' && c != '\r'

def unescape? : Char → Option Char
  | 'b' => some '\x08'
  | 't' => some '\t'
  | 'n' => some '\n'
  | 'f' => some '\x0c'
  | 'r' => some '\r'
  | '"' => some '"'
  | '\\' => some '\\'
  | _ => none

def readLiteral : List Char → Option (List Char × List Char)
  | [] => none
  | '\x27' :: rest => some ([], rest)
  | c :: rest =>
      if isControl c then none
      else (readLiteral rest).map fun (text, after) => (c :: text, after)

/-- The escape behind a backslash: its character, and what follows it. -/
def readEscape : List Char → Option (Char × List Char)
  | 'u' :: a :: b :: c :: d :: rest =>
      ((readHex? [a, b, c, d]).bind charAt?).map fun written => (written, rest)
  | 'U' :: a :: b :: c :: d :: e :: f :: g :: h :: rest =>
      ((readHex? [a, b, c, d, e, f, g, h]).bind charAt?).map fun written => (written, rest)
  | c :: rest => (unescape? c).map fun written => (written, rest)
  | [] => none

theorem length_lt_of_readEscape {text rest : List Char} {written : Char}
    (read : readEscape text = some (written, rest)) : rest.length < text.length := by
  unfold readEscape at read
  split at read
  all_goals first
    | (obtain ⟨_, _, same⟩ := Option.map_eq_some_iff.mp read
       simp only [Prod.mk.injEq] at same
       obtain ⟨_, rfl⟩ := same
       simp only [List.length_cons]
       omega)
    | simp at read

def readBasic : List Char → Option (List Char × List Char)
  | [] => none
  | '"' :: rest => some ([], rest)
  | '\\' :: rest =>
      match _read : readEscape rest with
      | none => none
      | some (written, rest) =>
          (readBasic rest).map fun (text, after) => (written :: text, after)
  | c :: rest =>
      if isControl c then none
      else (readBasic rest).map fun (text, after) => (c :: text, after)
termination_by text => text.length
decreasing_by
  all_goals first
    | (have shorter := length_lt_of_readEscape _read
       simp only [List.length_cons]
       omega)
    | simp only [List.length_cons]; omega

/-- Closes a string with triple quotes behind three of its quotes: up to two further quotes belong
to the text. -/
def closeTriple (quote : Char) : List Char → Option (List Char × List Char)
  | c :: d :: e :: rest =>
      if c = quote then
        if d = quote then
          if e = quote then none else some ([quote, quote], e :: rest)
        else some ([quote], d :: e :: rest)
      else some ([], c :: d :: e :: rest)
  | [c, d] =>
      if c = quote then if d = quote then some ([quote, quote], []) else some ([quote], [d])
      else some ([], [c, d])
  | [c] => if c = quote then some ([quote], []) else some ([], [c])
  | [] => some ([], [])

def readLongLiteral : List Char → Option (List Char × List Char)
  | '\x27' :: '\x27' :: '\x27' :: rest => closeTriple '\x27' rest
  | [] => none
  | c :: rest =>
      if isLineControl c then none
      else (readLongLiteral rest).map fun (text, after) => (c :: text, after)

def isLineBlank (c : Char) : Bool := c == ' ' || c == '\t' || c == '\n' || c == '\r'

theorem length_dropBlank_le (text : List Char) :
    (text.dropWhile isLineBlank).length ≤ text.length :=
  (List.dropWhile_sublist _).length_le

/-- A backslash before blanks with a line break among them takes these away. -/
def readLongBasic : List Char → Option (List Char × List Char)
  | '"' :: '"' :: '"' :: rest => closeTriple '"' rest
  | [] => none
  | '\\' :: rest =>
      if (rest.takeWhile isLineBlank).contains '\n' then
        readLongBasic (rest.dropWhile isLineBlank)
      else
        match _read : readEscape rest with
        | none => none
        | some (written, rest) =>
            (readLongBasic rest).map fun (text, after) => (written :: text, after)
  | c :: rest =>
      if isLineControl c then none
      else (readLongBasic rest).map fun (text, after) => (c :: text, after)
termination_by text => text.length
decreasing_by
  all_goals first
    | (have shorter := length_lt_of_readEscape _read
       simp only [List.length_cons]
       omega)
    | (have shorter := length_dropBlank_le rest
       simp only [List.length_cons]
       omega)

/-- A line break right behind the opening triple quotes is not part of the text. -/
def skipFirstBreak : List Char → List Char
  | '\n' :: rest => rest
  | '\r' :: '\n' :: rest => rest
  | text => text

def readString : List Char → Option (List Char × List Char)
  | '"' :: '"' :: '"' :: rest => readLongBasic (skipFirstBreak rest)
  | '\x27' :: '\x27' :: '\x27' :: rest => readLongLiteral (skipFirstBreak rest)
  | '"' :: rest => readBasic rest
  | '\x27' :: rest => readLiteral rest
  | _ => none

def escapeChar (c : Char) : List Char :=
  if c = '"' then ['\\', '"']
  else if c = '\\' then ['\\', '\\']
  else if c = '\x08' then ['\\', 'b']
  else if c = '\t' then ['\\', 't']
  else if c = '\n' then ['\\', 'n']
  else if c = '\x0c' then ['\\', 'f']
  else if c = '\r' then ['\\', 'r']
  else if isControl c then '\\' :: 'u' :: hexDigits 4 c.toNat
  else [c]

def writeBasic (text : List Char) : List Char :=
  '"' :: (text.flatMap escapeChar ++ ['"'])

def fitsLiteral (text : List Char) : Bool := text.all fun c => c != '\x27' && !isControl c

/-- A literal string if it can hold the text, else a basic one. -/
def writeString (text : List Char) : List Char :=
  if fitsLiteral text then '\x27' :: (text ++ ['\x27']) else writeBasic text

/-- The inside of a basic string with triple quotes. Line breaks stay; the third of three quotes in
a row is escaped. -/
def longChars : List Char → List Char
  | '"' :: '"' :: '"' :: rest => '"' :: '"' :: '\\' :: '"' :: longChars rest
  | '"' :: rest => '"' :: longChars rest
  | '\n' :: rest => '\n' :: longChars rest
  | '\r' :: '\n' :: rest => '\r' :: '\n' :: longChars rest
  | c :: rest => escapeChar c ++ longChars rest
  | [] => []

/-- Whether a text starts with a line break, which the opening triple quotes would take away. -/
def startsWithBreak : List Char → Bool
  | '\n' :: _ => true
  | '\r' :: '\n' :: _ => true
  | _ => false

def writeLong (text : List Char) : List Char :=
  '"' :: '"' :: '"' :: ((if startsWithBreak text then ['\n'] else []) ++
    (longChars text ++ ['"', '"', '"']))

def isBareChar (c : Char) : Bool := c.isAlphanum || c == '_' || c == '-'

def isBare (key : List Char) : Bool := !key.isEmpty && key.all isBareChar

def writeKey (key : List Char) : List Char := if isBare key then key else writeBasic key

def isSpace (c : Char) : Bool := c == ' ' || c == '\t'

/-- One part of a key at the front of a text, bare or quoted. -/
def readKeyPart (text : List Char) : Option (List Char × List Char) :=
  match text with
  | '"' :: rest => readBasic rest
  | '\x27' :: rest => readLiteral rest
  | _ =>
      if text.takeWhile isBareChar = [] then none
      else some (text.takeWhile isBareChar, text.dropWhile isBareChar)

theorem length_lt_of_readLiteral {text key rest : List Char}
    (read : readLiteral text = some (key, rest)) : rest.length < text.length := by
  fun_induction readLiteral text generalizing key with
  | case1 => simp at read
  | case2 => simp_all
  | case3 => simp at read
  | case4 c tail _ _ inductionHypothesis =>
      obtain ⟨⟨_, _⟩, here, same⟩ := Option.map_eq_some_iff.mp read
      simp only [Prod.mk.injEq] at same
      obtain ⟨_, rfl⟩ := same
      have := inductionHypothesis here
      simp only [List.length_cons]
      omega

theorem length_lt_of_readBasic {text key rest : List Char}
    (read : readBasic text = some (key, rest)) : rest.length < text.length := by
  fun_induction readBasic text generalizing key with
  | case1 => simp at read
  | case2 => simp_all
  | case3 => simp at read
  | case4 tail written after escaped inductionHypothesis =>
      obtain ⟨⟨_, _⟩, here, same⟩ := Option.map_eq_some_iff.mp read
      simp only [Prod.mk.injEq] at same
      obtain ⟨_, rfl⟩ := same
      have := inductionHypothesis here
      have := length_lt_of_readEscape escaped
      simp only [List.length_cons]
      omega
  | case5 => simp at read
  | case6 c tail _ _ _ inductionHypothesis =>
      obtain ⟨⟨_, _⟩, here, same⟩ := Option.map_eq_some_iff.mp read
      simp only [Prod.mk.injEq] at same
      obtain ⟨_, rfl⟩ := same
      have := inductionHypothesis here
      simp only [List.length_cons]
      omega

theorem length_lt_of_readKeyPart {text key rest : List Char}
    (read : readKeyPart text = some (key, rest)) : rest.length < text.length := by
  unfold readKeyPart at read
  split at read
  · have := length_lt_of_readBasic read
    simp only [List.length_cons]
    omega
  · have := length_lt_of_readLiteral read
    simp only [List.length_cons]
    omega
  · split at read
    · simp at read
    · rename_i named
      simp only [Option.some.injEq, Prod.mk.injEq] at read
      obtain ⟨_, rfl⟩ := read
      have parts :=
        congrArg List.length (List.takeWhile_append_dropWhile (p := isBareChar) (l := text))
      have := List.length_pos_iff.mpr named
      simp only [List.length_append] at parts
      omega

theorem length_lt_of_dropSpace {text rest : List Char} {c : Char}
    (dropped : text.dropWhile isSpace = c :: rest) : rest.length < text.length := by
  have := (List.dropWhile_sublist (p := isSpace) (l := text)).length_le
  rw [dropped, List.length_cons] at this
  omega

/-- A key at the front of a text: parts with points between them, blanks around each part. -/
def readKey (text : List Char) : Option (List String × List Char) :=
  match _read : readKeyPart (text.dropWhile isSpace) with
  | none => none
  | some (part, rest) =>
      match _next : rest.dropWhile isSpace with
      | '.' :: rest =>
          (readKey rest).map fun (parts, after) => (String.ofList part :: parts, after)
      | rest => some ([String.ofList part], rest)
termination_by text.length
decreasing_by
  have := length_lt_of_readKeyPart _read
  have := length_lt_of_dropSpace _next
  have := (List.dropWhile_sublist (p := isSpace) (l := text)).length_le
  omega

end ShellPrompt.Toml
