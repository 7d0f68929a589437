import ShellPrompt.Value

/-!
Reading JSON texts. Beside the numbers that JSON has, the names of infinity and of no number are
values. The last value given for a key of an object counts. A text is read from its front, so an
integer of too many digits is met before anything that is no JSON behind it, but not in front of it.

Left out are two things: how deeply values may lie in each other, and halves of surrogate pairs that
stand alone. An escape for such a half is read as the replacement character.
-/

namespace ShellPrompt.Json

open ShellPrompt.Text

def isBlank (c : Char) : Bool := c == ' ' || c == '\t' || c == '\n' || c == '\r'

def skipBlanks (text : List Char) : List Char := text.dropWhile isBlank

def unescape? : Char → Option Char
  | '"' => some '"'
  | '\\' => some '\\'
  | '/' => some '/'
  | 'b' => some '\x08'
  | 'f' => some '\x0c'
  | 'n' => some '\n'
  | 'r' => some '\r'
  | 't' => some '\t'
  | _ => none

def isHighSurrogate (number : Nat) : Bool := 0xD800 ≤ number && number ≤ 0xDBFF

def isLowSurrogate (number : Nat) : Bool := 0xDC00 ≤ number && number ≤ 0xDFFF

def joinSurrogates (high low : Nat) : Char :=
  Char.ofNat (0x10000 + (high - 0xD800) * 0x400 + (low - 0xDC00))

/-- The character with a number; half of a pair is the replacement character. -/
def character (number : Nat) : Char := (charAt? number).getD '\ufffd'

def readEscape : List Char → Option (Char × List Char)
  | 'u' :: a :: b :: c :: d :: '\\' :: 'u' :: e :: f :: g :: h :: rest =>
      match readHex? [a, b, c, d] with
      | none => none
      | some number =>
          if isHighSurrogate number then
            match readHex? [e, f, g, h] with
            | none => none
            | some low =>
                if isLowSurrogate low then some (joinSurrogates number low, rest)
                else some (character number, '\\' :: 'u' :: e :: f :: g :: h :: rest)
          else some (character number, '\\' :: 'u' :: e :: f :: g :: h :: rest)
  | 'u' :: a :: b :: c :: d :: rest =>
      (readHex? [a, b, c, d]).map fun number => (character number, rest)
  | c :: rest => (unescape? c).map fun written => (written, rest)
  | [] => none

theorem length_readEscape_lt {text rest : List Char} {c : Char}
    (read : readEscape text = some (c, rest)) : rest.length < text.length := by
  unfold readEscape at read
  split at read
  · repeat' split at read
    all_goals first
      | (simp at read; done)
      | (simp only [Option.some.injEq, Prod.mk.injEq] at read
         obtain ⟨_, rfl⟩ := read
         simp only [List.length_cons]
         omega)
  all_goals first
    | (obtain ⟨_, _, same⟩ := Option.map_eq_some_iff.mp read
       simp only [Prod.mk.injEq] at same
       obtain ⟨_, rfl⟩ := same
       simp only [List.length_cons]
       omega)
    | simp at read

/-- The text of a string from behind its opening quote, and what follows its closing one. -/
def readString (text : List Char) : Option (List Char × List Char) :=
  match text with
  | [] => none
  | '"' :: rest => some ([], rest)
  | '\\' :: rest =>
      match _read : readEscape rest with
      | none => none
      | some (c, rest) => (readString rest).map fun (written, rest) => (c :: written, rest)
  | c :: rest =>
      if c.toNat < 32 then none
      else (readString rest).map fun (written, rest) => (c :: written, rest)
termination_by text.length
decreasing_by
  · have := length_readEscape_lt _read
    simp only [List.length_cons]
    omega
  · simp

/-- The digits of the whole part of a number: a zero stands alone. -/
def wholeDigits : List Char → List Char × List Char
  | '0' :: rest => (['0'], rest)
  | text => (text.takeWhile Char.isDigit, text.dropWhile Char.isDigit)

/-- The fraction at the front of a text, with its point. -/
def fractionPart : List Char → List Char × List Char
  | '.' :: rest =>
      if rest.takeWhile Char.isDigit = [] then ([], '.' :: rest)
      else ('.' :: rest.takeWhile Char.isDigit, rest.dropWhile Char.isDigit)
  | text => ([], text)

/-- The exponent at the front of a text, with its mark. -/
def exponentPart : List Char → List Char × List Char
  | mark :: rest =>
      let (sign, digits) := match rest with
        | '+' :: digits => (['+'], digits)
        | '-' :: digits => (['-'], digits)
        | digits => ([], digits)
      if (mark = 'e' ∨ mark = 'E') ∧ digits.takeWhile Char.isDigit ≠ [] then
        (mark :: (sign ++ digits.takeWhile Char.isDigit), digits.dropWhile Char.isDigit)
      else ([], mark :: rest)
  | [] => ([], [])

/-- Why a text gives no value. -/
inductive Fault where
  | invalid
  | long (fault : LongInteger)

def orInvalid {α : Type} : Option α → Except Fault α
  | none => .error .invalid
  | some result => .ok result

def readUnsigned (negative : Bool) (text : List Char) : Except Fault (Value × List Char) :=
  let (whole, rest) := wholeDigits text
  let (fraction, rest) := fractionPart rest
  let (exponent, rest) := exponentPart rest
  if whole = [] then .error .invalid
  else if fraction = [] ∧ exponent = [] then
    let size := Nat.ofDigitChars 10 whole 0
    if whole.length ≤ maxDigits then .ok (.integer (if negative then -(size : Int) else size), rest)
    else .error (.long {})
  else
    (orInvalid (Decimal.readUnsigned negative (whole ++ fraction ++ exponent))).map fun number =>
      (.decimal number, rest)

/-- A value that is no string, list or object, at the front of a text. -/
def readScalar : List Char → Except Fault (Value × List Char)
  | 'n' :: 'u' :: 'l' :: 'l' :: rest => .ok (.null, rest)
  | 't' :: 'r' :: 'u' :: 'e' :: rest => .ok (.flag true, rest)
  | 'f' :: 'a' :: 'l' :: 's' :: 'e' :: rest => .ok (.flag false, rest)
  | 'N' :: 'a' :: 'N' :: rest => .ok (.decimal .nan, rest)
  | 'I' :: 'n' :: 'f' :: 'i' :: 'n' :: 'i' :: 't' :: 'y' :: rest =>
      .ok (.decimal (.infinite false), rest)
  | '-' :: 'I' :: 'n' :: 'f' :: 'i' :: 'n' :: 'i' :: 't' :: 'y' :: rest =>
      .ok (.decimal (.infinite true), rest)
  | '-' :: rest => readUnsigned true rest
  | text => readUnsigned false text

mutual

/-- A value at the front of a text. All three readers take a bound on their steps; two for each
character are enough. -/
def readValue : Nat → List Char → Except Fault (Value × List Char)
  | 0, _ => .error .invalid
  | steps + 1, text =>
      match text with
      | '"' :: rest => (orInvalid (readString rest)).map fun (written, rest) =>
          (.text (String.ofList written), rest)
      | '[' :: rest =>
          match skipBlanks rest with
          | ']' :: rest => .ok (.list [], rest)
          | rest => (readItems steps rest).map fun (items, rest) => (.list items, rest)
      | '\x7b' :: rest =>
          match skipBlanks rest with
          | '\x7d' :: rest => .ok (.table [], rest)
          | rest => (readEntries [] steps rest).map fun (entries, rest) => (.table entries, rest)
      | text => readScalar text

/-- The items of a list that has some. -/
def readItems : Nat → List Char → Except Fault (List Value × List Char)
  | 0, _ => .error .invalid
  | steps + 1, text => do
      let (item, rest) ← readValue steps text
      match skipBlanks rest with
      | ',' :: rest =>
          let (items, rest) ← readItems steps (skipBlanks rest)
          .ok (item :: items, rest)
      | ']' :: rest => .ok ([item], rest)
      | _ => .error .invalid

/-- The entries of an object that has some, added to those before them. -/
def readEntries (before : List (String × Value)) :
    Nat → List Char → Except Fault (List (String × Value) × List Char)
  | 0, _ => .error .invalid
  | steps + 1, text => do
      match text with
      | '"' :: rest =>
          let (key, rest) ← orInvalid (readString rest)
          match skipBlanks rest with
          | ':' :: rest =>
              let (value, rest) ← readValue steps (skipBlanks rest)
              let entries := OrderedMap.put (String.ofList key) value before
              match skipBlanks rest with
              | ',' :: rest => readEntries entries steps (skipBlanks rest)
              | '\x7d' :: rest => .ok (entries, rest)
              | _ => .error .invalid
          | _ => .error .invalid
      | _ => .error .invalid

end

def read (text : String) : Except Fault Value := do
  let (value, rest) ← readValue (2 * text.length + 2) (skipBlanks text.toList)
  if skipBlanks rest = [] then .ok value else .error .invalid

end ShellPrompt.Json
