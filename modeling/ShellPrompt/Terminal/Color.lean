import ShellPrompt.OrderedMap
import ShellPrompt.Terminal.ColorNames
import ShellPrompt.Text.Digits
import ShellPrompt.Text.Lower
import ShellPrompt.Text.Quoted
import ShellPrompt.Text.Words

/-!
Colours that a terminal can show, as they are written in styles: by name, by number, or by their
red, green and blue parts.
-/

namespace ShellPrompt.Terminal

inductive Shade where
  | default
  | indexed (number : Nat)
  | mixed (red green blue : Nat)
  deriving DecidableEq, Repr

structure Color where
  name : String
  shade : Shade
  deriving DecidableEq, Repr

/-- A part of a mixed colour that holds no single number. -/
structure BrokenColor where
  name : String

def trimOf (isBlank : Char → Bool) (text : List Char) : List Char :=
  ((text.dropWhile isBlank).reverse.dropWhile isBlank).reverse

def trim (text : List Char) : List Char := trimOf Text.isBlank text

/-- The digits that make up the whole text, as a number. Only the digits from U+0030 to U+0039
count. -/
def number? (text : List Char) : Option Nat :=
  if text ≠ [] ∧ text.all Char.isDigit then some (Nat.ofDigitChars 10 text 0) else none

/-- Whether a blank may stand around the digits of a part of a mixed colour: the separators from
U+001C to U+001F may not. -/
def isPartBlank (c : Char) : Bool := Text.isBlank c && !(0x1C ≤ c.toNat && c.toNat ≤ 0x1F)

/-- The number that a part of a mixed colour holds: digits of any script, but not too many of them,
between blanks. -/
def readPart (text : List Char) : Option Nat :=
  let digits := trimOf isPartBlank text
  if digits.length ≤ Text.maxDigits then Text.decimal? digits else none

def beforeParenthesis? (text : List Char) : Option (List Char) :=
  if text.getLast? = some ')' then some text.dropLast else none

def splitCommas : List Char → List (List Char)
  | [] => [[]]
  | ',' :: rest => [] :: splitCommas rest
  | c :: rest =>
      match splitCommas rest with
      | [] => [[c]]
      | part :: parts => (c :: part) :: parts

def readHexColor : List Char → Option Shade
  | [a, b, c, d, e, f] => do
      let red ← Text.readHex? [a, b]
      let green ← Text.readHex? [c, d]
      let blue ← Text.readHex? [e, f]
      some (.mixed red green blue)
  | _ => none

/-- A colour by its number: at most three digits, and at most 255. -/
def readIndexed (text : List Char) : Option Shade := do
  let digits ← beforeParenthesis? text
  let number ← number? digits
  if digits.length ≤ 3 ∧ number ≤ 255 then some (.indexed number) else none

/-- A colour by its parts: digits of any script, blanks and commas only. Three parts are one colour
if each is at most 255; a part that is not a single number breaks the whole. -/
def readMixed (name : String) (text : List Char) : Except BrokenColor (Option Shade) :=
  match beforeParenthesis? text with
  | none => .ok none
  | some inner =>
      if inner ≠ [] ∧ inner.all fun c => Text.isDecimal c || Text.isBlank c || c == ',' then
        match splitCommas inner with
        | [red, green, blue] =>
            match readPart red, readPart green, readPart blue with
            | some red, some green, some blue =>
                if red ≤ 255 ∧ green ≤ 255 ∧ blue ≤ 255 then .ok (some (.mixed red green blue))
                else .ok none
            | _, _, _ => .error ⟨name⟩
        | _ => .ok none
      else .ok none

def readShade (name : String) : Except BrokenColor (Option Shade) :=
  if name = "default" then .ok (some .default)
  else
    match OrderedMap.find name colorNames with
    | some number => .ok (some (.indexed number))
    | none =>
        match name.toList with
        | '#' :: digits => .ok (readHexColor digits)
        | 'c' :: 'o' :: 'l' :: 'o' :: 'r' :: '(' :: rest => .ok (readIndexed rest)
        | 'r' :: 'g' :: 'b' :: '(' :: rest => readMixed name rest
        | _ => .ok none

/-- The colour of a style's attribute. What names no colour is dropped. -/
def Color.read (written : Option String) : Except BrokenColor (Option Color) :=
  match written with
  | none => .ok none
  | some written =>
      if written = "" ∨ written = "inherit" then .ok none
      else
        let name := String.ofList (trim (Text.lower written).toList)
        (readShade name).map fun shade => shade.map fun shade => ⟨name, shade⟩

end ShellPrompt.Terminal
