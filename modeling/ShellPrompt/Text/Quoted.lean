import ShellPrompt.Text.Digits
import ShellPrompt.Text.Printable

/-!
Quoted text, as values are shown inside lists and messages, and the digits of numbers.
-/

namespace ShellPrompt.Text

/-- The lower case hexadecimal digits of a number, with zeros in front up to a width. -/
def hexDigits (width n : Nat) : List Char :=
  let digits := Nat.toDigits 16 n
  List.replicate (width - digits.length) '0' ++ digits

/-- The value of a hexadecimal digit of either case. -/
def hexValue? (c : Char) : Option Nat :=
  if c.isDigit then some (c.toNat - '0'.toNat)
  else if 'a' ≤ c ∧ c ≤ 'f' then some (c.toNat - 'a'.toNat + 10)
  else if 'A' ≤ c ∧ c ≤ 'F' then some (c.toNat - 'A'.toNat + 10)
  else none

/-- The number that hexadecimal digits write, if all the characters are such digits. -/
def readHex? (digits : List Char) : Option Nat :=
  digits.foldlM (fun total c => (hexValue? c).map (16 * total + ·)) 0

def charAt? (n : Nat) : Option Char :=
  if n.isValidChar then some (Char.ofNat n) else none

def naturalChars (n : Nat) : List Char := Nat.toDigits 10 n

def integerChars (n : Int) : List Char :=
  if n < 0 then '-' :: naturalChars n.natAbs else naturalChars n.natAbs

/-- Whether an integer has no more digits than may be written. -/
def isWritable (n : Int) : Bool := (naturalChars n.natAbs).length ≤ maxDigits

/-- Decimal digits with zeros in front up to a width. -/
def paddedChars (width n : Nat) : List Char :=
  let digits := naturalChars n
  List.replicate (width - digits.length) '0' ++ digits

/-- How one character is shown between two quotes of the given kind. -/
def quoteChar (quote c : Char) : List Char :=
  if c = quote ∨ c = '\\' then ['\\', c]
  else if c = '\t' then ['\\', 't']
  else if c = '\n' then ['\\', 'n']
  else if c = '\r' then ['\\', 'r']
  else if isPrintable c then [c]
  else if c.toNat < 0x100 then '\\' :: 'x' :: hexDigits 2 c.toNat
  else if c.toNat < 0x10000 then '\\' :: 'u' :: hexDigits 4 c.toNat
  else '\\' :: 'U' :: hexDigits 8 c.toNat

/-- Single quotes, unless the text holds some and no double quote. -/
def chooseQuote (text : List Char) : Char :=
  if text.contains '\x27' && !text.contains '"' then '"' else '\x27'

def quoteChars (text : List Char) : List Char :=
  let quote := chooseQuote text
  quote :: (text.flatMap (quoteChar quote) ++ [quote])

end ShellPrompt.Text
