import ShellPrompt.Toml.Text
import ShellPrompt.Value

/-!
TOML values that are no strings, arrays or tables: truth values, numbers, dates and times. Each
takes up the text as far as the next blank, comma, comment or closing bracket; only a date may be
followed by a blank and a time.
-/

namespace ShellPrompt.Toml

open ShellPrompt.Text

def endsScalar (c : Char) : Bool :=
  isLineBlank c || c == '#' || c == ',' || c == ']' || c == '\x7d'

/-- The digits of a number, without the underscores that may stand between two of them. -/
def cleanDigits (isDigit : Char → Bool) : List Char → Option (List Char)
  | [] => none
  | [c] => if isDigit c then some [c] else none
  | c :: '_' :: rest => if isDigit c then (cleanDigits isDigit rest).map (c :: ·) else none
  | c :: rest => if isDigit c then (cleanDigits isDigit rest).map (c :: ·) else none

def isDigitOrMark (c : Char) : Bool := c.isDigit || c == '_'

def readPower : List Char → Option Int
  | mark :: rest =>
      if mark = 'e' ∨ mark = 'E' then
        let (negative, digits) := Decimal.readSign rest
        (cleanDigits Char.isDigit digits).map fun digits =>
          let size : Int := Nat.ofDigitChars 10 digits 0
          if negative then -size else size
      else none
  | [] => some 0

/-- A decimal number behind its sign: an integer, or a number with a fraction or an exponent. It
has no zero in front of its first digit. An integer of too many digits is taken for a decimal
number. -/
def readUnsigned (negative : Bool) (text : List Char) : Option Value := do
  let written := text.takeWhile isDigitOrMark
  let rest := text.dropWhile isDigitOrMark
  let whole ← cleanDigits Char.isDigit written
  if whole.length != 1 && whole.head? == some '0' then none
  match rest with
  | [] =>
      let size := Nat.ofDigitChars 10 whole 0
      if whole.length ≤ maxDigits then some (.integer (if negative then -(size : Int) else size))
      else some (.decimal (.ofScientific negative size 0))
  | '.' :: rest =>
      let fraction ← cleanDigits Char.isDigit (rest.takeWhile isDigitOrMark)
      let power ← readPower (rest.dropWhile isDigitOrMark)
      some (.decimal (.ofScientific negative (Nat.ofDigitChars 10 (whole ++ fraction) 0)
        (power - fraction.length)))
  | rest =>
      let power ← readPower rest
      some (.decimal (.ofScientific negative (Nat.ofDigitChars 10 whole 0) power))

def readBased (base : Nat) (text : List Char) : Option Value := do
  let digits ← cleanDigits (fun c => (hexValue? c).any (· < base)) text
  let size := digits.foldl (fun total c => base * total + (hexValue? c).getD 0) 0
  some (.integer size)

def readNumber : List Char → Option Value
  | '+' :: 'i' :: 'n' :: 'f' :: [] => some (.decimal (.infinite false))
  | '-' :: 'i' :: 'n' :: 'f' :: [] => some (.decimal (.infinite true))
  | ['i', 'n', 'f'] => some (.decimal (.infinite false))
  | '+' :: 'n' :: 'a' :: 'n' :: [] => some (.decimal .nan)
  | '-' :: 'n' :: 'a' :: 'n' :: [] => some (.decimal .nan)
  | ['n', 'a', 'n'] => some (.decimal .nan)
  | '0' :: 'x' :: digits => readBased 16 digits
  | '0' :: 'o' :: digits => readBased 8 digits
  | '0' :: 'b' :: digits => readBased 2 digits
  | '+' :: digits => readUnsigned false digits
  | '-' :: digits => readUnsigned true digits
  | digits => readUnsigned false digits

def twoDigits? (tens ones : Char) : Option Nat :=
  if tens.isDigit && ones.isDigit then some (Nat.ofDigitChars 10 [tens, ones] 0) else none

def readDate (text : List Char) : Option (Date × List Char) :=
  match text.takeWhile Char.isDigit, text.dropWhile Char.isDigit with
  | [], _ => none
  | year, '-' :: a :: b :: '-' :: c :: d :: rest => do
      let month ← twoDigits? a b
      let day ← twoDigits? c d
      some (⟨Nat.ofDigitChars 10 year 0, month, day⟩, rest)
  | _, _ => none

/-- The millionths that the digits of a fraction write; further digits do not count. -/
def microseconds (digits : List Char) : Nat :=
  let shown := digits.take 6
  Nat.ofDigitChars 10 (shown ++ List.replicate (6 - shown.length) '0') 0

def readClock : List Char → Option (Clock × List Char)
  | a :: b :: ':' :: c :: d :: ':' :: e :: f :: rest => do
      let hour ← twoDigits? a b
      let minute ← twoDigits? c d
      let second ← twoDigits? e f
      match rest with
      | '.' :: rest =>
          if rest.takeWhile Char.isDigit = [] then none
          else
            some (⟨hour, minute, second, microseconds (rest.takeWhile Char.isDigit)⟩,
              rest.dropWhile Char.isDigit)
      | rest => some (⟨hour, minute, second, 0⟩, rest)
  | _ => none

/-- The distance from universal time that takes up the whole text, if there is any text. -/
def readOffset : List Char → Option (Option Offset)
  | [] => some none
  | ['Z'] => some (some .universal)
  | ['z'] => some (some .universal)
  | [sign, a, b, ':', c, d] => do
      let hours ← twoDigits? a b
      let minutes ← twoDigits? c d
      if (sign = '+' ∨ sign = '-') ∧ hours < 24 ∧ minutes < 60 then
        some (some (.distance (sign = '-') hours minutes))
      else none
  | _ => none

/-- A time of day with its offset that takes up the whole text behind a date. -/
def readInstant (date : Date) (text : List Char) : Option Moment := do
  let (clock, rest) ← readClock text
  let offset ← readOffset rest
  some (.instant date clock offset)

def readMoment (text : List Char) : Option Moment :=
  match readDate text with
  | some (date, []) => some (.day date)
  | some (date, separator :: rest) =>
      if separator = 'T' ∨ separator = 't' ∨ separator = ' ' then readInstant date rest else none
  | none =>
      match readClock text with
      | some (clock, []) => some (.hour clock)
      | _ => none

/-- How far the value at the front of a text goes: a date takes a time behind a blank with it. -/
def scalarSpan (text : List Char) : List Char × List Char :=
  let written := text.takeWhile fun c => !endsScalar c
  let rest := text.dropWhile fun c => !endsScalar c
  match readDate written with
  | some (_, []) =>
      let ends := fun c => endsScalar c && c != ' '
      let behind := (rest.takeWhile fun c => !ends c).reverse.dropWhile isSpace |>.reverse
      (written ++ behind, rest.drop behind.length)
  | _ => (written, rest)

/-- A value that is no string, array or table, at the front of a text. -/
def readScalar (text : List Char) : Option (Value × List Char) :=
  match text with
  | 't' :: 'r' :: 'u' :: 'e' :: rest => some (.flag true, rest)
  | 'f' :: 'a' :: 'l' :: 's' :: 'e' :: rest => some (.flag false, rest)
  | _ =>
      let (written, rest) := scalarSpan text
      match readMoment written with
      | some moment => if moment.isValid then some (.moment moment, rest) else none
      | none => (readNumber written).map fun value => (value, rest)

end ShellPrompt.Toml
