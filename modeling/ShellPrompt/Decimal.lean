import ShellPrompt.Decimal.Binary64

/-!
Decimal numbers as configuration files hold them. A number stands for the binary64 number nearest
to it, and of all decimals that stand for the same one the shortest is kept; so equal numbers are
equal values, and writing a number and reading it back changes nothing.
-/

namespace ShellPrompt

/-- A number `digits * 10 ^ exponent` with its sign, or one of the values that are no number. -/
inductive Decimal where
  | finite (negative : Bool) (digits : Nat) (exponent : Int)
      (canonical : Decimal.shorten digits exponent = some (digits, exponent))
  | infinite (negative : Bool)
  | nan
  deriving DecidableEq

namespace Decimal

def zero (negative : Bool) : Decimal := .finite negative 0 0 rfl

instance : Inhabited Decimal := ⟨zero false⟩

def ofScientific (negative : Bool) (digits : Nat) (exponent : Int) : Decimal :=
  match shorten digits exponent with
  | none => .infinite negative
  | some (shortDigits, shortExponent) =>
      if canonical : shorten shortDigits shortExponent = some (shortDigits, shortExponent) then
        .finite negative shortDigits shortExponent canonical
      else .nan

theorem ofScientific_of_canonical (negative : Bool) {digits : Nat} {exponent : Int}
    (canonical : shorten digits exponent = some (digits, exponent)) :
    ofScientific negative digits exponent = .finite negative digits exponent canonical := by
  simp [ofScientific, canonical]

def isZero : Decimal → Bool
  | .finite _ digits _ _ => digits == 0
  | _ => false

structure Layout where
  /-- The decimal point is written in place when the number of digits before it lies in this
  range. -/
  leastPoint : Int
  greatestPoint : Int
  exponentWidth : Nat

/-- Numbers from 0.0001 up to below 10^16 are written in place, all others with an exponent of at
least two digits. -/
def layout : Layout := ⟨-3, 16, 2⟩

def padLeft (width : Nat) (digits : List Char) : List Char :=
  List.replicate (width - digits.length) '0' ++ digits

def layOut (layout : Layout) (digits : Nat) (exponent : Int) : List Char :=
  let shown := Nat.toDigits 10 digits
  let point : Int := shown.length + exponent
  if digits = 0 then ['0', '.', '0']
  else if layout.leastPoint ≤ point ∧ point ≤ layout.greatestPoint then
    if point ≤ 0 then '0' :: '.' :: (List.replicate (-point).toNat '0' ++ shown)
    else if 0 ≤ exponent then shown ++ List.replicate exponent.toNat '0' ++ ['.', '0']
    else shown.take point.toNat ++ '.' :: shown.drop point.toNat
  else
    let power := point - 1
    let sign := if power < 0 then '-' else '+'
    let mantissa :=
      match shown with
      | first :: second :: rest => first :: '.' :: second :: rest
      | short => short
    mantissa ++ 'e' :: sign :: padLeft layout.exponentWidth (Nat.toDigits 10 power.natAbs)

def toChars : Decimal → List Char
  | .finite negative digits exponent _ =>
      (if negative then ['-'] else []) ++ layOut layout digits exponent
  | .infinite negative => (if negative then ['-'] else []) ++ ['i', 'n', 'f']
  | .nan => ['n', 'a', 'n']

def toText (number : Decimal) : String := String.ofList number.toChars

def spanDigits (text : List Char) : List Char × List Char :=
  (text.takeWhile Char.isDigit, text.dropWhile Char.isDigit)

/-- A sign at the front of a text: whether it is a minus, and what follows. -/
def readSign : List Char → Bool × List Char
  | '-' :: rest => (true, rest)
  | '+' :: rest => (false, rest)
  | text => (false, text)

/-- An exponent that takes up the whole text: `e` or `E`, an optional sign, and digits. An empty
text is the exponent zero. -/
def readExponent : List Char → Option Int
  | [] => some 0
  | mark :: rest =>
      let (negative, digits) := readSign rest
      if (mark = 'e' ∨ mark = 'E') ∧ digits ≠ [] ∧ digits.all Char.isDigit then
        let size : Int := Nat.ofDigitChars 10 digits 0
        some (if negative then -size else size)
      else none

/-- An unsigned number that takes up the whole text: digits, an optional point with digits, and an
optional exponent. -/
def readUnsigned (negative : Bool) (text : List Char) : Option Decimal :=
  let (whole, rest) := spanDigits text
  let (fraction, rest) :=
    match rest with
    | '.' :: rest => spanDigits rest
    | rest => ([], rest)
  if whole = [] ∧ fraction = [] then none
  else
    (readExponent rest).map fun exponent =>
      ofScientific negative (Nat.ofDigitChars 10 (whole ++ fraction) 0)
        (exponent - fraction.length)

/-- A number that takes up the whole text. The names of infinity and of no number are read in any
letter case. -/
def read? (text : List Char) : Option Decimal :=
  let (negative, rest) := readSign text
  match rest.map Char.toLower with
  | ['i', 'n', 'f'] => some (.infinite negative)
  | ['i', 'n', 'f', 'i', 'n', 'i', 't', 'y'] => some (.infinite negative)
  | ['n', 'a', 'n'] => some .nan
  | _ => readUnsigned negative rest

end Decimal

end ShellPrompt
