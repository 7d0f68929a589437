/-!
Decimal digits of all scripts, the numbers that are written with them, and how many digits an
integer may have.
-/

namespace ShellPrompt

/-- An integer of more digits than are ever turned into a number, or a number into. -/
structure LongInteger where
  deriving DecidableEq, Repr

namespace Text

/-- The most digits that an integer may have where it is read or written in decimal. -/
def maxDigits : Nat := 4300

/-- The zeros of the scripts. The digits from one to nine follow each of them in order. -/
def digitZeros : List Nat := [
  0x30, 0x660, 0x6F0, 0x7C0, 0x966, 0x9E6, 0xA66, 0xAE6, 0xB66, 0xBE6, 0xC66, 0xCE6, 0xD66, 0xDE6,
  0xE50, 0xED0, 0xF20, 0x1040, 0x1090, 0x17E0, 0x1810, 0x1946, 0x19D0, 0x1A80, 0x1A90, 0x1B50,
  0x1BB0, 0x1C40, 0x1C50, 0xA620, 0xA8D0, 0xA900, 0xA9D0, 0xA9F0, 0xAA50, 0xABF0, 0xFF10, 0x104A0,
  0x10D30, 0x11066, 0x110F0, 0x11136, 0x111D0, 0x112F0, 0x11450, 0x114D0, 0x11650, 0x116C0,
  0x11730, 0x118E0, 0x11950, 0x11C50, 0x11D50, 0x11DA0, 0x16A60, 0x16AC0, 0x16B50, 0x1D7CE,
  0x1D7D8, 0x1D7E2, 0x1D7EC, 0x1D7F6, 0x1E140, 0x1E2F0, 0x1E950, 0x1FBF0]

def digitValue? (c : Char) : Option Nat :=
  (digitZeros.find? fun start => start ≤ c.toNat ∧ c.toNat < start + 10).map (c.toNat - ·)

def isDecimal (c : Char) : Bool := (digitValue? c).isSome

theorem digitValue?_of_isDigit {c : Char} (digit : c.isDigit = true) :
    digitValue? c = some (c.toNat - '0'.toNat) := by
  simp only [Char.isDigit, Bool.and_eq_true, decide_eq_true_eq] at digit
  have low : 0x30 ≤ c.toNat := UInt32.le_iff_toNat_le.1 digit.1
  have high : c.toNat < 0x30 + 10 := Nat.lt_succ_of_le (UInt32.le_iff_toNat_le.1 digit.2)
  simp [digitValue?, digitZeros, low, high]

theorem isDecimal_of_isDigit {c : Char} (digit : c.isDigit = true) : isDecimal c = true := by
  simp [isDecimal, digitValue?_of_isDigit digit]

/-- The number written by digits alone, in any mixture of scripts. -/
def decimal? (text : List Char) : Option Nat :=
  if text = [] then none
  else (text.mapM digitValue?).map fun digits => digits.foldl (fun n digit => 10 * n + digit) 0

end Text

end ShellPrompt
