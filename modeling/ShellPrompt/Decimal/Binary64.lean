/-!
Positive binary64 numbers in exact arithmetic: the one nearest to a decimal, and the shortest
decimal that has a given one as its nearest. Everything is measured in units of 2^-1074, the
smallest positive binary64 number.
-/

namespace ShellPrompt.Decimal

/-- The number `mantissa * 2 ^ scale` units. The mantissa is below 2^53, and at least 2^52 unless
the scale is zero. -/
structure Binary64 where
  mantissa : Nat
  scale : Nat
  deriving DecidableEq, Repr

/-- The quotient rounded to the nearest whole number, a half to the even neighbour. -/
def roundEven (numerator denominator : Nat) : Nat :=
  let quotient := numerator / denominator
  let twice := 2 * (numerator % denominator)
  if twice < denominator then quotient
  else if denominator < twice then quotient + 1
  else if quotient % 2 = 0 then quotient
  else quotient + 1

/-- The binary64 number nearest to a quotient, if the quotient is not too large for one. -/
def Binary64.nearest? (numerator denominator : Nat) : Option Binary64 :=
  let units := numerator <<< 1074
  let scale := (units / denominator).log2 - 52
  let mantissa := roundEven units (denominator <<< scale)
  let rounded : Binary64 :=
    if mantissa = 1 <<< 53 then ⟨1 <<< 52, scale + 1⟩ else ⟨mantissa, scale⟩
  if rounded.scale ≤ 2045 then some rounded else none

namespace Binary64

/-- The whole powers of ten `(a, b)` with `10 ^ exponent = a / b`. -/
def tenPower (exponent : Int) : Nat × Nat :=
  (Nat.pow 10 exponent.toNat, Nat.pow 10 (-exponent).toNat)

/-- How `digits * 10 ^ exponent` compares with a number of quarter units. -/
def compareQuarters (digits : Nat) (exponent : Int) (quarters : Nat) : Ordering :=
  let (above, below) := tenPower exponent
  compare ((digits * above) <<< 1076) (quarters * below)

/-- The interval of the numbers that round to this one, in quarter units. Its lower half is
narrower where the spacing of the binary64 numbers changes. -/
def bounds (number : Binary64) : Nat × Nat :=
  let gap := if number.mantissa = 1 <<< 52 ∧ 0 < number.scale then 1 else 2
  ((4 * number.mantissa - gap) <<< number.scale, (4 * number.mantissa + 2) <<< number.scale)

/-- Whether `digits * 10 ^ exponent` rounds to the number. The ends of the interval belong to it
when the mantissa is even. -/
def reads (number : Binary64) (digits : Nat) (exponent : Int) : Bool :=
  let (low, high) := number.bounds
  let even := number.mantissa % 2 = 0
  match compareQuarters digits exponent low, compareQuarters digits exponent high with
  | .gt, .lt => true
  | .eq, _ => even
  | _, .eq => even
  | _, _ => false

/-- The exponent of the number's first decimal digit. The first guess is at most one too small. -/
def firstDigit (number : Binary64) : Int :=
  let quarters := (4 * number.mantissa) <<< number.scale
  let guess := Int.fdiv (((quarters.log2 : Int) - 1076) * 30103) 100000
  if compareQuarters 1 (guess + 1) quarters = .gt then guess else guess + 1

/-- The one of the number's two neighbours on the grid of multiples of `10 ^ exponent` that reads
back as the number; of two such, the nearer, and of two at equal distance the even one. -/
def onGrid (number : Binary64) (exponent : Int) : Option Nat :=
  let (above, below) := tenPower exponent
  let quarters := (4 * number.mantissa) <<< number.scale
  let digits := quarters * below / (above <<< 1076)
  match number.reads digits exponent, number.reads (digits + 1) exponent with
  | true, true => some (roundEven (quarters * below) (above <<< 1076))
  | true, false => some digits
  | false, true => some (digits + 1)
  | false, false => none

/-- The fewest decimal digits that read back as the number, as `digits * 10 ^ exponent`. Seventeen
digits are always enough. -/
def shortest (number : Binary64) : Nat × Int :=
  let first := number.firstDigit
  let found := (List.range 17).findSome? fun (count : Nat) =>
    let exponent := first - count
    (number.onGrid exponent).map fun digits => (digits, exponent)
  found.getD (0, 0)

end Binary64

def dropZeros (digits : Nat) (exponent : Int) : Nat × Int :=
  if h : digits ≠ 0 ∧ digits % 10 = 0 then dropZeros (digits / 10) (exponent + 1)
  else (digits, exponent)
termination_by digits
decreasing_by omega

/-- The shortest decimal that reads back as a number, without zeros at its end. -/
def Binary64.toDecimal (number : Binary64) : Nat × Int :=
  if number.mantissa = 0 then (0, 0) else dropZeros number.shortest.1 number.shortest.2

/-- The shortest decimal with the same nearest binary64 number, or `none` for a decimal beyond the
largest one. -/
def shorten (digits : Nat) (exponent : Int) : Option (Nat × Int) :=
  let size := (Nat.toDigits 10 digits).length + exponent
  if digits = 0 ∨ size < -330 then some (0, 0)
  else if 330 < size then none
  else
    (Binary64.nearest? (digits * (Binary64.tenPower exponent).1)
      (Binary64.tenPower exponent).2).map Binary64.toDecimal

end ShellPrompt.Decimal
