import Mathlib.Algebra.Group.Nat.Defs
import ShellPrompt.Decimal

/-!
The shortest decimal depends on the number alone, not on the digits and the exponent that it was
written with. So zeros may move between the two without changing which decimal is read.
-/

namespace ShellPrompt.Decimal

theorem roundEven_mul_right (numerator denominator : Nat) {factor : Nat} (positive : 0 < factor) :
    roundEven (numerator * factor) (denominator * factor) = roundEven numerator denominator := by
  have quotient : numerator * factor / (denominator * factor) = numerator / denominator :=
    Nat.mul_div_mul_right _ _ positive
  have remainder :
      2 * (numerator * factor % (denominator * factor)) =
        2 * (numerator % denominator) * factor := by
    rw [Nat.mul_mod_mul_right, Nat.mul_assoc]
  simp only [roundEven, quotient, remainder, Nat.mul_lt_mul_right positive]

theorem roundEven_eq_of_cross {first second third fourth : Nat} (positive : 0 < second)
    (positive' : 0 < fourth) (cross : first * fourth = third * second) :
    roundEven first second = roundEven third fourth := by
  rw [← roundEven_mul_right first second positive', ← roundEven_mul_right third fourth positive,
    cross, Nat.mul_comm second fourth]

theorem div_eq_of_cross {first second third fourth : Nat} (positive : 0 < second)
    (positive' : 0 < fourth) (cross : first * fourth = third * second) :
    first / second = third / fourth := by
  rw [← Nat.mul_div_mul_right first second positive', ← Nat.mul_div_mul_right third fourth positive,
    cross, Nat.mul_comm second fourth]

/-- Equal quotients have the same nearest number. -/
theorem Binary64.nearest?_eq_of_cross {first second third fourth : Nat} (positive : 0 < second)
    (positive' : 0 < fourth) (cross : first * fourth = third * second) :
    nearest? first second = nearest? third fourth := by
  have units : first <<< 1074 * fourth = third <<< 1074 * second := by
    rw [Nat.shiftLeft_eq, Nat.shiftLeft_eq, Nat.mul_right_comm, cross, Nat.mul_right_comm]
  have quotient := div_eq_of_cross positive positive' units
  have rounded (scale : Nat) :
      roundEven (first <<< 1074) (second <<< scale) =
        roundEven (third <<< 1074) (fourth <<< scale) := by
    rw [Nat.shiftLeft_eq second, Nat.shiftLeft_eq fourth]
    apply roundEven_eq_of_cross
    · exact Nat.mul_pos positive (Nat.two_pow_pos scale)
    · exact Nat.mul_pos positive' (Nat.two_pow_pos scale)
    · rw [← Nat.mul_assoc, ← Nat.mul_assoc, units]
  simp only [nearest?, quotient, rounded]

theorem toDigits_ten_mul {n : Nat} (positive : 0 < n) :
    Nat.toDigits 10 (n * 10) = Nat.toDigits 10 n ++ ['0'] := by
  have appended := Nat.toDigits_append_toDigits (b := 10) (d := 0) (by decide) positive (by decide)
  rw [Nat.add_zero, Nat.mul_comm] at appended
  exact appended.symm

theorem toDigits_mul_pow {n : Nat} (positive : 0 < n) (count : Nat) :
    Nat.toDigits 10 (n * 10 ^ count) = Nat.toDigits 10 n ++ List.replicate count '0' := by
  induction count with
  | zero => simp
  | succ count inductionHypothesis =>
      have larger : 0 < n * 10 ^ count := Nat.mul_pos positive (Nat.pow_pos (by decide))
      rw [Nat.pow_succ, ← Nat.mul_assoc, toDigits_ten_mul larger, inductionHypothesis,
        List.append_assoc, ← List.replicate_succ']

theorem tenPower_pos (exponent : Int) : 0 < (Binary64.tenPower exponent).2 :=
  Nat.pow_pos (by decide)

theorem tenPower_cross (digits count : Nat) (exponent : Int) :
    digits * 10 ^ count * (Binary64.tenPower (exponent - count)).1 *
        (Binary64.tenPower exponent).2 =
      digits * (Binary64.tenPower exponent).1 * (Binary64.tenPower (exponent - count)).2 := by
  have exponents : count + (exponent - count).toNat + (-exponent).toNat =
      exponent.toNat + (-(exponent - count)).toNat := by
    omega
  simp only [Binary64.tenPower, Nat.pow_eq, Nat.mul_assoc, ← Nat.pow_add]
  rw [exponents]

theorem shorten_zero (exponent : Int) : shorten 0 exponent = some (0, 0) := by
  rw [shorten, if_pos (.inl rfl)]

/-- Zeros at the end of the digits count as much as the exponent. -/
theorem shorten_mul_pow (digits count : Nat) (exponent : Int) :
    shorten (digits * 10 ^ count) (exponent - count) = shorten digits exponent := by
  rcases Nat.eq_zero_or_pos digits with rfl | positive
  · rw [Nat.zero_mul, shorten_zero, shorten_zero]
  · have nonzero : digits * 10 ^ count ≠ 0 :=
      Nat.ne_of_gt (Nat.mul_pos positive (Nat.pow_pos (by decide)))
    have size : ((Nat.toDigits 10 (digits * 10 ^ count)).length : Int) + (exponent - count) =
        (Nat.toDigits 10 digits).length + exponent := by
      rw [toDigits_mul_pow positive, List.length_append, List.length_replicate]
      omega
    have nearest := Binary64.nearest?_eq_of_cross (tenPower_pos (exponent - count))
      (tenPower_pos exponent) (tenPower_cross digits count exponent)
    unfold shorten
    rw [size, nearest]
    by_cases tiny : ((Nat.toDigits 10 digits).length : Int) + exponent < -330
    · rw [if_pos (.inr tiny), if_pos (.inr tiny)]
    · rw [if_neg (not_or.mpr ⟨nonzero, tiny⟩), if_neg (not_or.mpr ⟨Nat.ne_of_gt positive, tiny⟩)]

/-- A number with further zeros behind its digits is read as the decimal that it has a shortest
form as. -/
theorem ofScientific_mul_pow (negative : Bool) {digits : Nat} (count : Nat) {exponent : Int}
    (canonical : shorten digits exponent = some (digits, exponent)) :
    ofScientific negative (digits * 10 ^ count) (exponent - count) =
      .finite negative digits exponent canonical := by
  simp [ofScientific, shorten_mul_pow, canonical]

end ShellPrompt.Decimal
