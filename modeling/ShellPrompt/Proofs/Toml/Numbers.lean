import ShellPrompt.Proofs.Decimal.Shortest
import ShellPrompt.Toml.Document

/-!
Reading written numbers. Whatever number is written, its text is no date and no time, and its digits
give the number back; a decimal may come back with more zeros, which its shortest form absorbs.
-/

namespace ShellPrompt.Toml

open ShellPrompt.Text

theorem isDigit_ne {c : Char} (digit : c.isDigit = true) {d : Char} (other : d.isDigit = false) :
    c ≠ d := by
  rintro rfl
  rw [digit] at other
  cases other

theorem cleanDigits_eq_self {isDigit : Char → Bool} (noMark : isDigit '_' = false)
    {digits : List Char} (named : digits ≠ []) (all : ∀ c ∈ digits, isDigit c = true) :
    cleanDigits isDigit digits = some digits := by
  induction digits with
  | nil => exact absurd rfl named
  | cons c rest inductionHypothesis =>
      have first := all c List.mem_cons_self
      cases rest with
      | nil => simp [cleanDigits, first]
      | cons d rest =>
          have tail := inductionHypothesis (by simp) fun e member => all e (.tail _ member)
          have second := all d (by simp)
          rw [cleanDigits, if_pos first, tail, Option.map_some]
          · exact fun noTail => nomatch noTail
          · rintro after same
            rw [(List.cons.inj same).1, noMark] at second
            cases second

/-- What may stand behind the digits of a number. -/
def EndsDigits (after : List Char) : Prop := ∀ c tail, after = c :: tail → c = '.' ∨ c = 'e'

theorem span_digits {digits after : List Char} (all : ∀ c ∈ digits, c.isDigit = true)
    (ends : EndsDigits after) (test : Char → Bool)
    (holds : ∀ c : Char, c.isDigit = true → test c = true)
    (fails : test '.' = false ∧ test 'e' = false) :
    (digits ++ after).takeWhile test = digits ∧ (digits ++ after).dropWhile test = after := by
  have digitsPass : ∀ c ∈ digits, test c = true := fun c member => holds c (all c member)
  rw [List.takeWhile_append_of_pos digitsPass, List.dropWhile_append_of_pos digitsPass]
  rcases after with _ | ⟨c, tail⟩
  · simp
  · have stops : test c = false := by
      rcases ends c tail rfl with rfl | rfl
      · exact fails.1
      · exact fails.2
    simp [stops]

theorem span_isDigitOrMark {digits after : List Char} (all : ∀ c ∈ digits, c.isDigit = true)
    (ends : EndsDigits after) :
    (digits ++ after).takeWhile isDigitOrMark = digits ∧
      (digits ++ after).dropWhile isDigitOrMark = after :=
  span_digits all ends isDigitOrMark (fun c digit => by simp [isDigitOrMark, digit]) ⟨rfl, rfl⟩

/-- Digits that a number may start with: no zero stands in front of another digit. -/
structure IsWhole (digits : List Char) : Prop where
  named : digits ≠ []
  all : ∀ c ∈ digits, c.isDigit = true
  noZero : digits.length = 1 ∨ digits.head? ≠ some '0'

theorem IsWhole.allowed {whole : List Char} (isWhole : IsWhole whole) :
    ¬ ((whole.length != 1 && whole.head? == some '0') = true) := by
  rcases isWhole.noZero with single | noZero
  · simp [single]
  · simp [noZero]

theorem readUnsigned_integer (negative : Bool) {whole : List Char} (isWhole : IsWhole whole)
    (few : whole.length ≤ maxDigits) :
    readUnsigned negative whole =
      some (.integer (if negative then -(Nat.ofDigitChars 10 whole 0 : Int)
        else Nat.ofDigitChars 10 whole 0)) := by
  have noMark : EndsDigits [] := nofun
  obtain ⟨taken, left⟩ := span_isDigitOrMark isWhole.all noMark
  rw [List.append_nil] at taken left
  unfold readUnsigned
  rw [taken, left]
  simp only [cleanDigits_eq_self rfl isWhole.named isWhole.all, Option.bind_eq_bind,
    Option.bind_some, isWhole.allowed, if_false, Bool.false_eq_true, if_pos few]

theorem readUnsigned_point (negative : Bool) {whole fraction mark : List Char}
    (isWhole : IsWhole whole) (named : fraction ≠ []) (all : ∀ c ∈ fraction, c.isDigit = true)
    (ends : EndsDigits mark) {power : Int} (read : readPower mark = some power) :
    readUnsigned negative (whole ++ '.' :: (fraction ++ mark)) =
      some (.decimal (.ofScientific negative (Nat.ofDigitChars 10 (whole ++ fraction) 0)
        (power - fraction.length))) := by
  have point : EndsDigits ('.' :: (fraction ++ mark)) := by
    intro c tail same
    exact .inl (List.cons.inj same).1.symm
  obtain ⟨taken, left⟩ := span_isDigitOrMark isWhole.all point
  obtain ⟨taken', left'⟩ := span_isDigitOrMark all ends
  unfold readUnsigned
  rw [taken, left]
  simp only [cleanDigits_eq_self rfl isWhole.named isWhole.all, Option.bind_eq_bind,
    Option.bind_some, isWhole.allowed, if_false, Bool.false_eq_true, taken', left',
    cleanDigits_eq_self rfl named all, read]

theorem readUnsigned_power (negative : Bool) {whole tail : List Char} (isWhole : IsWhole whole)
    {power : Int} (read : readPower ('e' :: tail) = some power) :
    readUnsigned negative (whole ++ 'e' :: tail) =
      some (.decimal (.ofScientific negative (Nat.ofDigitChars 10 whole 0) power)) := by
  have mark : EndsDigits ('e' :: tail) := by
    intro c after same
    exact .inr (List.cons.inj same).1.symm
  obtain ⟨taken, left⟩ := span_isDigitOrMark isWhole.all mark
  unfold readUnsigned
  rw [taken, left]
  simp only [cleanDigits_eq_self rfl isWhole.named isWhole.all, Option.bind_eq_bind,
    Option.bind_some, isWhole.allowed, if_false, Bool.false_eq_true]
  split
  · rename_i same
    cases same
  · rename_i same
    cases same
  · rw [read, Option.bind_some]

theorem isDigit_of_mem_toDigits {n : Nat} : ∀ c ∈ Nat.toDigits 10 n, c.isDigit = true :=
  fun _ member => Nat.isDigit_of_mem_toDigits (by decide) (by decide) member

/-- The digits of a number other than zero start with another digit. -/
theorem head?_toDigits {n : Nat} (nonzero : n ≠ 0) : (Nat.toDigits 10 n).head? ≠ some '0' := by
  induction n using Nat.strongRecOn with
  | ind n inductionHypothesis =>
      by_cases small : n < 10
      · rw [Nat.toDigits_of_lt_base small]
        have known : ∀ m < 10, m ≠ 0 → [Nat.digitChar m].head? ≠ some '0' := by decide
        exact known n small nonzero
      · have front := inductionHypothesis (n / 10) (by omega) (by omega)
        rw [Nat.toDigits_of_base_le (by decide) (Nat.le_of_not_lt small)]
        cases digits : Nat.toDigits 10 (n / 10) with
        | nil => exact absurd digits Nat.toDigits_ne_nil
        | cons c tail =>
            rw [digits] at front
            exact front

theorem isWhole_toDigits (n : Nat) : IsWhole (Nat.toDigits 10 n) where
  named := Nat.toDigits_ne_nil
  all := isDigit_of_mem_toDigits
  noZero := by
    by_cases zero : n = 0
    · subst zero
      exact .inl rfl
    · exact .inr (head?_toDigits zero)

theorem ofDigitChars_replicate_append (count n : Nat) :
    Nat.ofDigitChars 10 (List.replicate count '0' ++ Nat.toDigits 10 n) 0 = n := by
  rw [Nat.ofDigitChars_append, Nat.ofDigitChars_replicate_zero, Nat.mul_zero,
    Nat.ofDigitChars_ten_toDigits]

theorem isDigit_of_mem_replicate {count : Nat} :
    ∀ c ∈ List.replicate count '0', c.isDigit = true := by
  intro c member
  rw [(List.mem_replicate.mp member).2]
  rfl

/-- A written exponent reads back. -/
theorem readPower_written (power : Int) :
    readPower ('e' :: (if power < 0 then '-' else '+') ::
      Decimal.padLeft 2 (Nat.toDigits 10 power.natAbs)) = some power := by
  have all : ∀ c ∈ Decimal.padLeft 2 (Nat.toDigits 10 power.natAbs), c.isDigit = true := by
    intro c member
    rcases List.mem_append.mp member with zero | digit
    · exact isDigit_of_mem_replicate c zero
    · exact isDigit_of_mem_toDigits c digit
  have named : Decimal.padLeft 2 (Nat.toDigits 10 power.natAbs) ≠ [] :=
    List.append_ne_nil_of_right_ne_nil _ Nat.toDigits_ne_nil
  have size : Nat.ofDigitChars 10 (Decimal.padLeft 2 (Nat.toDigits 10 power.natAbs)) 0 =
      power.natAbs :=
    ofDigitChars_replicate_append _ _
  unfold readPower
  by_cases below : power < 0
  · simp only [true_or, if_true, below, Decimal.readSign, cleanDigits_eq_self rfl named all, size,
      Option.map_some, Option.some.injEq]
    omega
  · simp only [true_or, if_true, below, if_false, Decimal.readSign,
      cleanDigits_eq_self rfl named all, size, Option.map_some, Option.some.injEq,
      Bool.false_eq_true]
    omega

/-- A text in place: a point between digits that stand for `digits * 10 ^ exponent`, perhaps with
further zeros. -/
def WrittenInPlace (digits : Nat) (exponent : Int) (text : List Char) : Prop :=
  ∃ (whole fraction : List Char) (count : Nat),
    text = whole ++ '.' :: fraction ∧ IsWhole whole ∧ fraction ≠ [] ∧
    (∀ c ∈ fraction, c.isDigit = true) ∧
    Nat.ofDigitChars 10 (whole ++ fraction) 0 = digits * 10 ^ count ∧
    (0 : Int) - fraction.length = exponent - count

/-- A text with an exponent, whose digits are exactly those of the number. -/
def WrittenWithPower (digits : Nat) (exponent : Int) (text : List Char) : Prop :=
  ∃ (whole fraction : List Char) (power : Int) (tail : List Char),
    text = whole ++ ((if fraction = [] then [] else '.' :: fraction) ++ 'e' :: tail) ∧
    IsWhole whole ∧ (∀ c ∈ fraction, c.isDigit = true) ∧
    tail = (if power < 0 then '-' else '+') :: Decimal.padLeft 2 (Nat.toDigits 10 power.natAbs) ∧
    Nat.ofDigitChars 10 (whole ++ fraction) 0 = digits ∧ power - fraction.length = exponent

theorem writtenInPlace_zero : WrittenInPlace 0 0 ['0', '.', '0'] :=
  ⟨['0'], ['0'], 1, rfl, ⟨by simp, by simp, .inl rfl⟩, by simp, by simp, rfl, rfl⟩

theorem writtenInPlace_small {digits : Nat} {exponent : Int}
    (small : (Nat.toDigits 10 digits).length + exponent ≤ 0) :
    WrittenInPlace digits exponent
      ('0' :: '.' :: (List.replicate (-((Nat.toDigits 10 digits).length + exponent)).toNat '0' ++
        Nat.toDigits 10 digits)) := by
  refine ⟨['0'], _, 0, rfl, ⟨by simp, by simp, .inl rfl⟩,
    List.append_ne_nil_of_right_ne_nil _ Nat.toDigits_ne_nil, ?_, ?_, ?_⟩
  · intro c member
    rcases List.mem_append.mp member with zero | digit
    · exact isDigit_of_mem_replicate c zero
    · exact isDigit_of_mem_toDigits c digit
  · rw [Nat.pow_zero, Nat.mul_one, ← List.append_assoc, List.singleton_append,
      ← List.replicate_succ, ofDigitChars_replicate_append]
  · rw [List.length_append, List.length_replicate]
    omega

theorem writtenInPlace_large {digits : Nat} {exponent : Int} (nonzero : digits ≠ 0)
    (large : 0 ≤ exponent) :
    WrittenInPlace digits exponent
      (Nat.toDigits 10 digits ++ List.replicate exponent.toNat '0' ++ ['.', '0']) := by
  have positive : 0 < digits := Nat.pos_of_ne_zero nonzero
  refine ⟨_, ['0'], exponent.toNat + 1, rfl, ?_, by simp, by simp, ?_, ?_⟩
  · rw [← Decimal.toDigits_mul_pow positive]
    exact isWhole_toDigits _
  · rw [List.append_assoc, ← List.replicate_succ', ← Decimal.toDigits_mul_pow positive,
      Nat.ofDigitChars_ten_toDigits]
  · rw [List.length_singleton]
    omega

theorem writtenInPlace_between {digits : Nat} {exponent : Int} (nonzero : digits ≠ 0)
    (positive : 0 < (Nat.toDigits 10 digits).length + exponent) (negative : exponent < 0) :
    WrittenInPlace digits exponent
      ((Nat.toDigits 10 digits).take ((Nat.toDigits 10 digits).length + exponent).toNat ++
        '.' :: (Nat.toDigits 10 digits).drop
          ((Nat.toDigits 10 digits).length + exponent).toNat) := by
  refine ⟨_, _, 0, rfl, ⟨?_, ?_, .inr ?_⟩, ?_, ?_, ?_, ?_⟩
  · apply List.ne_nil_of_length_pos
    rw [List.length_take]
    omega
  · exact fun c member => isDigit_of_mem_toDigits c (List.mem_of_mem_take member)
  · rw [List.head?_take, if_neg (by omega)]
    exact head?_toDigits nonzero
  · apply List.ne_nil_of_length_pos
    rw [List.length_drop]
    omega
  · exact fun c member => isDigit_of_mem_toDigits c (List.mem_of_mem_drop member)
  · rw [List.take_append_drop, Nat.ofDigitChars_ten_toDigits, Nat.pow_zero, Nat.mul_one]
  · rw [List.length_drop]
    omega

/-- The digits with a point behind the first one, if there are others. -/
def mantissaChars : List Char → List Char
  | first :: second :: rest => first :: '.' :: second :: rest
  | short => short

theorem writtenWithPower {digits : Nat} {exponent : Int} :
    WrittenWithPower digits exponent
      (mantissaChars (Nat.toDigits 10 digits) ++ 'e' ::
        (if (Nat.toDigits 10 digits).length + exponent - 1 < 0 then '-' else '+') ::
          Decimal.padLeft 2
            (Nat.toDigits 10 ((Nat.toDigits 10 digits).length + exponent - 1).natAbs)) := by
  cases shown : Nat.toDigits 10 digits with
  | nil => exact absurd shown Nat.toDigits_ne_nil
  | cons first fraction =>
      have all : ∀ c ∈ first :: fraction, c.isDigit = true := by
        rw [← shown]
        exact isDigit_of_mem_toDigits
      refine ⟨[first], fraction, (first :: fraction).length + exponent - 1, _, ?_, ?_, ?_, rfl,
        ?_, ?_⟩
      · cases fraction with
        | nil => rfl
        | cons second rest => simp [mantissaChars]
      · exact ⟨by simp, fun c member => all c (by simp_all), .inl rfl⟩
      · exact fun c member => all c (.tail _ member)
      · rw [List.singleton_append, ← shown, Nat.ofDigitChars_ten_toDigits]
      · rw [List.length_cons]
        omega

/-- A canonical decimal is written in one of the two ways. -/
theorem layOut_written {digits : Nat} {exponent : Int}
    (canonical : Decimal.shorten digits exponent = some (digits, exponent)) :
    WrittenInPlace digits exponent (Decimal.layOut Decimal.layout digits exponent) ∨
      WrittenWithPower digits exponent (Decimal.layOut Decimal.layout digits exponent) := by
  by_cases zero : digits = 0
  · subst zero
    rw [Decimal.shorten_zero] at canonical
    cases canonical
    exact .inl writtenInPlace_zero
  unfold Decimal.layOut
  simp only [if_neg zero]
  split
  · rename_i range
    split
    · rename_i small
      exact .inl (writtenInPlace_small small)
    · rename_i positive
      split
      · rename_i large
        exact .inl (writtenInPlace_large zero large)
      · rename_i negative
        exact .inl (writtenInPlace_between zero (by omega) (by omega))
  · exact .inr writtenWithPower

theorem readUnsigned_of_writtenInPlace (negative : Bool) {digits : Nat} {exponent : Int}
    {text : List Char} (canonical : Decimal.shorten digits exponent = some (digits, exponent))
    (written : WrittenInPlace digits exponent text) :
    readUnsigned negative text = some (.decimal (.finite negative digits exponent canonical)) := by
  obtain ⟨whole, fraction, count, rfl, isWhole, named, all, size, places⟩ := written
  have noMark : EndsDigits [] := nofun
  have read := readUnsigned_point negative isWhole named all noMark rfl
  rw [List.append_nil, size, places, Decimal.ofScientific_mul_pow] at read
  exact read

theorem readUnsigned_of_writtenWithPower (negative : Bool) {digits : Nat} {exponent : Int}
    {text : List Char} (canonical : Decimal.shorten digits exponent = some (digits, exponent))
    (written : WrittenWithPower digits exponent text) :
    readUnsigned negative text = some (.decimal (.finite negative digits exponent canonical)) := by
  obtain ⟨whole, fraction, power, tail, rfl, isWhole, all, rfl, size, places⟩ := written
  have exact := Decimal.ofScientific_of_canonical negative canonical
  have powerRead := readPower_written power
  by_cases none : fraction = []
  · subst none
    rw [List.append_nil] at size
    have same : power = exponent := by simpa using places
    rw [if_pos rfl, List.nil_append, readUnsigned_power negative isWhole powerRead, size, same,
      exact]
  · have ends : EndsDigits ('e' :: (if power < 0 then '-' else '+') ::
        Decimal.padLeft 2 (Nat.toDigits 10 power.natAbs)) := by
      intro c after same
      exact .inr (List.cons.inj same).1.symm
    rw [if_neg none, List.cons_append, readUnsigned_point negative isWhole none all ends powerRead,
      size, places, exact]

/-- A canonical decimal reads back from its digits. -/
theorem readUnsigned_layOut (negative : Bool) {digits : Nat} {exponent : Int}
    (canonical : Decimal.shorten digits exponent = some (digits, exponent)) :
    readUnsigned negative (Decimal.layOut Decimal.layout digits exponent) =
      some (.decimal (.finite negative digits exponent canonical)) := by
  rcases layOut_written canonical with inPlace | withPower
  · exact readUnsigned_of_writtenInPlace negative canonical inPlace
  · exact readUnsigned_of_writtenWithPower negative canonical withPower

/-- The characters of finite numbers. -/
def isNumeralChar (c : Char) : Bool :=
  c.isDigit || c == '.' || c == 'e' || c == '+' || c == '-'

/-- The text of a number without its sign: digits, and perhaps a point or an exponent. -/
def IsNumeral (text : List Char) : Prop :=
  ∃ whole after, text = whole ++ after ∧ whole ≠ [] ∧ (∀ c ∈ whole, c.isDigit = true) ∧
    EndsDigits after ∧ ∀ c ∈ after, isNumeralChar c = true

theorem isNumeralChar_of_isDigit {c : Char} (digit : c.isDigit = true) :
    isNumeralChar c = true := by
  simp [isNumeralChar, digit]

theorem isNumeral_toDigits (n : Nat) : IsNumeral (Nat.toDigits 10 n) :=
  ⟨_, [], (List.append_nil _).symm, Nat.toDigits_ne_nil, isDigit_of_mem_toDigits, nofun, nofun⟩

theorem isNumeralChar_of_mem_power {power : Int} {c : Char}
    (member : c ∈ 'e' :: (if power < 0 then '-' else '+') ::
      Decimal.padLeft 2 (Nat.toDigits 10 power.natAbs)) : isNumeralChar c = true := by
  rcases List.mem_cons.mp member with rfl | member
  · rfl
  rcases List.mem_cons.mp member with rfl | member
  · split <;> rfl
  rcases List.mem_append.mp member with zero | digit
  · exact isNumeralChar_of_isDigit (isDigit_of_mem_replicate c zero)
  · exact isNumeralChar_of_isDigit (isDigit_of_mem_toDigits c digit)

theorem isNumeral_layOut {digits : Nat} {exponent : Int}
    (canonical : Decimal.shorten digits exponent = some (digits, exponent)) :
    IsNumeral (Decimal.layOut Decimal.layout digits exponent) := by
  rcases layOut_written canonical with
    ⟨whole, fraction, _, written, isWhole, _, all, _, _⟩ |
      ⟨whole, fraction, power, tail, written, isWhole, all, rfl, _, _⟩
  · refine ⟨whole, _, written, isWhole.named, isWhole.all, ?_, ?_⟩
    · intro c after same
      exact .inl (List.cons.inj same).1.symm
    · intro c member
      rcases List.mem_cons.mp member with rfl | digit
      · rfl
      · exact isNumeralChar_of_isDigit (all c digit)
  · refine ⟨whole, _, written, isWhole.named, isWhole.all, ?_, ?_⟩
    · intro c after same
      by_cases none : fraction = []
      · rw [if_pos none] at same
        exact .inr (List.cons.inj same).1.symm
      · rw [if_neg none] at same
        exact .inl (List.cons.inj same).1.symm
    · intro c member
      rcases List.mem_append.mp member with inFraction | inPower
      · by_cases none : fraction = []
        · rw [if_pos none] at inFraction
          cases inFraction
        · rw [if_neg none] at inFraction
          rcases List.mem_cons.mp inFraction with rfl | digit
          · rfl
          · exact isNumeralChar_of_isDigit (all c digit)
      · exact isNumeralChar_of_mem_power inPower

/-- A value whose text cannot be a date, a time or a truth value is read as a number. -/
theorem readScalar_of_readNumber {text rest : List Char} {c : Char} {value : Value}
    (inside : ∀ d ∈ text, endsScalar d = false) (ends : endsScalar c = true)
    (noDate : readDate text = none) (noClock : readClock text = none)
    (noFlag : text.head? ≠ some 't' ∧ text.head? ≠ some 'f' ∧ text ≠ [])
    (number : readNumber text = some value) :
    readScalar (text ++ c :: rest) = some (value, c :: rest) := by
  have pass : ∀ d ∈ text, (!endsScalar d) = true := by
    intro d member
    rw [inside d member]
    rfl
  have span : scalarSpan (text ++ c :: rest) = (text, c :: rest) := by
    unfold scalarSpan
    rw [List.takeWhile_append_of_pos pass, List.dropWhile_append_of_pos pass,
      List.takeWhile_cons_of_neg (by simp [ends]), List.dropWhile_cons_of_neg (by simp [ends]),
      List.append_nil]
    dsimp only
    rw [noDate]
  obtain ⟨notTrue, notFalse, named⟩ := noFlag
  obtain ⟨first, tail, rfl⟩ := List.exists_cons_of_ne_nil named
  unfold readScalar
  split
  · rename_i same
    exact absurd (congrArg some (List.cons.inj same).1) notTrue
  · rename_i same
    exact absurd (congrArg some (List.cons.inj same).1) notFalse
  · rw [span]
    simp only [readMoment, noDate, noClock, number, Option.map_some]

/-- A character that passes a test is not the end of a value, if none of those passes it. -/
theorem endsScalar_eq_false (test : Char → Bool)
    (fails : [' ', '\t', '\n', '\r', '#', ',', ']', '\x7d'].all (fun d => !test d) = true)
    {c : Char} (holds : test c = true) : endsScalar c = false := by
  by_cases ends : endsScalar c = true
  · have member : c ∈ [' ', '\t', '\n', '\r', '#', ',', ']', '\x7d'] := by
      simpa [endsScalar, isLineBlank, or_assoc] using ends
    have failed := List.all_eq_true.mp fails c member
    rw [holds] at failed
    cases failed
  · exact Bool.not_eq_true _ ▸ ends

/-- What no character of a number is: the end of a value, the colon of a time, or a letter that
stands for another base or for no finite number. -/
theorem isNumeralChar_spec {c : Char} (numeral : isNumeralChar c = true) :
    endsScalar c = false ∧ c ≠ ':' ∧ c ≠ 'x' ∧ c ≠ 'o' ∧ c ≠ 'b' ∧ c ≠ 'i' ∧ c ≠ 'n' := by
  refine ⟨endsScalar_eq_false isNumeralChar (by decide) numeral, ?_, ?_, ?_, ?_, ?_, ?_⟩
  all_goals
    rintro rfl
    cases numeral

theorem readClock_eq_none {text : List Char} (noColon : ∀ c ∈ text, c ≠ ':') :
    readClock text = none := by
  unfold readClock
  split
  · exact absurd rfl (noColon ':' (by simp))
  · rfl

theorem IsNumeral.cons {text : List Char} (numeral : IsNumeral text) :
    ∃ digit tail, text = digit :: tail ∧ digit.isDigit = true ∧
      ∀ c ∈ text, isNumeralChar c = true := by
  obtain ⟨whole, after, rfl, named, digits, _, others⟩ := numeral
  obtain ⟨digit, tail, rfl⟩ := List.exists_cons_of_ne_nil named
  refine ⟨digit, tail ++ after, rfl, digits digit List.mem_cons_self, ?_⟩
  intro c member
  rcases List.mem_append.mp member with front | back
  · exact isNumeralChar_of_isDigit (digits c front)
  · exact others c back

/-- Behind the digits of a number no hyphen follows, as behind the year of a date. -/
theorem IsNumeral.readDate_eq_none {text : List Char} (numeral : IsNumeral text) :
    readDate text = none := by
  obtain ⟨whole, after, rfl, named, digits, ends, _⟩ := numeral
  obtain ⟨taken, left⟩ := span_digits digits ends Char.isDigit (fun _ digit => digit) ⟨rfl, rfl⟩
  unfold readDate
  rw [taken, left]
  split
  · rfl
  · rcases ends _ _ rfl with same | same <;> cases same
  · rfl

theorem IsNumeral.readNumber_eq {text : List Char} (numeral : IsNumeral text) :
    readNumber text = readUnsigned false text ∧
      readNumber ('-' :: text) = readUnsigned true text := by
  obtain ⟨digit, tail, rfl, isDigit, others⟩ := numeral.cons
  have first : ∀ d rest, digit :: tail = d :: rest → d.isDigit = true := by
    intro d rest same
    rw [← (List.cons.inj same).1]
    exact isDigit
  have second : ∀ d e rest, digit :: tail = d :: e :: rest → isNumeralChar e = true := by
    intro d e rest same
    exact others e (by simp [same])
  constructor
  · unfold readNumber
    split
    iterate 6
      · rename_i same
        exact nomatch first _ _ same
    iterate 3
      · rename_i same
        exact nomatch second _ _ _ same
    iterate 2
      · rename_i same
        exact nomatch first _ _ same
    · rfl
  · rw [readNumber]
    all_goals
      intro same
      rw [(List.cons.inj same).1] at isDigit
      cases isDigit

/-- A signed number reads back in front of the end of a value. -/
theorem readScalar_numeral (negative : Bool) {text rest : List Char} {c : Char} {value : Value}
    (numeral : IsNumeral text) (ends : endsScalar c = true)
    (read : readUnsigned negative text = some value) :
    readScalar ((if negative then ['-'] else []) ++ text ++ c :: rest) =
      some (value, c :: rest) := by
  obtain ⟨plain, minus⟩ := numeral.readNumber_eq
  obtain ⟨digit, tail, same, isDigit, others⟩ := numeral.cons
  cases negative with
  | false =>
      refine readScalar_of_readNumber (fun d member => (isNumeralChar_spec (others d member)).1)
        ends numeral.readDate_eq_none
        (readClock_eq_none fun d member => (isNumeralChar_spec (others d member)).2.1) ?_
        (plain.trans read)
      subst same
      refine ⟨?_, ?_, by simp⟩
      · exact fun first => isDigit_ne isDigit rfl (Option.some.inj first)
      · exact fun first => isDigit_ne isDigit rfl (Option.some.inj first)
  | true =>
      have signed : ∀ d ∈ '-' :: text, isNumeralChar d = true := by
        intro d member
        rcases List.mem_cons.mp member with rfl | member
        · rfl
        · exact others d member
      exact readScalar_of_readNumber (fun d member => (isNumeralChar_spec (signed d member)).1) ends
        rfl (readClock_eq_none fun d member => (isNumeralChar_spec (signed d member)).2.1)
        (by simp) (minus.trans read)

/-- A written integer reads back. -/
theorem readScalar_integerChars {value : Int} (writable : isWritable value = true) {c : Char}
    {rest : List Char} (ends : endsScalar c = true) :
    readScalar (integerChars value ++ c :: rest) = some (.integer value, c :: rest) := by
  have layout : integerChars value =
      (if value < 0 then ['-'] else []) ++ Nat.toDigits 10 value.natAbs := by
    unfold integerChars naturalChars
    split <;> rfl
  have few : (Nat.toDigits 10 value.natAbs).length ≤ maxDigits := of_decide_eq_true writable
  have read := readUnsigned_integer (decide (value < 0)) (isWhole_toDigits value.natAbs) few
  have size :
      (if decide (value < 0) = true then -(value.natAbs : Int) else value.natAbs) = value := by
    by_cases below : value < 0
    · simp only [below, decide_true, if_true]
      omega
    · simp only [below, decide_false, Bool.false_eq_true, if_false]
      omega
  rw [Nat.ofDigitChars_ten_toDigits, size] at read
  have sign : (if value < 0 then ['-'] else []) =
      if decide (value < 0) = true then ['-'] else [] := by
    simp only [decide_eq_true_eq]
  rw [layout, sign]
  exact readScalar_numeral (decide (value < 0)) (isNumeral_toDigits value.natAbs) ends read

/-- The number that hexadecimal digits write. -/
def hexNumber (digits : List Char) : Nat :=
  digits.foldl (fun total c => 16 * total + (hexValue? c).getD 0) 0

theorem hexValue?_lt {c : Char} {value : Nat} (hex : hexValue? c = some value) : value < 16 := by
  have size : c.val.toNat = c.toNat := rfl
  unfold hexValue? at hex
  simp only [Char.isDigit, Char.le_def, UInt32.le_iff_toNat_le, ge_iff_le, Bool.and_eq_true,
    decide_eq_true_eq, size] at hex
  split at hex
  · rename_i digit
    have below : c.toNat ≤ 57 := digit.2
    rw [← Option.some.inj hex]
    exact Nat.lt_of_le_of_lt (Nat.sub_le_sub_right below _) (by decide)
  · split at hex
    · rename_i lower
      have below : c.toNat ≤ 102 := lower.2
      rw [← Option.some.inj hex]
      exact Nat.lt_of_le_of_lt (Nat.add_le_add_right (Nat.sub_le_sub_right below _) _) (by decide)
    · split at hex
      · rename_i upper
        have below : c.toNat ≤ 70 := upper.2
        rw [← Option.some.inj hex]
        exact Nat.lt_of_le_of_lt (Nat.add_le_add_right (Nat.sub_le_sub_right below _) _)
          (by decide)
      · cases hex

theorem hexValue?_spec {c : Char} (hex : (hexValue? c).isSome) :
    endsScalar c = false ∧ c ≠ ':' := by
  refine ⟨endsScalar_eq_false (fun d => (hexValue? d).isSome) (by decide) hex, ?_⟩
  rintro rfl
  cases hex

/-- However many hexadecimal digits an integer has, it is read. -/
theorem readScalar_hex {digits : List Char} (named : digits ≠ [])
    (hex : ∀ c ∈ digits, (hexValue? c).isSome) {c : Char} {rest : List Char}
    (ends : endsScalar c = true) :
    readScalar ('0' :: 'x' :: digits ++ c :: rest) =
      some (.integer (hexNumber digits), c :: rest) := by
  have small : ∀ d ∈ digits, (hexValue? d).any (· < 16) = true := by
    intro d member
    obtain ⟨value, isHex⟩ := Option.isSome_iff_exists.mp (hex d member)
    simp [isHex, hexValue?_lt isHex]
  have number : readNumber ('0' :: 'x' :: digits) = some (.integer (hexNumber digits)) := by
    rw [readNumber]
    exact Option.bind_eq_some_iff.mpr ⟨digits, cleanDigits_eq_self rfl named small, rfl⟩
  have inside : ∀ d ∈ '0' :: 'x' :: digits, endsScalar d = false ∧ d ≠ ':' := by
    intro d member
    rcases List.mem_cons.mp member with rfl | member
    · decide
    rcases List.mem_cons.mp member with rfl | member
    · decide
    exact hexValue?_spec (hex d member)
  exact readScalar_of_readNumber (fun d member => (inside d member).1) ends rfl
    (readClock_eq_none fun d member => (inside d member).2) (by simp) number

theorem isWritable_iff {n : Int} : isWritable n = true ↔ n.natAbs < 10 ^ maxDigits := by
  rw [isWritable, decide_eq_true_eq, naturalChars,
    Nat.length_toDigits_le_iff (by decide) (by decide)]

/-- The least number with too many digits. -/
theorem isWritable_pow_maxDigits : isWritable (10 ^ maxDigits : Nat) = false := by
  rw [← Bool.not_eq_true, isWritable_iff, Int.natAbs_natCast]
  exact Nat.lt_irrefl _

theorem foldl_zeros (start count : Nat) :
    (List.replicate count '0').foldl (fun total c => 16 * total + (hexValue? c).getD 0) start =
      16 ^ count * start := by
  induction count generalizing start with
  | zero => simp
  | succ count inductionHypothesis =>
      rw [List.replicate_succ, List.foldl_cons, inductionHypothesis]
      have zero : (hexValue? '0').getD 0 = 0 := rfl
      rw [zero, Nat.add_zero, Nat.pow_succ, Nat.mul_assoc]

theorem hexNumber_one_zeros (count : Nat) :
    hexNumber ('1' :: List.replicate count '0') = 16 ^ count := by
  rw [hexNumber, List.foldl_cons, foldl_zeros]
  exact Nat.mul_one _

/-- A written decimal reads back, also where it is no finite number. -/
theorem readScalar_toChars (value : Decimal) {c : Char} {rest : List Char}
    (ends : endsScalar c = true) :
    readScalar (value.toChars ++ c :: rest) = some (.decimal value, c :: rest) := by
  cases value with
  | finite negative digits exponent canonical =>
      exact readScalar_numeral negative (isNumeral_layOut canonical) ends
        (readUnsigned_layOut negative canonical)
  | infinite negative =>
      cases negative with
      | false =>
          show readScalar (['i', 'n', 'f'] ++ c :: rest) = _
          exact readScalar_of_readNumber (by simp [endsScalar, isLineBlank]) ends rfl rfl
            (by decide) rfl
      | true =>
          show readScalar (['-', 'i', 'n', 'f'] ++ c :: rest) = _
          exact readScalar_of_readNumber (by simp [endsScalar, isLineBlank]) ends rfl rfl
            (by decide) rfl
  | nan =>
      show readScalar (['n', 'a', 'n'] ++ c :: rest) = _
      exact readScalar_of_readNumber (by simp [endsScalar, isLineBlank]) ends rfl rfl
        (by decide) rfl

end ShellPrompt.Toml
