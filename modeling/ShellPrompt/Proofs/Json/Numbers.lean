import ShellPrompt.Json

/-!
The numbers of JSON texts. A number has a whole part, and may have a fraction and a power of ten;
with one of these it is a decimal number. The reader takes the longest number that there is, but
fails for an integer that has too many digits.
-/

namespace ShellPrompt.Json

open ShellPrompt.Text

def Digits (digits : List Char) : Prop := digits ≠ [] ∧ digits.all Char.isDigit = true

/-- The whole part of a number: no zero stands in front of another digit. -/
inductive WholeText : List Char → Prop
  | zero : WholeText ['0']
  | positive {digits : List Char} (all : Digits digits) (noZero : digits.head? ≠ some '0') :
      WholeText digits

/-- The fraction of a number as it is written, and its digits. -/
inductive FractionText : List Char → List Char → Prop
  | none : FractionText [] []
  | point {digits : List Char} (all : Digits digits) : FractionText ('.' :: digits) digits

/-- The sign of a power as it is written, and whether it is a minus. -/
inductive PowerSign : List Char → Bool → Prop
  | none : PowerSign [] false
  | plus : PowerSign ['+'] false
  | minus : PowerSign ['-'] true

/-- The power of ten that a number is multiplied with, as it is written and as an exponent. -/
inductive PowerText : List Char → Int → Prop
  | none : PowerText [] 0
  | marked {mark : Char} {sign digits : List Char} {negative : Bool}
      (isMark : mark = 'e' ∨ mark = 'E') (signed : PowerSign sign negative) (all : Digits digits) :
      PowerText (mark :: (sign ++ digits))
        (if negative then -(Nat.ofDigitChars 10 digits 0 : Int) else Nat.ofDigitChars 10 digits 0)

/-- A number behind its sign, and the value that it stands for. -/
inductive UnsignedText (negative : Bool) : List Char → Value → Prop
  | integer {whole : List Char} (isWhole : WholeText whole) (few : whole.length ≤ maxDigits) :
      UnsignedText negative whole
        (.integer (if negative then -(Nat.ofDigitChars 10 whole 0 : Int)
          else Nat.ofDigitChars 10 whole 0))
  | decimal {whole point fraction mark : List Char} {power : Int} (isWhole : WholeText whole)
      (isFraction : FractionText point fraction) (isPower : PowerText mark power)
      (present : ¬ (point = [] ∧ mark = [])) :
      UnsignedText negative (whole ++ (point ++ mark))
        (.decimal (.ofScientific negative (Nat.ofDigitChars 10 (whole ++ fraction) 0)
          (power - fraction.length)))

/-- No character of a number comes next. -/
def EndsNumber (after : List Char) : Prop :=
  ∀ c tail, after = c :: tail → c.isDigit = false ∧ c ≠ '.' ∧ c ≠ 'e' ∧ c ≠ 'E'

/-- No digit comes next. -/
def EndsDigits (after : List Char) : Prop := ∀ c tail, after = c :: tail → c.isDigit = false

/-- Neither a digit comes next nor a fraction or a power of ten. -/
structure EndsInteger (after : List Char) : Prop where
  digits : EndsDigits after
  fraction : ∀ rest, after = '.' :: rest → EndsDigits rest
  power : ∀ mark sign negative rest, mark = 'e' ∨ mark = 'E' → PowerSign sign negative →
    after = mark :: (sign ++ rest) → EndsDigits rest

/-- The whole part of a number has too many digits, and nothing else of the number follows it. -/
structure LongText (digits after : List Char) : Prop where
  isWhole : WholeText digits
  many : maxDigits < digits.length
  ends : EndsInteger after

section Digits
variable {digits after : List Char}

theorem Digits.span (all : Digits digits) (ends : EndsDigits after) :
    (digits ++ after).takeWhile Char.isDigit = digits ∧
      (digits ++ after).dropWhile Char.isDigit = after := by
  have each := List.all_eq_true.mp all.2
  rw [List.takeWhile_append_of_pos each, List.dropWhile_append_of_pos each]
  cases after with
  | nil => simp
  | cons c tail => simp [ends c tail rfl]

theorem digits_takeWhile {text : List Char} (named : text.takeWhile Char.isDigit ≠ []) :
    Digits (text.takeWhile Char.isDigit) :=
  ⟨named, List.all_takeWhile⟩

theorem Digits.cons (all : Digits digits) :
    ∃ c tail, digits = c :: tail ∧ c.isDigit = true := by
  obtain ⟨c, tail, rfl⟩ := List.exists_cons_of_ne_nil all.1
  exact ⟨c, tail, rfl, List.all_eq_true.mp all.2 c List.mem_cons_self⟩

/-- No sign stands in front of the digits. -/
theorem Digits.noSign (all : Digits digits) (after tail : List Char) :
    digits ++ after ≠ '+' :: tail ∧ digits ++ after ≠ '-' :: tail := by
  obtain ⟨c, rest, rfl, digit⟩ := all.cons
  constructor
  · rintro ⟨⟩
    cases digit
  · rintro ⟨⟩
    cases digit

theorem WholeText.all {whole : List Char} (isWhole : WholeText whole) : Digits whole := by
  cases isWhole with
  | zero => exact ⟨List.cons_ne_nil _ _, rfl⟩
  | positive all _ => exact all

end Digits

section Ends
variable {point fraction mark after : List Char} {power : Int}

theorem PowerText.endsDigits (isPower : PowerText mark power) (ends : EndsNumber after) :
    EndsDigits (mark ++ after) ∧ (mark ++ after).head? ≠ some '.' := by
  cases isPower with
  | none =>
      refine ⟨fun c tail same => (ends c tail same).1, ?_⟩
      cases after with
      | nil => simp
      | cons c tail => simpa using (ends c tail rfl).2.1
  | marked isMark _ _ =>
      rcases isMark with rfl | rfl
      · exact ⟨fun c tail same => (List.cons.inj same).1 ▸ rfl, by simp⟩
      · exact ⟨fun c tail same => (List.cons.inj same).1 ▸ rfl, by simp⟩

theorem FractionText.endsDigits (isFraction : FractionText point fraction)
    (ends : EndsDigits after) : EndsDigits (point ++ after) := by
  cases isFraction with
  | none => exact ends
  | point _ => exact fun c tail same => (List.cons.inj same).1 ▸ rfl

end Ends

section Parts

theorem wholeDigits_spec (text : List Char) :
    (wholeDigits text).1 ++ (wholeDigits text).2 = text ∧
      ((wholeDigits text).1 ≠ [] → WholeText (wholeDigits text).1) := by
  unfold wholeDigits
  split
  · exact ⟨rfl, fun _ => .zero⟩
  · rename_i noZero
    refine ⟨List.takeWhile_append_dropWhile, fun named => .positive (digits_takeWhile named) ?_⟩
    cases text with
    | nil => simp
    | cons c tail =>
        have differs : c ≠ '0' := fun same => noZero tail (same ▸ rfl)
        by_cases digit : c.isDigit = true <;> simp [digit, differs]

theorem WholeText.read {whole after : List Char} (isWhole : WholeText whole)
    (ends : EndsDigits after) : wholeDigits (whole ++ after) = (whole, after) := by
  cases isWhole with
  | zero => rfl
  | positive all noZero =>
      obtain ⟨taken, left⟩ := all.span ends
      obtain ⟨c, tail, rfl, _⟩ := all.cons
      unfold wholeDigits
      split
      · rename_i same
        rw [(List.cons.inj same).1] at noZero
        exact absurd rfl noZero
      · rw [taken, left]

theorem fractionPart_spec (text : List Char) :
    (fractionPart text).1 ++ (fractionPart text).2 = text ∧
      ∃ fraction, FractionText (fractionPart text).1 fraction := by
  unfold fractionPart
  split
  · split
    · exact ⟨rfl, [], .none⟩
    · rename_i named
      refine ⟨?_, _, .point (digits_takeWhile named)⟩
      rw [List.cons_append, List.takeWhile_append_dropWhile]
  · exact ⟨rfl, [], .none⟩

theorem FractionText.read {point fraction after : List Char}
    (isFraction : FractionText point fraction) (ends : EndsDigits after)
    (noPoint : after.head? ≠ some '.') : fractionPart (point ++ after) = (point, after) := by
  cases isFraction with
  | none =>
      rw [List.nil_append]
      unfold fractionPart
      split
      · exact absurd rfl noPoint
      · rfl
  | point all =>
      obtain ⟨taken, left⟩ := all.span ends
      rw [List.cons_append, fractionPart, taken, left, if_neg all.1]

theorem exponentPart_spec (text : List Char) :
    (exponentPart text).1 ++ (exponentPart text).2 = text ∧
      ∃ power, PowerText (exponentPart text).1 power := by
  unfold exponentPart
  split
  · rename_i mark rest
    split
    rename_i sign digits signed
    have parts : rest = sign ++ digits ∧ ∃ negative, PowerSign sign negative := by
      split at signed
      · cases signed
        exact ⟨rfl, false, .plus⟩
      · cases signed
        exact ⟨rfl, true, .minus⟩
      · cases signed
        exact ⟨rfl, false, .none⟩
    obtain ⟨rfl, negative, isSign⟩ := parts
    split
    · rename_i present
      refine ⟨?_, _, .marked present.1 isSign (digits_takeWhile present.2)⟩
      rw [List.cons_append, List.append_assoc, List.takeWhile_append_dropWhile]
    · exact ⟨rfl, 0, .none⟩
  · exact ⟨rfl, 0, .none⟩

/-- A mark and a sign are read with the digits behind them. -/
theorem exponentPart_marked {mark : Char} {sign rest : List Char} {negative : Bool}
    (isMark : mark = 'e' ∨ mark = 'E') (signed : PowerSign sign negative)
    (named : rest.takeWhile Char.isDigit ≠ []) :
    exponentPart (mark :: (sign ++ rest)) =
      (mark :: (sign ++ rest.takeWhile Char.isDigit), rest.dropWhile Char.isDigit) := by
  have present : (mark = 'e' ∨ mark = 'E') ∧ rest.takeWhile Char.isDigit ≠ [] := ⟨isMark, named⟩
  cases signed with
  | plus =>
      simp only [List.cons_append, List.nil_append, exponentPart]
      rw [if_pos present]
  | minus =>
      simp only [List.cons_append, List.nil_append, exponentPart]
      rw [if_pos present]
  | none =>
      have noSign : ∀ tail, rest ≠ '+' :: tail ∧ rest ≠ '-' :: tail := by
        intro tail
        constructor <;>
        · rintro rfl
          exact named rfl
      rw [List.nil_append, exponentPart]
      · rw [if_pos present]
      · exact fun tail => (noSign tail).1
      · exact fun tail => (noSign tail).2

theorem PowerText.read {mark after : List Char} {power : Int} (isPower : PowerText mark power)
    (ends : EndsNumber after) : exponentPart (mark ++ after) = (mark, after) := by
  cases isPower with
  | none =>
      cases after with
      | nil => rfl
      | cons c tail =>
          obtain ⟨_, _, noSmall, noLarge⟩ := ends c tail rfl
          have noMark : ¬ (c = 'e' ∨ c = 'E') := fun isMark => isMark.elim noSmall noLarge
          unfold exponentPart
          simp only [List.nil_append, noMark, false_and, if_false]
  | @marked mark sign digits negative isMark signed all =>
      obtain ⟨taken, left⟩ := all.span fun c tail same => (ends c tail same).1
      rw [List.cons_append, List.append_assoc,
        exponentPart_marked isMark signed (by rw [taken]; exact all.1), taken, left]

theorem PowerText.value {mark : List Char} {power : Int} (isPower : PowerText mark power) :
    Decimal.readExponent mark = some power := by
  cases isPower with
  | none => rfl
  | @marked mark sign digits negative isMark signed all =>
      have split : Decimal.readSign (sign ++ digits) = (negative, digits) := by
        cases signed with
        | plus => rfl
        | minus => rfl
        | none =>
            have noSign := all.noSign []
            rw [List.append_nil] at noSign
            rw [List.nil_append, Decimal.readSign]
            · exact fun tail => (noSign tail).2
            · exact fun tail => (noSign tail).1
      simp [Decimal.readExponent, split, isMark, all.1, all.2]

/-- The parts of a number make up its decimal value. -/
theorem decimal_parts (negative : Bool) {whole point fraction mark : List Char} {power : Int}
    (isWhole : WholeText whole) (isFraction : FractionText point fraction)
    (isPower : PowerText mark power) :
    Decimal.readUnsigned negative (whole ++ point ++ mark) =
      some (.ofScientific negative (Nat.ofDigitChars 10 (whole ++ fraction) 0)
        (power - fraction.length)) := by
  have last : EndsNumber [] := nofun
  obtain ⟨endsMark, noPoint⟩ := isPower.endsDigits last
  rw [List.append_nil] at endsMark noPoint
  obtain ⟨taken, left⟩ := isWhole.all.span (isFraction.endsDigits endsMark)
  rw [List.append_assoc, Decimal.readUnsigned, Decimal.spanDigits, taken, left]
  cases isFraction with
  | none =>
      have bare : ∀ tail, mark ≠ '.' :: tail := fun tail same => noPoint (same ▸ rfl)
      simp only [List.nil_append, isWhole.all.1, false_and, if_false, isPower.value,
        Option.map_some]
  | point all =>
      obtain ⟨taken, left⟩ := all.span endsMark
      simp only [List.cons_append, Decimal.spanDigits, taken, left, isWhole.all.1, false_and,
        if_false, isPower.value, Option.map_some]

end Parts

section Unsigned
variable {negative : Bool} {written after : List Char} {value : Value}

theorem unsignedText_of_readUnsigned {text : List Char}
    (read : readUnsigned negative text = .ok (value, after)) :
    ∃ written, text = written ++ after ∧ UnsignedText negative written value := by
  obtain ⟨wholeSplit, isWhole⟩ := wholeDigits_spec text
  obtain ⟨fractionSplit, fraction, isFraction⟩ := fractionPart_spec (wholeDigits text).2
  obtain ⟨powerSplit, power, isPower⟩ :=
    exponentPart_spec (fractionPart (wholeDigits text).2).2
  simp only [readUnsigned] at read
  split at read
  · cases read
  · rename_i named
    have layout := wholeSplit.symm
    rw [← fractionSplit, ← powerSplit] at layout
    split at read
    · rename_i bare
      split at read
      · rename_i few
        cases read
        refine ⟨(wholeDigits text).1, ?_, .integer (isWhole named) few⟩
        rw [bare.1, bare.2] at layout
        exact layout
      · cases read
    · rename_i present
      rw [decimal_parts negative (isWhole named) isFraction isPower] at read
      cases read
      refine ⟨_, ?_, .decimal (isWhole named) isFraction isPower present⟩
      rw [List.append_assoc, List.append_assoc]
      exact layout

theorem UnsignedText.read (number : UnsignedText negative written value)
    (ends : EndsNumber after) : readUnsigned negative (written ++ after) = .ok (value, after) := by
  cases number with
  | integer isWhole few =>
      obtain ⟨endsDigits, noPoint⟩ := PowerText.none.endsDigits ends
      have whole := isWhole.read endsDigits
      have fraction := FractionText.none.read endsDigits noPoint
      have power := PowerText.none.read ends
      simp only [List.nil_append] at whole fraction power
      simp [readUnsigned, whole, fraction, power, isWhole.all.1, few]
  | @decimal whole point fraction mark power isWhole isFraction isPower present =>
      obtain ⟨endsDigits, noPoint⟩ := isPower.endsDigits ends
      have wholeRead := isWhole.read (isFraction.endsDigits endsDigits)
      have fractionRead := isFraction.read endsDigits noPoint
      have layout : whole ++ (point ++ mark) ++ after = whole ++ (point ++ (mark ++ after)) := by
        simp only [List.append_assoc]
      rw [layout, readUnsigned, wholeRead]
      simp only [fractionRead, isPower.read ends, isWhole.all.1, if_false, present,
        decimal_parts negative isWhole isFraction isPower, orInvalid]
      rfl

end Unsigned

section Long
variable {negative : Bool} {text whole after : List Char} {fault : LongInteger}

theorem endsDigits_iff : EndsDigits after ↔ after.takeWhile Char.isDigit = [] := by
  cases after with
  | nil => simp [EndsDigits]
  | cons c tail =>
      constructor
      · intro ends
        simp [ends c tail rfl]
      · rintro none _ _ ⟨⟩
        cases digit : c.isDigit with
        | false => rfl
        | true => simp [digit] at none

/-- A zero that other digits follow is not among the numbers that have many digits. -/
theorem endsDigits_wholeDigits (many : maxDigits < (wholeDigits text).1.length) :
    EndsDigits (wholeDigits text).2 := by
  unfold wholeDigits at many ⊢
  split
  · simp [maxDigits] at many
  · rintro c tail (same : text.dropWhile Char.isDigit = c :: tail)
    have first := List.head?_dropWhile_not Char.isDigit text
    rw [same] at first
    exact first

theorem fractionPart_eq_nil_iff :
    (fractionPart after).1 = [] ↔ ∀ rest, after = '.' :: rest → EndsDigits rest := by
  unfold fractionPart
  split
  · rename_i rest
    simp only [List.cons.injEq, true_and, forall_eq', endsDigits_iff]
    split <;> simp_all
  · rename_i noPoint
    simpa using fun rest same => absurd same (noPoint rest)

theorem exponentPart_eq_nil_iff : (exponentPart after).1 = [] ↔
    ∀ mark sign negative rest, mark = 'e' ∨ mark = 'E' → PowerSign sign negative →
      after = mark :: (sign ++ rest) → EndsDigits rest := by
  constructor
  · rintro nothing mark sign negative rest isMark signed rfl
    rw [endsDigits_iff]
    by_cases named : rest.takeWhile Char.isDigit = []
    · exact named
    · rw [exponentPart_marked isMark signed named] at nothing
      cases nothing
  · intro ends
    obtain ⟨layout, power, isPower⟩ := exponentPart_spec after
    generalize (exponentPart after).1 = taken at layout isPower ⊢
    cases isPower with
    | none => rfl
    | marked isMark signed all =>
        rw [List.cons_append, List.append_assoc] at layout
        obtain ⟨c, tail, rfl, digit⟩ := all.cons
        rw [ends _ _ _ _ isMark signed layout.symm c _ rfl] at digit
        cases digit

theorem endsInteger_iff : EndsInteger after ↔
    EndsDigits after ∧ (fractionPart after).1 = [] ∧ (exponentPart after).1 = [] := by
  rw [fractionPart_eq_nil_iff, exponentPart_eq_nil_iff]
  exact ⟨fun ends => ⟨ends.digits, ends.fraction, ends.power⟩,
    fun ⟨digits, fraction, power⟩ => ⟨digits, fraction, power⟩⟩

/-- The reader of a number fails for too many digits exactly if the text starts with an integer
that has them. -/
theorem readUnsigned_eq_long_iff : readUnsigned negative text = .error (.long fault) ↔
    ∃ digits after, text = digits ++ after ∧ LongText digits after := by
  constructor
  · intro read
    obtain ⟨wholeSplit, isWhole⟩ := wholeDigits_spec text
    obtain ⟨fractionSplit, fraction, isFraction⟩ := fractionPart_spec (wholeDigits text).2
    obtain ⟨powerSplit, power, isPower⟩ :=
      exponentPart_spec (fractionPart (wholeDigits text).2).2
    simp only [readUnsigned] at read
    split at read
    · cases read
    · rename_i named
      split at read
      · rename_i bare
        split at read
        · cases read
        · rename_i many
          rw [bare.1, List.nil_append] at fractionSplit
          rw [fractionSplit] at bare
          have more := Nat.lt_of_not_le many
          exact ⟨_, _, wholeSplit.symm, isWhole named, more,
            endsInteger_iff.mpr ⟨endsDigits_wholeDigits more, bare⟩⟩
      · rw [decimal_parts negative (isWhole named) isFraction isPower] at read
        cases read
  · rintro ⟨digits, after, rfl, isWhole, many, ends⟩
    obtain ⟨_, fraction, exponent⟩ := endsInteger_iff.mp ends
    have fractionSplit := (fractionPart_spec after).1
    rw [fraction, List.nil_append] at fractionSplit
    have few : ¬ digits.length ≤ maxDigits := by omega
    simp only [readUnsigned, isWhole.read ends.digits, isWhole.all.1, fractionSplit, fraction,
      exponent, few, and_self, if_true, if_false]

end Long

end ShellPrompt.Json
