import ShellPrompt.Json

/-!
The strings of JSON texts. A string is made up of characters that stand for themselves and of
escapes, and the reader takes exactly these. Two escapes with the halves of a pair are one
character, so what an escape stands for depends on what follows it.
-/

namespace ShellPrompt.Json

open ShellPrompt.Text

/-- A number is not the first half of a pair: if a further escape follows, it is no second half. -/
def Unpaired (number : Nat) (after : List Char) : Prop :=
  isHighSurrogate number = true →
    ∀ e f g h rest, after = '\\' :: 'u' :: e :: f :: g :: h :: rest →
      ∃ low, readHex? [e, f, g, h] = some low ∧ isLowSurrogate low = false

/-- What may stand behind a backslash for a character, in front of what follows it. -/
inductive EscapeText : List Char → Char → List Char → Prop
  | short {mark c : Char} {after : List Char} (stands : unescape? mark = some c) :
      EscapeText [mark] c after
  | alone {a b c d : Char} {number : Nat} {after : List Char}
      (digits : readHex? [a, b, c, d] = some number) (unpaired : Unpaired number after) :
      EscapeText ['u', a, b, c, d] (character number) after
  | pair {a b c d e f g h : Char} {high low : Nat} {after : List Char}
      (first : readHex? [a, b, c, d] = some high) (isHigh : isHighSurrogate high = true)
      (second : readHex? [e, f, g, h] = some low) (isLow : isLowSurrogate low = true) :
      EscapeText ['u', a, b, c, d, '\\', 'u', e, f, g, h] (joinSurrogates high low) after

/-- What stands between the quotes of a string, and the text that it stands for. -/
inductive StringText : List Char → List Char → Prop
  | nil : StringText [] []
  | plain {c : Char} {written text : List Char} (solid : ¬ c.toNat < 32) (noQuote : c ≠ '"')
      (noEscape : c ≠ '\\') (rest : StringText written text) : StringText (c :: written) (c :: text)
  | escape {mark written text : List Char} {c : Char} (escape : EscapeText mark c written)
      (rest : StringText written text) : StringText ('\\' :: (mark ++ written)) (c :: text)

section Escapes
variable {mark after : List Char} {c : Char}

theorem escapeText_of_readEscape {text : List Char} (read : readEscape text = some (c, after)) :
    ∃ mark, text = mark ++ after ∧ EscapeText mark c after := by
  unfold readEscape at read
  split at read
  · rename_i a b c d e f g h rest
    split at read
    · cases read
    · rename_i high first
      split at read
      · rename_i isHigh
        split at read
        · cases read
        · rename_i low second
          split at read
          · rename_i isLow
            simp only [Option.some.injEq, Prod.mk.injEq] at read
            obtain ⟨rfl, rfl⟩ := read
            exact ⟨['u', a, b, c, d, '\\', 'u', e, f, g, h], rfl, .pair first isHigh second isLow⟩
          · rename_i noLow
            cases read
            refine ⟨['u', a, b, c, d], rfl, .alone first ?_⟩
            intro _ _ _ _ _ _ same
            cases same
            exact ⟨low, second, Bool.not_eq_true _ ▸ noLow⟩
      · rename_i noHigh
        cases read
        exact ⟨['u', a, b, c, d], rfl, .alone first fun isHigh => absurd isHigh noHigh⟩
  · rename_i a b c d rest noPair
    obtain ⟨number, digits, same⟩ := Option.map_eq_some_iff.mp read
    cases same
    refine ⟨['u', a, b, c, d], rfl, .alone digits ?_⟩
    intro _ _ _ _ _ _ same
    exact absurd same (noPair _ _ _ _ _)
  · obtain ⟨_, stands, same⟩ := Option.map_eq_some_iff.mp read
    cases same
    exact ⟨[_], rfl, .short stands⟩
  · cases read

theorem EscapeText.read (escape : EscapeText mark c after) :
    readEscape (mark ++ after) = some (c, after) := by
  cases escape with
  | @short mark c after stands =>
      have noNumber : mark ≠ 'u' := by
        rintro rfl
        cases stands
      rw [List.singleton_append, readEscape, stands]
      · rfl
      · exact fun _ _ _ _ _ _ _ _ _ same _ => noNumber same
      · exact fun _ _ _ _ _ same _ => noNumber same
  | @alone a b c d number after digits unpaired =>
      simp only [List.cons_append, List.nil_append]
      unfold readEscape
      split
      · rename_i same
        cases same
        simp only [digits]
        split
        · rename_i isHigh
          obtain ⟨low, second, noLow⟩ := unpaired isHigh _ _ _ _ _ rfl
          simp only [second, noLow, Bool.false_eq_true, if_false]
        · rfl
      · rename_i same
        cases same
        rw [digits]
        rfl
      · rename_i noNumber same
        cases same
        exact absurd rfl (noNumber _ _ _ _ _ rfl)
      · rename_i same
        cases same
  | pair first isHigh second isLow => simp [readEscape, first, isHigh, second, isLow]

/-- In front of the quote that closes a string, an escape is what it is inside the string. -/
theorem EscapeText.append_quote_iff {written text : List Char} (rest : StringText written text)
    (after : List Char) :
    EscapeText mark c (written ++ '"' :: after) ↔ EscapeText mark c written := by
  have alike (number : Nat) :
      Unpaired number (written ++ '"' :: after) ↔ Unpaired number written := by
    constructor
    · intro unpaired isHigh e f g h later same
      exact unpaired isHigh e f g h _ (congrArg (· ++ '"' :: after) same)
    · intro unpaired isHigh e f g h later same
      cases rest with
      | nil => cases same
      | plain _ _ noEscape _ => exact absurd (List.cons.inj same).1 noEscape
      | escape escape rest =>
          cases escape with
          | short stands =>
              cases (List.cons.inj (List.cons.inj same).2).1
              cases stands
          | alone digits _ =>
              simp only [List.cons_append, List.nil_append, List.cons.injEq] at same
              obtain ⟨_, _, rfl, rfl, rfl, rfl, _⟩ := same
              exact unpaired isHigh _ _ _ _ _ rfl
          | pair first _ _ _ =>
              simp only [List.cons_append, List.nil_append, List.cons.injEq] at same
              obtain ⟨_, _, rfl, rfl, rfl, rfl, _⟩ := same
              exact unpaired isHigh _ _ _ _ _ rfl
  constructor
  · intro escape
    cases escape with
    | short stands => exact .short stands
    | alone digits unpaired => exact .alone digits ((alike _).mp unpaired)
    | pair first isHigh second isLow => exact .pair first isHigh second isLow
  · intro escape
    cases escape with
    | short stands => exact .short stands
    | alone digits unpaired => exact .alone digits ((alike _).mpr unpaired)
    | pair first isHigh second isLow => exact .pair first isHigh second isLow

end Escapes

section Strings
variable {written text after : List Char}

theorem stringText_of_readString {source : List Char}
    (read : readString source = some (text, after)) :
    ∃ written, source = written ++ '"' :: after ∧ StringText written text := by
  fun_induction readString source generalizing text with
  | case1 => cases read
  | case2 rest =>
      cases read
      exact ⟨[], rfl, .nil⟩
  | case3 => cases read
  | case4 source c rest escaped inductionHypothesis =>
      obtain ⟨⟨inner, _⟩, later, same⟩ := Option.map_eq_some_iff.mp read
      cases same
      obtain ⟨written, rfl, strings⟩ := inductionHypothesis later
      obtain ⟨mark, rfl, escape⟩ := escapeText_of_readEscape escaped
      refine ⟨'\\' :: (mark ++ written), by simp, .escape ?_ strings⟩
      exact (EscapeText.append_quote_iff strings after).mp escape
  | case5 => cases read
  | case6 c rest noQuote noEscape solid inductionHypothesis =>
      obtain ⟨⟨inner, _⟩, later, same⟩ := Option.map_eq_some_iff.mp read
      cases same
      obtain ⟨written, rfl, strings⟩ := inductionHypothesis later
      exact ⟨c :: written, rfl, .plain solid noQuote noEscape strings⟩

theorem StringText.read (strings : StringText written text) (after : List Char) :
    readString (written ++ '"' :: after) = some (text, after) := by
  induction strings with
  | nil => rw [List.nil_append, readString]
  | @plain c written text solid noQuote noEscape _ inductionHypothesis =>
      rw [List.cons_append, readString, if_neg solid, inductionHypothesis]
      · rfl
      · exact noQuote
      · exact noEscape
  | @escape mark written text c escape rest inductionHypothesis =>
      have read := ((EscapeText.append_quote_iff rest after).mpr escape).read
      rw [List.cons_append, List.append_assoc, readString]
      split
      · rename_i failed
        cases failed.symm.trans read
      · rename_i found
        cases found.symm.trans read
        rw [inductionHypothesis]
        rfl

end Strings

end ShellPrompt.Json
