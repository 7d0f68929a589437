import ShellPrompt.Proofs.Text.Newlines
import ShellPrompt.Toml.Text

/-!
Reading written strings. Each reader stands on the text that its writer made, with anything
behind it that cannot belong to the text, and answers what was written and what stands behind it.
-/

namespace ShellPrompt.Toml

open ShellPrompt.Text

/-- The characters that a basic string holds as they are. -/
def StaysPlain (c : Char) : Prop := c ≠ '"' ∧ c ≠ '\\' ∧ isControl c = false

/-- What a backslash stands before in the written form of a character: reading it as an escape gives
the character, and it does not start with a blank. -/
def EscapeOf (c : Char) (mark : List Char) : Prop :=
  (∀ rest, readEscape (mark ++ rest) = some (c, rest)) ∧
    ∃ first tail, mark = first :: tail ∧ isLineBlank first = false

theorem readEscape_fourDigits {digits : List Char} (four : digits.length = 4) (rest : List Char) :
    readEscape ('u' :: (digits ++ rest)) =
      ((readHex? digits).bind charAt?).map fun written => (written, rest) := by
  match digits, four with
  | [a, b, c, d], _ => rfl

/-- Four digits are enough for every control character. -/
theorem readHex?_hexDigits {n : Nat} (small : n < 128) :
    (hexDigits 4 n).length = 4 ∧ readHex? (hexDigits 4 n) = some n := by
  have known : ∀ n < 128, (hexDigits 4 n).length = 4 ∧ readHex? (hexDigits 4 n) = some n := by
    decide
  exact known n small

theorem charAt?_toNat (c : Char) : charAt? c.toNat = some c := by
  have valid : c.toNat.isValidChar := c.valid
  simp [charAt?, valid, Char.ofNat_toNat]

/-- A control character reads back from the four digits behind `u`. -/
theorem escapeOf_hexDigits {c : Char} (control : isControl c = true) :
    EscapeOf c ('u' :: hexDigits 4 c.toNat) := by
  have small : c.toNat < 128 := by
    simp only [isControl, Bool.or_eq_true, Bool.and_eq_true, decide_eq_true_eq, beq_iff_eq]
      at control
    omega
  obtain ⟨four, value⟩ := readHex?_hexDigits small
  refine ⟨?_, 'u', hexDigits 4 c.toNat, rfl, rfl⟩
  intro rest
  rw [List.cons_append, readEscape_fourDigits four, value, Option.bind_some, charAt?_toNat,
    Option.map_some]

/-- A character behind a backslash that stands for `c`. -/
theorem escapeOf_of_unescape? {c mark : Char} (stands : unescape? mark = some c)
    (notBlank : isLineBlank mark = false) (short : mark ≠ 'u' ∧ mark ≠ 'U') :
    EscapeOf c [mark] := by
  refine ⟨?_, mark, [], rfl, notBlank⟩
  intro rest
  rw [List.singleton_append, readEscape, stands]
  · rfl
  · exact fun a b c d rest same _ => short.1 same
  · exact fun a b c d e f g h rest same _ => short.2 same

theorem escapeChar_of_unescape? {c mark : Char} (stands : unescape? mark = some c)
    (notBlank : isLineBlank mark = false) (short : mark ≠ 'u' ∧ mark ≠ 'U')
    (written : escapeChar c = ['\\', mark]) :
    ∃ mark, escapeChar c = '\\' :: mark ∧ EscapeOf c mark :=
  ⟨[mark], written, escapeOf_of_unescape? stands notBlank short⟩

/-- Every character is written either as it is or as a backslash with an escape of it. -/
theorem escapeChar_cases (c : Char) :
    (escapeChar c = [c] ∧ StaysPlain c) ∨
      ∃ mark, escapeChar c = '\\' :: mark ∧ EscapeOf c mark := by
  by_cases quote : c = '"'
  · subst quote
    exact .inr (escapeChar_of_unescape? rfl rfl (by decide) rfl)
  by_cases backslash : c = '\\'
  · subst backslash
    exact .inr (escapeChar_of_unescape? rfl rfl (by decide) rfl)
  by_cases backspace : c = '\x08'
  · subst backspace
    exact .inr (escapeChar_of_unescape? rfl rfl (by decide) rfl)
  by_cases tab : c = '\t'
  · subst tab
    exact .inr (escapeChar_of_unescape? rfl rfl (by decide) rfl)
  by_cases lineBreak : c = '\n'
  · subst lineBreak
    exact .inr (escapeChar_of_unescape? rfl rfl (by decide) rfl)
  by_cases formFeed : c = '\x0c'
  · subst formFeed
    exact .inr (escapeChar_of_unescape? rfl rfl (by decide) rfl)
  by_cases carriageReturn : c = '\r'
  · subst carriageReturn
    exact .inr (escapeChar_of_unescape? rfl rfl (by decide) rfl)
  by_cases control : isControl c = true
  · refine .inr ⟨_, ?_, escapeOf_hexDigits control⟩
    simp [escapeChar, quote, backslash, backspace, tab, lineBreak, formFeed, carriageReturn,
      control]
  · refine .inl ⟨?_, quote, backslash, Bool.not_eq_true _ ▸ control⟩
    simp [escapeChar, quote, backslash, backspace, tab, lineBreak, formFeed, carriageReturn,
      control]

theorem readBasic_cons {c : Char} (plain : StaysPlain c) (text : List Char) :
    readBasic (c :: text) = (readBasic text).map fun (inner, after) => (c :: inner, after) := by
  obtain ⟨noQuote, noBackslash, free⟩ := plain
  rw [readBasic]
  · simp [free]
  · exact fun same => noQuote same
  · exact fun same => noBackslash same

theorem readBasic_escape {c : Char} {mark : List Char} (escape : EscapeOf c mark)
    (text : List Char) :
    readBasic ('\\' :: (mark ++ text)) =
      (readBasic text).map fun (inner, after) => (c :: inner, after) := by
  rw [readBasic]
  split
  · rename_i failed
    rw [escape.1] at failed
    cases failed
  · rename_i read
    rw [escape.1] at read
    cases read
    rfl

/-- A basic string reads back behind its opening quote. -/
theorem readBasic_flatMap_escapeChar (text rest : List Char) :
    readBasic (text.flatMap escapeChar ++ '"' :: rest) = some (text, rest) := by
  induction text with
  | nil => rw [List.flatMap_nil, List.nil_append, readBasic]
  | cons c text inductionHypothesis =>
      rw [List.flatMap_cons]
      rcases escapeChar_cases c with ⟨written, plain⟩ | ⟨mark, written, escape⟩
      · rw [written, List.append_assoc, List.singleton_append, readBasic_cons plain,
          inductionHypothesis, Option.map_some]
      · rw [written, List.append_assoc, List.cons_append, readBasic_escape escape,
          inductionHypothesis, Option.map_some]

/-- A literal string reads back behind its opening quote, if it can hold the text. -/
theorem readLiteral_append {text : List Char} (fits : fitsLiteral text = true)
    (rest : List Char) : readLiteral (text ++ '\x27' :: rest) = some (text, rest) := by
  induction text with
  | nil => rfl
  | cons c text inductionHypothesis =>
      simp only [fitsLiteral, List.all_cons, Bool.and_eq_true, bne_iff_ne, ne_eq,
        Bool.not_eq_true'] at fits
      obtain ⟨⟨noQuote, free⟩, fits⟩ := fits
      have tail := inductionHypothesis fits
      rw [List.cons_append, readLiteral]
      · simp [free, tail]
      · exact fun same => noQuote same

theorem closeTriple_of_head {quote : Char} {rest : List Char} (follow : rest.head? ≠ some quote) :
    closeTriple quote rest = some ([], rest) ∧
      closeTriple quote (quote :: rest) = some ([quote], rest) ∧
      closeTriple quote (quote :: quote :: rest) = some ([quote, quote], rest) := by
  cases rest with
  | nil => simp [closeTriple]
  | cons c rest =>
      have differs : c ≠ quote := by simpa using follow
      cases rest with
      | nil => simp [closeTriple, differs]
      | cons d rest => cases rest <;> simp [closeTriple, differs]

theorem readLongBasic_cons {c : Char} {text : List Char} (noBackslash : c ≠ '\\')
    (free : isLineControl c = false) (single : ∀ rest, c = '"' → text ≠ '"' :: '"' :: rest) :
    readLongBasic (c :: text) =
      (readLongBasic text).map fun (inner, after) => (c :: inner, after) := by
  rw [readLongBasic]
  · simp [free]
  · exact fun rest isQuote same => single rest isQuote same
  · exact fun same => noBackslash same

theorem readLongBasic_escape {c : Char} {mark : List Char} (escape : EscapeOf c mark)
    (text : List Char) :
    readLongBasic ('\\' :: (mark ++ text)) =
      (readLongBasic text).map fun (inner, after) => (c :: inner, after) := by
  obtain ⟨read, first, tail, rfl, notBlank⟩ := escape
  rw [readLongBasic]
  have noBlanks : (first :: tail ++ text).takeWhile isLineBlank = [] := by
    simp [notBlank]
  simp only [noBlanks, List.contains_nil, Bool.false_eq_true, if_false]
  split
  · rename_i failed
    rw [read] at failed
    cases failed
  · rename_i found
    rw [read] at found
    cases found
    rfl

/-- The inside of a basic string with triple quotes, with something in the place of every carriage
return and the line feed behind it. -/
def longCharsWith (pair : List Char) : List Char → List Char
  | '"' :: '"' :: '"' :: rest => '"' :: '"' :: '\\' :: '"' :: longCharsWith pair rest
  | '"' :: rest => '"' :: longCharsWith pair rest
  | '\n' :: rest => '\n' :: longCharsWith pair rest
  | '\r' :: '\n' :: rest => pair ++ longCharsWith pair rest
  | c :: rest => escapeChar c ++ longCharsWith pair rest
  | [] => []

def writeLongWith (pair : List Char) (text : List Char) : List Char :=
  '"' :: '"' :: '"' :: ((if startsWithBreak text then ['\n'] else []) ++
    (longCharsWith pair text ++ ['"', '"', '"']))

theorem longCharsWith_self (text : List Char) :
    longCharsWith ['\r', '\n'] text = longChars text := by
  fun_induction longChars text with
  | case1 rest inductionHypothesis => rw [longCharsWith, inductionHypothesis]
  | case2 rest few inductionHypothesis =>
      rw [longCharsWith, inductionHypothesis]
      exact few
  | case3 rest inductionHypothesis => rw [longCharsWith, inductionHypothesis]
  | case4 rest inductionHypothesis =>
      rw [longCharsWith, inductionHypothesis]
      rfl
  | case5 c rest noTriple noQuote noFeed noPair inductionHypothesis =>
      rw [longCharsWith, inductionHypothesis]
      · exact noTriple
      · exact noQuote
      · exact noFeed
      · exact noPair
  | case6 => rfl

theorem writeLongWith_self (text : List Char) :
    writeLongWith ['\r', '\n'] text = writeLong text := by
  rw [writeLongWith, longCharsWith_self, writeLong]

/-- What a line of a text may end with. -/
inductive IsLineEnd : List Char → Prop
  | feed : IsLineEnd ['\n']
  | pair : IsLineEnd ['\r', '\n']

theorem readLongBasic_lineEnd {pair : List Char} (ends : IsLineEnd pair) (text : List Char) :
    readLongBasic (pair ++ text) =
      (readLongBasic text).map fun (inner, after) => (pair ++ inner, after) := by
  cases ends with
  | feed => exact readLongBasic_cons (by decide) rfl (by simp)
  | pair =>
      have first := @readLongBasic_cons '\r' ('\n' :: text) (by decide) rfl (by simp)
      have second := @readLongBasic_cons '\n' text (by decide) rfl (by simp)
      simp only [List.cons_append, List.nil_append]
      rw [first, second, Option.map_map]
      rfl

section Long
variable {pair : List Char}

/-- How a text starts when it is written: with an escape, or with a character that needs none, or
with the end of a line. -/
theorem longCharsWith_cons (pair : List Char) (c : Char) (rest : List Char) :
    (∃ tail, longCharsWith pair (c :: rest) = '\\' :: tail) ∨
      (c ≠ '\r' ∧ ∃ tail, longCharsWith pair (c :: rest) = c :: tail) ∨
      ∃ later tail, c = '\r' ∧ rest = '\n' :: later ∧
        longCharsWith pair (c :: rest) = pair ++ tail := by
  unfold longCharsWith
  split
  · rename_i same
    cases same
    exact .inr (.inl ⟨by decide, _, rfl⟩)
  · rename_i same
    cases same
    exact .inr (.inl ⟨by decide, _, rfl⟩)
  · rename_i same
    cases same
    exact .inr (.inl ⟨by decide, _, rfl⟩)
  · rename_i same
    cases same
    exact .inr (.inr ⟨_, _, rfl, rfl, rfl⟩)
  · rename_i same
    cases same
    rcases escapeChar_cases c with ⟨written, plain⟩ | ⟨mark, written, _⟩
    · refine .inr (.inl ⟨?_, _, by rw [written, List.singleton_append]⟩)
      rintro rfl
      cases plain.2.2
    · exact .inl ⟨_, by rw [written, List.cons_append]⟩
  · rename_i same
    cases same

theorem longCharsWith_append_ne_quote (ends : IsLineEnd pair) {c : Char} (differs : c ≠ '"')
    (text after tail : List Char) : longCharsWith pair (c :: text) ++ after ≠ '"' :: tail := by
  intro same
  rcases longCharsWith_cons pair c text with
    ⟨written, escaped⟩ | ⟨_, written, plain⟩ | ⟨_, _, _, _, broken⟩
  · rw [escaped, List.cons_append] at same
    cases same
  · rw [plain, List.cons_append] at same
    exact differs (List.cons.inj same).1
  · rw [broken] at same
    cases ends <;> cases same

/-- A quote that is no third one reads as a character of the text, also where the closing quotes
come next. -/
theorem readLongBasic_quote (ends : IsLineEnd pair) {text rest : List Char}
    (follow : rest.head? ≠ some '"') (few : ∀ tail, text ≠ '"' :: '"' :: tail)
    (read : readLongBasic (longCharsWith pair text ++ '"' :: '"' :: '"' :: rest) =
      some (withPairs pair text, rest)) :
    readLongBasic ('"' :: (longCharsWith pair text ++ '"' :: '"' :: '"' :: rest)) =
      some ('"' :: withPairs pair text, rest) := by
  rcases text with _ | ⟨c, tail⟩
  · rw [longCharsWith, List.nil_append, readLongBasic, withPairs]
    exact (closeTriple_of_head follow).2.1
  by_cases isQuote : c = '"'
  · subst isQuote
    rcases tail with _ | ⟨d, tail⟩
    · simp only [longCharsWith, List.cons_append, List.nil_append]
      rw [readLongBasic]
      exact (closeTriple_of_head follow).2.2
    · have differs : d ≠ '"' := fun same => few tail (same ▸ rfl)
      have written : longCharsWith pair ('"' :: d :: tail) =
          '"' :: longCharsWith pair (d :: tail) := by
        rw [longCharsWith]
        exact fun _ same => differs (List.cons.inj same).1
      rw [readLongBasic_cons (by decide) rfl, read, Option.map_some]
      rintro after - same
      rw [written, List.cons_append] at same
      exact longCharsWith_append_ne_quote ends differs _ _ _ (List.cons.inj same).2
  · rw [readLongBasic_cons (by decide) rfl, read, Option.map_some]
    rintro after - same
    exact longCharsWith_append_ne_quote ends isQuote _ _ _ same

/-- A string with triple quotes reads back behind its opening quotes. -/
theorem readLongBasic_longCharsWith (ends : IsLineEnd pair) (text : List Char) {rest : List Char}
    (follow : rest.head? ≠ some '"') :
    readLongBasic (longCharsWith pair text ++ '"' :: '"' :: '"' :: rest) =
      some (withPairs pair text, rest) := by
  fun_induction longCharsWith pair text with
  | case1 text inductionHypothesis =>
      have escape : EscapeOf '"' ['"'] := escapeOf_of_unescape? rfl rfl (by decide)
      have third :=
        readLongBasic_escape escape (longCharsWith pair text ++ '"' :: '"' :: '"' :: rest)
      simp only [List.cons_append, List.nil_append] at third ⊢
      rw [readLongBasic_cons (by decide) rfl (by simp),
        readLongBasic_cons (by decide) rfl (by simp), third, inductionHypothesis]
      simp only [withPairs_cons pair (show '"' ≠ '\r' by decide), Option.map_some]
  | case2 text few inductionHypothesis =>
      rw [withPairs_cons pair (by decide)]
      exact readLongBasic_quote ends follow (fun tail same => few tail same) inductionHypothesis
  | case3 text inductionHypothesis =>
      rw [List.cons_append, readLongBasic_cons (by decide) rfl (by simp), inductionHypothesis,
        withPairs_cons pair (by decide)]
      rfl
  | case4 text inductionHypothesis =>
      rw [List.append_assoc, readLongBasic_lineEnd ends, inductionHypothesis]
      rfl
  | case5 c text _ noQuote _ noPair inductionHypothesis =>
      have alone : withPairs pair (c :: text) = c :: withPairs pair text := by
        rw [withPairs]
        exact noPair
      rw [List.append_assoc, alone]
      rcases escapeChar_cases c with ⟨written, plain⟩ | ⟨mark, written, escape⟩
      · have free : isLineControl c = false := by simp [isLineControl, plain.2.2]
        rw [written, List.singleton_append, readLongBasic_cons plain.2.1 free, inductionHypothesis,
          Option.map_some]
        exact fun _ isQuote => absurd isQuote plain.1
      · rw [written, List.cons_append, readLongBasic_escape escape, inductionHypothesis,
          Option.map_some]
  | case6 =>
      rw [List.nil_append, readLongBasic, withPairs]
      exact (closeTriple_of_head follow).1

theorem skipFirstBreak_longCharsWith (pair text after : List Char) :
    skipFirstBreak ((if startsWithBreak text then ['\n'] else []) ++
      (longCharsWith pair text ++ '"' :: after)) = longCharsWith pair text ++ '"' :: after := by
  by_cases breaks : startsWithBreak text = true
  · rw [if_pos breaks]
    rfl
  · rw [if_neg breaks, List.nil_append]
    rcases text with _ | ⟨c, text⟩
    · rfl
    · rcases longCharsWith_cons pair c text with
        ⟨tail, escaped⟩ | ⟨noReturn, tail, plain⟩ | ⟨later, _, rfl, rfl, _⟩
      · rw [escaped]
        rfl
      · rw [plain, List.cons_append]
        unfold skipFirstBreak
        split
        · rename_i same
          rw [(List.cons.inj same).1] at breaks
          exact absurd rfl breaks
        · rename_i same
          exact absurd (List.cons.inj same).1 noReturn
        · rfl
      · exact absurd rfl breaks

theorem readString_writeLongWith_append (ends : IsLineEnd pair) (text : List Char)
    {rest : List Char} (follow : rest.head? ≠ some '"') :
    readString (writeLongWith pair text ++ rest) = some (withPairs pair text, rest) := by
  have layout : writeLongWith pair text ++ rest =
      '"' :: '"' :: '"' :: ((if startsWithBreak text then ['\n'] else []) ++
        (longCharsWith pair text ++ '"' :: '"' :: '"' :: rest)) := by
    simp [writeLongWith]
  rw [layout, readString, skipFirstBreak_longCharsWith,
    readLongBasic_longCharsWith ends text follow]

theorem readString_writeLong_append (text : List Char) {rest : List Char}
    (follow : rest.head? ≠ some '"') :
    readString (writeLong text ++ rest) = some (text, rest) := by
  rw [← writeLongWith_self, readString_writeLongWith_append .pair text follow, withPairs_self]

end Long

/-- No text that a short string can hold in front of its closing quote starts with two quotes of
its own. -/
theorem readString_writeString_append (text : List Char) {rest : List Char}
    (follow : text = [] → rest.head? ≠ some '\x27') :
    readString (writeString text ++ rest) = some (text, rest) := by
  by_cases fits : fitsLiteral text = true
  · have layout : writeString text ++ rest = '\x27' :: (text ++ '\x27' :: rest) := by
      simp [writeString, fits]
    rw [layout, readString]
    · exact readLiteral_append fits rest
    · intro after same
      rcases text with _ | ⟨c, text⟩
      · rw [List.nil_append] at same
        rw [(List.cons.inj same).2] at follow
        exact follow rfl rfl
      · simp [fitsLiteral, (List.cons.inj same).1] at fits
  · have layout : writeString text ++ rest = '"' :: (text.flatMap escapeChar ++ '"' :: rest) := by
      simp [writeString, writeBasic, fits]
    rw [layout, readString]
    · exact readBasic_flatMap_escapeChar text rest
    · intro after same
      rcases text with _ | ⟨c, text⟩
      · exact fits rfl
      · rw [List.flatMap_cons] at same
        rcases escapeChar_cases c with ⟨written, plain⟩ | ⟨mark, written, _⟩
        · rw [written] at same
          exact plain.1 (List.cons.inj same).1
        · rw [written] at same
          cases (List.cons.inj same).1

end ShellPrompt.Toml
