import ShellPrompt.Proofs.OrderedMap
import ShellPrompt.Proofs.Toml.Keys
import ShellPrompt.Proofs.Toml.Numbers

/-!
Reading written items. In front of anything that ends a value, the text of an item reads as the
value that the item stands for; an inline table gives all its entries in their order.
-/

namespace ShellPrompt.Toml

open ShellPrompt.Text

theorem endsScalar_ne_quote {c : Char} (ends : endsScalar c = true) : c ≠ '"' ∧ c ≠ '\x27' := by
  constructor
  all_goals
    rintro rfl
    cases ends

theorem head?_cons_ne {c d : Char} (differs : c ≠ d) (rest : List Char) :
    (c :: rest).head? ≠ some d := by
  simp [differs]

/-- A written string starts with a quote. -/
theorem writeString_cons (text : List Char) :
    ∃ tail, writeString text = '"' :: tail ∨ writeString text = '\x27' :: tail := by
  unfold writeString writeBasic
  split
  · exact ⟨_, .inr rfl⟩
  · exact ⟨_, .inl rfl⟩

theorem readValueWithin_of_readString {text rest : List Char} {written : String} (steps : Nat)
    (quoted : ∃ tail, text = '"' :: tail ∨ text = '\x27' :: tail)
    (read : readString text = some (written.toList, rest)) :
    readValueWithin (steps + 1) text = some (.text written, rest) := by
  obtain ⟨tail, rfl | rfl⟩ := quoted
  · simp only [readValueWithin, read, Option.map_some, String.ofList_toList]
  · simp only [readValueWithin, read, Option.map_some, String.ofList_toList]

theorem readValueWithin_writeString (steps : Nat) (text : String) {rest : List Char}
    (follow : text.toList = [] → rest.head? ≠ some '\x27') :
    readValueWithin (steps + 1) (writeString text.toList ++ rest) = some (.text text, rest) := by
  apply readValueWithin_of_readString
  · obtain ⟨tail, written⟩ := writeString_cons text.toList
    refine ⟨tail ++ rest, ?_⟩
    rcases written with written | written
    · exact .inl (by rw [written, List.cons_append])
    · exact .inr (by rw [written, List.cons_append])
  · exact readString_writeString_append _ follow

theorem readValueWithin_writeLong (steps : Nat) (text : String) {c : Char} (rest : List Char)
    (ends : endsScalar c = true) :
    readValueWithin (steps + 1) (writeLong text.toList ++ c :: rest) =
      some (.text text, c :: rest) := by
  apply readValueWithin_of_readString
  · exact ⟨_, .inl rfl⟩
  · exact readString_writeLong_append _ (head?_cons_ne (endsScalar_ne_quote ends).1 _)

/-- Blanks, and the characters that strings, arrays and tables open with: no number starts so. -/
def isOpening (c : Char) : Bool :=
  isSpace c || c == '"' || c == '\x27' || c == '[' || c == '\x7b'

theorem readValueWithin_eq_readScalar (steps : Nat) {c : Char} (rest : List Char)
    (plain : isOpening c = false) :
    readValueWithin (steps + 1) (c :: rest) = readScalar (c :: rest) := by
  simp only [isOpening, Bool.or_eq_false_iff, beq_eq_false_iff_ne] at plain
  obtain ⟨⟨⟨⟨_, noQuote⟩, noSingle⟩, noBracket⟩, noBrace⟩ := plain
  rw [readValueWithin]
  · exact fun _ same => noQuote (List.cons.inj same).1
  · exact fun _ same => noSingle (List.cons.inj same).1
  · exact fun _ same => noBracket (List.cons.inj same).1
  · exact fun _ same => noBrace (List.cons.inj same).1

theorem isOpening_of_isDigit {c : Char} (digit : c.isDigit = true) : isOpening c = false := by
  have noQuote : c ≠ '"' := isDigit_ne digit rfl
  have noSingle : c ≠ '\x27' := isDigit_ne digit rfl
  have noBracket : c ≠ '[' := isDigit_ne digit rfl
  have noBrace : c ≠ '\x7b' := isDigit_ne digit rfl
  have noBlank : c ≠ ' ' := isDigit_ne digit rfl
  have noTab : c ≠ '\t' := isDigit_ne digit rfl
  simp [isOpening, isSpace, noQuote, noSingle, noBracket, noBrace, noBlank, noTab]

theorem readValue_hex {digits : List Char} (named : digits ≠ [])
    (hex : ∀ c ∈ digits, (hexValue? c).isSome) {c : Char} {rest : List Char}
    (ends : endsScalar c = true) :
    readValue ('0' :: 'x' :: digits ++ c :: rest) =
      some (.integer (hexNumber digits), c :: rest) :=
  (readValueWithin_eq_readScalar _ _ rfl).trans (readScalar_hex named hex ends)

theorem integerChars_cons (value : Int) :
    ∃ c tail, integerChars value = c :: tail ∧ isOpening c = false := by
  obtain ⟨digit, tail, digits, isDigit, _⟩ := (isNumeral_toDigits value.natAbs).cons
  unfold integerChars naturalChars
  split
  · exact ⟨_, _, rfl, rfl⟩
  · exact ⟨digit, tail, digits, isOpening_of_isDigit isDigit⟩

theorem toChars_cons (value : Decimal) :
    ∃ c tail, value.toChars = c :: tail ∧ isOpening c = false := by
  cases value with
  | finite negative digits exponent canonical =>
      obtain ⟨digit, tail, written, isDigit, _⟩ := (isNumeral_layOut canonical).cons
      cases negative with
      | false => exact ⟨digit, tail, written, isOpening_of_isDigit isDigit⟩
      | true => exact ⟨_, _, rfl, rfl⟩
  | infinite negative =>
      cases negative with
      | false => exact ⟨_, _, rfl, rfl⟩
      | true => exact ⟨_, _, rfl, rfl⟩
  | nan => exact ⟨_, _, rfl, rfl⟩

/-- No written item starts with a blank. -/
theorem write_cons (item : Item) : ∃ c tail, item.write = c :: tail ∧ isSpace c = false := by
  have solid : ∀ c, isOpening c = false → isSpace c = false := by
    intro c plain
    simp only [isOpening, Bool.or_eq_false_iff] at plain
    exact plain.1.1.1.1
  cases item with
  | short text =>
      obtain ⟨tail, written | written⟩ := writeString_cons text.toList
      · exact ⟨_, tail, written, rfl⟩
      · exact ⟨_, tail, written, rfl⟩
  | long text => exact ⟨_, _, rfl, rfl⟩
  | flag value =>
      cases value with
      | true => exact ⟨_, _, rfl, rfl⟩
      | false => exact ⟨_, _, rfl, rfl⟩
  | integer value =>
      obtain ⟨c, tail, written, plain⟩ := integerChars_cons value
      exact ⟨c, tail, written, solid c plain⟩
  | decimal value =>
      obtain ⟨c, tail, written, plain⟩ := toChars_cons value
      exact ⟨c, tail, written, solid c plain⟩
  | table entries => exact ⟨_, _, rfl, rfl⟩

/-- The entries of an inline table as they are read. -/
def textNodes (entries : List (String × String)) : Entries :=
  entries.map fun entry => (entry.1, .leaf (.text entry.2))

theorem map_fst_textNodes (entries : List (String × String)) :
    (textNodes entries).map Prod.fst = entries.map Prod.fst := by
  simp [textNodes]

theorem toValues_textNodes (entries : List (String × String)) :
    Entries.toValues (textNodes entries) = entries.map fun entry => (entry.1, .text entry.2) := by
  induction entries with
  | nil => rfl
  | cons entry rest inductionHypothesis =>
      simp only [textNodes, List.map_cons, Entries.toValues, Node.toValue, List.cons.injEq,
        true_and]
      exact inductionHypothesis

theorem Entries.find?_eq_none_iff {name : String} {entries : Entries} :
    entries.find? name = none ↔ name ∉ entries.map Prod.fst :=
  OrderedMap.find_eq_none_iff

/-- A new key gets its value behind the entries that are there. -/
theorem Entries.assign_new {name : String} {entries : Entries}
    (absent : name ∉ entries.map Prod.fst) (value : Value) :
    Entries.assign value [name] entries = some (entries ++ [(name, .leaf value)]) := by
  rw [Entries.assign, Entries.find?_eq_none_iff.mpr absent, Entries.put,
    OrderedMap.put_of_not_mem absent]

theorem writeEntries_cons (entry : String × String) (rest : List (String × String)) :
    writeEntries (entry :: rest) =
      writePair entry.1 (writeString entry.2.toList ++
        if rest = [] then [] else ',' :: ' ' :: writeEntries rest) := by
  cases rest with
  | nil => simp [writeEntries, writePair]
  | cons next rest => simp [writeEntries, writePair, List.intercalate]

theorem dropWhile_isSpace_writeString (text rest : List Char) :
    (' ' :: (writeString text ++ rest)).dropWhile isSpace = writeString text ++ rest := by
  obtain ⟨tail, written | written⟩ := writeString_cons text
  · rw [written]
    rfl
  · rw [written]
    rfl

theorem readEntries_space (steps : Nat) (before : Entries) (text : List Char) :
    readEntries steps before (' ' :: text) = readEntries steps before text := by
  cases steps with
  | zero => rfl
  | succ steps => rw [readEntries, readEntries, readKey_space]

/-- Reading an entry whose key is new leaves the reader behind its value. -/
theorem readEntries_writePair (steps : Nat) {before : Entries} (entry : String × String)
    {c : Char} {rest : List Char} (absent : entry.1 ∉ before.map Prod.fst)
    (ends : endsScalar c = true) (solid : isSpace c = false) :
    readEntries (steps + 2) before (writePair entry.1 (writeString entry.2.toList ++ c :: rest)) =
      match c :: rest with
      | ',' :: rest => readEntries (steps + 1) (before ++ textNodes [entry]) rest
      | '\x7d' :: rest => some (before ++ textNodes [entry], rest)
      | _ => none := by
  have stays : (c :: rest).dropWhile isSpace = c :: rest :=
    List.dropWhile_cons_of_neg (by simp [solid])
  rw [readEntries, readKey_writePair]
  have read := readValueWithin_writeString steps entry.2
    fun _ => head?_cons_ne (endsScalar_ne_quote ends).2 rest
  simp only [dropWhile_isSpace_writeString, read, Entries.assign_new absent, stays]
  rfl

/-- The entries of a written inline table are read one after the other, behind those before them. -/
theorem readEntries_writeEntries {entries : List (String × String)} (present : entries ≠ [])
    (rest : List Char) {steps : Nat} {before : Entries} (enough : entries.length < steps)
    (distinct : ((before ++ textNodes entries).map Prod.fst).Nodup) :
    readEntries steps before (writeEntries entries ++ '\x7d' :: rest) =
      some (before ++ textNodes entries, rest) := by
  induction entries generalizing steps before with
  | nil => exact absurd rfl present
  | cons entry entries inductionHypothesis =>
      have absent : entry.1 ∉ before.map Prod.fst := by
        rw [List.map_append, List.nodup_append] at distinct
        intro member
        exact distinct.2.2 entry.1 member entry.1 (by simp [textNodes]) rfl
      have regrouped : before ++ textNodes (entry :: entries) =
          before ++ textNodes [entry] ++ textNodes entries := by
        simp [textNodes]
      obtain ⟨more, rfl⟩ : ∃ more, steps = more + 2 := by
        rw [List.length_cons] at enough
        exact ⟨steps - 2, by omega⟩
      cases entries with
      | nil =>
          have layout : writeEntries [entry] ++ '\x7d' :: rest =
              writePair entry.1 (writeString entry.2.toList ++ '\x7d' :: rest) := by
            simp [writeEntries_cons, writePair]
          rw [layout, readEntries_writePair more entry absent rfl rfl]
          rfl
      | cons next entries =>
          have layout : writeEntries (entry :: next :: entries) ++ '\x7d' :: rest =
              writePair entry.1 (writeString entry.2.toList ++
                ',' :: ' ' :: (writeEntries (next :: entries) ++ '\x7d' :: rest)) := by
            rw [writeEntries_cons]
            simp [writePair]
          rw [regrouped] at distinct ⊢
          rw [layout, readEntries_writePair more entry absent rfl rfl]
          show readEntries (more + 1) (before ++ textNodes [entry]) (' ' :: _) = _
          rw [readEntries_space]
          apply inductionHypothesis (by simp) _ distinct
          simp only [List.length_cons] at enough ⊢
          omega

/-- Every entry takes up some text. -/
theorem length_le_writeEntries (entries : List (String × String)) :
    entries.length ≤ (writeEntries entries).length := by
  induction entries with
  | nil => exact Nat.zero_le _
  | cons entry rest inductionHypothesis =>
      rw [writeEntries_cons]
      by_cases last : rest = []
      · subst last
        simp only [writePair, List.length_append, List.length_cons, List.length_nil]
        omega
      · rw [if_neg last]
        simp only [writePair, List.length_append, List.length_cons]
        omega

theorem writeEntries_append_cons {entries : List (String × String)} (present : entries ≠ [])
    (rest : List Char) :
    ∃ c tail, writeEntries entries ++ rest = c :: tail ∧ isSpace c = false ∧ c ≠ '\x7d' := by
  obtain ⟨entry, others, rfl⟩ := List.exists_cons_of_ne_nil present
  obtain ⟨c, tail, written, first⟩ := writeKey_cons entry.1.toList
  rw [writeEntries_cons, writePair, written]
  refine ⟨c, _, rfl, ?_⟩
  rcases first with bare | ⟨rfl, _⟩
  · refine ⟨(isBareChar_ne bare).1, ?_⟩
    rintro rfl
    cases bare
  · exact ⟨rfl, by decide⟩

/-- A written inline table reads back in front of anything. -/
theorem readValueWithin_writeTable {steps : Nat} (entries : OrderedMap String String)
    (rest : List Char) (enough : entries.entries.length < steps) :
    readValueWithin (steps + 1) ((Item.table entries).write ++ rest) =
      some ((Item.table entries).toValue, rest) := by
  have layout : (Item.table entries).write ++ rest =
      '\x7b' :: (writeEntries entries.entries ++ '\x7d' :: rest) := by
    simp [Item.write]
  rw [layout, readValueWithin]
  by_cases present : entries.entries = []
  · rw [present]
    simp [writeEntries, isSpace, Item.toValue, OrderedMap.mapValues, present, Value.table]
  · obtain ⟨c, tail, start, solid, noBrace⟩ := writeEntries_append_cons present ('\x7d' :: rest)
    have distinct : (([] ++ textNodes entries.entries).map Prod.fst).Nodup := by
      rw [List.nil_append, map_fst_textNodes]
      exact entries.distinct
    have read := readEntries_writeEntries present rest enough distinct
    rw [start] at read ⊢
    rw [List.dropWhile_cons_of_neg (by simp [solid])]
    split
    · rename_i same
      exact absurd (List.cons.inj same).1 noBrace
    · rw [read, Option.map_some, List.nil_append]
      simp [toValues_textNodes, Item.toValue, OrderedMap.mapValues]

/-- An item without an integer that is too long to be written. -/
def Item.Short : Item → Prop
  | .integer value => isWritable value = true
  | _ => True

/-- A written item reads back in front of the end of a value. -/
theorem readValue_write {item : Item} (short : item.Short) {c : Char} (rest : List Char)
    (ends : endsScalar c = true) :
    readValue (item.write ++ c :: rest) = some (item.toValue, c :: rest) := by
  unfold readValue
  cases item with
  | short text =>
      exact readValueWithin_writeString _ text fun _ =>
        head?_cons_ne (endsScalar_ne_quote ends).2 rest
  | long text => exact readValueWithin_writeLong _ text rest ends
  | flag value =>
      cases value with
      | true => rfl
      | false => rfl
  | integer value =>
      obtain ⟨first, tail, written, plain⟩ := integerChars_cons value
      have read : readScalar (integerChars value ++ c :: rest) = some (.integer value, c :: rest) :=
        readScalar_integerChars short ends
      simp only [Item.write]
      rw [written] at read ⊢
      exact (readValueWithin_eq_readScalar _ _ plain).trans read
  | decimal value =>
      obtain ⟨first, tail, written, plain⟩ := toChars_cons value
      have read : readScalar (value.toChars ++ c :: rest) = some (.decimal value, c :: rest) :=
        readScalar_toChars value ends
      simp only [Item.write]
      rw [written] at read ⊢
      exact (readValueWithin_eq_readScalar _ _ plain).trans read
  | table entries =>
      apply readValueWithin_writeTable
      have few := length_le_writeEntries entries.entries
      simp only [Item.write, List.length_append, List.length_cons]
      omega

end ShellPrompt.Toml
