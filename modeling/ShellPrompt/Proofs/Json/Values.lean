import ShellPrompt.Proofs.Json.Numbers
import ShellPrompt.Proofs.Json.Strings
import ShellPrompt.Proofs.OrderedMap
import ShellPrompt.Proofs.Report

/-!
JSON values and documents. The reader gives a value for a text exactly if the text is one for that
value: a scalar, or a list or an object with blanks around its items. The number of steps that the
reader may take is enough for every text.
-/

namespace ShellPrompt.Json

/-- A value as it is written, with blanks around it. -/
structure Part where
  before : List Char
  written : List Char
  after : List Char
  value : Value

namespace Part

def text (part : Part) : List Char := part.before ++ part.written ++ part.after

structure Padded (part : Part) : Prop where
  before : part.before.all isBlank = true
  after : part.after.all isBlank = true

end Part

/-- A member of an object as it is written: its name, with blanks around it, and its value. -/
structure Member where
  before : List Char
  written : List Char
  after : List Char
  name : List Char
  part : Part

namespace Member

def text (member : Member) : List Char :=
  member.before ++ '"' :: (member.written ++ '"' :: (member.after ++ ':' :: member.part.text))

structure Padded (member : Member) : Prop where
  before : member.before.all isBlank = true
  after : member.after.all isBlank = true
  part : member.part.Padded

def entry (member : Member) : String × Value := (String.ofList member.name, member.part.value)

end Member

/-- The values that are written as one word. -/
inductive WordText : List Char → Value → Prop
  | null : WordText ['n', 'u', 'l', 'l'] .null
  | yes : WordText ['t', 'r', 'u', 'e'] (.flag true)
  | no : WordText ['f', 'a', 'l', 's', 'e'] (.flag false)
  | nan : WordText ['N', 'a', 'N'] (.decimal .nan)
  | infinity : WordText ['I', 'n', 'f', 'i', 'n', 'i', 't', 'y'] (.decimal (.infinite false))
  | negativeInfinity :
      WordText ['-', 'I', 'n', 'f', 'i', 'n', 'i', 't', 'y'] (.decimal (.infinite true))

inductive ScalarText : List Char → Value → Prop
  | word {written : List Char} {value : Value} (word : WordText written value) :
      ScalarText written value
  | positive {written : List Char} {value : Value} (number : UnsignedText false written value) :
      ScalarText written value
  | negative {written : List Char} {value : Value} (number : UnsignedText true written value) :
      ScalarText ('-' :: written) value

/-- A value as it is written. The last value given for a name of an object counts. -/
inductive ValueText : List Char → Value → Prop
  | scalar {written : List Char} {value : Value} (scalar : ScalarText written value) :
      ValueText written value
  | text {written text : List Char} (strings : StringText written text) :
      ValueText ('"' :: (written ++ ['"'])) (.text (String.ofList text))
  | emptyList {blanks : List Char} (blank : blanks.all isBlank = true) :
      ValueText ('[' :: (blanks ++ [']'])) (.list [])
  | list {parts : List Part} (named : parts ≠ []) (padded : ∀ part ∈ parts, part.Padded)
      (each : ∀ part ∈ parts, ValueText part.written part.value) :
      ValueText ('[' :: (List.intercalate [','] (parts.map Part.text) ++ [']']))
        (.list (parts.map Part.value))
  | emptyObject {blanks : List Char} (blank : blanks.all isBlank = true) :
      ValueText ('\x7b' :: (blanks ++ ['\x7d'])) (.table [])
  | object {members : List Member} (named : members ≠ [])
      (padded : ∀ member ∈ members, member.Padded)
      (names : ∀ member ∈ members, StringText member.written member.name)
      (each : ∀ member ∈ members, ValueText member.part.written member.part.value) :
      ValueText ('\x7b' :: (List.intercalate [','] (members.map Member.text) ++ ['\x7d']))
        (.table (OrderedMap.ofList (members.map Member.entry)).entries)

/-- A document is a value with blanks around it. -/
def Document (text : List Char) (value : Value) : Prop :=
  ∃ part : Part, part.Padded ∧ ValueText part.written part.value ∧ part.text = text ∧
    part.value = value

section Blanks

theorem exists_blanks (text : List Char) :
    ∃ blanks, blanks.all isBlank = true ∧ text = blanks ++ skipBlanks text :=
  ⟨_, List.all_takeWhile, List.takeWhile_append_dropWhile.symm⟩

theorem skipBlanks_append {blanks : List Char} (blank : blanks.all isBlank = true)
    (text : List Char) : skipBlanks (blanks ++ text) = skipBlanks text :=
  List.dropWhile_append_of_pos (List.all_eq_true.mp blank)

theorem skipBlanks_cons {c : Char} (solid : isBlank c = false) (text : List Char) :
    skipBlanks (c :: text) = c :: text :=
  List.dropWhile_cons_of_neg (by simp [solid])

/-- What may follow a value: nothing, a blank, or a character between values. -/
def EndsValue (after : List Char) : Prop :=
  ∀ c tail, after = c :: tail → isBlank c = true ∨ c = ',' ∨ c = ']' ∨ c = '\x7d'

theorem isBlank_of_isDigit {c : Char} (digit : c.isDigit = true) : isBlank c = false := by
  cases blank : isBlank c with
  | false => rfl
  | true =>
      simp only [isBlank, Bool.or_eq_true, beq_iff_eq] at blank
      rcases blank with ((rfl | rfl) | rfl) | rfl <;> cases digit

theorem EndsValue.endsNumber {after : List Char} (ends : EndsValue after) : EndsNumber after := by
  intro c tail same
  have each := ends c tail same
  simp only [isBlank, Bool.or_eq_true, beq_iff_eq] at each
  rcases each with ((((rfl | rfl) | rfl) | rfl) | rfl | rfl | rfl) <;> decide

theorem EndsValue.blanks {blanks after : List Char} (blank : blanks.all isBlank = true)
    (ends : EndsValue after) : EndsValue (blanks ++ after) := by
  intro c tail same
  cases blanks with
  | nil => exact ends c tail same
  | cons d rest =>
      cases same
      exact .inl (List.all_eq_true.mp blank c List.mem_cons_self)

theorem endsValue_cons {c : Char} (between : c = ',' ∨ c = ']' ∨ c = '\x7d') (tail : List Char) :
    EndsValue (c :: tail) := by
  rintro _ _ ⟨⟩
  exact .inr between

end Blanks

theorem orInvalid_eq_ok_iff {α : Type} {found : Option α} {result : α} :
    orInvalid found = .ok result ↔ found = some result := by
  cases found <;> simp [orInvalid]

section Scalars
variable {written after : List Char} {value : Value}

theorem scalarText_of_readScalar {text : List Char}
    (read : readScalar text = .ok (value, after)) :
    ∃ written, text = written ++ after ∧ ScalarText written value := by
  unfold readScalar at read
  split at read
  · cases read
    exact ⟨_, rfl, .word .null⟩
  · cases read
    exact ⟨_, rfl, .word .yes⟩
  · cases read
    exact ⟨_, rfl, .word .no⟩
  · cases read
    exact ⟨_, rfl, .word .nan⟩
  · cases read
    exact ⟨_, rfl, .word .infinity⟩
  · cases read
    exact ⟨_, rfl, .word .negativeInfinity⟩
  · obtain ⟨written, rfl, number⟩ := unsignedText_of_readUnsigned read
    exact ⟨'-' :: written, rfl, .negative number⟩
  · obtain ⟨written, rfl, number⟩ := unsignedText_of_readUnsigned read
    exact ⟨written, rfl, .positive number⟩

theorem UnsignedText.cons {negative : Bool} (number : UnsignedText negative written value) :
    ∃ c tail, written = c :: tail ∧ c.isDigit = true := by
  cases number with
  | integer isWhole => exact isWhole.all.cons
  | decimal isWhole _ _ _ =>
      obtain ⟨c, tail, rfl, digit⟩ := isWhole.all.cons
      exact ⟨c, _, rfl, digit⟩

/-- No word starts with a digit. -/
theorem readScalar_digit {c : Char} (digit : c.isDigit = true) (tail : List Char) :
    readScalar (c :: tail) = readUnsigned false (c :: tail) := by
  rw [readScalar]
  all_goals
    intro rest same
    cases (List.cons.inj same).1
    cases digit

theorem readScalar_minus_digit {c : Char} (digit : c.isDigit = true) (tail : List Char) :
    readScalar ('-' :: c :: tail) = readUnsigned true (c :: tail) := by
  rw [readScalar]
  intro rest same
  cases (List.cons.inj same).1
  cases digit

theorem ScalarText.read (scalar : ScalarText written value) (ends : EndsNumber after) :
    readScalar (written ++ after) = .ok (value, after) := by
  cases scalar with
  | word word => cases word <;> rfl
  | positive number =>
      have read := number.read ends
      obtain ⟨c, tail, rfl, digit⟩ := number.cons
      exact (readScalar_digit digit _).trans read
  | negative number =>
      have read := number.read ends
      obtain ⟨c, tail, rfl, digit⟩ := number.cons
      exact (readScalar_minus_digit digit _).trans read

/-- Only strings, lists and objects are not read as scalars, by their first characters. -/
theorem readValue_scalar {c : Char} (noQuote : c ≠ '"') (noBracket : c ≠ '[') (noBrace : c ≠ '\x7b')
    (steps : Nat) (tail : List Char) :
    readValue (steps + 1) (c :: tail) = readScalar (c :: tail) := by
  rw [readValue]
  · exact fun rest same => noQuote (List.cons.inj same).1
  · exact fun rest same => noBracket (List.cons.inj same).1
  · exact fun rest same => noBrace (List.cons.inj same).1

theorem readValue_digit {c : Char} (digit : c.isDigit = true) (steps : Nat) (tail : List Char) :
    readValue (steps + 1) (c :: tail) = readUnsigned false (c :: tail) := by
  rw [readValue_scalar, readScalar_digit digit]
  all_goals
    rintro rfl
    cases digit

end Scalars

section Sequences

/-- The items of a list as they are written between its brackets. -/
def ItemsText (text : List Char) (items : List Value) : Prop :=
  ∃ parts : List Part, parts ≠ [] ∧ (∀ part ∈ parts, part.Padded) ∧
    (∀ part ∈ parts, ValueText part.written part.value) ∧
    text = List.intercalate [','] (parts.map Part.text) ∧ items = parts.map Part.value

/-- The members of an object as they are written between its braces. -/
def EntriesText (text : List Char) (entries : List (String × Value)) : Prop :=
  ∃ members : List Member, members ≠ [] ∧ (∀ member ∈ members, member.Padded) ∧
    (∀ member ∈ members, StringText member.written member.name) ∧
    (∀ member ∈ members, ValueText member.part.written member.part.value) ∧
    text = List.intercalate [','] (members.map Member.text) ∧ entries = members.map Member.entry

theorem ItemsText.valueText {text : List Char} {items : List Value}
    (written : ItemsText text items) : ValueText ('[' :: (text ++ [']'])) (.list items) := by
  obtain ⟨parts, named, padded, each, rfl, rfl⟩ := written
  exact .list named padded each

theorem EntriesText.valueText {text : List Char} {entries : List (String × Value)}
    (written : EntriesText text entries) :
    ValueText ('\x7b' :: (text ++ ['\x7d'])) (.table (OrderedMap.ofList entries).entries) := by
  obtain ⟨members, named, padded, names, each, rfl, rfl⟩ := written
  exact .object named padded names each

theorem intercalate_cons {first : List Char} {rest : List (List Char)} (more : rest ≠ []) :
    List.intercalate [','] (first :: rest) = first ++ ',' :: List.intercalate [','] rest := by
  obtain ⟨second, others, rfl⟩ := List.exists_cons_of_ne_nil more
  simp [List.intercalate]

theorem itemsText_single {part : Part} (padded : part.Padded)
    (written : ValueText part.written part.value) : ItemsText part.text [part.value] :=
  ⟨[part], by simp, by simpa using padded, by simpa using written, by simp, rfl⟩

theorem ItemsText.cons {part : Part} (padded : part.Padded)
    (written : ValueText part.written part.value) {text : List Char} {items : List Value}
    (later : ItemsText text items) :
    ItemsText (part.text ++ ',' :: text) (part.value :: items) := by
  obtain ⟨parts, named, allPadded, each, rfl, rfl⟩ := later
  refine ⟨part :: parts, by simp, ?_, ?_, ?_, rfl⟩
  · exact List.forall_mem_cons.mpr ⟨padded, allPadded⟩
  · exact List.forall_mem_cons.mpr ⟨written, each⟩
  · rw [List.map_cons, intercalate_cons (by simpa using named)]

theorem entriesText_single {member : Member} (padded : member.Padded)
    (name : StringText member.written member.name)
    (written : ValueText member.part.written member.part.value) :
    EntriesText member.text [member.entry] :=
  ⟨[member], by simp, by simpa using padded, by simpa using name, by simpa using written, by simp,
    rfl⟩

theorem EntriesText.cons {member : Member} (padded : member.Padded)
    (name : StringText member.written member.name)
    (written : ValueText member.part.written member.part.value) {text : List Char}
    {entries : List (String × Value)} (later : EntriesText text entries) :
    EntriesText (member.text ++ ',' :: text) (member.entry :: entries) := by
  obtain ⟨members, named, allPadded, names, each, rfl, rfl⟩ := later
  refine ⟨member :: members, by simp, ?_, ?_, ?_, ?_, rfl⟩
  · exact List.forall_mem_cons.mpr ⟨padded, allPadded⟩
  · exact List.forall_mem_cons.mpr ⟨name, names⟩
  · exact List.forall_mem_cons.mpr ⟨written, each⟩
  · rw [List.map_cons, intercalate_cons (by simpa using named)]

end Sequences

section Sound

/-- What the reader of values takes is a value as it is written. -/
def TakesValues (steps : Nat) : Prop :=
  ∀ text value after, readValue steps text = .ok (value, after) →
    ∃ written, text = written ++ after ∧ ValueText written value

/-- What the reader of items takes are items as they are written; the blanks in front of the first
one have been skipped before. -/
def TakesItems (steps : Nat) : Prop :=
  ∀ text items after, readItems steps text = .ok (items, after) →
    ∀ blanks, blanks.all isBlank = true →
      ∃ written, blanks ++ text = written ++ ']' :: after ∧ ItemsText written items

def TakesEntries (steps : Nat) : Prop :=
  ∀ (before : OrderedMap String Value) text result after,
    readEntries before.entries steps text = .ok (result, after) →
    ∀ blanks, blanks.all isBlank = true → ∃ written entries,
      blanks ++ text = written ++ '\x7d' :: after ∧ EntriesText written entries ∧
        result = (before.insertAll entries).entries

variable {steps : Nat}

theorem takesItems_succ (values : TakesValues steps) (items : TakesItems steps) :
    TakesItems (steps + 1) := by
  intro text all after read blanks blank
  rw [readItems] at read
  obtain ⟨⟨value, rest⟩, first, more⟩ := bind_eq_ok_iff.mp read
  obtain ⟨written, rfl, isValue⟩ := values _ _ _ first
  obtain ⟨behind, behindBlank, layout⟩ := exists_blanks rest
  have padded : Part.Padded ⟨blanks, written, behind, value⟩ := ⟨blank, behindBlank⟩
  simp only at more
  split at more
  · rename_i source found
    obtain ⟨⟨others, last⟩, later, same⟩ := bind_eq_ok_iff.mp more
    cases same
    obtain ⟨between, betweenBlank, gap⟩ := exists_blanks source
    obtain ⟨tail, split, isItems⟩ := items _ _ _ later between betweenBlank
    refine ⟨_, ?_, isItems.cons padded isValue⟩
    rw [layout, found, gap, split]
    simp [Part.text]
  · rename_i source found
    cases more
    refine ⟨_, ?_, itemsText_single padded isValue⟩
    rw [layout, found]
    simp [Part.text]
  · cases more

theorem takesEntries_succ (values : TakesValues steps) (entries : TakesEntries steps) :
    TakesEntries (steps + 1) := by
  intro before text result after read blanks blank
  rw [readEntries.eq_def] at read
  simp only at read
  split at read
  · rename_i source
    obtain ⟨⟨name, rest⟩, first, more⟩ := bind_eq_ok_iff.mp read
    obtain ⟨written, rfl, isName⟩ := stringText_of_readString (orInvalid_eq_ok_iff.mp first)
    obtain ⟨behind, behindBlank, layout⟩ := exists_blanks rest
    simp only at more
    split at more
    · rename_i source found
      obtain ⟨⟨value, last⟩, second, more⟩ := bind_eq_ok_iff.mp more
      obtain ⟨front, frontBlank, gap⟩ := exists_blanks source
      obtain ⟨inner, split, isValue⟩ := values _ _ _ second
      obtain ⟨back, backBlank, margin⟩ := exists_blanks last
      let member : Member := ⟨blanks, written, behind, name, ⟨front, inner, back, value⟩⟩
      have padded : member.Padded := ⟨blank, behindBlank, frontBlank, backBlank⟩
      have behindValue : inner ++ last = inner ++ (back ++ skipBlanks last) := by
        rw [← margin]
      have start : blanks ++ '"' :: (written ++ '"' :: rest) = member.text ++ skipBlanks last := by
        rw [layout, found, gap, split, behindValue]
        simp [member, Member.text, Part.text]
      simp only at more
      split at more
      · rename_i source next
        obtain ⟨between, betweenBlank, gap⟩ := exists_blanks source
        obtain ⟨tail, others, split, isEntries, rfl⟩ :=
          entries (before.insert _ value) _ _ _ more between betweenBlank
        refine ⟨_, _, ?_, isEntries.cons padded isName isValue, rfl⟩
        rw [start, next, gap, split]
        simp
      · rename_i source next
        cases more
        refine ⟨_, _, ?_, entriesText_single padded isName isValue, rfl⟩
        rw [start, next]
      · cases more
    · cases more
  · cases read

theorem takesValues_succ (items : TakesItems steps) (entries : TakesEntries steps) :
    TakesValues (steps + 1) := by
  intro text value after read
  rw [readValue.eq_def] at read
  simp only at read
  split at read
  · obtain ⟨⟨text, rest⟩, strings, same⟩ := map_eq_ok_iff.mp read
    cases same
    obtain ⟨written, rfl, isText⟩ := stringText_of_readString (orInvalid_eq_ok_iff.mp strings)
    exact ⟨_, by simp, .text isText⟩
  · rename_i source
    obtain ⟨blanks, blank, layout⟩ := exists_blanks source
    split at read
    · rename_i rest found
      cases read
      refine ⟨_, ?_, .emptyList blank⟩
      rw [layout, found]
      simp
    · obtain ⟨⟨all, rest⟩, more, same⟩ := map_eq_ok_iff.mp read
      cases same
      obtain ⟨written, split, isItems⟩ := items _ _ _ more blanks blank
      refine ⟨_, ?_, isItems.valueText⟩
      rw [layout, split]
      simp
  · rename_i source
    obtain ⟨blanks, blank, layout⟩ := exists_blanks source
    split at read
    · rename_i rest found
      cases read
      refine ⟨_, ?_, .emptyObject blank⟩
      rw [layout, found]
      simp
    · obtain ⟨⟨all, rest⟩, more, same⟩ := map_eq_ok_iff.mp read
      cases same
      obtain ⟨written, pairs, split, isEntries, rfl⟩ := entries .empty _ _ _ more blanks blank
      refine ⟨_, ?_, isEntries.valueText⟩
      rw [layout, split]
      simp
  · obtain ⟨written, rfl, scalar⟩ := scalarText_of_readScalar read
    exact ⟨written, rfl, .scalar scalar⟩

theorem takes (steps : Nat) : TakesValues steps ∧ TakesItems steps ∧ TakesEntries steps := by
  induction steps with
  | zero =>
      refine ⟨?_, ?_, ?_⟩
      · intro text value after read
        cases read
      · intro text items after read
        cases read
      · intro before text result after read
        cases read
  | succ steps inductionHypothesis =>
      obtain ⟨values, items, entries⟩ := inductionHypothesis
      exact ⟨takesValues_succ items entries, takesItems_succ values items,
        takesEntries_succ values entries⟩

end Sound

section Complete

/-- No value starts with a blank, or with a character that closes a list. -/
theorem ValueText.cons {written : List Char} {value : Value} (isValue : ValueText written value) :
    ∃ c tail, written = c :: tail ∧ isBlank c = false ∧ c ≠ ']' := by
  cases isValue with
  | scalar scalar =>
      cases scalar with
      | word word => cases word <;> exact ⟨_, _, rfl, rfl, by decide⟩
      | positive number =>
          obtain ⟨c, tail, rfl, digit⟩ := number.cons
          refine ⟨c, tail, rfl, isBlank_of_isDigit digit, ?_⟩
          rintro rfl
          cases digit
      | negative _ => exact ⟨_, _, rfl, rfl, by decide⟩
  | text _ => exact ⟨_, _, rfl, rfl, by decide⟩
  | emptyList _ => exact ⟨_, _, rfl, rfl, by decide⟩
  | list _ _ _ => exact ⟨_, _, rfl, rfl, by decide⟩
  | emptyObject _ => exact ⟨_, _, rfl, rfl, by decide⟩
  | object _ _ _ _ => exact ⟨_, _, rfl, rfl, by decide⟩

/-- With enough steps, a text in front of the end of a value reads as the value. -/
def ReadsAs (written : List Char) (value : Value) : Prop :=
  ∀ steps after, 2 * written.length < steps → EndsValue after →
    readValue steps (written ++ after) = .ok (value, after)

/-- The blanks in front of a part are skipped, and nothing else of it. -/
theorem Part.skipBlanks_text {part : Part} (padded : part.Padded)
    (isValue : ValueText part.written part.value) (after : List Char) :
    skipBlanks (part.text ++ after) = part.written ++ (part.after ++ after) := by
  obtain ⟨c, tail, start, solid, _⟩ := isValue.cons
  rw [Part.text, List.append_assoc, List.append_assoc, skipBlanks_append padded.before, start]
  exact skipBlanks_cons solid _

theorem Part.cons {part : Part} (padded : part.Padded) (isValue : ValueText part.written part.value)
    (after : List Char) :
    ∃ c tail, skipBlanks (part.text ++ after) = c :: tail ∧ c ≠ ']' := by
  obtain ⟨c, tail, start, solid, differs⟩ := isValue.cons
  refine ⟨c, tail ++ (part.after ++ after), ?_, differs⟩
  rw [part.skipBlanks_text padded isValue, start]
  rfl

/-- A part reads as its value behind the blanks in front of it, up to what follows its blanks. -/
theorem Part.read {part : Part} (padded : part.Padded) (isValue : ValueText part.written part.value)
    (reads : ReadsAs part.written part.value) (steps : Nat) (after : List Char)
    (enough : 2 * part.written.length < steps) (ends : EndsValue after)
    (solid : skipBlanks after = after) :
    ∃ rest, readValue steps (skipBlanks (part.text ++ after)) = .ok (part.value, rest) ∧
      skipBlanks rest = after := by
  refine ⟨part.after ++ after, ?_, ?_⟩
  · rw [part.skipBlanks_text padded isValue]
    exact reads steps _ enough (ends.blanks padded.after)
  · rw [skipBlanks_append padded.after, solid]

theorem readItems_intercalate {parts : List Part} (named : parts ≠ [])
    (padded : ∀ part ∈ parts, part.Padded)
    (each : ∀ part ∈ parts, ValueText part.written part.value)
    (reads : ∀ part ∈ parts, ReadsAs part.written part.value) (steps : Nat) (after : List Char)
    (enough : 2 * (List.intercalate [','] (parts.map Part.text)).length + 1 < steps) :
    readItems steps (skipBlanks (List.intercalate [','] (parts.map Part.text) ++ ']' :: after)) =
      .ok (parts.map Part.value, after) := by
  induction parts generalizing steps with
  | nil => exact absurd rfl named
  | cons part parts inductionHypothesis =>
      obtain ⟨firstPadded, laterPadded⟩ := List.forall_mem_cons.mp padded
      obtain ⟨isValue, laterEach⟩ := List.forall_mem_cons.mp each
      obtain ⟨firstReads, laterReads⟩ := List.forall_mem_cons.mp reads
      obtain ⟨more, rfl⟩ : ∃ more, steps = more + 1 := ⟨steps - 1, by omega⟩
      have size : part.written.length ≤ part.text.length := by
        simp only [Part.text, List.length_append]
        omega
      by_cases last : parts = []
      · subst last
        have single : List.intercalate [','] ([part].map Part.text) = part.text := by simp
        rw [single] at enough ⊢
        obtain ⟨rest, read, left⟩ := part.read firstPadded isValue firstReads more
          (']' :: after) (by omega) (endsValue_cons (.inr (.inl rfl)) _)
          (skipBlanks_cons rfl _)
        rw [readItems, read]
        simp only [bind, Except.bind, left]
        rfl
      · have split : List.intercalate [','] ((part :: parts).map Part.text) =
            part.text ++ ',' :: List.intercalate [','] (parts.map Part.text) := by
          rw [List.map_cons, intercalate_cons (by simpa using last)]
        rw [split] at enough ⊢
        simp only [List.length_append, List.length_cons] at enough
        obtain ⟨c, tail, start, _, _⟩ := isValue.cons
        have present : 0 < part.written.length := by simp [start]
        rw [List.append_assoc, List.cons_append]
        obtain ⟨rest, read, left⟩ := part.read firstPadded isValue firstReads more
          (',' :: (List.intercalate [','] (parts.map Part.text) ++ ']' :: after))
          (by omega) (endsValue_cons (.inl rfl) _) (skipBlanks_cons rfl _)
        have later := inductionHypothesis last laterPadded laterEach laterReads more (by omega)
        rw [readItems, read]
        simp only [bind, Except.bind, left, later]
        rfl

theorem Member.skipBlanks_text {member : Member} (padded : member.Padded) (after : List Char) :
    skipBlanks (member.text ++ after) =
      '"' :: (member.written ++ '"' :: (member.after ++ ':' :: (member.part.text ++ after))) := by
  rw [Member.text, List.append_assoc, skipBlanks_append padded.before]
  simp only [List.cons_append, List.append_assoc]
  exact skipBlanks_cons rfl _

/-- Reading a member of an object leaves the reader at what follows it. -/
theorem Member.read {member : Member} (padded : member.Padded)
    (name : StringText member.written member.name)
    (isValue : ValueText member.part.written member.part.value)
    (reads : ReadsAs member.part.written member.part.value) {steps : Nat}
    (before : OrderedMap String Value) {c : Char} {tail : List Char}
    (enough : 2 * member.part.written.length < steps) (between : c = ',' ∨ c = '\x7d') :
    readEntries before.entries (steps + 1) (skipBlanks (member.text ++ c :: tail)) =
      match c :: tail with
      | ',' :: rest =>
          readEntries (before.insertAll [member.entry]).entries steps (skipBlanks rest)
      | '\x7d' :: rest => .ok ((before.insertAll [member.entry]).entries, rest)
      | _ => .error .invalid := by
  have solid : skipBlanks (c :: tail) = c :: tail := by
    rcases between with rfl | rfl <;> exact skipBlanks_cons rfl _
  have ends : EndsValue (c :: tail) := endsValue_cons (between.imp_right .inr) tail
  obtain ⟨rest, read, left⟩ := member.part.read padded.part isValue reads steps _ enough ends solid
  rw [member.skipBlanks_text padded, readEntries]
  simp only [name.read, orInvalid, bind, Except.bind, skipBlanks_append padded.after,
    skipBlanks_cons (show isBlank ':' = false from rfl), read, left]
  rfl

theorem readEntries_intercalate {members : List Member} (named : members ≠ [])
    (padded : ∀ member ∈ members, member.Padded)
    (names : ∀ member ∈ members, StringText member.written member.name)
    (each : ∀ member ∈ members, ValueText member.part.written member.part.value)
    (reads : ∀ member ∈ members, ReadsAs member.part.written member.part.value) (steps : Nat)
    (before : OrderedMap String Value) (after : List Char)
    (enough : 2 * (List.intercalate [','] (members.map Member.text)).length + 1 < steps) :
    readEntries before.entries steps
        (skipBlanks (List.intercalate [','] (members.map Member.text) ++ '\x7d' :: after)) =
      .ok ((before.insertAll (members.map Member.entry)).entries, after) := by
  induction members generalizing steps before with
  | nil => exact absurd rfl named
  | cons member members inductionHypothesis =>
      obtain ⟨firstPadded, laterPadded⟩ := List.forall_mem_cons.mp padded
      obtain ⟨firstName, laterNames⟩ := List.forall_mem_cons.mp names
      obtain ⟨isValue, laterEach⟩ := List.forall_mem_cons.mp each
      obtain ⟨firstReads, laterReads⟩ := List.forall_mem_cons.mp reads
      obtain ⟨more, rfl⟩ : ∃ more, steps = more + 1 := ⟨steps - 1, by omega⟩
      have size : member.part.written.length + 1 ≤ member.text.length := by
        simp only [Member.text, Part.text, List.length_append, List.length_cons]
        omega
      by_cases last : members = []
      · subst last
        have single : List.intercalate [','] ([member].map Member.text) = member.text := by simp
        rw [single] at enough ⊢
        exact member.read firstPadded firstName isValue firstReads before (by omega) (.inr rfl)
      · have split : List.intercalate [','] ((member :: members).map Member.text) =
            member.text ++ ',' :: List.intercalate [','] (members.map Member.text) := by
          rw [List.map_cons, intercalate_cons (by simpa using last)]
        rw [split] at enough ⊢
        simp only [List.length_append, List.length_cons] at enough
        rw [List.append_assoc, List.cons_append,
          member.read firstPadded firstName isValue firstReads before (by omega) (.inl rfl)]
        exact inductionHypothesis last laterPadded laterNames laterEach laterReads _ _ (by omega)

/-- A sequence that starts with an item or a member does not start with its closing character. -/
theorem skipBlanks_intercalate_ne {texts : List (List Char)} (named : texts ≠ []) {closing : Char}
    (starts : ∀ text ∈ texts, ∀ after,
      ∃ c tail, skipBlanks (text ++ after) = c :: tail ∧ c ≠ closing)
    (after rest : List Char) :
    skipBlanks (List.intercalate [','] texts ++ after) ≠ closing :: rest := by
  obtain ⟨first, others, rfl⟩ := List.exists_cons_of_ne_nil named
  have layout : ∃ behind, List.intercalate [','] (first :: others) ++ after = first ++ behind := by
    cases others with
    | nil => exact ⟨after, by simp⟩
    | cons second others =>
        rw [intercalate_cons (by simp), List.append_assoc]
        exact ⟨_, rfl⟩
  obtain ⟨behind, layout⟩ := layout
  obtain ⟨c, tail, start, differs⟩ := starts first List.mem_cons_self behind
  rw [layout, start]
  exact fun same => differs (List.cons.inj same).1

theorem ScalarText.reads {written : List Char} {value : Value} (scalar : ScalarText written value) :
    ReadsAs written value := by
  intro steps after enough ends
  obtain ⟨more, rfl⟩ : ∃ more, steps = more + 1 := ⟨steps - 1, by omega⟩
  have read := scalar.read ends.endsNumber
  cases scalar with
  | word word => cases word <;> rfl
  | positive number =>
      obtain ⟨c, tail, rfl, digit⟩ := number.cons
      rw [List.cons_append, readScalar_digit digit] at read
      exact (readValue_digit digit _ _).trans read
  | negative number =>
      exact (readValue_scalar (by decide) (by decide) (by decide) _ _).trans read

/-- The text of a value reads as the value. -/
theorem ValueText.reads {written : List Char} {value : Value} (isValue : ValueText written value) :
    ReadsAs written value := by
  induction isValue with
  | scalar scalar => exact scalar.reads
  | text strings =>
      intro steps after enough ends
      obtain ⟨more, rfl⟩ : ∃ more, steps = more + 1 := ⟨steps - 1, by omega⟩
      simp [readValue, strings.read, orInvalid, Except.map]
  | emptyList blank =>
      intro steps after enough ends
      obtain ⟨more, rfl⟩ : ∃ more, steps = more + 1 := ⟨steps - 1, by omega⟩
      simp [readValue, skipBlanks_append blank, skipBlanks_cons (show isBlank ']' = false from rfl)]
  | @list parts named padded each inductionHypothesis =>
      intro steps after enough ends
      obtain ⟨more, rfl⟩ : ∃ more, steps = more + 1 := ⟨steps - 1, by omega⟩
      simp only [List.length_cons, List.length_append, List.length_nil] at enough
      have items :=
        readItems_intercalate named padded each inductionHypothesis more after (by omega)
      have starts : ∀ text ∈ parts.map Part.text, ∀ behind,
          ∃ c tail, skipBlanks (text ++ behind) = c :: tail ∧ c ≠ ']' := by
        intro text member behind
        obtain ⟨part, inside, rfl⟩ := List.mem_map.mp member
        exact part.cons (padded part inside) (each part inside) behind
      have noEnd := skipBlanks_intercalate_ne (by simpa using named) starts (']' :: after)
      simp only [List.cons_append, List.append_assoc, List.nil_append]
      rw [readValue]
      split
      · rename_i same
        exact absurd same (noEnd _)
      · rw [items]
        rfl
  | emptyObject blank =>
      intro steps after enough ends
      obtain ⟨more, rfl⟩ : ∃ more, steps = more + 1 := ⟨steps - 1, by omega⟩
      simp [readValue, skipBlanks_append blank,
        skipBlanks_cons (show isBlank '\x7d' = false from rfl)]
  | @object members named padded names each inductionHypothesis =>
      intro steps after enough ends
      obtain ⟨more, rfl⟩ : ∃ more, steps = more + 1 := ⟨steps - 1, by omega⟩
      simp only [List.length_cons, List.length_append, List.length_nil] at enough
      have entries := readEntries_intercalate named padded names each inductionHypothesis more
        .empty after (by omega)
      have starts : ∀ text ∈ members.map Member.text, ∀ behind,
          ∃ c tail, skipBlanks (text ++ behind) = c :: tail ∧ c ≠ '\x7d' := by
        intro text listed behind
        obtain ⟨member, inside, rfl⟩ := List.mem_map.mp listed
        exact ⟨'"', _, member.skipBlanks_text (padded member inside) behind, by decide⟩
      have noEnd := skipBlanks_intercalate_ne (by simpa using named) starts ('\x7d' :: after)
      simp only [List.cons_append, List.append_assoc, List.nil_append]
      rw [readValue]
      split
      · rename_i same
        exact absurd same (noEnd _)
      · have none : ([] : List (String × Value)) =
            (OrderedMap.empty : OrderedMap String Value).entries := rfl
        rw [none, entries]
        rfl

end Complete

/-- A text is read as a value exactly if it is a document of that value. -/
theorem read_eq_ok_iff {text : String} {value : Value} :
    read text = .ok value ↔ Document text.toList value := by
  simp only [read, bind_eq_ok_iff]
  constructor
  · rintro ⟨⟨found, rest⟩, first, whole⟩
    simp only at whole
    split at whole
    · rename_i nothing
      obtain rfl := Except.ok.inj whole
      obtain ⟨before, beforeBlank, start⟩ := exists_blanks text.toList
      obtain ⟨written, split, isValue⟩ := (takes _).1 _ _ _ first
      obtain ⟨after, afterBlank, ending⟩ := exists_blanks rest
      refine ⟨⟨before, written, after, found⟩, ⟨beforeBlank, afterBlank⟩, isValue, ?_,
        rfl⟩
      rw [start, split, ending, nothing]
      simp [Part.text]
    · cases whole
  · rintro ⟨part, padded, isValue, layout, rfl⟩
    have size : part.written.length ≤ text.length := by
      rw [← String.length_toList, ← layout]
      simp only [Part.text, List.length_append]
      omega
    have ends : EndsValue [] := fun _ _ same => nomatch same
    obtain ⟨rest, first, left⟩ := part.read padded isValue isValue.reads (2 * text.length + 2) []
      (by omega) ends rfl
    rw [List.append_nil, layout] at first
    exact ⟨_, first, if_pos left⟩

end ShellPrompt.Json
