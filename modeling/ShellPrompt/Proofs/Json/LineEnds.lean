import ShellPrompt.Proofs.Json.Values
import ShellPrompt.Proofs.Text.Newlines

/-!
Line ends of JSON documents. No string holds a line end, so all of them are blanks, and a document
stays one of the same value whichever line ends it is written with.
-/

namespace ShellPrompt.Json

open ShellPrompt.Text

/-- Texts that are the same but for the characters that end their lines. -/
def Alike (text other : List Char) : Prop := unifyNewlines text = unifyNewlines other

/-- A text without line ends. -/
def OneLine (text : List Char) : Prop := '\n' ∉ text ∧ '\r' ∉ text

section Alike
variable {text other first second : List Char} {c : Char}

theorem OneLine.eq_of_alike (plain : OneLine text) (alike : Alike text other) : other = text := by
  have same : unifyNewlines other = text := alike.symm.trans (unifyNewlines_eq_self plain.2)
  refine (eq_unifyNewlines_of_plain ?_).trans same
  rw [same]
  exact plain.1

theorem Alike.append (alike : Alike (first ++ second) other) (apart : Apart first second) :
    ∃ before after, other = before ++ after ∧ Alike first before ∧ Alike second after := by
  rw [Alike, unifyNewlines_append apart] at alike
  obtain ⟨before, after, layout, same, rest⟩ := exists_append_of_unifyNewlines alike.symm
  exact ⟨before, after, layout, same.symm, rest.symm⟩

theorem Alike.cons (alike : Alike (c :: text) other) (solid : isBlank c = false) :
    ∃ after, other = c :: after ∧ Alike text after := by
  have plain : OneLine [c] := by
    constructor <;>
    · rintro member
      obtain rfl := List.mem_singleton.mp member
      cases solid
  have parts : Alike ([c] ++ text) other := alike
  obtain ⟨before, after, rfl, same, rest⟩ := parts.append fun last =>
    absurd (List.mem_of_getLast? last) plain.2
  rw [plain.eq_of_alike same]
  exact ⟨after, rfl, rest⟩

/-- A character that is no blank stands where it stood. -/
theorem Alike.between (alike : Alike (first ++ c :: second) other) (solid : isBlank c = false) :
    ∃ before after, other = before ++ c :: after ∧ Alike first before ∧ Alike second after := by
  have apart : Apart first (c :: second) := by
    rintro _ ⟨⟩
    cases solid
  obtain ⟨before, rest, rfl, same, later⟩ := alike.append apart
  obtain ⟨after, rfl, last⟩ := later.cons solid
  exact ⟨before, after, rfl, same, last⟩

theorem Alike.around {opening closing : Char}
    (alike : Alike (opening :: (text ++ [closing])) other) (solid : isBlank opening = false)
    (noBlank : isBlank closing = false) :
    ∃ inside, other = opening :: (inside ++ [closing]) ∧ Alike text inside := by
  obtain ⟨rest, rfl, later⟩ := alike.cons solid
  obtain ⟨inside, after, rfl, same, nothing⟩ := later.between noBlank
  have plain : OneLine [] := ⟨by simp, by simp⟩
  rw [plain.eq_of_alike nothing]
  exact ⟨inside, rfl, same⟩

theorem all_isBlank_unifyNewlines (text : List Char) :
    (unifyNewlines text).all isBlank = text.all isBlank := by
  fun_induction unifyNewlines text with
  | case1 rest inductionHypothesis =>
      rw [List.all_cons, inductionHypothesis]
      rfl
  | case2 rest _ inductionHypothesis =>
      rw [List.all_cons, inductionHypothesis]
      rfl
  | case3 c rest _ _ inductionHypothesis => rw [List.all_cons, List.all_cons, inductionHypothesis]
  | case4 => rfl

theorem Alike.blanks (alike : Alike text other) (blank : text.all isBlank = true) :
    other.all isBlank = true := by
  rw [← all_isBlank_unifyNewlines, ← alike, all_isBlank_unifyNewlines, blank]

end Alike

section OneLine
variable {text other written after : List Char} {value : Value} {c : Char}

theorem OneLine.append (first : OneLine text) (second : OneLine other) : OneLine (text ++ other) :=
  ⟨by simp [first.1, second.1], by simp [first.2, second.2]⟩

theorem OneLine.cons (feed : c ≠ '\n') (back : c ≠ '\r') (plain : OneLine text) :
    OneLine (c :: text) :=
  ⟨by simp [feed.symm, plain.1], by simp [back.symm, plain.2]⟩

theorem oneLine_of_all {allowed : Char → Bool} (all : text.all allowed = true)
    (feed : allowed '\n' = false) (back : allowed '\r' = false) : OneLine text := by
  rw [List.all_eq_true] at all
  exact ⟨fun member => by simp [all _ member] at feed, fun member => by simp [all _ member] at back⟩

theorem hexValue?_isSome {digits : List Char} {start number : Nat}
    (read : digits.foldlM (fun total c => (hexValue? c).map (16 * total + ·)) start = some number) :
    digits.all (fun c => (hexValue? c).isSome) = true := by
  induction digits generalizing start with
  | nil => rfl
  | cons c digits inductionHypothesis =>
      rw [List.foldlM_cons] at read
      obtain ⟨next, first, rest⟩ := Option.bind_eq_some_iff.mp read
      obtain ⟨digit, found, _⟩ := Option.map_eq_some_iff.mp first
      rw [List.all_cons, inductionHypothesis rest, found]
      rfl

theorem oneLine_of_readHex? {digits : List Char} {number : Nat}
    (read : readHex? digits = some number) : OneLine digits :=
  oneLine_of_all (hexValue?_isSome read) (by decide) (by decide)

theorem EscapeText.oneLine {mark : List Char} (escape : EscapeText mark c after) :
    OneLine mark := by
  cases escape with
  | short stands =>
      refine OneLine.cons ?_ ?_ ⟨by simp, by simp⟩ <;>
      · rintro rfl
        cases stands
  | alone digits _ => exact (oneLine_of_readHex? digits).cons (by decide) (by decide)
  | pair first _ second _ =>
      have later := ((oneLine_of_readHex? second).cons (c := 'u') (by decide) (by decide)).cons
        (c := '\\') (by decide) (by decide)
      exact ((oneLine_of_readHex? first).append later).cons (by decide) (by decide)

theorem StringText.oneLine (strings : StringText written text) : OneLine written := by
  induction strings with
  | nil => exact ⟨by simp, by simp⟩
  | plain solid _ _ _ inductionHypothesis =>
      refine inductionHypothesis.cons ?_ ?_ <;>
      · rintro rfl
        exact solid (by decide)
  | escape escape _ inductionHypothesis =>
      exact (escape.oneLine.append inductionHypothesis).cons (by decide) (by decide)

theorem Digits.oneLine {digits : List Char} (all : Digits digits) : OneLine digits :=
  oneLine_of_all all.2 (by decide) (by decide)

theorem UnsignedText.oneLine {negative : Bool} (number : UnsignedText negative written value) :
    OneLine written := by
  have none : OneLine [] := ⟨by simp, by simp⟩
  cases number with
  | integer isWhole => exact isWhole.all.oneLine
  | decimal isWhole isFraction isPower _ =>
      refine isWhole.all.oneLine.append (OneLine.append ?_ ?_)
      · cases isFraction with
        | none => exact none
        | point all => exact all.oneLine.cons (by decide) (by decide)
      · cases isPower with
        | none => exact none
        | marked isMark signed all =>
            refine OneLine.cons ?_ ?_ (OneLine.append ?_ all.oneLine)
            · rcases isMark with rfl | rfl <;> decide
            · rcases isMark with rfl | rfl <;> decide
            · cases signed with
              | none => exact none
              | plus => exact none.cons (by decide) (by decide)
              | minus => exact none.cons (by decide) (by decide)

theorem ScalarText.oneLine (scalar : ScalarText written value) : OneLine written := by
  cases scalar with
  | word word => cases word <;> exact ⟨by decide, by decide⟩
  | positive number => exact number.oneLine
  | negative number => exact number.oneLine.cons (by decide) (by decide)

/-- The last character of a value does not start a line end. -/
theorem ValueText.apart (isValue : ValueText written value) (after : List Char) :
    Apart written after := by
  intro last
  cases isValue with
  | scalar scalar => exact absurd (List.mem_of_getLast? last) scalar.oneLine.2
  | text _ => simp [List.getLast?_cons] at last
  | emptyList _ => simp [List.getLast?_cons] at last
  | list _ _ _ => simp [List.getLast?_cons] at last
  | emptyObject _ => simp [List.getLast?_cons] at last
  | object _ _ _ _ => simp [List.getLast?_cons] at last

end OneLine

section Documents

/-- What is written is a value with any line ends. -/
def Stays (written : List Char) (value : Value) : Prop :=
  ∀ other, Alike written other → ValueText other value

theorem Part.alike {part : Part} (padded : part.Padded)
    (isValue : ValueText part.written part.value) (stays : Stays part.written part.value)
    {other : List Char} (alike : Alike part.text other) :
    ∃ same : Part, same.Padded ∧ ValueText same.written same.value ∧ same.text = other ∧
      same.value = part.value := by
  obtain ⟨c, tail, start, solid, _⟩ := isValue.cons
  have noFeed : (part.written ++ part.after).head? ≠ some '\n' := by
    rw [start]
    rintro ⟨⟩
    cases solid
  rw [Part.text, List.append_assoc] at alike
  obtain ⟨before, rest, rfl, first, alike⟩ := alike.append fun _ => noFeed
  obtain ⟨written, after, rfl, second, third⟩ := alike.append (isValue.apart _)
  refine ⟨⟨before, written, after, part.value⟩, ⟨first.blanks padded.before,
    third.blanks padded.after⟩, stays _ second, ?_, rfl⟩
  simp [Part.text]

theorem Member.alike {member : Member} (padded : member.Padded)
    (name : StringText member.written member.name)
    (isValue : ValueText member.part.written member.part.value)
    (stays : Stays member.part.written member.part.value) {other : List Char}
    (alike : Alike member.text other) :
    ∃ same : Member, same.Padded ∧ StringText same.written same.name ∧
      ValueText same.part.written same.part.value ∧ same.text = other ∧
      same.entry = member.entry := by
  obtain ⟨before, _, rfl, first, later⟩ := Alike.between alike rfl
  obtain ⟨written, _, rfl, second, last⟩ := later.between rfl
  obtain ⟨after, _, rfl, third, value⟩ := last.between rfl
  obtain rfl := name.oneLine.eq_of_alike second
  obtain ⟨part, partPadded, partValue, rfl, same⟩ := Part.alike padded.part isValue stays value
  refine ⟨⟨before, member.written, after, member.name, part⟩, ⟨first.blanks padded.before,
    third.blanks padded.after, partPadded⟩, name, partValue, rfl, ?_⟩
  rw [Member.entry, Member.entry, same]

theorem ItemsText.alike {parts : List Part} (named : parts ≠ [])
    (padded : ∀ part ∈ parts, part.Padded)
    (each : ∀ part ∈ parts, ValueText part.written part.value)
    (stays : ∀ part ∈ parts, Stays part.written part.value) {other : List Char}
    (alike : Alike (List.intercalate [','] (parts.map Part.text)) other) :
    ItemsText other (parts.map Part.value) := by
  induction parts generalizing other with
  | nil => exact absurd rfl named
  | cons part parts inductionHypothesis =>
      obtain ⟨firstPadded, laterPadded⟩ := List.forall_mem_cons.mp padded
      obtain ⟨isValue, laterEach⟩ := List.forall_mem_cons.mp each
      obtain ⟨firstStays, laterStays⟩ := List.forall_mem_cons.mp stays
      by_cases last : parts = []
      · subst last
        rw [List.map_singleton, List.intercalate_singleton] at alike
        obtain ⟨same, samePadded, sameValue, rfl, value⟩ := part.alike firstPadded isValue
          firstStays alike
        rw [List.map_singleton, ← value]
        exact itemsText_single samePadded sameValue
      · rw [List.map_cons, intercalate_cons (by simpa using last)] at alike
        obtain ⟨_, _, rfl, first, later⟩ := alike.between rfl
        obtain ⟨same, samePadded, sameValue, rfl, value⟩ := part.alike firstPadded isValue
          firstStays first
        rw [List.map_cons, ← value]
        exact (inductionHypothesis last laterPadded laterEach laterStays later).cons samePadded
          sameValue

theorem EntriesText.alike {members : List Member} (named : members ≠ [])
    (padded : ∀ member ∈ members, member.Padded)
    (names : ∀ member ∈ members, StringText member.written member.name)
    (each : ∀ member ∈ members, ValueText member.part.written member.part.value)
    (stays : ∀ member ∈ members, Stays member.part.written member.part.value) {other : List Char}
    (alike : Alike (List.intercalate [','] (members.map Member.text)) other) :
    EntriesText other (members.map Member.entry) := by
  induction members generalizing other with
  | nil => exact absurd rfl named
  | cons member members inductionHypothesis =>
      obtain ⟨firstPadded, laterPadded⟩ := List.forall_mem_cons.mp padded
      obtain ⟨firstName, laterNames⟩ := List.forall_mem_cons.mp names
      obtain ⟨isValue, laterEach⟩ := List.forall_mem_cons.mp each
      obtain ⟨firstStays, laterStays⟩ := List.forall_mem_cons.mp stays
      by_cases last : members = []
      · subst last
        rw [List.map_singleton, List.intercalate_singleton] at alike
        obtain ⟨same, samePadded, sameName, sameValue, rfl, entry⟩ := member.alike firstPadded
          firstName isValue firstStays alike
        rw [List.map_singleton, ← entry]
        exact entriesText_single samePadded sameName sameValue
      · rw [List.map_cons, intercalate_cons (by simpa using last)] at alike
        obtain ⟨_, _, rfl, first, later⟩ := alike.between rfl
        obtain ⟨same, samePadded, sameName, sameValue, rfl, entry⟩ := member.alike firstPadded
          firstName isValue firstStays first
        rw [List.map_cons, ← entry]
        exact (inductionHypothesis last laterPadded laterNames laterEach laterStays later).cons
          samePadded sameName sameValue

theorem ValueText.stays {written : List Char} {value : Value} (isValue : ValueText written value) :
    Stays written value := by
  induction isValue with
  | scalar scalar =>
      intro other alike
      rw [scalar.oneLine.eq_of_alike alike]
      exact .scalar scalar
  | text strings =>
      intro other alike
      obtain ⟨_, rfl, inside⟩ := alike.around rfl rfl
      rw [strings.oneLine.eq_of_alike inside]
      exact .text strings
  | emptyList blank =>
      intro other alike
      obtain ⟨_, rfl, inside⟩ := alike.around rfl rfl
      exact .emptyList (inside.blanks blank)
  | list named padded each inductionHypothesis =>
      intro other alike
      obtain ⟨_, rfl, inside⟩ := alike.around rfl rfl
      exact (ItemsText.alike named padded each inductionHypothesis inside).valueText
  | emptyObject blank =>
      intro other alike
      obtain ⟨_, rfl, inside⟩ := alike.around rfl rfl
      exact .emptyObject (inside.blanks blank)
  | object named padded names each inductionHypothesis =>
      intro other alike
      obtain ⟨_, rfl, inside⟩ := alike.around rfl rfl
      exact (EntriesText.alike named padded names each inductionHypothesis inside).valueText

theorem Document.alike {text other : List Char} {value : Value} (document : Document text value)
    (alike : Alike text other) : Document other value := by
  obtain ⟨part, padded, isValue, rfl, rfl⟩ := document
  obtain ⟨same, samePadded, sameValue, layout, value⟩ := part.alike padded isValue isValue.stays
    alike
  exact ⟨same, samePadded, sameValue, layout, value⟩

theorem document_unifyNewlines_iff {text : List Char} {value : Value} :
    Document (unifyNewlines text) value ↔ Document text value := by
  have alike : Alike (unifyNewlines text) text :=
    unifyNewlines_eq_self (return_notMem_unifyNewlines text)
  exact ⟨fun document => document.alike alike, fun document => document.alike alike.symm⟩

end Documents

end ShellPrompt.Json
