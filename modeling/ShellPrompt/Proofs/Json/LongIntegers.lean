import ShellPrompt.Proofs.Json.Files

/-!
Integers of too many digits in JSON texts. Reading stops at such an integer if all that stands in
front of it is JSON; what stands behind it is never looked at.
-/

namespace ShellPrompt.Json

open ShellPrompt.Text

/-- What is read next: a value, or what is left of the items of a list or of the members of an
object. -/
inductive Place where
  | value
  | items
  | members

/-- Read from its front, a text comes to an integer of too many digits. -/
inductive ComesToLong : Place → List Char → Prop
  | positive {digits after : List Char} (long : LongText digits after) :
      ComesToLong .value (digits ++ after)
  | negative {digits after : List Char} (long : LongText digits after) :
      ComesToLong .value ('-' :: (digits ++ after))
  | list {text : List Char} (inside : ComesToLong .items text) : ComesToLong .value ('[' :: text)
  | object {text : List Char} (inside : ComesToLong .members text) :
      ComesToLong .value ('\x7b' :: text)
  | item {before text : List Char} (blank : before.all isBlank = true)
      (stops : ComesToLong .value text) : ComesToLong .items (before ++ text)
  | nextItem {part : Part} {text : List Char} (padded : part.Padded)
      (isValue : ValueText part.written part.value) (later : ComesToLong .items text) :
      ComesToLong .items (part.text ++ ',' :: text)
  | member {before written after between name text : List Char}
      (beforeBlank : before.all isBlank = true) (isName : StringText written name)
      (afterBlank : after.all isBlank = true) (betweenBlank : between.all isBlank = true)
      (stops : ComesToLong .value text) :
      ComesToLong .members
        (before ++ '"' :: (written ++ '"' :: (after ++ ':' :: (between ++ text))))
  | nextMember {member : Member} {text : List Char} (padded : member.Padded)
      (isName : StringText member.written member.name)
      (isValue : ValueText member.part.written member.part.value)
      (later : ComesToLong .members text) : ComesToLong .members (member.text ++ ',' :: text)

/-- A document comes to an integer of too many digits; there may be blanks in front of it. -/
def LongDocument (text : List Char) : Prop := ComesToLong .value (skipBlanks text)

/-- A path holds a text that comes to an integer of too many digits. -/
def LongAt (host : Host) (path : Path) : Prop :=
  ∃ text, host.readText path = .ok text ∧ LongDocument text.toList

theorem orInvalid_ne_long {α : Type} {found : Option α} {fault : LongInteger} :
    orInvalid found ≠ .error (.long fault) := by
  cases found <;> simp [orInvalid]

section Sound

def StopsValues (steps : Nat) : Prop :=
  ∀ text fault, readValue steps text = .error (.long fault) → ComesToLong .value text

/-- The blanks in front of the first item have been skipped before. -/
def StopsItems (steps : Nat) : Prop :=
  ∀ text fault, readItems steps text = .error (.long fault) →
    ∀ blanks, blanks.all isBlank = true → ComesToLong .items (blanks ++ text)

def StopsEntries (steps : Nat) : Prop :=
  ∀ before text fault, readEntries before steps text = .error (.long fault) →
    ∀ blanks, blanks.all isBlank = true → ComesToLong .members (blanks ++ text)

variable {steps : Nat}

theorem comesToLong_of_readScalar {text : List Char} {fault : LongInteger}
    (read : readScalar text = .error (.long fault)) : ComesToLong .value text := by
  unfold readScalar at read
  split at read
  iterate 6 cases read
  · obtain ⟨digits, after, rfl, long⟩ := readUnsigned_eq_long_iff.mp read
    exact .negative long
  · obtain ⟨digits, after, rfl, long⟩ := readUnsigned_eq_long_iff.mp read
    exact .positive long

theorem stopsItems_succ (values : StopsValues steps) (items : StopsItems steps) :
    StopsItems (steps + 1) := by
  intro text fault read blanks blank
  rw [readItems] at read
  rcases bind_eq_error_iff.mp read with first | ⟨⟨value, rest⟩, first, more⟩
  · exact .item blank (values _ _ first)
  · obtain ⟨written, rfl, isValue⟩ := (takes steps).1 _ _ _ first
    obtain ⟨behind, behindBlank, layout⟩ := exists_blanks rest
    simp only at more
    split at more
    · rename_i source found
      rcases bind_eq_error_iff.mp more with later | ⟨_, _, same⟩
      · obtain ⟨between, betweenBlank, gap⟩ := exists_blanks source
        have later := items _ _ later between betweenBlank
        rw [← gap] at later
        let part : Part := ⟨blanks, written, behind, value⟩
        have padded : part.Padded := ⟨blank, behindBlank⟩
        have stops := ComesToLong.nextItem padded isValue later
        rw [layout, found]
        simpa [part, Part.text] using stops
      · cases same
    · cases more
    · cases more

theorem stopsEntries_succ (values : StopsValues steps) (entries : StopsEntries steps) :
    StopsEntries (steps + 1) := by
  intro before text fault read blanks blank
  rw [readEntries.eq_def] at read
  simp only at read
  split at read
  · rename_i source
    rcases bind_eq_error_iff.mp read with first | ⟨⟨name, rest⟩, first, more⟩
    · exact absurd first orInvalid_ne_long
    · obtain ⟨written, rfl, isName⟩ := stringText_of_readString (orInvalid_eq_ok_iff.mp first)
      obtain ⟨behind, behindBlank, layout⟩ := exists_blanks rest
      simp only at more
      split at more
      · rename_i source found
        obtain ⟨front, frontBlank, gap⟩ := exists_blanks source
        rcases bind_eq_error_iff.mp more with second | ⟨⟨value, last⟩, second, more⟩
        · have stops := ComesToLong.member blank isName behindBlank frontBlank
            (values _ _ second)
          rw [layout, found]
          rwa [← gap] at stops
        · obtain ⟨inner, split, isValue⟩ := (takes steps).1 _ _ _ second
          obtain ⟨back, backBlank, margin⟩ := exists_blanks last
          simp only at more
          split at more
          · rename_i source next
            obtain ⟨between, betweenBlank, space⟩ := exists_blanks source
            have later := entries _ _ _ more between betweenBlank
            rw [← space] at later
            let member : Member := ⟨blanks, written, behind, name, ⟨front, inner, back, value⟩⟩
            have padded : member.Padded := ⟨blank, behindBlank, frontBlank, backBlank⟩
            have stops := ComesToLong.nextMember padded isName isValue later
            rw [layout, found, gap, split, margin, next]
            simpa [member, Member.text, Part.text] using stops
          · cases more
          · cases more
      · cases more
  · cases read

theorem stopsValues_succ (items : StopsItems steps) (entries : StopsEntries steps) :
    StopsValues (steps + 1) := by
  intro text fault read
  rw [readValue.eq_def] at read
  simp only at read
  split at read
  · exact absurd (map_eq_error_iff.mp read) orInvalid_ne_long
  · rename_i source
    obtain ⟨blanks, blank, layout⟩ := exists_blanks source
    split at read
    · cases read
    · have inside := items _ _ (map_eq_error_iff.mp read) blanks blank
      rw [← layout] at inside
      exact .list inside
  · rename_i source
    obtain ⟨blanks, blank, layout⟩ := exists_blanks source
    split at read
    · cases read
    · have inside := entries _ _ _ (map_eq_error_iff.mp read) blanks blank
      rw [← layout] at inside
      exact .object inside
  · exact comesToLong_of_readScalar read

theorem stops (steps : Nat) : StopsValues steps ∧ StopsItems steps ∧ StopsEntries steps := by
  induction steps with
  | zero =>
      refine ⟨?_, ?_, ?_⟩
      · intro text fault read
        cases read
      · intro text fault read
        cases read
      · intro before text fault read
        cases read
  | succ steps inductionHypothesis =>
      obtain ⟨values, items, entries⟩ := inductionHypothesis
      exact ⟨stopsValues_succ items entries, stopsItems_succ values items,
        stopsEntries_succ values entries⟩

end Sound

section Complete

theorem readUnsigned_long {digits after : List Char} (long : LongText digits after)
    (negative : Bool) : readUnsigned negative (digits ++ after) = .error (.long {}) :=
  readUnsigned_eq_long_iff.mpr ⟨digits, after, rfl, long⟩

/-- Blanks in front of such a value are skipped, and it closes no list. -/
theorem ComesToLong.skipBlanks_value {text : List Char} (reaches : ComesToLong .value text) :
    skipBlanks text = text ∧ ∀ rest, text ≠ ']' :: rest := by
  cases reaches with
  | positive long =>
      obtain ⟨c, tail, rfl, digit⟩ := long.isWhole.all.cons
      refine ⟨skipBlanks_cons (isBlank_of_isDigit digit) _, ?_⟩
      rintro rest same
      obtain rfl := (List.cons.inj same).1
      cases digit
  | negative long => exact ⟨skipBlanks_cons rfl _, fun rest same => nomatch same⟩
  | list inside => exact ⟨skipBlanks_cons rfl _, fun rest same => nomatch same⟩
  | object inside => exact ⟨skipBlanks_cons rfl _, fun rest same => nomatch same⟩

theorem ComesToLong.skipBlanks_items_ne {text : List Char} (reaches : ComesToLong .items text)
    (rest : List Char) : skipBlanks text ≠ ']' :: rest := by
  cases reaches with
  | item blank stops =>
      obtain ⟨solid, opens⟩ := stops.skipBlanks_value
      rw [skipBlanks_append blank, solid]
      exact opens rest
  | nextItem padded isValue later =>
      obtain ⟨c, tail, start, differs⟩ := Part.cons padded isValue (',' :: _)
      rw [start]
      exact fun same => differs (List.cons.inj same).1

/-- Behind the blanks there is the quote in front of a name. -/
theorem ComesToLong.skipBlanks_members {text : List Char} (reaches : ComesToLong .members text) :
    ∃ rest, skipBlanks text = '"' :: rest := by
  cases reaches with
  | member beforeBlank isName afterBlank betweenBlank stops =>
      rw [skipBlanks_append beforeBlank, skipBlanks_cons rfl]
      exact ⟨_, rfl⟩
  | nextMember padded isName isValue later => exact ⟨_, Member.skipBlanks_text padded _⟩

/-- With enough steps, reading stops at the integer. -/
def Stops : Place → List Char → Prop
  | .value, text => ∀ steps, 2 * text.length < steps → readValue steps text = .error (.long {})
  | .items, text => ∀ steps, 2 * text.length + 1 < steps →
      readItems steps (skipBlanks text) = .error (.long {})
  | .members, text => ∀ (before : OrderedMap String Value) steps, 2 * text.length + 1 < steps →
      readEntries before.entries steps (skipBlanks text) = .error (.long {})

variable {text : List Char}

theorem Stops.list (opens : ∀ rest, skipBlanks text ≠ ']' :: rest) (inside : Stops .items text) :
    Stops .value ('[' :: text) := by
  intro steps enough
  obtain ⟨more, rfl⟩ := Nat.exists_eq_add_one_of_ne_zero (Nat.ne_zero_of_lt enough)
  rw [List.length_cons] at enough
  rw [readValue]
  split
  · rename_i same
    exact absurd same (opens _)
  · rw [inside more (by omega)]
    rfl

theorem Stops.object (opens : ∃ rest, skipBlanks text = '"' :: rest)
    (inside : Stops .members text) : Stops .value ('\x7b' :: text) := by
  intro steps enough
  obtain ⟨more, rfl⟩ := Nat.exists_eq_add_one_of_ne_zero (Nat.ne_zero_of_lt enough)
  rw [List.length_cons] at enough
  rw [readValue]
  split
  · rename_i same
    obtain ⟨rest, start⟩ := opens
    rw [start] at same
    cases same
  · have nothing : ([] : List (String × Value)) =
        (OrderedMap.empty : OrderedMap String Value).entries := rfl
    rw [nothing, inside .empty more (by omega)]
    rfl

theorem Stops.item {before : List Char} (blank : before.all isBlank = true)
    (solid : skipBlanks text = text) (stops : Stops .value text) :
    Stops .items (before ++ text) := by
  intro steps enough
  obtain ⟨more, rfl⟩ := Nat.exists_eq_add_one_of_ne_zero (Nat.ne_zero_of_lt enough)
  rw [List.length_append] at enough
  rw [skipBlanks_append blank, solid, readItems, stops more (by omega)]
  rfl

theorem Stops.nextItem {part : Part} (padded : part.Padded)
    (isValue : ValueText part.written part.value) (later : Stops .items text) :
    Stops .items (part.text ++ ',' :: text) := by
  intro steps enough
  obtain ⟨more, rfl⟩ := Nat.exists_eq_add_one_of_ne_zero (Nat.ne_zero_of_lt enough)
  have size : part.written.length ≤ part.text.length := by
    simp only [Part.text, List.length_append]
    omega
  rw [List.length_append, List.length_cons] at enough
  obtain ⟨rest, read, left⟩ := part.read padded isValue isValue.reads more (',' :: text)
    (by omega) (endsValue_cons (.inl rfl) _) (skipBlanks_cons rfl _)
  rw [readItems, read]
  simp only [bind, Except.bind, left, later more (by omega)]

theorem Stops.member {before written after between : List Char} {name : List Char}
    (beforeBlank : before.all isBlank = true) (isName : StringText written name)
    (afterBlank : after.all isBlank = true) (betweenBlank : between.all isBlank = true)
    (solid : skipBlanks text = text) (stops : Stops .value text) :
    Stops .members
      (before ++ '"' :: (written ++ '"' :: (after ++ ':' :: (between ++ text)))) := by
  intro entries steps enough
  obtain ⟨more, rfl⟩ := Nat.exists_eq_add_one_of_ne_zero (Nat.ne_zero_of_lt enough)
  simp only [List.length_append, List.length_cons] at enough
  rw [skipBlanks_append beforeBlank, skipBlanks_cons rfl, readEntries]
  simp only [isName.read, orInvalid, bind, Except.bind, skipBlanks_append afterBlank,
    skipBlanks_cons (show isBlank ':' = false from rfl), skipBlanks_append betweenBlank, solid,
    stops more (by omega)]

theorem Stops.nextMember {member : Member} (padded : member.Padded)
    (isName : StringText member.written member.name)
    (isValue : ValueText member.part.written member.part.value) (later : Stops .members text) :
    Stops .members (member.text ++ ',' :: text) := by
  intro entries steps enough
  obtain ⟨more, rfl⟩ := Nat.exists_eq_add_one_of_ne_zero (Nat.ne_zero_of_lt enough)
  have size : member.part.written.length ≤ member.text.length := by
    simp only [Member.text, Part.text, List.length_append, List.length_cons]
    omega
  rw [List.length_append, List.length_cons] at enough
  rw [member.read padded isName isValue isValue.reads entries (by omega) (.inl rfl)]
  exact later _ more (by omega)

theorem ComesToLong.stops {place : Place} (reaches : ComesToLong place text) :
    Stops place text := by
  induction reaches with
  | positive long =>
      intro steps enough
      obtain ⟨more, rfl⟩ := Nat.exists_eq_add_one_of_ne_zero (Nat.ne_zero_of_lt enough)
      have read := readUnsigned_long long false
      obtain ⟨c, tail, rfl, digit⟩ := long.isWhole.all.cons
      exact (readValue_digit digit _ _).trans read
  | negative long =>
      intro steps enough
      obtain ⟨more, rfl⟩ := Nat.exists_eq_add_one_of_ne_zero (Nat.ne_zero_of_lt enough)
      have read := readUnsigned_long long true
      obtain ⟨c, tail, rfl, digit⟩ := long.isWhole.all.cons
      rw [readValue_scalar (by decide) (by decide) (by decide)]
      exact (readScalar_minus_digit digit _).trans read
  | list inside inductionHypothesis => exact .list inside.skipBlanks_items_ne inductionHypothesis
  | object inside inductionHypothesis => exact .object inside.skipBlanks_members inductionHypothesis
  | item blank stops inductionHypothesis =>
      exact .item blank stops.skipBlanks_value.1 inductionHypothesis
  | nextItem padded isValue _ inductionHypothesis =>
      exact .nextItem padded isValue inductionHypothesis
  | member beforeBlank isName afterBlank betweenBlank stops inductionHypothesis =>
      exact .member beforeBlank isName afterBlank betweenBlank stops.skipBlanks_value.1
        inductionHypothesis
  | nextMember padded isName isValue _ inductionHypothesis =>
      exact .nextMember padded isName isValue inductionHypothesis

end Complete

/-- A text is refused for the length of an integer exactly if reading it comes to one that is too
long. -/
theorem read_eq_long_iff {text : String} {fault : LongInteger} :
    read text = .error (.long fault) ↔ LongDocument text.toList := by
  constructor
  · intro failed
    rcases bind_eq_error_iff.mp failed with first | ⟨⟨value, rest⟩, _, more⟩
    · exact (stops _).1 _ _ first
    · simp only at more
      split at more <;> cases more
  · intro long
    have shorter : (skipBlanks text.toList).length ≤ text.length := by
      rw [← String.length_toList]
      exact (List.dropWhile_sublist _).length_le
    rw [read, (long.stops : Stops .value _) _ (by omega)]
    rfl

theorem longAt_iff {host : Host} {path : Path} : LongAt host path ↔
    ∃ text fault, host.readText path = .ok text ∧ read text = .error (.long fault) := by
  constructor
  · rintro ⟨text, given, long⟩
    exact ⟨text, {}, given, read_eq_long_iff.mpr long⟩
  · rintro ⟨text, fault, given, failed⟩
    exact ⟨text, given, read_eq_long_iff.mp failed⟩

end ShellPrompt.Json
