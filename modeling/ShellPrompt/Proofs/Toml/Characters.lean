import ShellPrompt.Proofs.Text.Newlines
import ShellPrompt.Proofs.Toml.Statements

/-!
The control characters of a written sheet. Strings, keys and numbers have none, since all of them
are written as escapes. Only a long text keeps its line ends: line feeds, and carriage returns in
front of them.
-/

namespace ShellPrompt.Toml

open ShellPrompt.Text

/-- An item whose written form keeps a carriage return. -/
def Item.KeepsReturn (item : Item) : Prop := ∃ text, item = .long text ∧ HasPair text.toList

/-- The control characters of a text are line feeds, and carriage returns if there is a reason for
them. -/
def OnlyBreaks (reason : Prop) (text : List Char) : Prop :=
  ∀ c ∈ text, isControl c = true → c = '\n' ∨ c = '\r' ∧ reason

namespace OnlyBreaks
variable {reason other : Prop} {first second : List Char} {c : Char}

theorem of_clean (clean : ∀ c ∈ first, isControl c = false) : OnlyBreaks reason first := by
  intro c member control
  rw [clean c member] at control
  cases control

theorem of_all (clean : first.all (fun c => !isControl c) = true) : OnlyBreaks reason first :=
  .of_clean fun c member => by simpa using List.all_eq_true.mp clean c member

theorem nil : OnlyBreaks reason [] := .of_all rfl

theorem mono (breaks : OnlyBreaks reason first) (weaker : reason → other) :
    OnlyBreaks other first :=
  fun c member control => (breaks c member control).imp_right fun held => ⟨held.1, weaker held.2⟩

theorem append (firstBreaks : OnlyBreaks reason first) (secondBreaks : OnlyBreaks reason second) :
    OnlyBreaks reason (first ++ second) := by
  intro c member
  rcases List.mem_append.mp member with member | member
  · exact firstBreaks c member
  · exact secondBreaks c member

theorem cons (plain : isControl c = true → c = '\n') (breaks : OnlyBreaks reason first) :
    OnlyBreaks reason (c :: first) := by
  intro d member control
  rcases List.mem_cons.mp member with rfl | member
  · exact .inl (plain control)
  · exact breaks d member control

theorem flatMap {α : Type} {all : List α} {write : α → List Char}
    (each : ∀ item ∈ all, OnlyBreaks reason (write item)) :
    OnlyBreaks reason (all.flatMap write) := by
  intro c member
  obtain ⟨item, inside, member⟩ := List.mem_flatMap.mp member
  exact each item inside c member

theorem return_notMem (breaks : OnlyBreaks reason first) (noReason : ¬ reason) : '\r' ∉ first := by
  intro member
  rcases breaks _ member rfl with feed | ⟨_, held⟩
  · cases feed
  · exact noReason held

end OnlyBreaks

section Strings
variable {reason : Prop}

theorem isControl_of_large {c : Char} (large : ¬ c.toNat < 128) : isControl c = false := by
  cases control : isControl c with
  | false => rfl
  | true =>
      simp only [isControl, Bool.or_eq_true, Bool.and_eq_true, decide_eq_true_eq, beq_iff_eq]
        at control
      omega

/-- To see that no allowed character is a control character, it is enough to look at the small
ones. -/
theorem isControl_of_allowed {allowed : Char → Bool}
    (checked : ∀ n < 128, allowed (Char.ofNat n) = true → isControl (Char.ofNat n) = false)
    {c : Char} (passes : allowed c = true) : isControl c = false := by
  by_cases small : c.toNat < 128
  · have known := checked c.toNat small
    rw [Char.ofNat_toNat] at known
    exact known passes
  · exact isControl_of_large small

theorem isControl_escapeChar (c : Char) : ∀ d ∈ escapeChar c, isControl d = false := by
  by_cases small : c.toNat < 128
  · have known : ∀ n < 128, (escapeChar (Char.ofNat n)).all (fun d => !isControl d) = true := by
      decide
    have same := known c.toNat small
    rw [Char.ofNat_toNat] at same
    intro d member
    simpa using List.all_eq_true.mp same d member
  · have differs (d : Char) (ascii : d.toNat < 128) : c ≠ d := by
      rintro rfl
      exact small ascii
    simp [escapeChar, differs, isControl_of_large small]

theorem onlyBreaks_writeBasic (text : List Char) : OnlyBreaks reason (writeBasic text) := by
  have inner : OnlyBreaks reason (text.flatMap escapeChar) :=
    .flatMap fun c _ => .of_clean (isControl_escapeChar c)
  exact .cons (by decide) (inner.append (.of_all (by decide)))

theorem onlyBreaks_writeString (text : List Char) : OnlyBreaks reason (writeString text) := by
  unfold writeString
  split
  · rename_i fits
    have clean : ∀ c ∈ text, isControl c = false := by
      intro c member
      have each := List.all_eq_true.mp fits c member
      simp only [Bool.and_eq_true, Bool.not_eq_true'] at each
      exact each.2
    exact .cons (by decide) ((OnlyBreaks.of_clean clean).append (.of_all (by decide)))
  · exact onlyBreaks_writeBasic text

theorem onlyBreaks_writeKey (key : List Char) : OnlyBreaks reason (writeKey key) := by
  unfold writeKey
  split
  · rename_i bare
    refine .of_clean fun c member => ?_
    simp only [isBare, Bool.and_eq_true] at bare
    have checked : ∀ n < 128, isBareChar (Char.ofNat n) = true →
        isControl (Char.ofNat n) = false := by
      decide
    exact isControl_of_allowed checked (List.all_eq_true.mp bare.2 c member)
  · exact onlyBreaks_writeBasic key

theorem onlyBreaks_longChars (text : List Char) :
    OnlyBreaks (HasPair text) (longChars text) := by
  fun_induction longChars text with
  | case1 rest inductionHypothesis =>
      have later := inductionHypothesis.mono fun pair => ((pair.cons '"').cons '"').cons '"'
      exact .cons (by decide) (.cons (by decide) (.cons (by decide) (.cons (by decide) later)))
  | case2 rest _ inductionHypothesis =>
      exact .cons (by decide) (inductionHypothesis.mono fun pair => pair.cons '"')
  | case3 rest inductionHypothesis =>
      exact .cons (fun _ => rfl) (inductionHypothesis.mono fun pair => pair.cons '\n')
  | case4 rest inductionHypothesis =>
      have later : OnlyBreaks (HasPair ('\r' :: '\n' :: rest)) ('\n' :: longChars rest) :=
        .cons (fun _ => rfl) (inductionHypothesis.mono fun pair => (pair.cons '\n').cons '\r')
      intro c member control
      rcases List.mem_cons.mp member with rfl | member
      · exact .inr ⟨rfl, [], rest, rfl⟩
      · exact later c member control
  | case5 c rest _ _ _ _ inductionHypothesis =>
      exact (OnlyBreaks.of_clean (isControl_escapeChar c)).append
        (inductionHypothesis.mono fun pair => pair.cons c)
  | case6 => exact .nil

theorem onlyBreaks_writeLong (text : List Char) : OnlyBreaks (HasPair text) (writeLong text) := by
  have first : OnlyBreaks (HasPair text) (if startsWithBreak text then ['\n'] else []) := by
    split
    · exact .cons (fun _ => rfl) (.nil)
    · exact .nil
  have closing : OnlyBreaks (HasPair text) ['"', '"', '"'] := .of_all (by decide)
  have inner := (onlyBreaks_longChars text).append closing
  exact .cons (by decide) (.cons (by decide) (.cons (by decide) (first.append inner)))

end Strings

section Items
variable {reason : Prop}

theorem onlyBreaks_of_isNumeralChar {text : List Char}
    (numeral : ∀ c ∈ text, isNumeralChar c = true) : OnlyBreaks reason text :=
  .of_clean fun c member => isControl_of_allowed (by decide) (numeral c member)

theorem IsNumeral.onlyBreaks {text : List Char} (numeral : IsNumeral text) :
    OnlyBreaks reason text := by
  obtain ⟨whole, after, rfl, _, digits, _, others⟩ := numeral
  have first : OnlyBreaks reason whole :=
    onlyBreaks_of_isNumeralChar fun c member => isNumeralChar_of_isDigit (digits c member)
  exact first.append (onlyBreaks_of_isNumeralChar others)

theorem onlyBreaks_integerChars (value : Int) : OnlyBreaks reason (integerChars value) := by
  have digits : OnlyBreaks reason (Nat.toDigits 10 value.natAbs) :=
    (isNumeral_toDigits _).onlyBreaks
  unfold integerChars naturalChars
  split
  · exact .cons (by decide) digits
  · exact digits

theorem onlyBreaks_toChars (value : Decimal) : OnlyBreaks reason value.toChars := by
  cases value with
  | finite negative digits exponent canonical =>
      have number : OnlyBreaks reason (Decimal.layOut Decimal.layout digits exponent) :=
        (isNumeral_layOut canonical).onlyBreaks
      cases negative with
      | false => exact number
      | true => exact .cons (by decide) number
  | infinite negative => cases negative <;> exact .of_all (by decide)
  | nan => exact .of_all (by decide)

theorem onlyBreaks_writePair (key : String) {value : List Char} (breaks : OnlyBreaks reason value) :
    OnlyBreaks reason (writePair key value) :=
  (onlyBreaks_writeKey _).append
    (.cons (by decide) (.cons (by decide) (.cons (by decide) breaks)))

theorem onlyBreaks_intercalate {separator : List Char} {all : List (List Char)}
    (between : OnlyBreaks reason separator) (each : ∀ text ∈ all, OnlyBreaks reason text) :
    OnlyBreaks reason (List.intercalate separator all) := by
  induction all with
  | nil => exact .nil
  | cons text rest inductionHypothesis =>
      obtain ⟨first, later⟩ := List.forall_mem_cons.mp each
      cases rest with
      | nil => simpa using first
      | cons next rest =>
          have layout : List.intercalate separator (text :: next :: rest) =
              text ++ (separator ++ List.intercalate separator (next :: rest)) := by
            simp [List.intercalate]
          rw [layout]
          exact first.append (between.append (inductionHypothesis later))

/-- Of all items, only a long text keeps line ends, and carriage returns only in front of line
feeds. -/
theorem onlyBreaks_item (item : Item) : OnlyBreaks item.KeepsReturn item.write := by
  cases item with
  | short text => exact onlyBreaks_writeString text.toList
  | long text => exact (onlyBreaks_writeLong text.toList).mono fun pair => ⟨text, rfl, pair⟩
  | flag value => cases value <;> exact .of_all (by decide)
  | integer value => exact onlyBreaks_integerChars value
  | decimal value => exact onlyBreaks_toChars value
  | table entries =>
      refine .cons (by decide) (OnlyBreaks.append ?_ (.of_all (by decide)))
      refine onlyBreaks_intercalate (.of_all (by decide)) fun text member => ?_
      obtain ⟨entry, _, rfl⟩ := List.mem_map.mp member
      exact onlyBreaks_writePair entry.1 (onlyBreaks_writeString entry.2.toList)

end Items

section Sheets
variable {reason : Prop}

theorem onlyBreaks_lineBreak : OnlyBreaks reason ['\n'] := .cons (fun _ => rfl) (.nil)

theorem onlyBreaks_writeLine (line : Line) : OnlyBreaks line.2.KeepsReturn (writeLine line) :=
  (onlyBreaks_writePair line.1 (onlyBreaks_item line.2)).append onlyBreaks_lineBreak

/-- A section with a line whose item keeps a carriage return. -/
def Section.KeepsReturn (part : Section) : Prop := ∃ line ∈ part.lines, line.2.KeepsReturn

theorem onlyBreaks_lines (lines : List Line) :
    OnlyBreaks (∃ line ∈ lines, line.2.KeepsReturn) (lines.flatMap writeLine) :=
  .flatMap fun line member =>
    (onlyBreaks_writeLine line).mono fun keeps => ⟨line, member, keeps⟩

theorem onlyBreaks_section (part : Section) : OnlyBreaks part.KeepsReturn part.write := by
  have path : OnlyBreaks part.KeepsReturn
      (List.intercalate ['.'] (part.path.map fun key => writeKey key.toList)) := by
    refine onlyBreaks_intercalate (.of_all (by decide)) fun text member => ?_
    obtain ⟨key, _, rfl⟩ := List.mem_map.mp member
    exact onlyBreaks_writeKey key.toList
  refine .cons (fun _ => rfl) (.cons (by decide) (path.append ?_))
  exact .cons (by decide) (.cons (fun _ => rfl) (onlyBreaks_lines part.lines))

theorem onlyBreaks_writeGroups (groups : List SectionGroup) :
    OnlyBreaks (∃ group ∈ groups, ∃ part ∈ group.sections, part.KeepsReturn)
      (writeGroups groups) := by
  have sections {all : List SectionGroup} {group : SectionGroup} (member : group ∈ all) :
      OnlyBreaks (∃ group ∈ all, ∃ part ∈ group.sections, part.KeepsReturn)
        (group.sections.flatMap Section.write) :=
    .flatMap fun part inside =>
      (onlyBreaks_section part).mono fun keeps => ⟨group, member, part, inside, keeps⟩
  fun_induction writeGroups groups with
  | case1 => exact .nil
  | case2 group => exact sections List.mem_cons_self
  | case3 group rest _ inductionHypothesis =>
      have weaker : (∃ other ∈ rest, ∃ part ∈ other.sections, part.KeepsReturn) →
          ∃ other ∈ group :: rest, ∃ part ∈ other.sections, part.KeepsReturn := by
        rintro ⟨other, member, keeps⟩
        exact ⟨other, List.mem_cons_of_mem group member, keeps⟩
      have later := inductionHypothesis.mono weaker
      refine (sections List.mem_cons_self).append (OnlyBreaks.append ?_ later)
      split
      · exact onlyBreaks_lineBreak
      · exact .nil

theorem onlyBreaks_comments {comments : List String}
    (clean : ∀ comment ∈ comments, ∀ c ∈ comment.toList, isControl c = false) :
    OnlyBreaks reason (comments.flatMap writeComment) := by
  refine .flatMap fun comment member => .cons (by decide) (.cons (by decide) ?_)
  exact (OnlyBreaks.of_clean (clean comment member)).append onlyBreaks_lineBreak

/-- A sheet with such a line, at its top or in a section. -/
def Sheet.KeepsReturn (sheet : Sheet) : Prop :=
  (∃ line ∈ sheet.lines, line.2.KeepsReturn) ∨
    ∃ group ∈ sheet.groups, ∃ part ∈ group.sections, part.KeepsReturn

/-- Line feeds and carriage returns are the only control characters of a written sheet. -/
theorem onlyBreaks_write {sheet : Sheet}
    (clean : ∀ comment ∈ sheet.comments, ∀ c ∈ comment.toList, isControl c = false) :
    OnlyBreaks sheet.KeepsReturn sheet.write := by
  refine (onlyBreaks_comments clean).append (.cons (fun _ => rfl) (OnlyBreaks.append ?_ ?_))
  · exact (onlyBreaks_lines _).mono .inl
  · exact (onlyBreaks_writeGroups _).mono .inr

end Sheets

end ShellPrompt.Toml
