import Mathlib.Algebra.Ring.Parity
import ShellPrompt.Proofs.Text.Words
import ShellPrompt.Style.Edit

/-!
The words of a style string under edits. An edit either exchanges the words that are no modifiers or
switches one modifier, so after any edits a modifier is there or not by how often it was switched,
and the other words are those of the last colour.
-/

namespace ShellPrompt.Style

open Text

section Words
variable {text color modifier word : String}

theorem mem_modifierWords : word ∈ modifierWords text ↔ word ∈ wordsOf text ∧ isModifier word :=
  List.mem_filter

theorem mem_colorWords :
    word ∈ colorWords text ↔ word ∈ wordsOf text ∧ isModifier word = false := by
  simp [colorWords]

theorem isWord_of_isModifier (known : isModifier word) : IsWord word := by
  have each : ∀ word ∈ modifiers, wordsOf word = [word] := by decide +kernel
  exact each word (by simpa [isModifier] using known)

theorem isWord_of_mem_modifierWords (member : word ∈ modifierWords text) : IsWord word :=
  isWord_of_mem (mem_modifierWords.mp member).1

theorem isWord_of_mem_colorWords (member : word ∈ colorWords text) : IsWord word :=
  isWord_of_mem (mem_colorWords.mp member).1

theorem wordsOf_setColor (text color : String) :
    wordsOf (setColor text color) = wordsOf color ++ modifierWords text := by
  have kept : (modifierWords text).flatMap wordsOf = modifierWords text :=
    flatMap_wordsOf fun _ => isWord_of_mem_modifierWords
  rw [setColor, wordsOf_unwords, List.flatMap_cons, kept]

/-- The modifiers that are there when one of them has been switched. -/
def switched (modifier : String) (present : List String) : List String :=
  if present.contains modifier then present.filter fun word => word != modifier
  else present ++ [modifier]

theorem mem_switched_iff {present : List String} :
    word ∈ switched modifier present ↔ Xor (word ∈ present) (word = modifier) := by
  unfold switched
  split
  · rename_i there
    have there : modifier ∈ present := by simpa using there
    simp only [List.mem_filter, bne_iff_ne, ne_eq, Xor]
    constructor
    · exact fun ⟨member, differs⟩ => .inl ⟨member, differs⟩
    · rintro (kept | ⟨same, absent⟩)
      · exact kept
      · exact absurd (same ▸ there) absent
  · rename_i absent
    have absent : modifier ∉ present := by simpa using absent
    simp only [List.mem_append, List.mem_singleton, Xor]
    constructor
    · rintro (member | rfl)
      · exact .inl ⟨member, fun same => absent (same ▸ member)⟩
      · exact .inr ⟨rfl, absent⟩
    · rintro (⟨member, _⟩ | ⟨same, _⟩)
      · exact .inl member
      · exact .inr same

theorem isModifier_of_mem_switched (known : isModifier modifier)
    (member : word ∈ switched modifier (modifierWords text)) : isModifier word := by
  rcases mem_switched_iff.mp member with ⟨there, _⟩ | ⟨rfl, _⟩
  · exact (mem_modifierWords.mp there).2
  · exact known

theorem toggle_eq (text : String) (known : isModifier modifier) :
    toggle text modifier =
      .ok (unwords (colorWords text ++ switched modifier (modifierWords text))) :=
  if_pos known

theorem toggle_eq_error (text : String) (unknown : isModifier modifier = false) :
    toggle text modifier = .error ⟨modifier⟩ :=
  if_neg (by simp [unknown])

theorem wordsOf_toggle {toggled : String} (known : isModifier modifier)
    (done : toggle text modifier = .ok toggled) :
    wordsOf toggled = colorWords text ++ switched modifier (modifierWords text) := by
  rw [toggle_eq text known] at done
  cases done
  apply wordsOf_unwords_of_isWord
  intro word member
  rcases List.mem_append.mp member with color | kept
  · exact isWord_of_mem_colorWords color
  · exact isWord_of_isModifier (isModifier_of_mem_switched known kept)

theorem filter_append_modifiers {colors present : List String}
    (plain : ∀ word ∈ colors, isModifier word = false)
    (known : ∀ word ∈ present, isModifier word) :
    (colors ++ present).filter (fun word => !isModifier word) = colors := by
  have kept : colors.filter (fun word => !isModifier word) = colors :=
    List.filter_eq_self.mpr fun word member => by simp [plain word member]
  have dropped : present.filter (fun word => !isModifier word) = [] :=
    List.filter_eq_nil_iff.mpr fun word member => by simp [known word member]
  rw [List.filter_append, kept, dropped, List.append_nil]

/-- Setting a colour exchanges the words that are no modifiers. -/
theorem colorWords_setColor (plain : modifierWords color = []) :
    colorWords (setColor text color) = wordsOf color := by
  rw [colorWords, wordsOf_setColor]
  apply filter_append_modifiers
  · intro word member
    simpa using List.filter_eq_nil_iff.mp plain word member
  · exact fun word member => (mem_modifierWords.mp member).2

theorem colorWords_toggle {toggled : String} (known : isModifier modifier)
    (done : toggle text modifier = .ok toggled) : colorWords toggled = colorWords text := by
  rw [colorWords, wordsOf_toggle known done]
  apply filter_append_modifiers
  · exact fun word member => (mem_colorWords.mp member).2
  · exact fun word member => isModifier_of_mem_switched known member

end Words

section Edits
variable {text modifier : String} {edit : Edit} {edits : List Edit}

theorem applyTo_toggle {toggled : String} (done : toggle text modifier = .ok toggled) :
    (Edit.toggle modifier).applyTo text = toggled := by
  simp only [Edit.applyTo, Edit.perform, done]

/-- Toggling a name that is no modifier leaves everything as it is. -/
theorem applyTo_toggle_of_unknown (unknown : isModifier modifier = false) :
    (Edit.toggle modifier).applyTo text = text := by
  simp only [Edit.applyTo, Edit.perform, toggle_eq_error text unknown]

/-- One edit switches the modifier that it toggles, and no other one. -/
theorem mem_applyTo_iff (text : String)
    (plain : ∀ color, edit = .recolor color → modifierWords color = [])
    (known : isModifier modifier) :
    modifier ∈ wordsOf (edit.applyTo text) ↔
      Xor (modifier ∈ wordsOf text) (edit = .toggle modifier) := by
  cases edit with
  | recolor color =>
      have absent : modifier ∉ wordsOf color := by
        intro member
        have inside : modifier ∈ modifierWords color := mem_modifierWords.mpr ⟨member, known⟩
        rw [plain color rfl] at inside
        exact List.not_mem_nil inside
      change modifier ∈ wordsOf (setColor text color) ↔ _
      simp [wordsOf_setColor, absent, mem_modifierWords, known, Xor]
  | toggle name =>
      cases recognised : isModifier name with
      | true =>
          have toggled := toggle_eq text recognised
          have noColor : modifier ∉ colorWords text := by simp [mem_colorWords, known]
          rw [applyTo_toggle toggled, wordsOf_toggle recognised toggled, List.mem_append,
            or_iff_right noColor, mem_switched_iff, mem_modifierWords, and_iff_left known,
            Edit.toggle.injEq, eq_comm]
      | false =>
          have differs : name ≠ modifier := by
            rintro rfl
            rw [known] at recognised
            cases recognised
          simp [applyTo_toggle_of_unknown recognised, differs, Xor]

def Edit.color? : Edit → Option String
  | .recolor color => some color
  | .toggle _ => none

theorem colorWords_applyTo (text : String)
    (plain : ∀ color, edit = .recolor color → modifierWords color = []) :
    colorWords (edit.applyTo text) = (edit.color?.map wordsOf).getD (colorWords text) := by
  cases edit with
  | recolor color => exact colorWords_setColor (plain color rfl)
  | toggle name =>
      cases recognised : isModifier name with
      | true =>
          have toggled := toggle_eq text recognised
          rw [applyTo_toggle toggled]
          exact colorWords_toggle recognised toggled
      | false => rw [applyTo_toggle_of_unknown recognised]; rfl

theorem mem_edited_iff (text : String)
    (plain : ∀ color, .recolor color ∈ edits → modifierWords color = [])
    (known : isModifier modifier) :
    modifier ∈ wordsOf (edited text edits) ↔
      Xor (modifier ∈ wordsOf text) (Odd (edits.count (.toggle modifier))) := by
  induction edits generalizing text with
  | nil => simp [edited, Xor]
  | cons edit edits inductionHypothesis =>
      have first := mem_applyTo_iff text
        (fun color same => plain color (same ▸ List.mem_cons_self)) known
      have rest := inductionHypothesis (edit.applyTo text)
        fun color member => plain color (.tail _ member)
      have unfolded : edited text (edit :: edits) = edited (edit.applyTo text) edits := rfl
      rw [unfolded, rest, first]
      by_cases same : edit = .toggle modifier
      · rw [same, List.count_cons_self, Nat.odd_add_one]
        grind
      · rw [List.count_cons_of_ne same]
        simp [same, Xor]

theorem colorWords_edited (text : String)
    (plain : ∀ color, .recolor color ∈ edits → modifierWords color = []) :
    colorWords (edited text edits) =
      ((edits.filterMap Edit.color?).getLast?.map wordsOf).getD (colorWords text) := by
  induction edits generalizing text with
  | nil => rfl
  | cons edit edits inductionHypothesis =>
      have first := colorWords_applyTo text
        fun color same => plain color (same ▸ List.mem_cons_self)
      have rest := inductionHypothesis (edit.applyTo text)
        fun color member => plain color (.tail _ member)
      have unfolded : edited text (edit :: edits) = edited (edit.applyTo text) edits := rfl
      rw [unfolded, rest, first]
      cases given : edit.color? with
      | none => simp [given]
      | some color =>
          cases later : (edits.filterMap Edit.color?).getLast? <;>
            simp [given, later, List.getLast?_cons]

end Edits

/-- After any edits a modifier is there exactly if it was there and was toggled an even number of
times, or was not and was toggled an odd number of times; the other words are those of the last
colour. To toggle anything else fails and changes nothing. -/
theorem words_edited (text : String) {edits : List Edit}
    (plain : ∀ color, .recolor color ∈ edits → modifierWords color = []) :
    (∀ modifier, isModifier modifier →
      (modifier ∈ wordsOf (edited text edits) ↔
        Xor (modifier ∈ wordsOf text) (Odd (edits.count (.toggle modifier))))) ∧
    colorWords (edited text edits) =
      ((edits.filterMap Edit.color?).getLast?.map wordsOf).getD (colorWords text) ∧
    ∀ name, isModifier name = false → ∀ reached,
      (Edit.toggle name).perform reached = .error ⟨name⟩ ∧
        (Edit.toggle name).applyTo reached = reached :=
  ⟨fun _ known => mem_edited_iff text plain known, colorWords_edited text plain,
    fun _ unknown reached => ⟨toggle_eq_error reached unknown, applyTo_toggle_of_unknown unknown⟩⟩

/-- Blanks of several kinds, a modifier that is there twice, and a name that is none. -/
theorem words_edited_blanks :
    let text := "bold\u3000red bold"
    let edits : List Edit :=
      [.toggle "bold", .recolor " #fff\t bg:#000", .toggle "blink", .toggle "dimmed",
        .toggle "bold", .toggle "bold"]
    (∀ color, .recolor color ∈ edits → modifierWords color = []) ∧
    (∀ modifier, isModifier modifier →
      (modifier ∈ wordsOf (edited text edits) ↔
        Xor (modifier ∈ wordsOf text) (Odd (edits.count (.toggle modifier))))) ∧
    colorWords (edited text edits) =
      ((edits.filterMap Edit.color?).getLast?.map wordsOf).getD (colorWords text) ∧
    ∀ name, isModifier name = false → ∀ reached,
      (Edit.toggle name).perform reached = .error ⟨name⟩ ∧
        (Edit.toggle name).applyTo reached = reached := by
  intro text edits
  have plain : ∀ color, .recolor color ∈ edits → modifierWords color = [] := by
    intro color member
    have same : color = " #fff\t bg:#000" := by simpa [edits] using member
    rw [same]
    decide +kernel
  exact ⟨plain, words_edited text plain⟩

end ShellPrompt.Style
