import Mathlib.Data.List.Basic
import ShellPrompt.Proofs.Style.Editing
import ShellPrompt.Style.Parse

/-!
What edits of a style string do to the style that it describes. Each attribute of the style is that
of the last word that sets it, and a modifier sets its own attribute only. Two modifiers have no
attribute: where they stand in a style string they are read as colours.
-/

namespace ShellPrompt.Style

open Text

section Reading
variable {α : Type} {read : Style → Option α}

/-- Of all words that set an attribute the last one counts, and words in front of them only where
there is none. -/
theorem read_foldl (above : ∀ style base, read (style.above base) = (read style).or (read base))
    (theme : Option Theme) (words : List String) (base : Style) :
    read (words.foldl (fun style word => (ofWord theme word).above style) base) =
      (words.filterMap fun word => read (ofWord theme word)).getLast?.or (read base) := by
  induction words generalizing base with
  | nil => rfl
  | cons word words inductionHypothesis =>
      rw [List.foldl_cons, inductionHypothesis, above]
      cases set : read (ofWord theme word) with
      | none => simp [set]
      | some value =>
          cases later : (words.filterMap fun word => read (ofWord theme word)).getLast? <;>
            simp [set, later, List.getLast?_cons]

theorem read_parse (above : ∀ style base, read (style.above base) = (read style).or (read base))
    (empty : read {} = none) (theme : Option Theme) (text : String) :
    read (parse theme text) =
      ((wordsOf text).filterMap fun word => read (ofWord theme word)).getLast? := by
  rw [parse, read_foldl above, empty, Option.or_none]

theorem filterMap_filter_of_none {β : Type} {items : List β} {keep : β → Bool} {f : β → Option α}
    (silent : ∀ item ∈ items, keep item = false → f item = none) :
    (items.filter keep).filterMap f = items.filterMap f := by
  rw [List.filterMap_filter]
  apply List.filterMap_congr
  intro item member
  cases kept : keep item with
  | false => exact (silent item member kept).symm
  | true => rfl

end Reading

/-- The attributes that are switched on by modifiers. -/
inductive Flag where
  | bold
  | italic
  | underline

namespace Flag

def name : Flag → String
  | .bold => "bold"
  | .italic => "italic"
  | .underline => "underline"

def read : Flag → Style → Option Bool
  | .bold => Style.bold
  | .italic => Style.italic
  | .underline => Style.underline

theorem read_above (flag : Flag) (style base : Style) :
    flag.read (style.above base) = (flag.read style).or (flag.read base) := by
  cases flag <;> rfl

theorem read_empty (flag : Flag) : flag.read {} = none := by
  cases flag <;> rfl

theorem isModifier_name (flag : Flag) : isModifier flag.name := by
  cases flag <;> decide

theorem read_ofWord (flag : Flag) (theme : Option Theme) (word : String) :
    flag.read (ofWord theme word) = if word = flag.name then some true else none := by
  unfold ofWord
  by_cases bold : word = "bold"
  · subst bold
    cases flag <;> rfl
  · by_cases italic : word = "italic"
    · subst italic
      cases flag <;> rfl
    · by_cases underline : word = "underline"
      · subst underline
        cases flag <;> rfl
      · have unnamed : word ≠ flag.name := by cases flag <;> assumption
        rw [if_neg bold, if_neg italic, if_neg underline, if_neg unnamed]
        split <;> cases flag <;> rfl

/-- A flag is set exactly if its modifier is one of the words. -/
theorem read_parse (flag : Flag) (theme : Option Theme) (text : String) :
    flag.read (parse theme text) = if flag.name ∈ wordsOf text then some true else none := by
  rw [Style.read_parse flag.read_above flag.read_empty]
  simp only [read_ofWord]
  by_cases member : flag.name ∈ wordsOf text
  · rw [if_pos member]
    have set : true ∈ (wordsOf text).filterMap fun word =>
        if word = flag.name then some true else none :=
      List.mem_filterMap.mpr ⟨flag.name, member, if_pos rfl⟩
    cases last : ((wordsOf text).filterMap fun word =>
        if word = flag.name then some true else none).getLast? with
    | none =>
        rw [List.getLast?_eq_none_iff.mp last] at set
        cases set
    | some value =>
        obtain ⟨word, _, given⟩ := List.mem_filterMap.mp (List.mem_of_getLast? last)
        split at given
        · exact given.symm
        · cases given
  · rw [if_neg member, List.getLast?_eq_none_iff]
    apply List.filterMap_eq_nil_iff.mpr
    intro word inside
    exact if_neg fun same : word = flag.name => member (same ▸ inside)

end Flag

section Colors
variable {theme : Option Theme} {text modifier word : String}

/-- Modifiers that switch no flag. -/
def colorlikeModifiers : List String := ["dimmed", "inverted"]

/-- The words of a style string that are modifiers and are read as colours all the same. -/
def colorlikeWords (text : String) : List String :=
  (wordsOf text).filter colorlikeModifiers.contains

theorem isModifier_of_colorlike (colorlike : colorlikeModifiers.contains word) :
    isModifier word := by
  have each : ∀ word ∈ colorlikeModifiers, isModifier word = true := by decide
  exact each word (List.contains_iff_mem.mp colorlike)

theorem ofWord_modifier (theme : Option Theme) (known : isModifier word) :
    (ofWord theme word).background = none ∧
      (ofWord theme word).foreground =
        if colorlikeModifiers.contains word then some (resolveColor theme word) else none := by
  have named : word ∈ modifiers := by simpa [isModifier] using known
  simp only [modifiers, List.mem_cons, List.not_mem_nil, or_false] at named
  rcases named with rfl | rfl | rfl | rfl | rfl <;> exact ⟨rfl, rfl⟩

def foregroundOf (theme : Option Theme) (words : List String) : Option String :=
  (words.filterMap fun word => (ofWord theme word).foreground).getLast?

def backgroundOf (theme : Option Theme) (words : List String) : Option String :=
  (words.filterMap fun word => (ofWord theme word).background).getLast?

theorem foreground_parse : (parse theme text).foreground = foregroundOf theme (wordsOf text) :=
  read_parse (fun _ _ => rfl) rfl theme text

theorem background_parse : (parse theme text).background = backgroundOf theme (wordsOf text) :=
  read_parse (fun _ _ => rfl) rfl theme text

theorem backgroundOf_append_modifiers {words present : List String}
    (known : ∀ word ∈ present, isModifier word) :
    backgroundOf theme (words ++ present) = backgroundOf theme words := by
  have silent : present.filterMap (fun word => (ofWord theme word).background) = [] :=
    List.filterMap_eq_nil_iff.mpr fun word member => (ofWord_modifier theme (known word member)).1
  rw [backgroundOf, List.filterMap_append, silent, List.append_nil, backgroundOf]

theorem foregroundOf_append_modifiers {words present : List String}
    (known : ∀ word ∈ present, isModifier word) :
    foregroundOf theme (words ++ present) =
      ((present.filter colorlikeModifiers.contains).getLast?.map (resolveColor theme)).or
        (foregroundOf theme words) := by
  have read : present.filterMap (fun word => (ofWord theme word).foreground) =
      (present.filter colorlikeModifiers.contains).map (resolveColor theme) := by
    induction present with
    | nil => rfl
    | cons word present inductionHypothesis =>
        have rest := inductionHypothesis fun other member => known other (.tail _ member)
        have first := (ofWord_modifier theme (known word List.mem_cons_self)).2
        by_cases colorlike : colorlikeModifiers.contains word
        · rw [if_pos colorlike] at first
          simp only [List.filterMap_cons, first, rest, List.filter_cons_of_pos colorlike,
            List.map_cons]
        · rw [if_neg colorlike] at first
          simp only [List.filterMap_cons, first, rest, List.filter_cons_of_neg colorlike]
  rw [foregroundOf, List.filterMap_append, read, List.getLast?_append, List.getLast?_map,
    foregroundOf]

theorem backgroundOf_colorWords :
    backgroundOf theme (colorWords text) = backgroundOf theme (wordsOf text) := by
  apply congrArg List.getLast?
  apply filterMap_filter_of_none
  intro word _ known
  exact (ofWord_modifier theme (by simpa using known)).1

theorem foregroundOf_colorWords (plain : colorlikeWords text = []) :
    foregroundOf theme (colorWords text) = foregroundOf theme (wordsOf text) := by
  apply congrArg List.getLast?
  apply filterMap_filter_of_none
  intro word member known
  have noColor := List.filter_eq_nil_iff.mp plain word member
  rw [(ofWord_modifier theme (by simpa using known)).2, if_neg noColor]

theorem wordsOf_unwords_colorWords : wordsOf (unwords (colorWords text)) = colorWords text :=
  wordsOf_unwords_of_isWord fun _ => isWord_of_mem_colorWords

theorem ofWord_color {color : String} (plain : isModifier color = false)
    (noBackground : ¬ "bg:".toList <+: color.toList)
    (noForeground : ¬ "fg:".toList <+: color.toList) (theme : Option Theme) :
    ofWord theme color = { foreground := some (resolveColor theme color) } := by
  have unnamed (flag : Flag) : color ≠ flag.name := by
    rintro rfl
    rw [flag.isModifier_name] at plain
    cases plain
  have bold : color ≠ "bold" := unnamed .bold
  have italic : color ≠ "italic" := unnamed .italic
  have underline : color ≠ "underline" := unnamed .underline
  rw [ofWord, if_neg bold, if_neg italic, if_neg underline]
  split
  · rename_i written
    exact absurd ⟨_, written.symm⟩ noBackground
  · rename_i written
    exact absurd ⟨_, written.symm⟩ noForeground
  · rfl

end Colors

section Toggling
variable {text modifier toggled : String} (known : isModifier modifier)
  (done : toggle text modifier = .ok toggled)
include known done

theorem background_toggle (theme : Option Theme) :
    (parse theme toggled).background = (parse theme text).background := by
  rw [background_parse, background_parse, wordsOf_toggle known done,
    backgroundOf_append_modifiers fun _ => isModifier_of_mem_switched known,
    backgroundOf_colorWords]

theorem flag_toggle (flag : Flag) (theme : Option Theme) :
    flag.read (parse theme toggled) =
      if flag.name = modifier then
        if flag.read (parse theme text) = none then some true else none
      else flag.read (parse theme text) := by
  have switches : flag.name ∈ wordsOf ((Edit.toggle modifier).applyTo text) ↔ _ :=
    mem_applyTo_iff text nofun flag.isModifier_name
  rw [applyTo_toggle done, Edit.toggle.injEq, eq_comm] at switches
  rw [flag.read_parse, flag.read_parse]
  by_cases same : flag.name = modifier
  · subst same
    by_cases there : flag.name ∈ wordsOf text <;> simp [switches, there, Xor]
  · simp [switches, same, Xor]

theorem colorlikeWords_toggle :
    colorlikeWords toggled =
      (switched modifier (modifierWords text)).filter colorlikeModifiers.contains := by
  have none : (colorWords text).filter colorlikeModifiers.contains = [] := by
    apply List.filter_eq_nil_iff.mpr
    intro word member colorlike
    have plain := (mem_colorWords.mp member).2
    rw [isModifier_of_colorlike colorlike] at plain
    cases plain
  rw [colorlikeWords, wordsOf_toggle known done, List.filter_append, none, List.nil_append]

theorem foreground_toggle (theme : Option Theme) :
    (parse theme toggled).foreground =
      ((colorlikeWords toggled).getLast?.map (resolveColor theme)).or
        (parse theme (unwords (colorWords text))).foreground := by
  rw [foreground_parse, wordsOf_toggle known done,
    foregroundOf_append_modifiers fun _ => isModifier_of_mem_switched known,
    ← colorlikeWords_toggle known done, foreground_parse, wordsOf_unwords_colorWords]

theorem foreground_toggle_of_plain (theme : Option Theme) (plain : colorlikeWords text = [])
    (flagged : modifier ∉ colorlikeModifiers) :
    (parse theme toggled).foreground = (parse theme text).foreground := by
  have none : colorlikeWords toggled = [] := by
    rw [colorlikeWords_toggle known done]
    apply List.filter_eq_nil_iff.mpr
    intro word member colorlike
    rcases mem_switched_iff.mp member with ⟨there, _⟩ | ⟨rfl, _⟩
    · exact List.filter_eq_nil_iff.mp plain word (mem_modifierWords.mp there).1 colorlike
    · exact flagged (List.contains_iff_mem.mp colorlike)
  rw [foreground_toggle known done, none, foreground_parse, wordsOf_unwords_colorWords,
    foregroundOf_colorWords plain, ← foreground_parse]
  rfl

end Toggling

section Setting
variable {color : String} (word : IsWord color) (plain : isModifier color = false)
  (noBackground : ¬ "bg:".toList <+: color.toList)
  (noForeground : ¬ "fg:".toList <+: color.toList)

include word in
theorem wordsOf_setColor_of_isWord (text : String) :
    wordsOf (setColor text color) = [color] ++ modifierWords text := by
  rw [wordsOf_setColor, word]

include word plain in
theorem flag_setColor (flag : Flag) (theme : Option Theme) (text : String) :
    flag.read (parse theme (setColor text color)) = flag.read (parse theme text) := by
  have differs : flag.name ≠ color := by
    rintro rfl
    rw [flag.isModifier_name] at plain
    cases plain
  have same : flag.name ∈ wordsOf (setColor text color) ↔ flag.name ∈ wordsOf text := by
    rw [wordsOf_setColor_of_isWord word, List.mem_append, List.mem_singleton, or_iff_right differs,
      mem_modifierWords, and_iff_left flag.isModifier_name]
  rw [flag.read_parse, flag.read_parse]
  simp only [same]

include word plain noBackground noForeground in
theorem background_setColor (theme : Option Theme) (text : String) :
    (parse theme (setColor text color)).background = none := by
  rw [background_parse, wordsOf_setColor_of_isWord word,
    backgroundOf_append_modifiers fun _ member => (mem_modifierWords.mp member).2, backgroundOf,
    List.filterMap_cons, ofWord_color plain noBackground noForeground]
  rfl

include word plain noBackground noForeground in
theorem foreground_setColor (theme : Option Theme) (text : String) :
    (parse theme (setColor text color)).foreground =
      some (resolveColor theme ((colorlikeWords text).getLast?.getD color)) := by
  have colorlike :
      (modifierWords text).filter colorlikeModifiers.contains = colorlikeWords text := by
    rw [modifierWords, List.filter_filter, colorlikeWords]
    apply List.filter_congr
    intro word _
    cases known : colorlikeModifiers.contains word with
    | false => rfl
    | true => exact isModifier_of_colorlike known
  have only : foregroundOf theme [color] = some (resolveColor theme color) := by
    rw [foregroundOf, List.filterMap_cons, ofWord_color plain noBackground noForeground]
    rfl
  rw [foreground_parse, wordsOf_setColor_of_isWord word,
    foregroundOf_append_modifiers fun _ member => (mem_modifierWords.mp member).2, colorlike, only]
  cases (colorlikeWords text).getLast? <;> rfl

end Setting

/-- The style behind an edit. A modifier that is toggled changes its own flag only, and with a
colour that is set the flags stay and the background goes. The foreground is that of the colours
unless a modifier without a flag is there, which is read as a colour behind all of them. -/
theorem parse_toggle_and_setColor (theme : Option Theme) (text : String) :
    (∀ modifier, isModifier modifier → ∃ toggled, toggle text modifier = .ok toggled ∧
      (parse theme toggled).background = (parse theme text).background ∧
      (∀ flag : Flag, flag.read (parse theme toggled) =
        if flag.name = modifier then
          if flag.read (parse theme text) = none then some true else none
        else flag.read (parse theme text)) ∧
      (parse theme toggled).foreground =
        ((colorlikeWords toggled).getLast?.map (resolveColor theme)).or
          (parse theme (unwords (colorWords text))).foreground ∧
      (colorlikeWords text = [] → modifier ∉ colorlikeModifiers →
        (parse theme toggled).foreground = (parse theme text).foreground)) ∧
    ∀ color, color ≠ "" → (∀ c ∈ color.toList, isBlank c = false) → isModifier color = false →
      ¬ "bg:".toList <+: color.toList → ¬ "fg:".toList <+: color.toList →
      (parse theme (setColor text color)).foreground =
        some (resolveColor theme ((colorlikeWords text).getLast?.getD color)) ∧
      (parse theme (setColor text color)).background = none ∧
      ∀ flag : Flag, flag.read (parse theme (setColor text color)) =
        flag.read (parse theme text) := by
  constructor
  · intro modifier known
    have done := toggle_eq text known
    exact ⟨_, done, background_toggle known done theme,
      fun flag => flag_toggle known done flag theme, foreground_toggle known done theme,
      foreground_toggle_of_plain known done theme⟩
  · intro color filled visible plain noBackground noForeground
    have word : IsWord color := isWord_of_visible filled visible
    exact ⟨foreground_setColor word plain noBackground noForeground theme text,
      background_setColor word plain noBackground noForeground theme text,
      fun flag => flag_setColor word plain flag theme text⟩

/-- The words of a modifier, of a colour and of a background, none of them read as another. -/
theorem parse_toggle_and_setColor_bold :
    let text := "bold bg:blue red"
    let before := parse none text
    isModifier "bold" ∧ colorlikeWords text = [] ∧ "bold" ∉ colorlikeModifiers ∧
    (∃ toggled, toggle text "bold" = .ok toggled ∧
      (parse none toggled).background = before.background ∧
      (∀ flag : Flag, flag.read (parse none toggled) =
        if flag.name = "bold" then if flag.read before = none then some true else none
        else flag.read before) ∧
      (parse none toggled).foreground = before.foreground) ∧
    (parse none (setColor text "#fff")).foreground =
      some (resolveColor none ((colorlikeWords text).getLast?.getD "#fff")) ∧
    (parse none (setColor text "#fff")).background = none ∧
    ∀ flag : Flag, flag.read (parse none (setColor text "#fff")) = flag.read before := by
  intro text before
  have known : isModifier "bold" := by decide
  have plain : colorlikeWords text = [] := by decide +kernel
  have flagged : "bold" ∉ colorlikeModifiers := by decide
  have shown : "#fff".toList.all fun c => !isBlank c := by decide
  have visible : ∀ c ∈ "#fff".toList, isBlank c = false :=
    fun c member => by simpa using List.all_eq_true.mp shown c member
  obtain ⟨toggling, setting⟩ := parse_toggle_and_setColor none text
  obtain ⟨toggled, done, background, flags, _, foreground⟩ := toggling "bold" known
  exact ⟨known, plain, flagged, ⟨toggled, done, background, flags, foreground plain flagged⟩,
    setting "#fff" (by decide) visible (by decide) (by decide) (by decide)⟩

/-- A modifier without a flag takes the place of the colour, whether it is toggled or was there. -/
theorem foreground_ne_of_dimmed :
    (∃ toggled, toggle "red" "dimmed" = .ok toggled ∧
      (parse (some .default) toggled).foreground ≠
        (parse (some .default) "red").foreground) ∧
    (parse (some .default) (setColor "dimmed" "red")).foreground ≠
      some (resolveColor (some .default) "red") := by
  have added : unwords (colorWords "red" ++ switched "dimmed" (modifierWords "red")) =
      "red dimmed" := by
    decide +kernel
  have known : isModifier "dimmed" := by decide
  have done := toggle_eq "red" known
  rw [added] at done
  exact ⟨⟨"red dimmed", done, by decide +kernel⟩, by decide +kernel⟩

end ShellPrompt.Style
