import Mathlib.Tactic.ByContra
import Mathlib.Tactic.Choose
import ShellPrompt.Proofs.Report
import ShellPrompt.Proofs.Theme.Base16

/-!
Themes from the colour schemes of terminals. A scheme makes up a theme exactly if it has no value
but texts where the colours of slots are looked for, and then every slot has a colour behind a
number sign.
-/

namespace ShellPrompt

namespace Theme

section Slots
variable {scheme : List (Value × Value)} {slot : Slot}

theorem isSet_of_firstSet? {names : List String} {value : Value}
    (found : firstSet? scheme names = some value) : value.isSet = true := by
  obtain ⟨name, _, held⟩ := List.exists_of_findSome?_eq_some found
  exact (Option.filter_eq_some_iff.mp held).2

theorem hashed_default (slot : Slot) : (default.colors slot).toList.head? = some '#' := by
  cases slot <;> decide

theorem hashed_schemeColor {color : String} (given : schemeColor scheme slot = .ok color) :
    color.toList.head? = some '#' := by
  unfold schemeColor at given
  split at given
  · cases given
    exact hashed_default slot
  · rename_i written found
    cases given
    exact head?_hashColor (Value.toText_ne_empty (isSet_of_firstSet? found))
  · cases given

/-- A value that is set where the colour of a slot is looked for, and is no text. -/
def MisplacedColor (scheme : List (Value × Value)) (slot : Slot) : Prop :=
  ∃ value, firstSet? scheme slot.schemeNames = some value ∧ value.isText = false

theorem exists_error_schemeColor_iff :
    (∃ fault, schemeColor scheme slot = .error fault) ↔ MisplacedColor scheme slot := by
  unfold schemeColor MisplacedColor
  cases firstSet? scheme slot.schemeNames with
  | none => simp
  | some value => cases value <;> simp [Value.isText]

end Slots

theorem ofHex_eta (colors : Colors) :
    Colors.ofHex (colors .bg) (colors .fg) (colors .black) (colors .red) (colors .green)
      (colors .yellow) (colors .blue) (colors .purple) (colors .cyan) (colors .white)
      (colors .orange) (colors .gray) = colors := by
  funext slot
  cases slot <;> rfl

variable {name : String} {scheme : List (Value × Value)}

theorem ofTerminalScheme_eq_ok_iff {theme : Theme} :
    ofTerminalScheme name scheme = .ok theme ↔
      theme = { name := .text name, colors := theme.colors } ∧
        ∀ slot, schemeColor scheme slot = .ok (theme.colors slot) := by
  constructor
  · intro made
    simp only [ofTerminalScheme, bind_eq_ok_iff, pure, Except.pure, Except.ok.injEq] at made
    obtain ⟨bg, bgGiven, fg, fgGiven, black, blackGiven, red, redGiven, green, greenGiven, yellow,
      yellowGiven, blue, blueGiven, purple, purpleGiven, cyan, cyanGiven, white, whiteGiven, orange,
      orangeGiven, gray, grayGiven, rfl⟩ := made
    refine ⟨rfl, fun slot => ?_⟩
    cases slot <;> assumption
  · rintro ⟨same, given⟩
    rw [same]
    simp only [ofTerminalScheme, given]
    exact congrArg (fun colors => Except.ok (Theme.mk (.text name) colors none .null .null .null))
      (ofHex_eta theme.colors)

/-- The theme of a scheme, which fails exactly if the scheme has a misplaced colour. -/
theorem exists_error_ofTerminalScheme_iff :
    (∃ fault, ofTerminalScheme name scheme = .error fault) ↔
      ∃ slot, MisplacedColor scheme slot := by
  constructor
  · rintro ⟨fault, failed⟩
    by_contra none
    have given (slot : Slot) : ∃ color, schemeColor scheme slot = .ok color := by
      cases outcome : schemeColor scheme slot with
      | error fault => exact absurd ⟨slot, exists_error_schemeColor_iff.mp ⟨fault, outcome⟩⟩ none
      | ok color => exact ⟨color, rfl⟩
    choose colors given using given
    have made : ofTerminalScheme name scheme = .ok { name := .text name, colors } :=
      ofTerminalScheme_eq_ok_iff.mpr ⟨rfl, given⟩
    rw [made] at failed
    cases failed
  · rintro ⟨slot, misplaced⟩
    obtain ⟨fault, failed⟩ := exists_error_schemeColor_iff.mpr misplaced
    cases made : ofTerminalScheme name scheme with
    | error other => exact ⟨other, rfl⟩
    | ok theme =>
        rw [(ofTerminalScheme_eq_ok_iff.mp made).2 slot] at failed
        cases failed

theorem hashed_ofTerminalScheme {theme : Theme} (made : ofTerminalScheme name scheme = .ok theme) :
    theme.name = .text name ∧ theme.Hashed := by
  obtain ⟨same, given⟩ := ofTerminalScheme_eq_ok_iff.mp made
  rw [same]
  exact ⟨rfl, fun slot => hashed_schemeColor (given slot), nofun⟩

end Theme

end ShellPrompt
