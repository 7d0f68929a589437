import ShellPrompt.Proofs.Theme.Base16
import ShellPrompt.Style.Parse

/-!
What the words for colours come to. The name of a slot, in any letter case, is never looked up in a
palette, and the keys of schemes are no names of slots.
-/

namespace ShellPrompt

theorem name_of_ofName? {name : String} {slot : Slot} (named : Slot.ofName? name = some slot) :
    slot.name = name := by
  simpa using List.find?_some named

theorem head?_lower_hash {token : String} {rest : List Char}
    (written : token.toList = '#' :: rest) : (Text.lower token).toList.head? = some '#' := by
  have hash : Text.lowerChar '#' = ['#'] := by decide
  rw [Text.lower, String.toList_ofList, written, Text.lowerFrom, if_neg (by decide), hash]
  rfl

/-- No name of a slot is empty or starts with a number sign, and so does no spelling of one. -/
theorem plain_of_ofName? {token : String} {slot : Slot}
    (named : Slot.ofName? (slotAlias (Text.lower token)) = some slot) :
    ∃ c rest, token.toList = c :: rest ∧ c ≠ '#' := by
  cases written : token.toList with
  | nil =>
      have nameless : Slot.ofName? (slotAlias (Text.lower "")) = none := by decide
      rw [String.toList_eq_nil_iff.mp written, nameless] at named
      cases named
  | cons c rest =>
      refine ⟨c, rest, rfl, ?_⟩
      rintro rfl
      have head := head?_lower_hash written
      have spelled := name_of_ofName? named
      unfold slotAlias at spelled
      split at spelled
      · rename_i magenta
        rw [magenta] at head
        exact absurd head (by decide)
      · rw [← spelled] at head
        revert head
        cases slot <;> decide

theorem resolveColor_of_plain {token : String} {c : Char} {rest : List Char}
    (written : token.toList = c :: rest) (noHash : c ≠ '#') (theme : Theme) :
    resolveColor (some theme) token =
      (((namedColor? theme.colors token).or (paletteColor? theme.palette token)).or
        (namedColor? Theme.default.colors token)).getD token := by
  rw [resolveColor, written]
  split
  · rename_i empty
    cases empty
  · rename_i hashed
    cases hashed
    exact absurd rfl noHash
  · rfl

theorem resolveColor_slot {theme : Theme} {token : String} {slot : Slot}
    (named : Slot.ofName? (slotAlias (Text.lower token)) = some slot)
    (filled : theme.colors slot ≠ "") : resolveColor (some theme) token = theme.colors slot := by
  obtain ⟨c, rest, written, noHash⟩ := plain_of_ofName? named
  have color : namedColor? theme.colors token = some (theme.colors slot) := by
    rw [namedColor?, named]
    simp only [if_neg filled]
  rw [resolveColor_of_plain written noHash, color]
  rfl

theorem resolveColor_schemeKey {theme : Theme} {palette : Palette}
    (own : theme.palette = some palette) {key color : String} (inKeys : key ∈ Theme.schemeKeys)
    (held : palette.get? key = some color) (filled : color ≠ "") :
    resolveColor (some theme) key = color := by
  have each : ∀ key ∈ Theme.schemeKeys, key.toList.head? = some 'b' ∧
      Slot.ofName? (slotAlias (Text.lower key)) = none := by decide +kernel
  obtain ⟨first, noSlot⟩ := each key inKeys
  obtain ⟨rest, written⟩ := List.head?_eq_some_iff.mp first
  have noColor : namedColor? theme.colors key = none := by
    rw [namedColor?, noSlot]
  have color : paletteColor? theme.palette key = some color := by
    rw [paletteColor?, own]
    simp [held, filled]
  rw [resolveColor_of_plain written (by decide), noColor, color]
  rfl

end ShellPrompt
