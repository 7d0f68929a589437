import ShellPrompt.Proofs.Toml.Items
import ShellPrompt.Value

/-!
The texts of values. Only a value that does not count as set can have an empty one.
-/

namespace ShellPrompt

theorem ofList_ne_empty {text : List Char} (filled : text ≠ []) : String.ofList text ≠ "" :=
  mt String.ofList_eq_empty_iff.mp filled

theorem append_ne_empty {first : String} (filled : first ≠ "") (second : String) :
    first ++ second ≠ "" := by
  intro empty
  have parts := congrArg String.toList empty
  rw [String.toList_append] at parts
  exact filled (String.toList_eq_nil_iff.mp (List.append_eq_nil_iff.mp parts).1)

theorem intercalate_ne_empty (separator : String) {first : String} (filled : first ≠ "")
    (others : List String) : separator.intercalate (first :: others) ≠ "" := by
  cases others with
  | nil =>
      rw [String.intercalate_singleton]
      exact filled
  | cons second others =>
      rw [String.intercalate_cons_cons]
      exact append_ne_empty (append_ne_empty filled _) _

theorem Moment.quoted_ne_empty (moment : Moment) : moment.quoted ≠ "" := by
  cases moment with
  | day date => exact append_ne_empty (append_ne_empty (by decide) _) _
  | hour clock => exact append_ne_empty (append_ne_empty (by decide) _) _
  | instant date clock offset =>
      exact append_ne_empty (append_ne_empty (append_ne_empty (by decide) _) _) _

theorem Moment.toText_ne_empty (moment : Moment) : moment.toText ≠ "" := by
  cases moment with
  | day date => exact ofList_ne_empty (List.append_ne_nil_of_right_ne_nil _ (List.cons_ne_nil _ _))
  | hour clock =>
      exact ofList_ne_empty (List.append_ne_nil_of_right_ne_nil _ (List.cons_ne_nil _ _))
  | instant date clock offset =>
      exact ofList_ne_empty (List.append_ne_nil_of_right_ne_nil _ (List.cons_ne_nil _ _))

theorem Value.quoted_ne_nil {value : Value} (set : value.isSet = true) : value.quoted ≠ [] := by
  cases value with
  | null => cases set
  | flag value => cases value <;> exact List.cons_ne_nil _ _
  | integer value =>
      obtain ⟨c, tail, written, _⟩ := Toml.integerChars_cons value
      rw [Value.quoted, written]
      exact List.cons_ne_nil c tail
  | decimal value =>
      obtain ⟨c, tail, written, _⟩ := Toml.toChars_cons value
      rw [Value.quoted, written]
      exact List.cons_ne_nil c tail
  | text value => exact List.cons_ne_nil _ _
  | moment value =>
      rw [Value.quoted]
      exact mt String.toList_eq_nil_iff.mp value.quoted_ne_empty
  | list items => exact List.cons_ne_nil _ _
  | map entries => exact List.cons_ne_nil _ _

theorem Value.toText_ne_empty {value : Value} (set : value.isSet = true) : value.toText ≠ "" := by
  cases value with
  | text value => simpa [Value.isSet] using set
  | moment value => exact value.toText_ne_empty
  | null => cases set
  | flag value => exact ofList_ne_empty (quoted_ne_nil set)
  | integer value => exact ofList_ne_empty (quoted_ne_nil set)
  | decimal value => exact ofList_ne_empty (quoted_ne_nil set)
  | list items => exact ofList_ne_empty (quoted_ne_nil set)
  | map entries => exact ofList_ne_empty (quoted_ne_nil set)

end ShellPrompt
