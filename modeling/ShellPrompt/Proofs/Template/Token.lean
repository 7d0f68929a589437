import ShellPrompt.Template.Token

/-!
How the tokens of a text follow from those of its parts. What stands behind a reference must not
lengthen its name.
-/

namespace ShellPrompt.Template

/-- A text that cannot lengthen a name in front of it, nor give one to a dollar sign. -/
def StartsApart (text : List Char) : Prop := ∀ c, text.head? = some c → isNameChar c = false

theorem startsApart_nil : StartsApart [] := by
  intro c first
  cases first

theorem startsApart_dollar (text : List Char) : StartsApart ('$' :: text) := by
  intro c first
  cases first
  rfl

theorem StartsApart.takeWhile {text : List Char} (apart : StartsApart text) :
    text.takeWhile isNameChar = [] := by
  cases text with
  | nil => rfl
  | cons c text => exact List.takeWhile_cons_of_neg (by simp [apart c rfl])

theorem startsApart_of_takeWhile {text : List Char} (apart : text.takeWhile isNameChar = []) :
    StartsApart text := by
  intro c first
  cases text with
  | nil => cases first
  | cons d text =>
      cases first
      cases name : isNameChar c with
      | false => rfl
      | true =>
          rw [List.takeWhile_cons_of_pos name] at apart
          cases apart

instance (text : List Char) : Decidable (StartsApart text) :=
  decidable_of_iff (text.takeWhile isNameChar = [])
    ⟨startsApart_of_takeWhile, StartsApart.takeWhile⟩

theorem startsApart_append_iff {text : List Char} (filled : text ≠ []) (rest : List Char) :
    StartsApart (text ++ rest) ↔ StartsApart text := by
  obtain ⟨c, text, rfl⟩ := List.exists_cons_of_ne_nil filled
  exact Iff.rfl

theorem StartsApart.append {text : List Char} (apart : StartsApart text) (filled : text ≠ [])
    (rest : List Char) : StartsApart (text ++ rest) :=
  (startsApart_append_iff filled rest).mpr apart

theorem startsApart_dropWhile (text : List Char) : StartsApart (text.dropWhile isNameChar) := by
  intro c first
  have stopped := List.head?_dropWhile_not isNameChar text
  rw [first] at stopped
  simpa using stopped

theorem StartsApart.dropWhile {text : List Char} (apart : StartsApart text) :
    text.dropWhile isNameChar = text := by
  have whole := List.takeWhile_append_dropWhile (p := isNameChar) (l := text)
  rw [apart.takeWhile, List.nil_append] at whole
  exact whole

theorem Token.text_ne_nil (token : Token) : token.text ≠ [] := by
  rcases token with (_ | _) | _ | _ <;> exact List.cons_ne_nil _ _

theorem scan_nil : scan [] = [] := by rw [scan]

theorem scan_eq_nil {text : List Char} (none : scan text = []) : text = [] := by
  have joined := joined_scan text
  rw [none] at joined
  exact joined.symm

/-- A name takes with it all characters of names behind it. -/
theorem scan_reference_append {name : List Char} (filled : name ≠ [])
    (plain : ∀ c ∈ name, isNameChar c = true) (rest : List Char) :
    scan ('$' :: (name ++ rest)) =
      .reference (name ++ rest.takeWhile isNameChar) :: scan (rest.dropWhile isNameChar) := by
  have longer : name ++ rest.takeWhile isNameChar ≠ [] := List.append_ne_nil_of_left_ne_nil filled _
  rw [scan, List.takeWhile_append_of_pos plain, List.dropWhile_append_of_pos plain, if_neg longer]

/-- A name with a dollar sign in front is one token, if nothing behind it lengthens the name. -/
theorem scan_reference {name : List Char} (filled : name ≠ [])
    (plain : ∀ c ∈ name, isNameChar c = true) {rest : List Char} (apart : StartsApart rest) :
    scan ('$' :: (name ++ rest)) = .reference name :: scan rest := by
  rw [scan_reference_append filled plain, apart.takeWhile, apart.dropWhile, List.append_nil]

theorem scan_plain {c : Char} (noEscape : c ≠ '\\') (noDollar : c ≠ '$') (rest : List Char) :
    scan (c :: rest) = .plain c :: scan rest := by
  rw [scan]
  · intro same
    exact absurd same noEscape
  · exact fun _ _ same => absurd same noEscape
  · exact noDollar

/-- What the last case of reading tokens leaves is no backslash. -/
theorem ne_backslash {c : Char} {rest : List Char} (noEnd : c = '\\' → rest = [] → False)
    (noEscape : ∀ d more, c = '\\' → rest = d :: more → False) : c ≠ '\\' := by
  intro escape
  cases rest with
  | nil => exact noEnd escape rfl
  | cons d more => exact noEscape d more escape rfl

theorem scan_append_plain {text : List Char} (plain : ∀ c ∈ text, c ≠ '\\' ∧ c ≠ '$')
    (rest : List Char) : scan (text ++ rest) = text.map Token.plain ++ scan rest := by
  induction text with
  | nil => rfl
  | cons c text inductionHypothesis =>
      obtain ⟨noEscape, noDollar⟩ := plain c List.mem_cons_self
      rw [List.cons_append, scan_plain noEscape noDollar,
        inductionHypothesis fun d member => plain d (.tail _ member)]
      rfl

end ShellPrompt.Template
