import ShellPrompt.Proofs.Text.Lower

/-!
Texts made of words. A blank keeps the words on its sides apart, so a text that is put together from
parts has the words of all parts, and words that are put together can be told apart again.
-/

namespace ShellPrompt.Text

section Blanks

theorem wordsOf_append_blank (first second : String) :
    wordsOf (first ++ " " ++ second) = wordsOf first ++ wordsOf second := by
  have blank : isBlank ' ' = true := by decide
  have apart : (first ++ " " ++ second).toList = first.toList ++ ' ' :: second.toList := by
    simp
  rw [wordsOf, apart, words_append_blank _ _ blank, List.map_append, wordsOf, wordsOf]

theorem wordsOf_unwords (parts : List String) :
    wordsOf (unwords parts) = parts.flatMap wordsOf := by
  induction parts with
  | nil => rfl
  | cons part parts inductionHypothesis =>
      cases parts with
      | nil => simp [unwords]
      | cons next parts =>
          unfold unwords at inductionHypothesis ⊢
          rw [String.intercalate_cons_cons, wordsOf_append_blank, inductionHypothesis]
          exact List.flatMap_cons.symm

end Blanks

section Words

/-- A text that is a word as it stands. -/
def IsWord (text : String) : Prop := wordsOf text = [text]

theorem words_of_visible {text : List Char} (filled : text ≠ [])
    (visible : ∀ c ∈ text, isBlank c = false) : words text = [text] := by
  induction text with
  | nil => exact absurd rfl filled
  | cons c text inductionHypothesis =>
      have shown : isBlank c = false := visible c List.mem_cons_self
      cases text with
      | nil => simp [words, shown, startsWord]
      | cons d text =>
          have next : isBlank d = false := visible d (.tail _ List.mem_cons_self)
          have others := inductionHypothesis (List.cons_ne_nil _ _)
            fun other member => visible other (.tail _ member)
          rw [words, shown, startsWord, next, others]
          rfl

theorem isWord_ofList {text : List Char} (filled : text ≠ [])
    (visible : ∀ c ∈ text, isBlank c = false) : IsWord (String.ofList text) := by
  rw [IsWord, wordsOf, String.toList_ofList, words_of_visible filled visible]
  rfl

theorem isWord_of_visible {text : String} (filled : text ≠ "")
    (visible : ∀ c ∈ text.toList, isBlank c = false) : IsWord text := by
  have word := isWord_ofList (mt String.toList_eq_nil_iff.mp filled) visible
  rwa [String.ofList_toList] at word

theorem visible_of_mem_growFirst {c : Char} {others : List (List Char)}
    (shown : isBlank c = false) (visible : ∀ word ∈ others, ∀ d ∈ word, isBlank d = false) :
    ∀ word ∈ growFirst c others, ∀ d ∈ word, isBlank d = false := by
  cases others with
  | nil => simpa [growFirst] using shown
  | cons first rest => simpa [growFirst, shown] using visible

theorem visible_of_mem_words (text : List Char) :
    ∀ word ∈ words text, ∀ c ∈ word, isBlank c = false := by
  induction text with
  | nil => exact fun word member => (List.not_mem_nil member).elim
  | cons c text inductionHypothesis =>
      rw [words]
      split
      · exact inductionHypothesis
      · rename_i shown
        have shown : isBlank c = false := Bool.eq_false_iff.mpr shown
        split
        · exact visible_of_mem_growFirst shown inductionHypothesis
        · simpa [shown] using inductionHypothesis

theorem isWord_of_mem {text word : String} (member : word ∈ wordsOf text) : IsWord word := by
  obtain ⟨letters, inside, rfl⟩ := List.mem_map.mp member
  exact isWord_ofList (ne_nil_of_mem_words inside) (visible_of_mem_words _ letters inside)

theorem flatMap_wordsOf {parts : List String} (words : ∀ part ∈ parts, IsWord part) :
    parts.flatMap wordsOf = parts := by
  induction parts with
  | nil => rfl
  | cons part parts inductionHypothesis =>
      have first : IsWord part := words part List.mem_cons_self
      have others := inductionHypothesis fun other member => words other (.tail _ member)
      rw [List.flatMap_cons, first, others, List.singleton_append]

/-- Words that are put together are told apart again. -/
theorem wordsOf_unwords_of_isWord {parts : List String} (words : ∀ part ∈ parts, IsWord part) :
    wordsOf (unwords parts) = parts :=
  (wordsOf_unwords parts).trans (flatMap_wordsOf words)

end Words

end ShellPrompt.Text
