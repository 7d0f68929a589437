import ShellPrompt.Terminal.Console

/-!
What a console that is no terminal leaves of a text. It shows no tab and none of the characters that
it leaves out, so it shows a text as it is exactly if the text has none of these.
-/

namespace ShellPrompt.Terminal

section Tabs
variable {columns : Nat} {text : List Char} {c : Char}

theorem eq_append_of_dropWhile {rest : List Char}
    (behind : (text.dropWhile fun c => !isTabOrBreak c) = rest) :
    (text.takeWhile fun c => !isTabOrBreak c) ++ rest = text := by
  rw [← behind, List.takeWhile_append_dropWhile]

theorem expandFrom_eq_self (noTab : '\t' ∉ text) : expandFrom columns text = text := by
  fun_induction expandFrom columns text with
  | case1 columns text part behind =>
      have whole := eq_append_of_dropWhile behind
      rwa [List.append_nil] at whole
  | case2 columns text part rest behind reached blanks inductionHypothesis =>
      rw [← eq_append_of_dropWhile behind] at noTab
      exact absurd (List.mem_append_right part List.mem_cons_self) noTab
  | case3 columns text part c rest tab behind inductionHypothesis =>
      have whole := eq_append_of_dropWhile behind
      rw [inductionHypothesis, whole]
      intro later
      rw [← whole] at noTab
      exact noTab (List.mem_append_right part (List.mem_cons_of_mem c later))

/-- Nothing but blanks is put in the place of tabs. -/
theorem mem_of_mem_expandFrom (member : c ∈ expandFrom columns text) :
    c = ' ' ∨ c ∈ text ∧ c ≠ '\t' := by
  have solid {text : List Char} (inside : c ∈ text.takeWhile fun c => !isTabOrBreak c) :
      c ∈ text ∧ c ≠ '\t' := by
    refine ⟨(List.takeWhile_sublist _).subset inside, ?_⟩
    rintro rfl
    cases List.all_eq_true.mp List.all_takeWhile _ inside
  fun_induction expandFrom columns text with
  | case1 columns text part behind => exact .inr (solid member)
  | case2 columns text part rest behind reached blanks inductionHypothesis =>
      rcases List.mem_append.mp member with member | later
      · rcases List.mem_append.mp member with inside | blank
        · exact .inr (solid inside)
        · exact .inl (List.eq_of_mem_replicate blank)
      · refine (inductionHypothesis later).imp_right fun ⟨inside, noTab⟩ => ⟨?_, noTab⟩
        rw [← eq_append_of_dropWhile behind]
        exact List.mem_append_right part (List.mem_cons_of_mem _ inside)
  | case3 columns text part d rest noTab behind inductionHypothesis =>
      rcases List.mem_append.mp member with inside | later
      · exact .inr (solid inside)
      · have whole := eq_append_of_dropWhile behind
        rcases List.mem_cons.mp later with rfl | later
        · refine .inr ⟨?_, noTab⟩
          rw [← whole]
          exact List.mem_append_right part List.mem_cons_self
        · refine (inductionHypothesis later).imp_right fun ⟨inside, noTab⟩ => ⟨?_, noTab⟩
          rw [← whole]
          exact List.mem_append_right part (List.mem_cons_of_mem _ inside)

end Tabs

/-- A character that a console shows as it is. -/
def StaysShown (c : Char) : Prop := isDropped c = false ∧ c ≠ '\t'

theorem shown_eq_self_iff {text : String} :
    shown text = text ↔ ∀ c ∈ text.toList, StaysShown c := by
  rw [shown, expandTabs]
  constructor
  · intro same c member
    have written := congrArg String.toList same
    rw [String.toList_ofList] at written
    rw [← written] at member
    rcases mem_of_mem_expandFrom member with rfl | ⟨inside, noTab⟩
    · exact ⟨by decide, by decide⟩
    · have kept := (List.mem_filter.mp inside).2
      exact ⟨by simpa using kept, noTab⟩
  · intro stays
    have kept : (text.toList.filter fun c => !isDropped c) = text.toList :=
      List.filter_eq_self.mpr fun c member => by simp [(stays c member).1]
    rw [kept, expandFrom_eq_self fun tab => (stays _ tab).2 rfl, String.ofList_toList]

end ShellPrompt.Terminal
