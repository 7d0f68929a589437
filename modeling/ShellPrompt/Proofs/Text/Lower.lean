import ShellPrompt.Text.Lower
import ShellPrompt.Text.Words

/-!
Visible characters, which are those that are not blank. Lowering a text keeps visible what was
visible, and a text has words exactly where it has visible characters.
-/

namespace ShellPrompt.Text

/-- Ranges of the blank characters. -/
def blankRanges : List (Nat × Nat) := [
  (9, 13), (28, 32), (0x85, 0x85), (0xA0, 0xA0), (0x1680, 0x1680), (0x2000, 0x200A),
  (0x2028, 0x2028), (0x2029, 0x2029), (0x202F, 0x202F), (0x205F, 0x205F), (0x3000, 0x3000)]

theorem isBlank_eq_inRanges (c : Char) : isBlank c = inRanges blankRanges c.toNat := by
  rw [Bool.eq_iff_iff]
  simp only [isBlank, inRanges, blankRanges, List.any_cons, List.any_nil, Bool.or_false,
    Bool.or_eq_true, Bool.and_eq_true, decide_eq_true_eq, beq_iff_eq]
  omega

def HasVisible (text : List Char) : Prop := ∃ c ∈ text, isBlank c = false

theorem not_hasVisible_iff {text : List Char} :
    ¬ HasVisible text ↔ ∀ c ∈ text, isBlank c = true := by
  simp [HasVisible]

section Lowering

/-- No lower case form of the table is blank. -/
theorem apart_lowerRuns : ∀ run ∈ lowerRuns, ∀ range ∈ blankRanges,
    run.2.2.2 + (run.2.1 - run.1) < range.1 ∨ range.2 < run.2.2.2 := by
  decide +kernel

theorem toNat_ofNat (n : Nat) : (Char.ofNat n).toNat = n ∨ (Char.ofNat n).toNat = 0 := by
  rw [Char.ofNat]
  by_cases valid : n.isValidChar
  · rw [dif_pos valid]
    exact .inl rfl
  · rw [dif_neg valid]
    exact .inr rfl

theorem isBlank_ofNat_of_mem {run : Nat × Nat × Nat × Nat} (member : run ∈ lowerRuns) {n : Nat}
    (least : run.2.2.2 ≤ n) (greatest : n ≤ run.2.2.2 + (run.2.1 - run.1)) :
    isBlank (Char.ofNat n) = false := by
  rw [isBlank_eq_inRanges, inRanges, List.any_eq_false]
  intro range blank inside
  simp only [Bool.and_eq_true, decide_eq_true_eq] at inside
  rcases toNat_ofNat n with same | invalid
  · rw [same] at inside
    have apart := apart_lowerRuns run member range blank
    omega
  · rw [invalid] at inside
    exact absurd inside.1 (by revert range; decide)

/-- ASCII characters are few enough to look at each of them. -/
theorem isBlank_toLower {c : Char} (ascii : c.toNat < 128) (visible : isBlank c = false) :
    isBlank c.toLower = false := by
  have each : ∀ n < 128, isBlank (Char.ofNat n) = false →
      isBlank (Char.ofNat n).toLower = false := by decide
  have same := each c.toNat ascii
  rw [Char.ofNat_toNat] at same
  exact same visible

theorem hasVisible_lowerChar {c : Char} (visible : isBlank c = false) :
    HasVisible (lowerChar c) := by
  simp only [lowerChar]
  split
  · rename_i ascii
    exact ⟨c.toLower, List.mem_singleton_self _, isBlank_toLower ascii visible⟩
  · split
    · exact ⟨'i', List.mem_cons_self, rfl⟩
    · split
      · rename_i first last step target found
        have inRun := List.find?_some found
        simp only [Bool.and_eq_true, decide_eq_true_eq] at inRun
        refine ⟨_, List.mem_singleton_self _, ?_⟩
        apply isBlank_ofNat_of_mem (List.mem_of_find?_eq_some found)
        · exact Nat.le_add_right _ _
        · simp only
          omega
      · exact ⟨c, List.mem_singleton_self _, visible⟩

theorem HasVisible.append_left {first : List Char} (visible : HasVisible first)
    (second : List Char) : HasVisible (first ++ second) := by
  obtain ⟨c, member, visible⟩ := visible
  exact ⟨c, List.mem_append_left second member, visible⟩

theorem HasVisible.append_right {second : List Char} (visible : HasVisible second)
    (first : List Char) : HasVisible (first ++ second) := by
  obtain ⟨c, member, visible⟩ := visible
  exact ⟨c, List.mem_append_right first member, visible⟩

theorem hasVisible_lowerFrom {text : List Char} (visible : HasVisible text) (inWord : Bool) :
    HasVisible (lowerFrom inWord text) := by
  obtain ⟨c, member, visible⟩ := visible
  induction text generalizing inWord with
  | nil => cases member
  | cons d text inductionHypothesis =>
      rw [lowerFrom]
      rcases List.mem_cons.mp member with rfl | member
      · apply HasVisible.append_left
        split
        · split
          · exact ⟨'ς', List.mem_singleton_self _, rfl⟩
          · exact ⟨'σ', List.mem_singleton_self _, rfl⟩
        · exact hasVisible_lowerChar visible
      · exact (inductionHypothesis _ member).append_right _

/-- No blank is an upper case form of the table. -/
theorem apart_lowerRuns_blank : ∀ run ∈ lowerRuns, ∀ range ∈ blankRanges,
    run.2.1 < range.1 ∨ range.2 < run.1 := by
  decide +kernel

theorem lowerChar_of_blank {c : Char} (blank : isBlank c = true) : lowerChar c = [c] := by
  simp only [lowerChar]
  split
  · rename_i ascii
    have each : ∀ n < 128, isBlank (Char.ofNat n) = true →
        (Char.ofNat n).toLower = Char.ofNat n := by decide
    have same := each c.toNat ascii
    rw [Char.ofNat_toNat] at same
    rw [same blank]
  · rw [isBlank_eq_inRanges, inRanges, List.any_eq_true] at blank
    obtain ⟨range, known, inside⟩ := blank
    simp only [Bool.and_eq_true, decide_eq_true_eq] at inside
    split
    · rename_i dotted
      rw [dotted] at inside
      exact absurd inside (by revert range; decide)
    · split
      · rename_i first last step target found
        have inRun := List.find?_some found
        simp only [Bool.and_eq_true, decide_eq_true_eq] at inRun
        have apart : last < range.1 ∨ range.2 < first :=
          apart_lowerRuns_blank _ (List.mem_of_find?_eq_some found) range known
        omega
      · rfl

theorem lowerFrom_of_blank {text : List Char} (blank : ∀ c ∈ text, isBlank c = true)
    (inWord : Bool) : lowerFrom inWord text = text := by
  induction text generalizing inWord with
  | nil => rfl
  | cons c text inductionHypothesis =>
      obtain ⟨first, others⟩ := List.forall_mem_cons.mp blank
      have noSigma : c ≠ 'Σ' := by
        rintro rfl
        cases first
      simp only [lowerFrom, if_neg noSigma]
      rw [lowerChar_of_blank first, inductionHypothesis others, List.singleton_append]

end Lowering

section Words

theorem growFirst_ne_nil (c : Char) (others : List (List Char)) : growFirst c others ≠ [] := by
  cases others <;> exact List.cons_ne_nil _ _

theorem words_of_blank {text : List Char} (blank : ∀ c ∈ text, isBlank c = true) :
    words text = [] := by
  induction text with
  | nil => rfl
  | cons c text inductionHypothesis =>
      obtain ⟨first, others⟩ := List.forall_mem_cons.mp blank
      rw [words, if_pos first, inductionHypothesis others]

theorem words_ne_nil {text : List Char} (visible : HasVisible text) : words text ≠ [] := by
  obtain ⟨c, member, visible⟩ := visible
  induction text with
  | nil => cases member
  | cons d text inductionHypothesis =>
      rw [words]
      split
      · rename_i blank
        rcases List.mem_cons.mp member with rfl | member
        · rw [visible] at blank
          cases blank
        · exact inductionHypothesis member
      · split
        · exact growFirst_ne_nil _ _
        · exact List.cons_ne_nil _ _

theorem ne_nil_of_mem_words {text word : List Char} (member : word ∈ words text) : word ≠ [] := by
  induction text generalizing word with
  | nil => cases member
  | cons c text inductionHypothesis =>
      rw [words] at member
      split at member
      · exact inductionHypothesis member
      · split at member
        · cases others : words text with
          | nil =>
              rw [others] at member
              rcases List.mem_singleton.mp member with rfl
              exact List.cons_ne_nil _ _
          | cons first rest =>
              rw [others] at member
              rcases List.mem_cons.mp member with rfl | member
              · exact List.cons_ne_nil _ _
              · exact inductionHypothesis (others ▸ .tail _ member)
        · rcases List.mem_cons.mp member with rfl | member
          · exact List.cons_ne_nil _ _
          · exact inductionHypothesis member

end Words

end ShellPrompt.Text
