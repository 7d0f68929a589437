import ShellPrompt.Proofs.OrderedMap
import ShellPrompt.Proofs.Report
import ShellPrompt.Terminal.Color

/-!
Which colours can be neither read nor dropped: mixed ones whose three parts are digits and blanks,
but not all of them numbers.
-/

namespace ShellPrompt.Terminal

section Commas
variable {part : List Char}

theorem splitCommas_of_not_mem (noComma : ',' ∉ part) : splitCommas part = [part] := by
  induction part with
  | nil => rfl
  | cons c part inductionHypothesis =>
      have differs : c ≠ ',' := fun same => noComma (same ▸ List.mem_cons_self)
      rw [splitCommas, inductionHypothesis fun inside => noComma (.tail _ inside)]
      exact differs

theorem splitCommas_append (noComma : ',' ∉ part) (rest : List Char) :
    splitCommas (part ++ ',' :: rest) = part :: splitCommas rest := by
  induction part with
  | nil => rfl
  | cons c part inductionHypothesis =>
      have differs : c ≠ ',' := fun same => noComma (same ▸ List.mem_cons_self)
      rw [List.cons_append, splitCommas,
        inductionHypothesis fun inside => noComma (.tail _ inside)]
      exact differs

theorem splitCommas_ne_nil (text : List Char) : splitCommas text ≠ [] := by
  fun_cases splitCommas text <;> exact nofun

/-- The first part goes up to the first comma, or to the end. -/
theorem splitCommas_eq_cons_iff {text : List Char} {parts : List (List Char)} :
    splitCommas text = part :: parts ↔
      ',' ∉ part ∧ (parts = [] ∧ text = part ∨
        ∃ rest, text = part ++ ',' :: rest ∧ splitCommas rest = parts) := by
  constructor
  · intro split
    fun_induction splitCommas text generalizing part with
    | case1 =>
        cases split
        exact ⟨nofun, .inl ⟨rfl, rfl⟩⟩
    | case2 rest inductionHypothesis =>
        cases split
        exact ⟨nofun, .inr ⟨rest, rfl, rfl⟩⟩
    | case3 c rest noComma empty inductionHypothesis => exact absurd empty (splitCommas_ne_nil rest)
    | case4 c rest noComma first others later inductionHypothesis =>
        cases split
        obtain ⟨absent, joined⟩ := inductionHypothesis later
        refine ⟨?_, ?_⟩
        · rintro inside
          rcases List.mem_cons.mp inside with same | inside
          · exact noComma same.symm
          · exact absent inside
        · rcases joined with ⟨last, rfl⟩ | ⟨behind, rfl, split⟩
          · exact .inl ⟨last, rfl⟩
          · exact .inr ⟨behind, rfl, split⟩
  · rintro ⟨noComma, ⟨rfl, rfl⟩ | ⟨rest, rfl, rfl⟩⟩
    · exact splitCommas_of_not_mem noComma
    · exact splitCommas_append noComma rest

end Commas

/-- Three parts behind `rgb`, of digits and blanks only, but not all of them numbers. -/
def BrokenMix (name : List Char) : Prop :=
  ∃ red green blue, name = "rgb(".toList ++ red ++ ',' :: green ++ ',' :: blue ++ [')'] ∧
    (∀ part ∈ [red, green, blue], ∀ c ∈ part, Text.isDecimal c || Text.isBlank c) ∧
    ∃ part ∈ [red, green, blue], readPart part = none

theorem beforeParenthesis?_eq_some_iff {text inner : List Char} :
    beforeParenthesis? text = some inner ↔ text = inner ++ [')'] := by
  unfold beforeParenthesis?
  constructor
  · intro found
    split at found
    · rename_i last
      obtain ⟨before, rfl⟩ := List.getLast?_eq_some_iff.mp last
      cases found
      simp
    · cases found
  · rintro rfl
    simp

theorem splitCommas_eq_three_iff {text red green blue : List Char} :
    splitCommas text = [red, green, blue] ↔
      text = red ++ ',' :: (green ++ ',' :: blue) ∧
        ∀ part ∈ [red, green, blue], ',' ∉ part := by
  simp only [List.forall_mem_cons, List.not_mem_nil, false_implies, implies_true, and_true]
  constructor
  · intro parts
    obtain ⟨noRed, ⟨⟨⟩, _⟩ | ⟨afterRed, rfl, others⟩⟩ := splitCommas_eq_cons_iff.mp parts
    obtain ⟨noGreen, ⟨⟨⟩, _⟩ | ⟨afterGreen, rfl, last⟩⟩ := splitCommas_eq_cons_iff.mp others
    obtain ⟨noBlue, ⟨_, rfl⟩ | ⟨rest, _, empty⟩⟩ := splitCommas_eq_cons_iff.mp last
    · exact ⟨rfl, noRed, noGreen, noBlue⟩
    · exact absurd empty (splitCommas_ne_nil rest)
  · rintro ⟨rfl, noRed, noGreen, noBlue⟩
    rw [splitCommas_append noRed, splitCommas_append noGreen, splitCommas_of_not_mem noBlue]

theorem not_mem_of_written {part : List Char}
    (written : ∀ c ∈ part, Text.isDecimal c || Text.isBlank c) : ',' ∉ part := by
  intro inside
  have comma : (Text.isDecimal ',' || Text.isBlank ',') = false := by decide
  rw [written ',' inside] at comma
  cases comma

/-- Commas aside, three parts are written with the characters of a mixed colour if each is. -/
theorem all_written_iff {red green blue : List Char}
    (noComma : ∀ part ∈ [red, green, blue], ',' ∉ part) :
    (red ++ ',' :: (green ++ ',' :: blue)).all
        (fun c => Text.isDecimal c || Text.isBlank c || c == ',') = true ↔
      ∀ part ∈ [red, green, blue], ∀ c ∈ part, Text.isDecimal c || Text.isBlank c := by
  have each : ∀ part ∈ [red, green, blue],
      (part.all (fun c => Text.isDecimal c || Text.isBlank c || c == ',') = true ↔
        ∀ c ∈ part, Text.isDecimal c || Text.isBlank c) := by
    intro part member
    rw [List.all_eq_true]
    refine forall₂_congr fun c inside => ?_
    have differs : c ≠ ',' := fun same => noComma part member (same ▸ inside)
    simp [differs]
  rw [← forall₂_congr each]
  simp

theorem exists_error_readMixed_iff {name : String} {text : List Char} :
    (∃ fault, readMixed name text = .error fault) ↔ BrokenMix ("rgb(".toList ++ text) := by
  unfold readMixed
  constructor
  · rintro ⟨fault, failed⟩
    split at failed
    · cases failed
    · rename_i inner found
      have ends := beforeParenthesis?_eq_some_iff.mp found
      split at failed
      · rename_i written
        split at failed
        · rename_i red green blue parts
          obtain ⟨rfl, noComma⟩ := splitCommas_eq_three_iff.mp parts
          refine ⟨red, green, blue, by rw [ends]; simp, (all_written_iff noComma).mp written.2, ?_⟩
          cases redPart : readPart red with
          | none => exact ⟨red, by simp, redPart⟩
          | some _ =>
            cases greenPart : readPart green with
            | none => exact ⟨green, by simp, greenPart⟩
            | some _ =>
              cases bluePart : readPart blue with
              | none => exact ⟨blue, by simp, bluePart⟩
              | some _ =>
                simp only [redPart, greenPart, bluePart] at failed
                split at failed <;> cases failed
        · cases failed
      · cases failed
  · rintro ⟨red, green, blue, same, written, broken⟩
    have ends : text = red ++ ',' :: (green ++ ',' :: blue) ++ [')'] := by
      refine List.append_cancel_left (?_ : "rgb(".toList ++ text = _)
      rw [same]
      simp
    have noComma : ∀ part ∈ [red, green, blue], ',' ∉ part :=
      fun part member => not_mem_of_written (written part member)
    refine ⟨⟨name⟩, ?_⟩
    rw [beforeParenthesis?_eq_some_iff.mpr ends]
    simp only [splitCommas_eq_three_iff.mpr ⟨rfl, noComma⟩]
    rw [if_pos ⟨by simp, (all_written_iff noComma).mpr written⟩]
    split
    · rename_i redPart greenPart bluePart
      obtain ⟨part, member, noNumber⟩ := broken
      simp only [List.mem_cons, List.not_mem_nil, or_false] at member
      rcases member with rfl | rfl | rfl
      · cases redPart.symm.trans noNumber
      · cases greenPart.symm.trans noNumber
      · cases bluePart.symm.trans noNumber
    · rfl

theorem BrokenMix.exists_rest {name : List Char} (broken : BrokenMix name) :
    ∃ rest, name = 'r' :: 'g' :: 'b' :: '(' :: rest := by
  obtain ⟨red, green, blue, written, _⟩ := broken
  exact ⟨red ++ ',' :: (green ++ ',' :: blue) ++ [')'], by rw [written]; simp⟩

theorem exists_error_readShade_iff {name : String} :
    (∃ fault, readShade name = .error fault) ↔ BrokenMix name.toList := by
  constructor
  · rintro ⟨fault, failed⟩
    unfold readShade at failed
    split at failed
    · cases failed
    · split at failed
      · cases failed
      · split at failed
        · cases failed
        · cases failed
        · rename_i rest written
          rw [written]
          exact exists_error_readMixed_iff.mp ⟨fault, failed⟩
        · cases failed
  · intro broken
    obtain ⟨rest, written⟩ := broken.exists_rest
    have noDefault : name ≠ "default" := by
      rintro rfl
      cases written
    have unnamed : OrderedMap.find name colorNames = none := by
      have others : ∀ other ∈ colorNames.map Prod.fst, other.toList.take 4 ≠ "rgb(".toList := by
        decide +kernel
      refine OrderedMap.find_eq_none_iff.mpr fun inside => others name inside ?_
      rw [written]
      rfl
    rw [readShade, if_neg noDefault, unnamed, written]
    rw [written] at broken
    exact exists_error_readMixed_iff.mpr broken

/-- The one kind of colour that can be neither read nor dropped. -/
theorem exists_error_read_iff {written : String} :
    (∃ fault, Color.read (some written) = .error fault) ↔
      BrokenMix (trim (Text.lower written).toList) := by
  rw [Color.read]
  split
  · rename_i absent
    have others : ∀ word ∈ ["", "inherit"],
        (trim (Text.lower word).toList).take 4 ≠ "rgb(".toList := by
      decide +kernel
    refine iff_of_false nofun fun broken => ?_
    obtain ⟨rest, same⟩ := broken.exists_rest
    refine others written (by simpa using absent) ?_
    rw [same]
    rfl
  · simp only [exists_error_map_iff, exists_error_readShade_iff, String.toList_ofList]

end ShellPrompt.Terminal
