import ShellPrompt.Proofs.Terminal.Color
import ShellPrompt.Terminal.Text

/-!
Which segments make up a text for a terminal: all whose colours can be read, or dropped.
-/

namespace ShellPrompt.Terminal

/-- One of the two colours of a style can be neither read nor dropped. -/
def BrokenStyle (style : Style) : Prop :=
  ∃ color, (style.foreground = some color ∨ style.background = some color) ∧
    BrokenMix (trim (Text.lower color).toList)

theorem exists_error_ofStyle_iff {style : Style} :
    (∃ fault, Look.ofStyle style = .error fault) ↔ BrokenStyle style := by
  have each {written : Option String} : (∃ fault, Color.read written = .error fault) ↔
      ∃ color, written = some color ∧ BrokenMix (trim (Text.lower color).toList) := by
    cases written with
    | none => simp [Color.read]
    | some color => simp only [exists_error_read_iff, Option.some.injEq, exists_eq_left']
  have parts : BrokenStyle style ↔ (∃ fault, Color.read style.foreground = .error fault) ∨
      ∃ fault, Color.read style.background = .error fault := by
    rw [each, each, ← exists_or]
    simp only [BrokenStyle, or_and_right]
  rw [parts]
  exact exists_error_bind_iff_or fun _ _ => exists_error_bind_ok_iff

theorem StyledText.exists_error_pushSegment_iff {styled : StyledText} {segment : Segment} :
    (∃ fault, styled.pushSegment segment = .error fault) ↔ BrokenStyle segment.style := by
  rw [← exists_error_ofStyle_iff]
  exact exists_error_bind_ok_iff

theorem StyledText.exists_error_foldlM_iff {styled : StyledText} {segments : List Segment} :
    (∃ fault, segments.foldlM pushSegment styled = .error fault) ↔
      ∃ segment ∈ segments, BrokenStyle segment.style := by
  induction segments generalizing styled with
  | nil => exact iff_of_false nofun nofun
  | cons segment rest inductionHypothesis =>
      simp only [List.foldlM_cons, List.mem_cons, exists_eq_or_imp]
      rw [← exists_error_pushSegment_iff]
      exact exists_error_bind_iff_or fun _ _ => inductionHypothesis

theorem StyledText.exists_error_ofSegments_iff {segments : List Segment} :
    (∃ fault, ofSegments segments = .error fault) ↔
      ∃ segment ∈ segments, BrokenStyle segment.style :=
  exists_error_foldlM_iff

end ShellPrompt.Terminal
