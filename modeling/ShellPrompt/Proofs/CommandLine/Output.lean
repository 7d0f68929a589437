import ShellPrompt.Proofs.CommandLine.Ending
import ShellPrompt.Proofs.Config.LineEnds
import ShellPrompt.Proofs.Terminal.Console

/-!
The same configuration on the output and in a file. Both get the same text, but the output is a
console that shows tabs as blanks and leaves out carriage returns, so they agree exactly if the text
has none of these.
-/

namespace ShellPrompt

theorem Terminal.isControl_of_isDropped {c : Char} (dropped : isDropped c = true) :
    Toml.isControl c = true ∧ c ≠ '\n' := by
  simp only [isDropped, Bool.or_eq_true, beq_iff_eq] at dropped
  rcases dropped with (((rfl | rfl) | rfl) | rfl) | rfl <;> decide

/-- A console shows a written configuration as it is exactly if there is no tab and no carriage
return in it. -/
theorem Terminal.shown_generate_iff {modules : List Module} {settings : Config.Settings}
    {text : String} (done : (Config.generate modules settings).outcome = .ok text) :
    shown text = text ↔ '\t' ∉ text.toList ∧ '\r' ∉ text.toList := by
  rw [shown_eq_self_iff]
  constructor
  · intro stays
    exact ⟨fun tab => (stays _ tab).2 rfl, fun back => by cases (stays _ back).1⟩
  · rintro ⟨noTab, noReturn⟩ c member
    refine ⟨?_, fun same => noTab (same ▸ member)⟩
    cases dropped : isDropped c with
    | false => rfl
    | true =>
        have control := isControl_of_isDropped dropped
        rcases Config.onlyBreaks_generate done c member control.1 with feed | ⟨rfl, _⟩
        · exact absurd feed control.2
        · exact absurd member noReturn

namespace CommandLine

section Runs
variable {host : Host} {catalog : Theme.Catalog} {preferences : List (Value × Value)}
  {choice : ThemeChoice} {config : Option Path} {ended : Ended}

theorem run_eq_ok_iff {invocation : Invocation} :
    (run host invocation).outcome = .ok ended ↔ ∃ catalog preferences,
      (Theme.Catalog.load host invocation.themesFile).outcome = .ok catalog ∧
      (Preferences.load host (Preferences.location host)).outcome = .ok preferences ∧
      (proceed host catalog preferences invocation.command).outcome = .ok ended := by
  simp only [run, Report.outcome_bind, bind_eq_ok_iff, Report.mapFault, mapError_eq_ok_iff]
  constructor
  · rintro ⟨catalog, loaded, preferences, preferred, done⟩
    exact ⟨catalog, preferences, loaded, preferred, done⟩
  · rintro ⟨catalog, preferences, loaded, preferred, done⟩
    exact ⟨catalog, loaded, preferences, preferred, done⟩

/-- A run succeeds with a theme and a configuration if its last step does. -/
theorem withThemeAndConfig_eq_ok_iff {next : Registry → Theme → Config.Parsed → Report Fault Ended}
    (success : ended.status = 0) :
    (withThemeAndConfig host catalog preferences choice config next).outcome = .ok ended ↔
      ∃ theme parsed, Selects host catalog preferences choice config theme parsed ∧
        (next Registry.standard theme parsed).outcome = .ok ended := by
  simp only [withThemeAndConfig, Step.andThen_eq_ok_iff]
  constructor
  · rintro (refused | ⟨theme, themed, refused | ⟨parsed, configured, done⟩⟩)
    · obtain ⟨complaint, rfl⟩ := eq_complain_of_selectTheme refused
      cases success
    · obtain ⟨complaint, rfl⟩ := eq_complain_of_selectConfig refused
      cases success
    · exact ⟨theme, parsed, ⟨themed, configured⟩, done⟩
  · rintro ⟨theme, parsed, selects, done⟩
    exact .inr ⟨theme, selects.theme, .inr ⟨parsed, selects.config, done⟩⟩

theorem write_none_eq_ok_iff {theme : Theme} {parsed : Config.Parsed} {embed : Bool} :
    (write host theme parsed none embed).outcome = .ok ended ↔ ∃ text,
      (Config.generate parsed.modules (writtenSettings theme parsed.settings embed).1).outcome =
        .ok text ∧
      ended = {
        status := doneStatus, output := Terminal.shown text
        errors := (writtenSettings theme parsed.settings embed).2, files := host.files } := by
  simp only [write, Report.outcome_bind, bind_eq_ok_iff, Report.mapFault, mapError_eq_ok_iff]
  refine exists_congr fun text => and_congr_right fun _ => ⟨?_, ?_⟩
  · rintro ⟨⟩
    rfl
  · rintro rfl
    rfl

theorem write_some_of_generate {theme : Theme} {parsed : Config.Parsed} {embed : Bool}
    {path : Path} {text : String} (writable : ¬ Config.Unwritable host path)
    (generated : (Config.generate parsed.modules
      (writtenSettings theme parsed.settings embed).1).outcome = .ok text) :
    ∃ saved, (write host theme parsed (some path) embed).outcome = .ok saved ∧ saved.status = 0 ∧
      Files.WritesOnly host.files saved.files host.working path text.toUTF8 := by
  have saves := Config.outcome_save_of_generate writable generated
  obtain ⟨other, same, writes⟩ := Config.files_save_of_ok saves
  cases generated.symm.trans same
  have done : (write host theme parsed (some path) embed).outcome = .ok {
      status := doneStatus
      output := Terminal.shownLine ("✅ Exported to: " ++ path.toText)
      errors := (writtenSettings theme parsed.settings embed).2
      files := (Config.save host path parsed.modules
        (writtenSettings theme parsed.settings embed).1).1 } := by
    simp only [write, Report.outcome_bind, Report.mapFault, saves]
    rfl
  exact ⟨_, done, rfl, writes⟩

/-- Where a configuration is written to the output, the same command writes it to any file that can
be written, and the output has what a console shows of it. That is the text of the file exactly if
there is no tab and no carriage return in it. -/
theorem output_run {invocation : Invocation} {embed : Bool}
    (written : invocation.command = .write config choice none embed)
    (done : (run host invocation).outcome = .ok ended) (success : ended.status = 0) :
    ∃ text,
      (∀ path, ¬ Config.Unwritable host path → ∃ saved,
        (run host { invocation with command := .write config choice (some path) embed }).outcome =
          .ok saved ∧
        saved.status = 0 ∧
        Files.WritesOnly host.files saved.files host.working path text.toUTF8) ∧
      ended.output = Terminal.shown text ∧
      (ended.output = text ↔ '\t' ∉ text.toList ∧ '\r' ∉ text.toList) := by
  obtain ⟨catalog, preferences, loaded, preferred, done⟩ := run_eq_ok_iff.mp done
  rw [written] at done
  obtain ⟨theme, parsed, selects, done⟩ := (withThemeAndConfig_eq_ok_iff success).mp done
  obtain ⟨text, generated, rfl⟩ := write_none_eq_ok_iff.mp done
  refine ⟨text, fun path writable => ?_, rfl, Terminal.shown_generate_iff generated⟩
  obtain ⟨saved, done, success, writes⟩ := write_some_of_generate writable generated
  refine ⟨saved, ?_, success, writes⟩
  refine run_eq_ok_iff.mpr ⟨catalog, preferences, loaded, preferred, ?_⟩
  exact (withThemeAndConfig_eq_ok_iff success).mpr ⟨theme, parsed, selects, done⟩

/-- A tab that the module's format holds as it is. -/
theorem output_run_tab :
    let config := "format = '$time'\n[time]\nformat = 'a\tb'\n"
    let host : Host := { files := ⟨.ofList [(["c.toml"], .file config.toUTF8)]⟩ }
    let command (output : Option Path) : Command := .write (some (.ofText "c.toml")) {} output false
    ∃ ended, (run host { command := command none }).outcome = .ok ended ∧ ended.status = 0 ∧
      ∃ text,
        (∀ path, ¬ Config.Unwritable host path → ∃ saved,
          (run host { command := command (some path) }).outcome = .ok saved ∧ saved.status = 0 ∧
          Files.WritesOnly host.files saved.files [] path text.toUTF8) ∧
        ended.output = Terminal.shown text ∧
        (ended.output = text ↔ '\t' ∉ text.toList ∧ '\r' ∉ text.toList) := by
  intro config host command
  have succeeds : (run host { command := command none }).outcome.toOption.any
      fun ended => ended.status = 0 := by
    decide +kernel
  obtain ⟨ended, done, success⟩ := exists_ok_of_any succeeds
  have success : ended.status = 0 := of_decide_eq_true success
  exact ⟨ended, done, success, output_run rfl done success⟩

/-- With the tab, the output is not what the same command writes to a file. -/
theorem output_run_ne_file :
    let config := "format = '$time'\n[time]\nformat = 'a\tb'\n"
    let host : Host := { files := ⟨.ofList [(["c.toml"], .file config.toUTF8)]⟩ }
    let command (output : Option Path) : Command := .write (some (.ofText "c.toml")) {} output false
    ∃ ended saved content, (run host { command := command none }).outcome = .ok ended ∧
      ended.status = 0 ∧
      (run host { command := command (some (.ofText "p.toml")) }).outcome = .ok saved ∧
      saved.status = 0 ∧ saved.files.content? ["p.toml"] = some content ∧
      ended.output.toUTF8 ≠ content := by
  intro config host command
  have differs : (run host { command := command none }).outcome.toOption.any fun ended =>
      (run host { command := command (some (.ofText "p.toml")) }).outcome.toOption.any fun saved =>
        (saved.files.content? ["p.toml"]).any fun content =>
          ended.status = 0 ∧ saved.status = 0 ∧ ended.output.toUTF8 ≠ content := by
    decide +kernel
  obtain ⟨ended, done, differs⟩ := exists_ok_of_any differs
  obtain ⟨saved, saves, differs⟩ := exists_ok_of_any differs
  obtain ⟨content, held, differs⟩ := (Option.any_eq_true _ _).mp differs
  obtain ⟨success, written, differs⟩ := of_decide_eq_true differs
  exact ⟨ended, saved, content, done, success, saves, written, held, differs⟩

end Runs

end CommandLine

end ShellPrompt
