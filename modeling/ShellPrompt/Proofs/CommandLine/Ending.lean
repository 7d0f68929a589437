import ShellPrompt.Proofs.CommandLine.Selection

/-!
How a run ends: with one of three statuses, and with all files as they were, unless it was told to
save a configuration and has done so. Then that is all that it has written.
-/

namespace ShellPrompt.CommandLine

/-- The path that a command saves to. -/
def Command.output? : Command → Option Path
  | .write _ _ output _ => output
  | _ => none

section Commands
variable {host : Host} {catalog : Theme.Catalog} {preferences : List (Value × Value)}
  {choice : ThemeChoice} {config : Option Path} {theme : Theme} {parsed : Config.Parsed}

/-- A theme and a configuration that a run goes on with. -/
structure Selects (host : Host) (catalog : Theme.Catalog) (preferences : List (Value × Value))
    (choice : ThemeChoice) (config : Option Path) (theme : Theme) (parsed : Config.Parsed) :
    Prop where
  theme : (selectTheme host catalog preferences choice).outcome = .ok (.ok theme)
  config : (selectConfig host Registry.standard config).outcome = .ok (.ok parsed)

/-- The ways that a command can end: with a complaint, with all that it does on the output, or with
a configuration that is saved. -/
inductive Ending (host : Host) (catalog : Theme.Catalog) (preferences : List (Value × Value)) :
    Command → Ended → Prop
  | refused {command : Command} {status : Nat} {complaint : String}
      (refusal : status = invalidConfigStatus ∨ status = invalidThemeStatus) :
      Ending host catalog preferences command (complain host status complaint)
  | shown {command : Command} {output errors : String} (unsaved : command.output? = none) :
      Ending host catalog preferences command
        { status := doneStatus, output, errors, files := host.files }
  | saved {choice : ThemeChoice} {config : Option Path} {path : Path} {embed : Bool}
      {theme : Theme} {parsed : Config.Parsed} {output errors : String}
      (selects : Selects host catalog preferences choice config theme parsed)
      (done : (Config.save host path parsed.modules
        (writtenSettings theme parsed.settings embed).1).2.outcome = .ok ()) :
      Ending host catalog preferences (.write config choice (some path) embed)
        { status := doneStatus, output, errors
          files := (Config.save host path parsed.modules
            (writtenSettings theme parsed.settings embed).1).1 }

theorem fst_writtenSettings (theme : Theme) (settings : Config.Settings) (embed : Bool) :
    (writtenSettings theme settings embed).1 =
      if embed then settings.embed theme else settings := by
  cases embed <;> rfl

/-- A run is over before it has both a theme and a configuration, or goes on with them. -/
theorem ending_withThemeAndConfig {command : Command} {ended : Ended}
    {next : Registry → Theme → Config.Parsed → Report Fault Ended}
    (done : (withThemeAndConfig host catalog preferences choice config next).outcome = .ok ended)
    (goesOn : ∀ theme parsed, Selects host catalog preferences choice config theme parsed →
      (next Registry.standard theme parsed).outcome = .ok ended →
      Ending host catalog preferences command ended) :
    Ending host catalog preferences command ended := by
  rcases Step.andThen_eq_ok_iff.mp done with refused | ⟨theme, themed, done⟩
  · obtain ⟨complaint, rfl⟩ := eq_complain_of_selectTheme refused
    exact .refused (.inr rfl)
  · rcases Step.andThen_eq_ok_iff.mp done with refused | ⟨parsed, configured, done⟩
    · obtain ⟨complaint, rfl⟩ := eq_complain_of_selectConfig refused
      exact .refused (.inl rfl)
    · exact goesOn theme parsed ⟨themed, configured⟩ done

theorem ending_preview {id : Option String} {ended : Ended}
    (done : (preview host Registry.standard preferences theme parsed id).outcome = .ok ended) :
    Ending host catalog preferences (.preview config choice id) ended := by
  unfold preview at done
  split at done
  · cases done
    exact .refused (.inr rfl)
  · simp only [Report.outcome_bind] at done
    obtain ⟨segments, _, done⟩ := bind_eq_ok_iff.mp done
    obtain ⟨styled, _, done⟩ := bind_eq_ok_iff.mp done
    cases done
    exact .shown rfl

theorem ending_write {output : Option Path} {embed : Bool} {ended : Ended}
    (selects : Selects host catalog preferences choice config theme parsed)
    (done : (write host theme parsed output embed).outcome = .ok ended) :
    Ending host catalog preferences (.write config choice output embed) ended := by
  unfold write at done
  cases output with
  | some path =>
      simp only [Report.outcome_bind] at done
      obtain ⟨⟨⟩, saved, done⟩ := bind_eq_ok_iff.mp done
      cases done
      exact .saved selects (mapError_eq_ok_iff.mp saved)
  | none =>
      simp only [Report.outcome_bind] at done
      obtain ⟨text, _, done⟩ := bind_eq_ok_iff.mp done
      cases done
      exact .shown rfl

theorem ending_proceed {command : Command} {ended : Ended}
    (done : (proceed host catalog preferences command).outcome = .ok ended) :
    Ending host catalog preferences command ended := by
  cases command with
  | themes =>
      cases done
      exact .shown rfl
  | preview config choice id =>
      exact ending_withThemeAndConfig done fun _ _ _ done => ending_preview done
  | write config choice output embed =>
      exact ending_withThemeAndConfig done fun _ _ selects done => ending_write selects done

theorem Ending.status_mem {command : Command} {ended : Ended}
    (ending : Ending host catalog preferences command ended) : ended.status ∈ [0, 1, 2] := by
  cases ending with
  | refused refusal =>
      rcases refusal with rfl | rfl <;> simp [complain, invalidConfigStatus, invalidThemeStatus]
  | shown => simp [doneStatus]
  | saved => simp [doneStatus]

theorem Ending.files_eq {command : Command} {ended : Ended}
    (ending : Ending host catalog preferences command ended)
    (unsaved : ended.status ≠ 0 ∨ command.output? = none) : ended.files = host.files := by
  cases ending with
  | refused => rfl
  | shown => rfl
  | saved selects done =>
      rcases unsaved with failed | noOutput
      · exact absurd rfl failed
      · cases noOutput

theorem Ending.exists_text {path : Path} {embed : Bool} {ended : Ended}
    (ending : Ending host catalog preferences (.write config choice (some path) embed) ended)
    (success : ended.status = 0) :
    ∃ theme parsed text, Selects host catalog preferences choice config theme parsed ∧
      (Config.generate parsed.modules
        (if embed then parsed.settings.embed theme else parsed.settings)).outcome = .ok text ∧
      Files.WritesOnly host.files ended.files host.working path text.toUTF8 := by
  cases ending with
  | refused refusal => rcases refusal with rfl | rfl <;> cases success
  | shown unsaved => cases unsaved
  | @saved _ _ _ _ theme parsed _ _ selects done =>
      obtain ⟨text, generated, writes⟩ := Config.files_save_of_ok done
      rw [fst_writtenSettings] at generated
      exact ⟨theme, parsed, text, selects, generated, writes⟩

theorem ending_run {invocation : Invocation} {ended : Ended}
    (done : (run host invocation).outcome = .ok ended) :
    ∃ catalog preferences,
      (Theme.Catalog.load host invocation.themesFile).outcome = .ok catalog ∧
      (Preferences.load host (Preferences.location host)).outcome = .ok preferences ∧
      Ending host catalog preferences invocation.command ended := by
  simp only [run, Report.outcome_bind] at done
  obtain ⟨catalog, loaded, done⟩ := bind_eq_ok_iff.mp done
  obtain ⟨preferences, preferred, done⟩ := bind_eq_ok_iff.mp done
  exact ⟨catalog, preferences, mapError_eq_ok_iff.mp loaded, mapError_eq_ok_iff.mp preferred,
    ending_proceed done⟩

end Commands

section Frame
variable {host : Host} {invocation : Invocation} {ended : Ended}

/-- A run that ends without success, or that was told no file to save to, leaves all files as they
are. One that was told a file and succeeds writes only that: a document for the configuration that
it selected from the files as they were, with the palette of its theme if that is to be embedded. -/
theorem files_run (done : (run host invocation).outcome = .ok ended) :
    (ended.status ≠ 0 ∨ invocation.command.output? = none → ended.files = host.files) ∧
      ∀ config choice path embed, invocation.command = .write config choice (some path) embed →
        ended.status = 0 →
          ∃ catalog preferences theme parsed text,
            (Theme.Catalog.load host invocation.themesFile).outcome = .ok catalog ∧
            (Preferences.load host (Preferences.location host)).outcome = .ok preferences ∧
            Selects host catalog preferences choice config theme parsed ∧
            (Config.generate parsed.modules
              (if embed then parsed.settings.embed theme else parsed.settings)).outcome =
                .ok text ∧
            Files.WritesOnly host.files ended.files host.working path text.toUTF8 := by
  obtain ⟨catalog, preferences, loaded, preferred, ending⟩ := ending_run done
  refine ⟨ending.files_eq, fun config choice path embed written success => ?_⟩
  rw [written] at ending
  obtain ⟨theme, parsed, text, selects, generated, writes⟩ := ending.exists_text success
  exact ⟨catalog, preferences, theme, parsed, text, loaded, preferred, selects, generated, writes⟩

/-- A configuration is read before its own file is written anew. -/
theorem files_run_onto_config :
    let host : Host := { files := ⟨.ofList [(["c.toml"], .file "format = '$time'".toUTF8)]⟩ }
    let path : Path := .ofText "c.toml"
    let invocation : Invocation := { command := .write (some path) {} (some path) true }
    ∃ ended, (run host invocation).outcome = .ok ended ∧ ended.status = 0 ∧
      ∃ catalog preferences theme parsed text,
        (Theme.Catalog.load host none).outcome = .ok catalog ∧
        (Preferences.load host (Preferences.location host)).outcome = .ok preferences ∧
        Selects host catalog preferences {} (some path) theme parsed ∧
        (Config.generate parsed.modules (parsed.settings.embed theme)).outcome = .ok text ∧
        Files.WritesOnly host.files ended.files [] path text.toUTF8 := by
  intro host path invocation
  have succeeds : (run host invocation).outcome.toOption.any (fun ended => ended.status = 0) := by
    decide +kernel
  obtain ⟨ended, done, success⟩ := exists_ok_of_any succeeds
  have success : ended.status = 0 := of_decide_eq_true success
  obtain ⟨catalog, preferences, theme, parsed, text, loaded, preferred, selects, generated, only⟩ :=
    (files_run done).2 (some path) {} path true rfl success
  rw [if_pos rfl] at generated
  exact ⟨ended, done, success, catalog, preferences, theme, parsed, text, loaded, preferred,
    selects, generated, only⟩

end Frame

end ShellPrompt.CommandLine
