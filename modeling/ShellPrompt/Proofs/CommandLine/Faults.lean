import ShellPrompt.Proofs.CommandLine.Ending
import ShellPrompt.Proofs.Preferences
import ShellPrompt.Proofs.Terminal.Text

/-!
What keeps a run from ending: files and preferences of a few kinds, integers of too many digits,
colours that cannot be read, and places that nothing can be saved to. A run that meets none of these
ends with one of its three statuses.
-/

namespace ShellPrompt.CommandLine

/-- The theme and the configuration that a command asks for. -/
def Command.selection? : Command → Option (ThemeChoice × Option Path)
  | .preview config choice _ => some (choice, config)
  | .write config choice _ _ => some (choice, config)
  | .themes => none

section Commands
variable {host : Host} {catalog : Theme.Catalog} {preferences : List (Value × Value)}
  {choice : ThemeChoice} {config : Option Path} {theme : Theme} {parsed : Config.Parsed}

/-- What stops the last step of a command: a value or a colour of the preview, an integer that
cannot be written, or the place to save to. -/
inductive Unfinished (host : Host) (preferences : List (Value × Value)) (theme : Theme)
    (parsed : Config.Parsed) : Command → Prop
  | value {choice : ThemeChoice} {config : Option Path} {id : Option String}
      {context : Preview.Context} {mod : Module}
      (inside : surroundings? preferences id = some context) (member : mod ∈ parsed.modules)
      (shown : Preview.Visible context mod)
      (unwritten : ¬ Preview.Written Registry.standard context mod) :
      Unfinished host preferences theme parsed (.preview config choice id)
  | color {choice : ThemeChoice} {config : Option Path} {id : Option String}
      {context : Preview.Context} {segments : List Segment} {segment : Segment}
      (inside : surroundings? preferences id = some context)
      (shown : (previewed Registry.standard theme parsed context).outcome = .ok segments)
      (member : segment ∈ segments) (broken : Terminal.BrokenStyle segment.style) :
      Unfinished host preferences theme parsed (.preview config choice id)
  | digits {choice : ThemeChoice} {config : Option Path} {output : Option Path} {embed : Bool}
      (long : ¬ Config.FewDigits parsed.modules parsed.settings) :
      Unfinished host preferences theme parsed (.write config choice output embed)
  | output {choice : ThemeChoice} {config : Option Path} {path : Path} {embed : Bool}
      (unwritable : Config.Unwritable host path) :
      Unfinished host preferences theme parsed (.write config choice (some path) embed)

/-- What stops a command once its themes and preferences are loaded. -/
inductive Halted (host : Host) (catalog : Theme.Catalog) (preferences : List (Value × Value))
    (command : Command) : Prop
  | theme {choice : ThemeChoice} {config : Option Path}
      (asks : command.selection? = some (choice, config))
      (themeless : Themeless host preferences choice)
  | config {choice : ThemeChoice} {config : Option Path} {theme : Theme}
      (asks : command.selection? = some (choice, config))
      (themed : (selectTheme host catalog preferences choice).outcome = .ok (.ok theme))
      (unusable : UnusableConfig host (config.getD (Config.location host)))
  | last {choice : ThemeChoice} {config : Option Path} {theme : Theme} {parsed : Config.Parsed}
      (asks : command.selection? = some (choice, config))
      (selects : Selects host catalog preferences choice config theme parsed)
      (unfinished : Unfinished host preferences theme parsed command)

/-- A command that asks for a theme and a configuration is stopped while they are selected, or in
its last step. -/
theorem exists_error_withThemeAndConfig_iff {command : Command}
    (asks : command.selection? = some (choice, config))
    {next : Registry → Theme → Config.Parsed → Report Fault Ended}
    (last : ∀ theme parsed, Selects host catalog preferences choice config theme parsed →
      ((∃ fault, (next Registry.standard theme parsed).outcome = .error fault) ↔
        Unfinished host preferences theme parsed command)) :
    (∃ fault, (withThemeAndConfig host catalog preferences choice config next).outcome =
        .error fault) ↔ Halted host catalog preferences command := by
  simp only [withThemeAndConfig, Step.exists_error_andThen_iff, exists_error_selectTheme_iff,
    exists_error_selectConfig_iff]
  constructor
  · rintro (themeless | ⟨theme, themed, unusable | ⟨parsed, configured, failed⟩⟩)
    · exact .theme asks themeless
    · exact .config asks themed unusable
    · have selects : Selects host catalog preferences choice config theme parsed :=
        ⟨themed, configured⟩
      exact .last asks selects ((last theme parsed selects).mp failed)
  · intro halted
    cases halted with
    | theme same themeless =>
        cases asks.symm.trans same
        exact .inl themeless
    | config same themed unusable =>
        cases asks.symm.trans same
        exact .inr ⟨_, themed, .inl unusable⟩
    | last same selects unfinished =>
        cases asks.symm.trans same
        have failed := (last _ _ selects).mpr unfinished
        exact .inr ⟨_, selects.theme, .inr ⟨_, selects.config, failed⟩⟩

theorem exists_error_previewed_iff {context : Preview.Context} :
    (∃ fault, (previewed Registry.standard theme parsed context).outcome = .error fault) ↔
      ∃ mod ∈ parsed.modules, Preview.Visible context mod ∧
        ¬ Preview.Written Registry.standard context mod := by
  rw [exists_error_iff, previewed, Preview.exists_renderPrompt_iff]
  simp only [not_forall, exists_prop]

theorem exists_error_preview_iff {id : Option String} :
    (∃ fault, (preview host Registry.standard preferences theme parsed id).outcome =
        .error fault) ↔
      Unfinished host preferences theme parsed (.preview config choice id) := by
  unfold preview
  cases inside : surroundings? preferences id with
  | none =>
      refine iff_of_false nofun fun unfinished => ?_
      cases unfinished with
      | value given => cases inside.symm.trans given
      | color given => cases inside.symm.trans given
  | some context =>
      simp only [Report.outcome_bind, Report.outcome_pure, Report.ofExcept, Report.mapFault]
      rw [exists_error_bind_iff, exists_error_mapError_iff, exists_error_previewed_iff]
      simp only [mapError_eq_ok_iff, exists_error_bind_ok_iff, exists_error_mapError_iff,
        Terminal.StyledText.exists_error_ofSegments_iff]
      constructor
      · rintro (⟨mod, member, shown, unwritten⟩ | ⟨segments, shown, segment, member, broken⟩)
        · exact .value inside member shown unwritten
        · exact .color inside shown member broken
      · intro unfinished
        cases unfinished with
        | value given member shown unwritten =>
            cases inside.symm.trans given
            exact .inl ⟨_, member, shown, unwritten⟩
        | color given shown member broken =>
            cases inside.symm.trans given
            exact .inr ⟨_, shown, _, member, broken⟩

theorem exists_error_write_iff {output : Option Path} {embed : Bool}
    (selects : Selects host catalog preferences choice config theme parsed) :
    (∃ fault, (write host theme parsed output embed).outcome = .error fault) ↔
      Unfinished host preferences theme parsed (.write config choice output embed) := by
  have written : (∃ fault, (Config.generate parsed.modules
      (writtenSettings theme parsed.settings embed).1).outcome = .error fault) ↔
        ¬ Config.FewDigits parsed.modules parsed.settings := by
    rw [exists_error_iff,
      Config.exists_generate_iff_fewDigits (noKey_of_selectConfig selects.config)
        fun mod member => (known_and_supported_of_selectConfig selects.config mod member).2,
      fst_writtenSettings]
    split
    · rw [Config.fewDigits_embed]
    · rfl
  unfold write
  cases output with
  | some path =>
      simp only [Report.outcome_bind, Report.outcome_pure, exists_error_bind_ok_iff,
        Report.mapFault, exists_error_mapError_iff, Config.exists_error_save_iff, written]
      constructor
      · rintro (unwritable | long)
        · exact .output unwritable
        · exact .digits long
      · intro unfinished
        cases unfinished with
        | digits long => exact .inr long
        | output unwritable => exact .inl unwritable
  | none =>
      simp only [Report.outcome_bind, Report.outcome_pure, exists_error_bind_ok_iff,
        Report.mapFault, exists_error_mapError_iff, written]
      refine ⟨.digits, fun unfinished => ?_⟩
      cases unfinished with
      | digits long => exact long

theorem exists_error_proceed_iff {command : Command} :
    (∃ fault, (proceed host catalog preferences command).outcome = .error fault) ↔
      Halted host catalog preferences command := by
  cases command with
  | themes =>
      refine iff_of_false nofun ?_
      rintro (asks | asks | asks) <;> cases asks
  | preview config choice id =>
      exact exists_error_withThemeAndConfig_iff rfl fun _ _ _ => exists_error_preview_iff
  | write config choice output embed =>
      exact exists_error_withThemeAndConfig_iff rfl fun _ _ => exists_error_write_iff

end Commands

/-- What stops a run. -/
inductive Stopped (host : Host) (invocation : Invocation) : Prop
  | themesFile {path : Path} (given : invocation.themesFile = some path)
      (unusable : Theme.UnusableSchemes host path)
  | preferences (unusable : host.Garbled (Preferences.location host) ∨
      Json.LongAt host (Preferences.location host))
  | command {catalog : Theme.Catalog} {preferences : List (Value × Value)}
      (loaded : (Theme.Catalog.load host invocation.themesFile).outcome = .ok catalog)
      (preferred : (Preferences.load host (Preferences.location host)).outcome = .ok preferences)
      (halted : Halted host catalog preferences invocation.command)

theorem exists_error_run_iff {host : Host} {invocation : Invocation} :
    (∃ fault, (run host invocation).outcome = .error fault) ↔ Stopped host invocation := by
  simp only [run, Report.outcome_bind, exists_error_bind_iff, Report.mapFault,
    exists_error_mapError_iff, mapError_eq_ok_iff, Theme.Catalog.exists_error_load_iff,
    Preferences.exists_error_load_iff, exists_error_proceed_iff]
  constructor
  · rintro (⟨path, given, unusable⟩ |
      ⟨catalog, loaded, unusable | ⟨preferences, preferred, halted⟩⟩)
    · exact .themesFile given unusable
    · exact .preferences unusable
    · exact .command loaded preferred halted
  · intro stopped
    cases stopped with
    | themesFile given unusable => exact .inl ⟨_, given, unusable⟩
    | preferences unusable =>
        -- The themes are loaded first, and may stop the run as well.
        cases loaded : (Theme.Catalog.load host invocation.themesFile).outcome with
        | error fault => exact .inl (Theme.Catalog.exists_error_load_iff.mp ⟨fault, loaded⟩)
        | ok catalog => exact .inr ⟨catalog, rfl, .inl unusable⟩
    | command loaded preferred halted => exact .inr ⟨_, loaded, .inr ⟨_, preferred, halted⟩⟩

/-- A JSON text with an escape for half of a surrogate pair that stands alone. -/
def spellsHalfInJson : List Char → Bool
  | '\\' :: 'u' :: a :: b :: c :: d :: '\\' :: 'u' :: e :: f :: g :: h :: rest =>
      match Text.readHex? [a, b, c, d], Text.readHex? [e, f, g, h] with
      | some high, some low =>
          if Json.isHighSurrogate high && Json.isLowSurrogate low then spellsHalfInJson rest
          else Json.isHighSurrogate high || Json.isLowSurrogate high ||
            spellsHalfInJson ('\\' :: 'u' :: e :: f :: g :: h :: rest)
      | _, _ => false
  | '\\' :: 'u' :: a :: b :: c :: d :: rest =>
      (Text.readHex? [a, b, c, d]).any (fun number =>
        Json.isHighSurrogate number || Json.isLowSurrogate number) || spellsHalfInJson rest
  | '\\' :: _ :: rest => spellsHalfInJson rest
  | _ :: rest => spellsHalfInJson rest
  | [] => false

/-- A YAML text with an escape for half of a surrogate pair. There no two of them make a pair. -/
def spellsHalfInYaml : List Char → Bool
  | '\\' :: c :: rest =>
      ((Yaml.escapeLength? c).any fun length =>
        (Text.readHex? (rest.take length)).any fun number =>
          Json.isHighSurrogate number || Json.isLowSurrogate number) || spellsHalfInYaml rest
  | _ :: rest => spellsHalfInYaml rest
  | [] => false

/-- No file that a run reads as JSON or YAML has an escape for half of a surrogate pair. -/
structure Whole (host : Host) (invocation : Invocation) : Prop where
  preferences : ∀ text, host.readText (Preferences.location host) = .ok text →
    spellsHalfInJson text.toList = false
  themesFile : ∀ path text, invocation.themesFile = some path → host.readText path = .ok text →
    spellsHalfInJson text.toList = false
  scheme : ∀ choice config path text, invocation.command.selection? = some (choice, config) →
    choice.file = some path → host.readText path = .ok text → spellsHalfInYaml text.toList = false

end ShellPrompt.CommandLine
