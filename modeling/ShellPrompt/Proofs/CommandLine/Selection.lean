import ShellPrompt.CommandLine
import ShellPrompt.Proofs.Config.Reloading
import ShellPrompt.Proofs.Config.Stability
import ShellPrompt.Proofs.Config.Storage
import ShellPrompt.Proofs.Theme.Files

/-!
The theme and the configuration of a run. A step that selects one goes on with it, ends the run
with a complaint that changes nothing, or stops the run; the last for a few kinds of files or
preferences only. What keeps a configuration that was selected from being written again is an
integer of too many digits.
-/

namespace ShellPrompt.CommandLine

section Steps
variable {α : Type} {step : Step α} {next : α → Report Fault Ended}

theorem Step.outcome_andThen :
    (step.andThen next).outcome = step.outcome >>= fun result =>
      match result with
      | .ok value => (next value).outcome
      | .error ended => .ok ended := by
  refine (Report.outcome_bind step _).trans ?_
  congr 1
  funext result
  cases result <;> rfl

theorem Step.andThen_eq_ok_iff {ended : Ended} :
    (step.andThen next).outcome = .ok ended ↔
      step.outcome = .ok (.error ended) ∨
        ∃ value, step.outcome = .ok (.ok value) ∧ (next value).outcome = .ok ended := by
  rw [Step.outcome_andThen, bind_eq_ok_iff]
  constructor
  · rintro ⟨result, done, rest⟩
    cases result with
    | ok value => exact .inr ⟨value, done, rest⟩
    | error other =>
        cases rest
        exact .inl done
  · rintro (done | ⟨value, done, rest⟩)
    · exact ⟨_, done, rfl⟩
    · exact ⟨_, done, rest⟩

theorem Step.exists_error_andThen_iff :
    (∃ fault, (step.andThen next).outcome = .error fault) ↔
      (∃ fault, step.outcome = .error fault) ∨
        ∃ value, step.outcome = .ok (.ok value) ∧
          ∃ fault, (next value).outcome = .error fault := by
  rw [Step.outcome_andThen, exists_error_bind_iff]
  refine or_congr_right ⟨?_, ?_⟩
  · rintro ⟨result, done, fault, failed⟩
    cases result with
    | ok value => exact ⟨value, done, fault, failed⟩
    | error ended => cases failed
  · rintro ⟨value, done, failed⟩
    exact ⟨_, done, failed⟩

end Steps

section Themes
variable {host : Host} {catalog : Theme.Catalog} {preferences : List (Value × Value)}
  {choice : ThemeChoice}

theorem exists_error_adoptTheme_iff {path : Path} :
    (∃ fault, (adoptTheme host catalog path).outcome = .error fault) ↔
      Theme.UnusableScheme host path := by
  rw [← Theme.Catalog.exists_error_adoptFile_iff catalog]
  simp only [adoptTheme]
  constructor
  · rintro ⟨fault, failed⟩
    split at failed
    · cases failed
    · cases failed
    · cases failed
    · rename_i cause noFile adopted
      exact ⟨cause, adopted, noFile⟩
  · rintro ⟨cause, adopted, noFile⟩
    rw [adopted]
    split
    · rename_i found
      cases found
    · rename_i found
      cases found
    · rename_i problem found
      cases found
      exact absurd rfl (noFile problem)
    · exact ⟨_, rfl⟩

theorem exists_error_findTheme_iff {name : Value} :
    (∃ fault, (findTheme host catalog name).outcome = .error fault) ↔ name.isKey = false := by
  cases name with
  | text name => cases found : catalog.get? name <;>
      simp [findTheme, Theme.Catalog.find, found, Value.isKey, Step.goOn, Step.stop, Report.noted]
  | _ => simp [findTheme, Theme.Catalog.find, Value.isKey, Report.fail, Report.noted, Step.stop]

theorem isKey_of_nonempty? {given : Option String} {name : Value}
    (found : nonempty? given = some name) : name.isKey = true := by
  obtain ⟨_, _, rfl⟩ := Option.map_eq_some_iff.mp found
  rfl

/-- No theme can be sought: the file of a scheme stops the program, or the name that is preferred
is a list or a map. -/
inductive Themeless (host : Host) (preferences : List (Value × Value)) (choice : ThemeChoice) : Prop
  | scheme {path : Path} (given : choice.file = some path)
      (unusable : Theme.UnusableScheme host path)
  | preferred {name : Value} (noFile : choice.file = none) (noName : nonempty? choice.name = none)
      (preferred : preferred? preferences "theme" = some name) (noKey : name.isKey = false)

theorem exists_error_selectTheme_iff :
    (∃ fault, (selectTheme host catalog preferences choice).outcome = .error fault) ↔
      Themeless host preferences choice := by
  unfold selectTheme
  split
  · rename_i path given
    rw [exists_error_adoptTheme_iff]
    refine ⟨.scheme given, ?_⟩
    rintro (⟨other, unusable⟩ | ⟨noFile, _⟩)
    · cases given.symm.trans other
      exact unusable
    · cases given.symm.trans noFile
  · rename_i noFile
    rw [exists_error_findTheme_iff]
    constructor
    · intro noKey
      cases named : nonempty? choice.name with
      | some name =>
          rw [named, Option.some_or, Option.getD_some, isKey_of_nonempty? named] at noKey
          cases noKey
      | none =>
          rw [named, Option.none_or] at noKey
          cases preferred : preferred? preferences "theme" with
          | some name =>
              rw [preferred] at noKey
              exact .preferred noFile named preferred noKey
          | none =>
              rw [preferred] at noKey
              cases noKey
    · rintro (⟨given, _⟩ | ⟨_, noName, preferred, noKey⟩)
      · cases noFile.symm.trans given
      · rw [noName, preferred]
        exact noKey

theorem eq_complain_of_selectTheme {ended : Ended}
    (refused : (selectTheme host catalog preferences choice).outcome = .ok (.error ended)) :
    ∃ complaint, ended = complain host invalidThemeStatus complaint := by
  simp only [selectTheme, adoptTheme, findTheme] at refused
  split at refused
  · split at refused
    · cases refused
    · cases refused
      exact ⟨_, rfl⟩
    · cases refused
      exact ⟨_, rfl⟩
    · cases refused
  · split at refused
    · cases refused
    · cases refused
    · cases refused
      exact ⟨_, rfl⟩

end Themes

section Configs
variable {host : Host} {given : Option Path}

theorem known_and_supported_of_starterModules {registry : Registry}
    (defaults : Config.SupportedDefaults registry) {modules : List Module}
    (made : Config.starterModules registry = .ok modules) :
    ∀ mod ∈ modules, Config.Known registry mod ∧ Config.Supported mod.properties.entries := by
  intro mod member
  obtain ⟨type, _, created⟩ := mem_of_mapM_eq_ok made member
  obtain ⟨definition, held, rfl⟩ := Config.create_ok created
  exact ⟨.inr (.inr (OrderedMap.mem_keys_iff.mpr ⟨definition, held⟩)),
    defaults type definition held⟩

theorem supportedDefaults_standard : Config.SupportedDefaults Registry.standard := by
  have all : ∀ definition ∈ Registry.standard.all, ∀ entry ∈ definition.defaults.entries,
      entry.1 ≠ "disabled" → entry.2.kind?.isSome := by decide +kernel
  exact fun type definition held => all definition (Config.mem_all_of_get? held)

theorem wellNamed_standard : Config.WellNamed Registry.standard := by decide +kernel

/-- A configuration that stops the program: its file has bytes that are no text, or an integer of
too many digits in a value that has to be turned into a text. -/
inductive UnusableConfig (host : Host) (path : Path) : Prop
  | garbled (garbled : host.Garbled path)
  | long {text : String} {data : Config.Data} (readable : host.readText path = .ok text)
      (read : Toml.read text = some data)
      (long : ¬ (Config.ReadableModules data Registry.standard ∧ Config.hasPalettes data = true))

theorem exists_error_selectConfig_iff :
    (∃ fault, (selectConfig host Registry.standard given).outcome = .error fault) ↔
      UnusableConfig host (given.getD (Config.location host)) := by
  have starters : (Config.starterModules Registry.standard).toOption.isSome := by decide +kernel
  simp only [selectConfig]
  constructor
  · rintro ⟨fault, failed⟩
    split at failed
    · split at failed
      · cases failed
      · cases failed
      · rename_i long loaded
        obtain ⟨text, readable, outcome⟩ := Config.load_eq_long_iff.mp loaded
        obtain ⟨data, read, long⟩ := Config.parse_eq_long_iff.mp outcome
        exact .long readable read long
      · cases failed
      · rename_i undecodable loaded
        have unread := Config.load_eq_undecodable_iff.mp loaded
        exact .garbled (Host.readText_eq_undecodable_iff.mp unread).2
    · split at failed
      · cases failed
      · obtain ⟨modules, made⟩ := exists_ok_of_isSome starters
        rw [made] at failed
        cases failed
  · rintro (garbled | ⟨readable, read, long⟩)
    · rw [if_pos garbled.holds, Config.load_eq_undecodable_iff.mpr garbled.readText]
      exact ⟨_, rfl⟩
    · have outcome : (Config.parse _ Registry.standard).outcome = .error (.long {}) :=
        Config.parse_eq_long_iff.mpr ⟨_, read, long⟩
      rw [if_pos (Host.holds_of_readText readable),
        Config.load_eq_long_iff.mpr ⟨_, readable, outcome⟩]
      exact ⟨_, rfl⟩

/-- The modules of a configuration that a run selects are known, and their properties are of
supported kinds. -/
theorem known_and_supported_of_selectConfig {parsed : Config.Parsed}
    (done : (selectConfig host Registry.standard given).outcome = .ok (.ok parsed)) :
    ∀ mod ∈ parsed.modules, Config.Known Registry.standard mod ∧
      Config.Supported mod.properties.entries := by
  simp only [selectConfig] at done
  split at done
  · split at done
    · rename_i found loaded
      cases done
      obtain ⟨text, _, outcome⟩ := Config.load_eq_ok_iff.mp loaded
      obtain ⟨data, _, _, _, rfl⟩ := Config.parse_eq_ok_iff.mp outcome
      exact fun mod member => ⟨Config.known_of_mem member,
        Config.supported_of_mem supportedDefaults_standard member⟩
    · cases done
    · cases done
    · cases done
    · cases done
  · split at done
    · cases done
    · split at done
      · cases done
      · rename_i modules made
        cases done
        exact known_and_supported_of_starterModules supportedDefaults_standard made

/-- No module of a configuration that a run selects goes by the key of a setting. -/
theorem noKey_of_selectConfig {parsed : Config.Parsed}
    (done : (selectConfig host Registry.standard given).outcome = .ok (.ok parsed)) :
    ∀ mod ∈ parsed.modules, mod.type ∉ Config.settingKeys :=
  fun mod member =>
    ((known_and_supported_of_selectConfig done mod member).1.no_key wellNamed_standard).1

theorem eq_complain_of_selectConfig {registry : Registry} {ended : Ended}
    (refused : (selectConfig host registry given).outcome = .ok (.error ended)) :
    ∃ complaint, ended = complain host invalidConfigStatus complaint := by
  simp only [selectConfig] at refused
  split at refused
  · split at refused
    · cases refused
    · cases refused
      exact ⟨_, rfl⟩
    · cases refused
    · cases refused
      exact ⟨_, rfl⟩
    · cases refused
  · split at refused
    · cases refused
      exact ⟨_, rfl⟩
    · split at refused <;> cases refused

end Configs

end ShellPrompt.CommandLine
