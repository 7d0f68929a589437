import ShellPrompt.Config.Storage
import ShellPrompt.Proofs.Files
import ShellPrompt.Proofs.Host

/-!
What loading a configuration comes to, and what saving one does to the files that are there. Only
the file that is saved can lose its content, and it does so before there is a new one: a
configuration that no text can be made of leaves it empty.
-/

namespace ShellPrompt.Config

section Loading
variable {host : Host}

theorem load_eq_ok_iff {path : Path} {registry : Registry} {parsed : Parsed} :
    (load host path registry).outcome = .ok parsed ↔
      ∃ text, host.readText path = .ok text ∧
        (parse text registry).outcome = .ok parsed := by
  unfold load
  cases host.readText path with
  | error fault => simp [Report.fail]
  | ok text => simp [Report.mapFault, mapError_eq_ok_iff]

theorem load_eq_undecodable_iff {path : Path} {registry : Registry} {fault : Undecodable} :
    (load host path registry).outcome = .error (.read (.undecodable fault)) ↔
      host.readText path = .error (.undecodable fault) := by
  unfold load
  cases host.readText path with
  | error other => simp [Report.fail]
  | ok text => simp [Report.mapFault, mapError_eq_error_iff]

theorem load_eq_long_iff {path : Path} {registry : Registry} {fault : LongInteger} :
    (load host path registry).outcome = .error (.parse (.long fault)) ↔
      ∃ text, host.readText path = .ok text ∧
        (parse text registry).outcome = .error (.long fault) := by
  unfold load
  cases host.readText path with
  | error other => simp [Report.fail]
  | ok text => simp [Report.mapFault, mapError_eq_error_iff]

end Loading

section Saving
variable (host : Host) (path : Path) (modules : List Module) (settings : Settings)

/-- The ways that saving can go: there is no directory for the file, it cannot be opened, there is
no text for it, or all is done. -/
inductive Saving : Files → Except SaveFault Unit → Prop
  | noDirectory {made : Files} {fault : FileFault}
      (failed : host.files.makeDirectories host.working path.parent = (made, .error fault)) :
      Saving made (.error (.file fault))
  | notOpened {made : Files} {fault : FileFault}
      (around : host.files.makeDirectories host.working path.parent = (made, .ok ()))
      (failed : made.write host.working path .empty = .error fault) :
      Saving made (.error (.file fault))
  | noText {made emptied : Files} {fault : UnwritableValue}
      (around : host.files.makeDirectories host.working path.parent = (made, .ok ()))
      (opened : made.write host.working path .empty = .ok emptied)
      (failed : (generate modules settings).outcome = .error fault) :
      Saving emptied (.error (.value fault))
  | done {made emptied written : Files} {text : String}
      (around : host.files.makeDirectories host.working path.parent = (made, .ok ()))
      (opened : made.write host.working path .empty = .ok emptied)
      (generated : (generate modules settings).outcome = .ok text)
      (filled : emptied.write host.working path text.toUTF8 = .ok written) :
      Saving written (.ok ())

variable {host path modules settings}

theorem save_of_error {made emptied : Files} {fault : UnwritableValue}
    (around : host.files.makeDirectories host.working path.parent = (made, .ok ()))
    (opened : made.write host.working path .empty = .ok emptied)
    (failed : (generate modules settings).outcome = .error fault) :
    save host path modules settings =
      (emptied,
        { warnings := (generate modules settings).warnings
          outcome := .error (.value fault) }) := by
  have outcome : ((generate modules settings).mapFault SaveFault.value).outcome =
      .error (.value fault) := by
    rw [Report.mapFault, failed]
    rfl
  simp only [save, around, opened, outcome, Report.bind_error _ outcome]
  rfl

theorem save_of_ok {made emptied written : Files} {text : String}
    (around : host.files.makeDirectories host.working path.parent = (made, .ok ()))
    (opened : made.write host.working path .empty = .ok emptied)
    (generated : (generate modules settings).outcome = .ok text)
    (filled : emptied.write host.working path text.toUTF8 = .ok written) :
    save host path modules settings =
      (written, { warnings := (generate modules settings).warnings, outcome := .ok () }) := by
  have outcome : ((generate modules settings).mapFault SaveFault.value).outcome =
      .ok text := by
    rw [Report.mapFault, generated]
    rfl
  simp only [save, around, opened, filled, outcome, Report.bind_ok _ outcome]
  exact congrArg (fun warnings => (written, Report.mk warnings _)) (List.append_nil _)

variable (host path modules settings)

theorem saving_save :
    Saving host path modules settings (save host path modules settings).1
      (save host path modules settings).2.outcome := by
  rcases around : host.files.makeDirectories host.working path.parent with ⟨made, fault | ⟨⟩⟩
  · have result : save host path modules settings = (made, Report.fail (.file fault)) := by
      simp only [save, around]
    rw [result]
    exact .noDirectory around
  cases opened : made.write host.working path .empty with
  | error fault =>
      have result : save host path modules settings = (made, Report.fail (.file fault)) := by
        simp only [save, around, opened]
      rw [result]
      exact .notOpened around opened
  | ok emptied =>
      cases generated : (generate modules settings).outcome with
      | error fault =>
          rw [save_of_error around opened generated]
          exact .noText around opened generated
      | ok text =>
          -- Opening the file already showed that it can be written.
          obtain ⟨written, filled⟩ := Files.write_write opened text.toUTF8
          rw [save_of_ok around opened generated filled]
          exact .done around opened generated filled

/-- A path that nothing can be saved to: there is no directory for the file, or something else in
its place. -/
inductive Unwritable (host : Host) (path : Path) : Prop
  | noDirectory {made : Files} {fault : FileFault}
      (failed : host.files.makeDirectories host.working path.parent = (made, .error fault))
  | notOpened {made : Files} {fault : FileFault}
      (around : host.files.makeDirectories host.working path.parent = (made, .ok ()))
      (failed : made.write host.working path .empty = .error fault)

variable {host path modules settings}

theorem not_unwritable_of_write {made emptied : Files}
    (around : host.files.makeDirectories host.working path.parent = (made, .ok ()))
    (opened : made.write host.working path .empty = .ok emptied) : ¬ Unwritable host path := by
  rintro (failed | ⟨other, failed⟩)
  · cases around.symm.trans failed
  · cases around.symm.trans other
    cases opened.symm.trans failed

theorem exists_error_save_iff :
    (∃ fault, (save host path modules settings).2.outcome = .error fault) ↔
      Unwritable host path ∨ ∃ fault, (generate modules settings).outcome = .error fault := by
  have saving := saving_save host path modules settings
  generalize (save host path modules settings).1 = after at saving
  generalize (save host path modules settings).2.outcome = outcome at saving
  cases saving with
  | noDirectory failed => exact iff_of_true ⟨_, rfl⟩ (.inl (.noDirectory failed))
  | notOpened around failed => exact iff_of_true ⟨_, rfl⟩ (.inl (.notOpened around failed))
  | noText around opened failed => exact iff_of_true ⟨_, rfl⟩ (.inr ⟨_, failed⟩)
  | done around opened generated filled =>
      refine iff_of_false nofun ?_
      rintro (unwritable | ⟨fault, failed⟩)
      · exact not_unwritable_of_write around opened unwritable
      · cases generated.symm.trans failed

theorem outcome_save_of_generate {text : String} (writable : ¬ Unwritable host path)
    (generated : (generate modules settings).outcome = .ok text) :
    (save host path modules settings).2.outcome = .ok () := by
  cases outcome : (save host path modules settings).2.outcome with
  | ok done => rfl
  | error fault =>
      rcases exists_error_save_iff.mp ⟨fault, outcome⟩ with unwritable | ⟨_, failed⟩
      · exact absurd unwritable writable
      · cases generated.symm.trans failed

end Saving

section Files
variable {host : Host} {path : Path} {modules : List Module} {settings : Settings}

/-- A file that is opened for writing is there and empty, and no other file has changed. -/
theorem content?_opened {made emptied : Files}
    (around : host.files.makeDirectories host.working path.parent = (made, .ok ()))
    (opened : made.write host.working path .empty = .ok emptied) :
    ∃ place, emptied.locate host.working path = .ok place ∧
      ∀ other, emptied.content? other =
        if place = other then some .empty else host.files.content? other := by
  obtain ⟨place, found, noDirectory, rfl⟩ := Files.write_ok opened
  refine ⟨place, Files.locate_put noDirectory _ found, fun other => ?_⟩
  have same := Files.sameFiles_makeDirectories host.files host.working path.parent
  rw [around] at same
  rw [Files.content?_put noDirectory, same other]
  rfl

/-- What is left when saving fails. If it is for a file or directory, every file is as it was. If it
is for a value that cannot be written, the file to be saved is there and empty, which keeps what was
there exactly if that was nothing. -/
theorem files_save_of_error {fault : SaveFault}
    (failed : (save host path modules settings).2.outcome = .error fault) :
    match fault with
    | .file _ => Files.SameFiles host.files (save host path modules settings).1
    | .value unwritable =>
        (generate modules settings).outcome = .error unwritable ∧
        ∃ place, (save host path modules settings).1.locate host.working path = .ok place ∧
          (∀ other, (save host path modules settings).1.content? other =
            if place = other then some .empty else host.files.content? other) ∧
          (Files.Keeps host.files (save host path modules settings).1 ↔
            ∀ content, host.files.content? place = some content → content = .empty) := by
  have saving := saving_save host path modules settings
  have same := Files.sameFiles_makeDirectories host.files host.working path.parent
  rw [failed] at saving
  generalize (save host path modules settings).1 = after at saving ⊢
  cases saving with
  | noDirectory missing =>
      rw [missing] at same
      exact same
  | notOpened around closed =>
      rw [around] at same
      exact same
  | noText around opened unwritable =>
      obtain ⟨place, found, contents⟩ := content?_opened around opened
      refine ⟨unwritable, place, found, contents, ?_, ?_⟩
      · intro keeps content held
        have kept := keeps place content held
        rw [contents, if_pos rfl] at kept
        exact (Option.some.inj kept).symm
      · intro empty other content held
        rw [contents]
        split
        · rename_i here
          subst here
          rw [empty content held]
        · exact held

/-- What is left when saving succeeds: the file with its text, in directories that may be new. -/
theorem files_save_of_ok (done : (save host path modules settings).2.outcome = .ok ()) :
    ∃ text, (generate modules settings).outcome = .ok text ∧
      Files.WritesOnly host.files (save host path modules settings).1 host.working path
        text.toUTF8 := by
  have saving := saving_save host path modules settings
  have adds := Files.addsDirectories_makeDirectories host.files host.working path.parent
  rw [done] at saving
  generalize (save host path modules settings).1 = after at saving ⊢
  cases saving with
  | done around opened generated filled =>
      rw [around] at adds
      exact ⟨_, generated, Files.writesOnly_write_write adds opened filled⟩

/-- A list is no value of a property: the file is opened in a new directory, and left there. -/
theorem files_save_of_error_list :
    let mod : Module := { type := "a", properties := .ofList [("k", .list [.integer 1])] }
    let saved := save {} (.ofText "d/s.toml") [mod] {}
    saved.2.outcome = .error (.value (.unsupported ⟨.list [.integer 1]⟩)) ∧
      (generate [mod] {}).outcome = .error (.unsupported ⟨.list [.integer 1]⟩) ∧
      ∃ place, saved.1.locate [] (.ofText "d/s.toml") = .ok place ∧
        (∀ other, saved.1.content? other =
          if place = other then some .empty else Files.content? {} other) ∧
        (Files.Keeps {} saved.1 ↔
          ∀ content, Files.content? {} place = some content → content = .empty) := by
  intro mod saved
  have around : Files.makeDirectories {} [] (Path.ofText "d/s.toml").parent =
      (⟨.ofList [(["d"], .directory)]⟩, .ok ()) := by
    rw [Files.makeDirectories]
    rfl
  have failed : saved.2.outcome = .error (.value (.unsupported ⟨.list [.integer 1]⟩)) :=
    congrArg (·.2.outcome) (save_of_error around rfl rfl)
  exact ⟨failed, files_save_of_error failed⟩

/-- What a file held is lost when a configuration is saved to it that cannot be written. -/
theorem not_keeps_save :
    let host : Host := { files := ⟨.ofList [(["s.toml"], .file ⟨#[111, 108, 100]⟩)]⟩ }
    let mod : Module := { type := "a", properties := .ofList [("k", .list [.integer 1])] }
    let saved := save host (.ofText "s.toml") [mod] {}
    saved.2.outcome = .error (.value (.unsupported ⟨.list [.integer 1]⟩)) ∧
      host.files.content? ["s.toml"] = some ⟨#[111, 108, 100]⟩ ∧
      saved.1.content? ["s.toml"] = some .empty ∧
      ¬ Files.Keeps host.files saved.1 := by
  intro host mod saved
  have around : host.files.makeDirectories [] (Path.ofText "s.toml").parent =
      (host.files, .ok ()) := by
    rw [Files.makeDirectories]
    rfl
  have result : saved = (_, _) := save_of_error around rfl rfl
  have before : host.files.content? ["s.toml"] = some ⟨#[111, 108, 100]⟩ := rfl
  have after : saved.1.content? ["s.toml"] = some .empty :=
    congrArg (·.1.content? ["s.toml"]) result
  refine ⟨congrArg (·.2.outcome) result, before, after, fun keeps => ?_⟩
  have kept := keeps _ _ before
  rw [after] at kept
  cases kept

end Files

end ShellPrompt.Config
