import ShellPrompt.Host
import ShellPrompt.Proofs.Report

/-!
What can be read from a machine: the text of a file, with its line ends made one, if its bytes are
one.
-/

namespace ShellPrompt

namespace Host

variable {host : Host} {path : Path}

/-- There is a file at a path, but its bytes are no text. -/
def Garbled (host : Host) (path : Path) : Prop :=
  ∃ content, host.files.read host.working path = .ok content ∧ Text.ofFile? content = none

theorem readText_eq_file_iff {fault : FileFault} :
    host.readText path = .error (.file fault) ↔
      host.files.read host.working path = .error fault := by
  unfold readText
  cases host.files.read host.working path with
  | error other => simp
  | ok content => cases text : Text.ofFile? content <;> simp [text]

theorem readText_eq_undecodable_iff {fault : Undecodable} :
    host.readText path = .error (.undecodable fault) ↔ fault = ⟨path⟩ ∧ host.Garbled path := by
  unfold readText Garbled
  cases host.files.read host.working path with
  | error other => simp
  | ok content => cases text : Text.ofFile? content <;> simp [text, eq_comm]

theorem Garbled.readText (garbled : host.Garbled path) :
    host.readText path = .error (.undecodable ⟨path⟩) :=
  readText_eq_undecodable_iff.mpr ⟨rfl, garbled⟩

theorem readText_eq_ok_iff {text : String} : host.readText path = .ok text ↔
    ∃ content source, host.files.read host.working path = .ok content ∧
      String.fromUTF8? content = some source ∧
      text = String.ofList (Text.unifyNewlines source.toList) := by
  unfold readText
  cases host.files.read host.working path with
  | error fault => simp
  | ok content => cases decoded : String.fromUTF8? content <;> simp [Text.ofFile?, decoded, eq_comm]

theorem holds_of_read {content : ByteArray}
    (read : host.files.read host.working path = .ok content) : host.holds path = true := by
  unfold Files.read at read
  split at read
  · cases read
  · rename_i place found
    split at read
    · rename_i held
      simp [holds, Files.find?, found, held]
    · cases read
    · cases read

theorem holds_of_readText {text : String} (read : host.readText path = .ok text) :
    host.holds path = true := by
  obtain ⟨content, _, found, _⟩ := readText_eq_ok_iff.mp read
  exact holds_of_read found

theorem Garbled.holds (garbled : host.Garbled path) : host.holds path = true := by
  obtain ⟨content, read, _⟩ := garbled
  exact holds_of_read read

end Host

end ShellPrompt
