import ShellPrompt.Preferences
import ShellPrompt.Proofs.Json.LongIntegers

/-!
Loading the user's preferences. Whatever stands at their path, they are the entries of an object or
there are none, unless the path holds bytes that are no text or an integer that is too long to be
read.
-/

namespace ShellPrompt.Preferences

variable {host : Host} {path : Path}

/-- What becomes of the preferences at a path. -/
inductive Loading (host : Host) (path : Path) :
    Except LoadFault (List (Value × Value)) → Prop
  | object {entries : List (Value × Value)} (held : Json.HeldAt host path (.map entries)) :
      Loading host path (.ok entries)
  | nothing (decodes : ¬ host.Garbled path) (short : ¬ Json.LongAt host path)
      (noObject : ∀ entries, ¬ Json.HeldAt host path (.map entries)) : Loading host path (.ok [])
  | garbled (garbled : host.Garbled path) : Loading host path (.error (.undecodable ⟨path⟩))
  | long (long : Json.LongAt host path) : Loading host path (.error (.long {}))

theorem outcome_load_of_object {entries : List (Value × Value)}
    (held : Json.HeldAt host path (.map entries)) : (load host path).outcome = .ok entries := by
  obtain ⟨text, read, document⟩ := Json.heldAt_iff.mp held
  rw [load, if_pos (Host.holds_of_readText read), read]
  simp only [document]
  rfl

theorem outcome_load_of_nothing (decodes : ¬ host.Garbled path) (short : ¬ Json.LongAt host path)
    (noObject : ∀ entries, ¬ Json.HeldAt host path (.map entries)) :
    (load host path).outcome = .ok [] := by
  unfold load
  split
  · split
    · rfl
    · rename_i undecodable read
      exact absurd (Host.readText_eq_undecodable_iff.mp read).2 decodes
    · rename_i text read
      split
      · rfl
      · rename_i fault stopped
        exact absurd (Json.longAt_iff.mpr ⟨text, fault, read, stopped⟩) short
      · rename_i entries document
        exact absurd (Json.heldAt_iff.mpr ⟨text, read, document⟩) (noObject entries)
      · rfl
  · rfl

theorem outcome_load_of_garbled (garbled : host.Garbled path) :
    (load host path).outcome = .error (.undecodable ⟨path⟩) := by
  rw [load, if_pos garbled.holds, garbled.readText]
  rfl

theorem outcome_load_of_long (long : Json.LongAt host path) :
    (load host path).outcome = .error (.long {}) := by
  obtain ⟨text, fault, read, stopped⟩ := Json.longAt_iff.mp long
  rw [load, if_pos (Host.holds_of_readText read), read]
  simp only [stopped]
  rfl

theorem loading_load (host : Host) (path : Path) : Loading host path (load host path).outcome := by
  by_cases garbled : host.Garbled path
  · rw [outcome_load_of_garbled garbled]
    exact .garbled garbled
  by_cases long : Json.LongAt host path
  · rw [outcome_load_of_long long]
    exact .long long
  by_cases object : ∃ entries, Json.HeldAt host path (.map entries)
  · obtain ⟨entries, held⟩ := object
    rw [outcome_load_of_object held]
    exact .object held
  · have noObject := not_exists.mp object
    rw [outcome_load_of_nothing garbled long noObject]
    exact .nothing garbled long noObject

/-- The preferences at a path are the entries of the object that the path holds; there are none if
it is missing, cannot be opened or holds anything else. Only bytes that are no text are a fault, and
an integer that is too long to be read. -/
theorem outcome_load_eq_iff {outcome : Except LoadFault (List (Value × Value))} :
    (load host path).outcome = outcome ↔ Loading host path outcome := by
  constructor
  · rintro rfl
    exact loading_load host path
  · intro loading
    cases loading with
    | object held => exact outcome_load_of_object held
    | nothing decodes short noObject => exact outcome_load_of_nothing decodes short noObject
    | garbled garbled => exact outcome_load_of_garbled garbled
    | long long => exact outcome_load_of_long long

theorem exists_error_load_iff : (∃ fault, (load host path).outcome = .error fault) ↔
    host.Garbled path ∨ Json.LongAt host path := by
  constructor
  · rintro ⟨fault, failed⟩
    cases failed ▸ loading_load host path with
    | garbled garbled => exact .inl garbled
    | long long => exact .inr long
  · rintro (garbled | long)
    · exact ⟨_, outcome_load_of_garbled garbled⟩
    · exact ⟨_, outcome_load_of_long long⟩

/-- A file of one byte that is no text on its own is not taken for one without entries. -/
theorem not_exists_load_garbled :
    let host : Host := { files := ⟨.ofList [(["p.json"], .file ⟨#[255]⟩)]⟩ }
    ¬ ∃ entries, (load host (Path.ofText "p.json")).outcome = .ok entries := by
  rintro host ⟨entries, loaded⟩
  cases loaded

end ShellPrompt.Preferences
