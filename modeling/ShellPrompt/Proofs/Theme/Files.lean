import ShellPrompt.Proofs.Json.LongIntegers
import ShellPrompt.Proofs.Theme.Catalog

/-!
Files that no themes can be taken from. A file of terminal colour schemes stops the program if it is
there but cannot be read, or if one of its schemes has a misplaced colour; the file of a scheme does
if it has no text, an escape for no character, or a list or a map for a name. An integer that is too
long to be read stops it in either file.
-/

namespace ShellPrompt.Theme

section TerminalSchemes
variable {host : Host} {path : Path}

theorem exists_error_withSchemes_iff {catalog : Catalog} {schemes : List (Value × Value)} :
    (∃ fault, catalog.withSchemes schemes = .error fault) ↔
      ∃ name scheme slot, (name, Value.map scheme) ∈ schemes ∧ MisplacedColor scheme slot := by
  fun_induction Catalog.withSchemes catalog schemes with
  | case1 catalog => simp
  | case2 catalog name scheme rest inductionHypothesis =>
      refine (exists_error_bind_iff_or fun theme _ => inductionHypothesis theme).trans ?_
      rw [exists_error_ofTerminalScheme_iff]
      constructor
      · rintro (⟨slot, misplaced⟩ | ⟨other, found, slot, member, misplaced⟩)
        · exact ⟨name, scheme, slot, List.mem_cons_self, misplaced⟩
        · exact ⟨other, found, slot, .tail _ member, misplaced⟩
      · rintro ⟨other, found, slot, member, misplaced⟩
        rcases List.mem_cons.mp member with same | later
        · cases same
          exact .inl ⟨slot, misplaced⟩
        · exact .inr ⟨other, found, slot, later, misplaced⟩
  | case3 catalog entry rest noScheme inductionHypothesis =>
      rw [inductionHypothesis]
      constructor
      · rintro ⟨name, scheme, slot, member, misplaced⟩
        exact ⟨name, scheme, slot, .tail _ member, misplaced⟩
      · rintro ⟨name, scheme, slot, member, misplaced⟩
        rcases List.mem_cons.mp member with same | later
        · exact absurd same.symm (noScheme name scheme)
        · exact ⟨name, scheme, slot, later, misplaced⟩

namespace Catalog
variable {name : String} {entries : List (String × Value)}

/-- A document has a colour scheme under a name. -/
def Offers (document : Value) (name : String) (scheme : List (Value × Value)) : Prop :=
  ∃ entries, document = .map entries ∧ Value.field? name entries = some (.map scheme)

theorem field?_table : Value.field? name (entries.map fun entry => (.text entry.1, entry.2)) =
    OrderedMap.find name entries := by
  induction entries with
  | nil => rfl
  | cons entry entries inductionHypothesis =>
      simp only [List.map_cons, Value.field?, OrderedMap.find, inductionHypothesis]

theorem offers_table_iff {scheme : List (Value × Value)} :
    Offers (.table entries) name scheme ↔ OrderedMap.find name entries = some (.map scheme) := by
  constructor
  · rintro ⟨fields, same, found⟩
    obtain rfl := Value.map.inj same
    rw [← found, field?_table]
  · intro found
    exact ⟨_, rfl, field?_table.trans found⟩

/-- The schemes of an object are those that it offers. -/
theorem exists_error_withSchemes_table_iff {catalog : Catalog} {fields : OrderedMap String Value}
    {schemes : List (Value × Value)} (same : Value.map schemes = .table fields.entries) :
    (∃ fault, catalog.withSchemes schemes = .error fault) ↔
      ∃ name scheme slot, Offers (.map schemes) name scheme ∧ MisplacedColor scheme slot := by
  obtain rfl := Value.map.inj same
  rw [exists_error_withSchemes_iff]
  constructor
  · rintro ⟨_, scheme, slot, member, misplaced⟩
    obtain ⟨⟨name, _⟩, inside, taken⟩ := List.mem_map.mp member
    cases taken
    exact ⟨name, scheme, slot,
      offers_table_iff.mpr (OrderedMap.find_of_mem fields.distinct inside), misplaced⟩
  · rintro ⟨name, scheme, slot, offered, misplaced⟩
    have inside := OrderedMap.mem_of_find (offers_table_iff.mp offered)
    exact ⟨.text name, scheme, slot, List.mem_map.mpr ⟨_, inside, rfl⟩, misplaced⟩

end Catalog

/-- A file of terminal colour schemes that stops the program. -/
inductive UnusableSchemes (host : Host) (path : Path) : Prop
  | unreadable {fault : FileFault} (failed : host.files.read host.working path = .error fault)
      (there : fault.problem ≠ .missing)
  | garbled (garbled : host.Garbled path)
  | long (long : Json.LongAt host path)
  | misplaced {document : Value} {name : String} {scheme : List (Value × Value)} {slot : Slot}
      (held : Json.HeldAt host path document) (offered : Catalog.Offers document name scheme)
      (misplaced : MisplacedColor scheme slot)

theorem Catalog.unusableSchemes_of_error {fault : Catalog.LoadFault}
    (failed : (ofFile host path).outcome = .error fault) : UnusableSchemes host path := by
  unfold ofFile at failed
  split at failed
  · rename_i problem read
    split at failed
    · cases failed
    · rename_i there
      exact .unreadable (Host.readText_eq_file_iff.mp read) there
  · rename_i problem noFile read
    cases problem with
    | file fault => exact absurd rfl (noFile fault)
    | undecodable fault => exact .garbled (Host.readText_eq_undecodable_iff.mp read).2
  · rename_i text read
    split at failed
    · cases failed
    · rename_i fault stopped
      exact .long (Json.longAt_iff.mpr ⟨text, fault, read, stopped⟩)
    · rename_i schemes parsed
      have held := Json.heldAt_iff.mpr ⟨text, read, parsed⟩
      obtain ⟨fields, same⟩ := held.exists_table
      obtain ⟨cause, failed, _⟩ := mapError_eq_error_iff.mp failed
      obtain ⟨name, scheme, slot, offered, misplaced⟩ :=
        (exists_error_withSchemes_table_iff same).mp ⟨cause, failed⟩
      exact .misplaced held offered misplaced
    · cases failed

theorem Catalog.exists_error_of_unusableSchemes (unusable : UnusableSchemes host path) :
    ∃ fault, (ofFile host path).outcome = .error fault := by
  cases unusable with
  | unreadable failed there =>
      rw [ofFile, Host.readText_eq_file_iff.mpr failed]
      simp only [if_neg there]
      exact ⟨_, rfl⟩
  | garbled garbled =>
      rw [ofFile, garbled.readText]
      exact ⟨_, rfl⟩
  | long long =>
      obtain ⟨text, fault, read, stopped⟩ := Json.longAt_iff.mp long
      rw [ofFile, read]
      simp only [stopped]
      exact ⟨_, rfl⟩
  | misplaced held offered misplaced =>
      obtain ⟨schemes, rfl, _⟩ := offered
      obtain ⟨fields, same⟩ := held.exists_table
      have stops : ∃ fault, builtIn.withSchemes schemes = .error fault :=
        (exists_error_withSchemes_table_iff same).mpr ⟨_, _, _, ⟨schemes, rfl, ‹_›⟩, misplaced⟩
      obtain ⟨fault, failed⟩ := stops
      obtain ⟨text, read, parsed⟩ := Json.heldAt_iff.mp held
      rw [ofFile, read]
      simp only [parsed]
      exact ⟨.color fault, mapError_eq_error_iff.mpr ⟨fault, failed, rfl⟩⟩

theorem Catalog.exists_error_ofFile_iff :
    (∃ fault, (ofFile host path).outcome = .error fault) ↔ UnusableSchemes host path :=
  ⟨fun ⟨_, failed⟩ => unusableSchemes_of_error failed, exists_error_of_unusableSchemes⟩

theorem Catalog.exists_error_load_iff {given : Option Path} :
    (∃ fault, (load host given).outcome = .error fault) ↔
      ∃ path, given = some path ∧ UnusableSchemes host path := by
  cases given with
  | none => exact iff_of_false nofun nofun
  | some path =>
      simp only [Option.some.injEq, exists_eq_left']
      exact exists_error_ofFile_iff

end TerminalSchemes

section Schemes
variable {catalog : Catalog} {text : String}

/-- A text of a scheme that stops the program. -/
inductive UnusableText (text : String) : Prop
  | noCharacter {number : Nat} (failed : Yaml.read text = .error (.noCharacter number))
  | long {fault : LongInteger} (failed : Yaml.read text = .error (.long fault))
  | name {scheme : Value} {theme : Theme} (parsed : Yaml.read text = .ok scheme)
      (made : ofScheme scheme = .ok theme) (noText : theme.name.isText = false)

/-- A file of a scheme that stops the program. -/
inductive UnusableScheme (host : Host) (path : Path) : Prop
  | garbled (garbled : host.Garbled path)
  | text {text : String} (read : host.readText path = .ok text) (unusable : UnusableText text)

theorem exists_error_add_iff {theme : Theme} :
    (∃ fault, catalog.add theme = .error fault) ↔ theme.name.isText = false := by
  unfold Catalog.add
  cases theme.name <;> simp [Value.isText]

/-- A document is imported as what it holds, and as nothing if that is no complete scheme. -/
theorem outcome_ofYaml_of_read {scheme : Value} (read : Yaml.read text = .ok scheme) :
    (ofYaml text).outcome = .ok (ofScheme scheme).toOption := by
  simp only [ofYaml, read]
  rcases ofScheme scheme with (_ | keys) | theme
  · rfl
  · rfl
  · rfl

theorem exists_error_ofYaml_iff :
    (∃ fault, (ofYaml text).outcome = .error fault) ↔
      (∃ number, Yaml.read text = .error (.noCharacter number)) ∨
        ∃ fault, Yaml.read text = .error (.long fault) := by
  unfold ofYaml
  cases Yaml.read text with
  | error fault =>
      cases fault with
      | invalid => simp [Report.noted]
      | noCharacter number => simp [Report.fail]
      | long fault => exact iff_of_true ⟨_, rfl⟩ (.inr ⟨fault, rfl⟩)
  | ok scheme =>
      simp only [reduceCtorEq, exists_false, or_self, iff_false]
      rintro ⟨fault, failed⟩
      split at failed <;> cases failed

theorem Catalog.exists_error_adopt_iff (catalog : Catalog) :
    (∃ fault, (catalog.adopt text).outcome = .error fault) ↔ UnusableText text := by
  rw [adopt, Report.outcome_bind]
  constructor
  · rintro ⟨fault, failed⟩
    rcases bind_eq_error_iff.mp failed with failed | ⟨imported, read, failed⟩
    · obtain ⟨cause, failed, _⟩ := mapError_eq_error_iff.mp failed
      rcases exists_error_ofYaml_iff.mp ⟨cause, failed⟩ with ⟨number, failed⟩ | ⟨_, failed⟩
      · exact .noCharacter failed
      · exact .long failed
    · cases imported with
      | none => cases failed
      | some theme =>
          obtain ⟨scheme, parsed, made⟩ := ofYaml_ok (mapError_eq_ok_iff.mp read)
          simp only [Report.outcome_bind] at failed
          rcases bind_eq_error_iff.mp failed with failed | ⟨_, _, ⟨⟩⟩
          obtain ⟨cause, failed, _⟩ := mapError_eq_error_iff.mp failed
          exact .name parsed made (exists_error_add_iff.mp ⟨cause, failed⟩)
  · intro unusable
    cases unusable with
    | noCharacter failed =>
        obtain ⟨fault, failed⟩ := exists_error_ofYaml_iff.mpr (.inl ⟨_, failed⟩)
        exact ⟨.scheme fault,
          bind_eq_error_iff.mpr (.inl (mapError_eq_error_iff.mpr ⟨fault, failed, rfl⟩))⟩
    | long failed =>
        obtain ⟨fault, failed⟩ := exists_error_ofYaml_iff.mpr (.inr ⟨_, failed⟩)
        exact ⟨.scheme fault,
          bind_eq_error_iff.mpr (.inl (mapError_eq_error_iff.mpr ⟨fault, failed, rfl⟩))⟩
    | @name scheme theme parsed made noText =>
        obtain ⟨fault, failed⟩ := exists_error_add_iff.mpr noText
        have imported : (ofYaml text).outcome = .ok (some theme) := by
          rw [outcome_ofYaml_of_read parsed, made]
          rfl
        refine ⟨.name fault,
          bind_eq_error_iff.mpr (.inr ⟨some theme, mapError_eq_ok_iff.mpr imported, ?_⟩)⟩
        simp only [Report.outcome_bind]
        exact bind_eq_error_iff.mpr (.inl (mapError_eq_error_iff.mpr ⟨fault, failed, rfl⟩))

theorem Catalog.adopt_ne_read {fault : ReadFault} :
    (catalog.adopt text).outcome ≠ .error (.read fault) := by
  rw [adopt, Report.outcome_bind]
  intro failed
  rcases bind_eq_error_iff.mp failed with failed | ⟨imported, _, failed⟩
  · obtain ⟨_, _, ⟨⟩⟩ := mapError_eq_error_iff.mp failed
  · cases imported with
    | none => cases failed
    | some theme =>
        simp only [Report.outcome_bind] at failed
        rcases bind_eq_error_iff.mp failed with failed | ⟨_, _, ⟨⟩⟩
        obtain ⟨_, _, ⟨⟩⟩ := mapError_eq_error_iff.mp failed

/-- Files that cannot be opened or read are not counted: the program goes on behind them. -/
theorem Catalog.exists_error_adoptFile_iff (catalog : Catalog) {host : Host} {path : Path} :
    (∃ fault, (catalog.adoptFile host path).outcome = .error fault ∧
        ∀ problem, fault ≠ .read (.file problem)) ↔ UnusableScheme host path := by
  unfold adoptFile
  constructor
  · rintro ⟨fault, failed, noFile⟩
    split at failed
    · rename_i problem read
      cases failed
      cases problem with
      | file problem => exact absurd rfl (noFile problem)
      | undecodable undecodable => exact .garbled (Host.readText_eq_undecodable_iff.mp read).2
    · rename_i text read
      exact .text read ((exists_error_adopt_iff catalog).mp ⟨fault, failed⟩)
  · intro unusable
    cases unusable with
    | garbled garbled =>
        rw [garbled.readText]
        exact ⟨_, rfl, nofun⟩
    | text read unusable =>
        obtain ⟨fault, failed⟩ := (exists_error_adopt_iff catalog).mpr unusable
        rw [read]
        refine ⟨fault, failed, ?_⟩
        rintro problem rfl
        exact adopt_ne_read failed

end Schemes

end ShellPrompt.Theme
