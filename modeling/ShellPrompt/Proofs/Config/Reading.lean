import ShellPrompt.Proofs.Config.Properties

/-!
What is read from a document, and when it can be read. Every reader either gives what the document
holds or stops, and it stops exactly for an integer of too many digits in a value that has to be
turned into a text.
-/

namespace ShellPrompt.Config

section Gathering
variable {α : Type} {read : α → Report LongInteger (Option Module)} {items : List α}

/-- Gathering gives what every item gives, if all of them can be read. -/
theorem outcome_gather_eq_ok_iff {readable : α → Prop} {held : α → Option Module}
    (each : ∀ item ∈ items, ∀ mod,
      (read item).outcome = .ok mod ↔ readable item ∧ held item = mod)
    {modules : List Module} : (gather read items).outcome = .ok modules ↔
      (∀ item ∈ items, readable item) ∧ items.filterMap held = modules := by
  induction items generalizing modules with
  | nil =>
      rw [List.filterMap_nil, and_iff_right nofun]
      exact ⟨Except.ok.inj, congrArg Except.ok⟩
  | cons item items inductionHypothesis =>
      obtain ⟨first, others⟩ := List.forall_mem_cons.mp each
      rw [gather, Report.outcome_bind, bind_eq_ok_iff, List.forall_mem_cons]
      simp only [Report.outcome_bind, bind_eq_ok_iff, first, inductionHypothesis others,
        Report.outcome_pure, Except.ok.injEq]
      constructor
      · rintro ⟨_, ⟨firstReadable, rfl⟩, _, ⟨othersReadable, rfl⟩, rfl⟩
        refine ⟨⟨firstReadable, othersReadable⟩, ?_⟩
        cases made : held item <;> simp [made]
      · rintro ⟨⟨firstReadable, othersReadable⟩, rfl⟩
        refine ⟨_, ⟨firstReadable, rfl⟩, _, ⟨othersReadable, rfl⟩, ?_⟩
        cases made : held item <;> simp [made]

end Gathering

section Modules
variable (data : Data) (registry : Registry)

/-- The entries of the table under a name, none if there is no table. -/
def entriesUnder (type : String) : List (Value × Value) :=
  match data.get? type with
  | some (.map entries) => entries
  | _ => []

/-- The module of a type as its section and its definition describe it. -/
def described (type : String) (definition : Definition) : Module where
  type := type
  disabled := isDisabled (entriesUnder data type)
  properties := definition.defaults.insertAll (sectionProperties (entriesUnder data type))

/-- The module that a name stands for. -/
def named? (type : String) : Option Module :=
  if type = Module.lineBreakType then some Module.lineBreak
  else (registry.get? type).map (described data type)

/-- The module that a piece of a master format stands for. -/
def ofPiece? : Piece → Option Module
  | .literal text => some (Module.ofText (String.ofList text))
  | .reference type => named? data registry (String.ofList type)

/-- The section of the module that a name stands for can be read. -/
def ReadableName (type : String) : Prop :=
  type ≠ Module.lineBreakType → type ∈ registry.names → ReadableSection (entriesUnder data type)

/-- The modules of a master format. -/
def heldByFormat (format : String) : List Module :=
  (pieces format.toList).filterMap (ofPiece? data registry)

/-- The modules that a document holds. -/
def heldModules : List Module :=
  match (data.get? "format").bind Value.asText? with
  | some format => heldByFormat data registry format
  | none => (data.keys.filter registry.contains).filterMap (named? data registry)

/-- The sections of all modules that a master format names can be read. -/
def ReadableFormat (format : String) : Prop :=
  ∀ type, .reference type ∈ pieces format.toList → ReadableName data registry (String.ofList type)

/-- The sections of all modules in a document can be read. -/
def ReadableModules : Prop :=
  match (data.get? "format").bind Value.asText? with
  | some format => ReadableFormat data registry format
  | none => ∀ type ∈ data.keys, ReadableName data registry type

variable {data registry}

theorem readableModules_of_sections (each : ∀ type, ReadableSection (entriesUnder data type)) :
    ReadableModules data registry := by
  unfold ReadableModules
  split
  · exact fun type _ _ _ => each (String.ofList type)
  · exact fun type _ _ _ => each type

theorem outcome_sectionOf (type : String) :
    (sectionOf data type).outcome = .ok (entriesUnder data type) := by
  unfold sectionOf entriesUnder
  split <;> simp_all [Report.noted]

theorem outcome_readModule_eq_ok_iff {type : String} {definition : Definition} {mod : Module} :
    (readModule data type definition).outcome = .ok mod ↔
      ReadableSection (entriesUnder data type) ∧ described data type definition = mod := by
  rw [readModule, Report.outcome_bind, outcome_sectionOf]
  simp only [Report.outcome_bind, bind_eq_ok_iff, outcome_addProperties_eq_ok_iff,
    Report.outcome_pure, Except.ok.injEq, exists_eq_left', and_assoc, exists_and_left, described]

theorem outcome_namedModule_eq_ok_iff {type : String} {mod : Option Module} :
    (namedModule data registry type).outcome = .ok mod ↔
      ReadableName data registry type ∧ named? data registry type = mod := by
  unfold namedModule named? ReadableName
  split
  · rename_i lineBreak
    rw [and_iff_right fun other => absurd lineBreak other]
    exact ⟨Except.ok.inj, congrArg Except.ok⟩
  · rename_i noBreak
    rw [imp_iff_right noBreak]
    cases found : registry.get? type with
    | none =>
        have missing : type ∉ registry.names := OrderedMap.find_eq_none_iff.mp found
        rw [and_iff_right fun known => absurd known missing]
        exact ⟨Except.ok.inj, congrArg Except.ok⟩
    | some definition =>
        have known : type ∈ registry.names := OrderedMap.mem_keys_iff.mpr ⟨definition, found⟩
        simp only [Report.outcome_bind, bind_eq_ok_iff, outcome_readModule_eq_ok_iff,
          Report.outcome_pure, Except.ok.injEq, and_assoc, exists_and_left, exists_eq_left',
          imp_iff_right known, Option.map_some]

theorem outcome_pieceModule_eq_ok_iff {piece : Piece} {mod : Option Module} :
    (pieceModule data registry piece).outcome = .ok mod ↔
      (∀ type, piece = .reference type → ReadableName data registry (String.ofList type)) ∧
        ofPiece? data registry piece = mod := by
  cases piece with
  | literal text =>
      rw [and_iff_right nofun]
      exact ⟨Except.ok.inj, congrArg Except.ok⟩
  | reference type =>
      simp only [Piece.reference.injEq, forall_eq']
      exact outcome_namedModule_eq_ok_iff

theorem outcome_modulesOfFormat_eq_ok_iff {format : String} {modules : List Module} :
    (modulesOfFormat format data registry).outcome = .ok modules ↔
      ReadableFormat data registry format ∧ heldByFormat data registry format = modules := by
  rw [modulesOfFormat, outcome_gather_eq_ok_iff fun _ _ _ => outcome_pieceModule_eq_ok_iff]
  apply and_congr_left'
  exact ⟨fun each type member => each _ member type rfl,
    fun each piece member type same => each type (same ▸ member)⟩

theorem outcome_modulesOfSections_eq_ok_iff {modules : List Module} :
    (modulesOfSections data registry).outcome = .ok modules ↔
      (∀ type ∈ data.keys, ReadableName data registry type) ∧
        (data.keys.filter registry.contains).filterMap (named? data registry) = modules := by
  rw [modulesOfSections, outcome_gather_eq_ok_iff fun _ _ _ => outcome_namedModule_eq_ok_iff]
  apply and_congr_left'
  constructor
  · intro each type member noBreak known
    have contained : registry.contains type :=
      Option.isSome_iff_exists.mpr (OrderedMap.mem_keys_iff.mp known)
    exact each type (List.mem_filter.mpr ⟨member, contained⟩) noBreak known
  · exact fun each type member => each type (List.mem_filter.mp member).1

theorem outcome_modulesOf_eq_ok_iff {modules : List Module} :
    (modulesOf data registry).outcome = .ok modules ↔
      ReadableModules data registry ∧ heldModules data registry = modules := by
  unfold modulesOf ReadableModules heldModules
  cases (data.get? "format").bind Value.asText? with
  | some format => exact outcome_modulesOfFormat_eq_ok_iff
  | none => exact outcome_modulesOfSections_eq_ok_iff

/-- A document is read as its modules and its settings, if its sections and the colours of its
palettes can be read. -/
theorem outcome_ofData_eq_ok_iff {parsed : Parsed} :
    (ofData data registry).outcome = .ok parsed ↔
      (ReadableModules data registry ∧ hasPalettes data = true) ∧
        ⟨heldModules data registry, readSettings data⟩ = parsed := by
  rw [ofData, Report.outcome_bind]
  simp only [bind_eq_ok_iff, outcome_modulesOf_eq_ok_iff, and_assoc, exists_and_left,
    exists_eq_left']
  apply and_congr_right'
  split
  · rename_i palettes
    rw [and_iff_right palettes]
    exact ⟨Except.ok.inj, congrArg Except.ok⟩
  · rename_i long
    exact iff_of_false nofun fun read => long read.1

/-- Where the palettes can be read, reading a document fails and warns just as reading its modules
does. -/
theorem parse_of_read {text : String} (read : Toml.read text = some data)
    (palettes : hasPalettes data = true) (registry : Registry) :
    parse text registry =
      { warnings := (modulesOf data registry).warnings
        outcome := ((modulesOf data registry).outcome.map fun modules =>
          ⟨modules, readSettings data⟩).mapError .long } := by
  simp only [parse, read, ofData, palettes, if_true]
  rcases modulesOf data registry with ⟨warnings, fault | modules⟩
  · rfl
  · exact congrArg (Report.mk · _) (List.append_nil warnings)

theorem parse_eq_ok_iff {text : String} {parsed : Parsed} :
    (parse text registry).outcome = .ok parsed ↔
      ∃ data, Toml.read text = some data ∧ ReadableModules data registry ∧
        hasPalettes data = true ∧ ⟨heldModules data registry, readSettings data⟩ = parsed := by
  unfold parse
  cases Toml.read text with
  | none => exact iff_of_false nofun nofun
  | some data =>
      simp only [Report.mapFault, mapError_eq_ok_iff, outcome_ofData_eq_ok_iff, Option.some.injEq,
        exists_eq_left', and_assoc]

/-- A text cannot be read for its integers exactly if it holds a document of which some modules or
palettes cannot be read. -/
theorem parse_eq_long_iff {text : String} {fault : LongInteger} :
    (parse text registry).outcome = .error (.long fault) ↔
      ∃ data, Toml.read text = some data ∧
        ¬ (ReadableModules data registry ∧ hasPalettes data = true) := by
  unfold parse
  cases Toml.read text with
  | none => exact iff_of_false nofun nofun
  | some data =>
      have read : (∃ parsed, (ofData data registry).outcome = .ok parsed) ↔
          ReadableModules data registry ∧ hasPalettes data = true := by
        simp only [outcome_ofData_eq_ok_iff, exists_and_left, exists_eq', and_true]
      simp only [Report.mapFault, Option.some.injEq, exists_eq_left', ← read]
      cases (ofData data registry).outcome with
      | ok parsed => simp
      | error fault => simp

end Modules

end ShellPrompt.Config
