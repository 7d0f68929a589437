import ShellPrompt.Proofs.Config.Modules

/-!
Generating a configuration from what was read is stable. Whatever a text holds that has no meaning
is gone after it is read once, and what is left is written in a form that reads as itself.
-/

namespace ShellPrompt.Config

/-- Making modules of some items and items of the modules again leaves some of the items. -/
theorem map_filterMap_sublist {α β : Type} {make : α → Option β} {back : β → α} {items : List α}
    (inverse : ∀ item ∈ items, ∀ result, make item = some result → back result = item) :
    ((items.filterMap make).map back).Sublist items := by
  induction items with
  | nil => exact List.Sublist.refl _
  | cons item items inductionHypothesis =>
      have later := inductionHypothesis fun other member => inverse other (.tail _ member)
      cases made : make item with
      | none =>
          rw [List.filterMap_cons_none made]
          exact later.cons item
      | some result =>
          rw [List.filterMap_cons_some made, List.map_cons,
            inverse item List.mem_cons_self result made]
          exact later.cons_cons item

/-- All default properties are of supported kinds. -/
def SupportedDefaults (registry : Registry) : Prop :=
  ∀ type definition, registry.get? type = some definition → Supported definition.defaults.entries

section Read
variable {data : Data} {registry : Registry}

/-- The module is what its section and its definition describe. -/
def Described (data : Data) (registry : Registry) (mod : Module) : Prop :=
  ∃ definition, registry.get? mod.type = some definition ∧ mod = described data mod.type definition

/-- What a name stands for: a line break, or a module that its definition and its section
describe. -/
theorem named?_eq_some {type : String} {mod : Module}
    (named : named? data registry type = some mod) :
    mod.type = type ∧ (mod = Module.lineBreak ∨
      type ≠ Module.lineBreakType ∧ type ∈ registry.names ∧ Described data registry mod) := by
  unfold named? at named
  split at named
  · rename_i lineBreak
    cases named
    exact ⟨lineBreak.symm, .inl rfl⟩
  · rename_i noBreak
    obtain ⟨definition, found, rfl⟩ := Option.map_eq_some_iff.mp named
    have registered : type ∈ registry.names := OrderedMap.mem_keys_iff.mpr ⟨definition, found⟩
    exact ⟨rfl, .inr ⟨noBreak, registered, definition, found, rfl⟩⟩

/-- The modules that a document holds are free text, or what names stand for. -/
theorem mem_heldModules {mod : Module} (member : mod ∈ heldModules data registry) :
    (∃ text, mod = Module.ofText text) ∨ ∃ type, named? data registry type = some mod := by
  unfold heldModules at member
  split at member
  · obtain ⟨piece, _, made⟩ := List.mem_filterMap.mp member
    cases piece with
    | literal text =>
        cases made
        exact .inl ⟨_, rfl⟩
    | reference name => exact .inr ⟨_, made⟩
  · obtain ⟨type, _, made⟩ := List.mem_filterMap.mp member
    exact .inr ⟨type, made⟩

theorem known_of_mem {mod : Module} (member : mod ∈ heldModules data registry) :
    Known registry mod := by
  rcases mem_heldModules member with ⟨text, rfl⟩ | ⟨type, named⟩
  · exact .inl rfl
  · obtain ⟨sameType, rfl | ⟨_, registered, _⟩⟩ := named?_eq_some named
    · exact .inr (.inl rfl)
    · exact .inr (.inr (sameType ▸ registered))

theorem described_of_mem {mod : Module} (member : mod ∈ heldModules data registry)
    (noText : mod.type ≠ Module.textType) (noBreak : mod.type ≠ Module.lineBreakType) :
    Described data registry mod := by
  rcases mem_heldModules member with ⟨text, rfl⟩ | ⟨type, named⟩
  · exact absurd rfl noText
  · obtain ⟨_, rfl | ⟨_, _, described⟩⟩ := named?_eq_some named
    · exact absurd rfl noBreak
    · exact described

theorem pieceOf_ofText (text : String) : pieceOf (Module.ofText text) = .literal text.toList := rfl

/-- The modules that a document holds can be written one after the other: where one was dropped, its
neighbours still read as before. -/
theorem readable_heldModules (wellNamed : WellNamed registry) :
    Readable ((heldModules data registry).map pieceOf) := by
  have typed {type : String} {mod : Module} (named : named? data registry type = some mod) :
      mod.type = type ∧ IsModuleName mod.type := by
    obtain ⟨sameType, rfl | ⟨_, registered, _⟩⟩ := named?_eq_some named
    · exact ⟨sameType, isModuleName_lineBreak⟩
    · exact ⟨sameType, sameType ▸ wellNamed type registered⟩
  unfold heldModules
  split
  · rename_i format _
    apply (readable_pieces format.toList).sublist
    apply map_filterMap_sublist
    intro piece _ mod made
    cases piece with
    | literal text =>
        cases made
        rw [pieceOf_ofText, String.toList_ofList]
    | reference name =>
        obtain ⟨sameType, named⟩ := typed made
        rw [pieceOf_of_type named.noText, sameType, String.toList_ofList]
  · apply readable_of_forall
    intro piece member
    obtain ⟨mod, inModules, rfl⟩ := List.mem_map.mp member
    obtain ⟨type, _, made⟩ := List.mem_filterMap.mp inModules
    have named := (typed made).2
    rw [pieceOf_of_type named.noText]
    exact ⟨named.sound, trivial⟩

/-- Free text that was read has a text. -/
theorem hasFormat_of_ofText {modules : List Module}
    (texts : ∀ mod ∈ modules, mod.isText → ∃ text, mod = Module.ofText text) :
    hasFormat modules = true := by
  rw [hasFormat, List.all_eq_true]
  intro mod member
  cases isText : mod.isText with
  | false => rfl
  | true =>
      obtain ⟨text, rfl⟩ := texts mod member isText
      rfl

theorem hasFormat_heldModules (wellNamed : WellNamed registry) :
    hasFormat (heldModules data registry) = true := by
  apply hasFormat_of_ofText
  intro mod member isText
  rcases mem_heldModules member with made | ⟨type, named⟩
  · exact made
  · obtain ⟨sameType, rfl | ⟨_, registered, _⟩⟩ := named?_eq_some named
    · cases isText
    · have type : mod.type = Module.textType := by simpa [Module.isText] using isText
      exact absurd (sameType.symm.trans type) (wellNamed _ registered).noText

theorem mem_sectionProperties {entries : List (Value × Value)} {pair : String × Value}
    (member : pair ∈ sectionProperties entries) :
    pair.1 ≠ "disabled" ∧ pair.2.kind?.isSome := by
  obtain ⟨entry, _, made⟩ := List.mem_filterMap.mp member
  split at made
  · cases made
  · rename_i enabled
    obtain ⟨value, kind, rfl⟩ := Option.map_eq_some_iff.mp made
    exact ⟨enabled, kind?_of_accepted kind⟩

/-- A described module has supported properties. -/
theorem Described.supported {mod : Module} (described : Described data registry mod)
    (defaults : SupportedDefaults registry) : Supported mod.properties.entries := by
  obtain ⟨definition, held, made⟩ := described
  rw [made]
  intro pair member enabled
  rcases OrderedMap.mem_insertAll member with old | new
  · exact defaults mod.type definition held pair old enabled
  · exact (mem_sectionProperties new).2

theorem supported_of_mem (defaults : SupportedDefaults registry) {mod : Module}
    (member : mod ∈ heldModules data registry) : Supported mod.properties.entries := by
  rcases mem_heldModules member with ⟨text, rfl⟩ | ⟨type, named⟩
  · intro pair inside _
    rcases List.mem_singleton.mp inside with rfl
    rfl
  · obtain ⟨_, rfl | ⟨_, _, described⟩⟩ := named?_eq_some named
    · intro pair inside
      cases inside
    · exact described.supported defaults

/-- Two modules of one type are described in the same way. -/
theorem Described.eq {first second : Module} (described : Described data registry first)
    (other : Described data registry second) (sameType : first.type = second.type) :
    first = second := by
  obtain ⟨definition, held, made⟩ := described
  obtain ⟨definition', held', made'⟩ := other
  rw [sameType] at held made
  rw [held] at held'
  cases held'
  rw [made, ← made']

end Read

theorem firstModules_growText (modules : List Module) (registry : Registry) (written : List String)
    (text : List Char) (all : List Piece) :
    firstModules written ((growText text all).map (restoredPiece modules registry)) =
      firstModules written (all.map (restoredPiece modules registry)) := by
  have skip (content : String) (rest : List Module) :
      firstModules written (Module.ofText content :: rest) = firstModules written rest := by
    have special : ((Module.ofText content).isLineBreak || (Module.ofText content).isText) = true :=
      rfl
    rw [firstModules, if_pos special]
  unfold growText
  split
  · rw [List.map_cons, List.map_cons, restoredPiece, restoredPiece, skip, skip]
  · rw [List.map_cons, restoredPiece, skip]

/-- The modules that get a section when a document is written again have the types of those that got
one before. -/
theorem firstModules_reread (modules : List Module) (registry : Registry) (written : List String)
    (all : List Module) :
    firstModules written
        ((reread (all.map pieceOf)).map (restoredPiece modules registry)) =
      (firstModules written all).map fun mod => restored modules registry mod.type := by
  induction all generalizing written with
  | nil => rfl
  | cons mod all inductionHypothesis =>
      by_cases text : mod.isText
      · have literal : pieceOf mod = .literal mod.freeText.toList := if_pos text
        have special : (mod.isLineBreak || mod.isText) = true := by simp [text]
        rw [List.map_cons, literal, reread, firstModules_growText, inductionHypothesis,
          firstModules, if_pos special]
      · have reference : pieceOf mod = .reference mod.type.toList := if_neg text
        have sameType := type_restored modules registry mod.type
        have special : (mod.isLineBreak || mod.isText) =
            ((restored modules registry mod.type).isLineBreak ||
              (restored modules registry mod.type).isText) := by
          simp only [Module.isLineBreak, Module.isText, sameType]
        rw [List.map_cons, reference, reread, List.map_cons, restoredPiece, String.ofList_toList,
          firstModules, firstModules, sameType, ← special]
        split
        · exact inductionHypothesis written
        · split
          · exact inductionHypothesis written
          · rw [inductionHypothesis, List.map_cons]

theorem pieceOf_restoredPiece {registry : Registry} (modules : List Module) {piece : Piece}
    (named : ∀ name, piece = .reference name → String.ofList name ≠ Module.textType) :
    pieceOf (restoredPiece modules registry piece) = piece := by
  cases piece with
  | literal text => rw [restoredPiece, pieceOf_ofText, String.toList_ofList]
  | reference name =>
      have sameType := type_restored modules registry (String.ofList name)
      have noText : (restored modules registry (String.ofList name)).type ≠ Module.textType := by
        rw [sameType]
        exact named name rfl
      rw [restoredPiece, pieceOf_of_type noText, sameType, String.toList_ofList]

section Again
variable {data : Data} {registry : Registry}

/-- A described module has the same section when it is read from its section and written again. -/
theorem moduleSection_restored (defaults : SupportedDefaults registry) {mod : Module}
    (member : mod ∈ heldModules data registry) (noText : mod.type ≠ Module.textType)
    (noBreak : mod.type ≠ Module.lineBreakType) (writable : Writable mod.properties.entries) :
    moduleSection (restored (heldModules data registry) registry mod.type) =
      moduleSection mod := by
  have described := described_of_mem member noText noBreak
  have registered := ((known_of_mem member).resolve_left noText).resolve_left noBreak
  obtain ⟨first, definition, inModules, sameType, _, held, restores⟩ :=
    restored_of_mem member registered noBreak
  have same : first = mod :=
    (described_of_mem inModules (sameType ▸ noText) (sameType ▸ noBreak)).eq described sameType
  subst same
  have supported := described.supported defaults
  obtain ⟨other, found, made⟩ := described
  rw [held] at found
  cases found
  have properties : first.properties = definition.defaults.insertAll
      (sectionProperties (entriesUnder data first.type)) :=
    congrArg Module.properties made
  have enabled : "disabled" ∉
      (sectionProperties (entriesUnder data first.type)).map Prod.fst := by
    intro inside
    obtain ⟨pair, inPairs, disabled⟩ := List.mem_map.mp inside
    exact (mem_sectionProperties inPairs).1 disabled
  have lines : propertyLines
      (definition.defaults.insertAll (propertyValues first.properties.entries)).entries =
        propertyLines first.properties.entries := by
    rw [properties, insertAll_propertyValues enabled, ← properties]
    exact propertyLines_settleAll supported writable
  rw [restores, moduleSection, moduleSection, lines]

theorem filled_filled (setting : Option String) : filled (filled setting) = filled setting := by
  simp [filled]

/-- The settings as a document gives them back. -/
def settledSettings (settings : Settings) : Settings :=
  { settings with
    palette := filled settings.palette
    rightFormat := filled settings.rightFormat
    continuationPrompt := filled settings.continuationPrompt }

/-- The modules that a document for some modules gives back. -/
def givenBack (modules : List Module) (registry : Registry) : List Module :=
  (reread (modules.map pieceOf)).map (restoredPiece modules registry)

theorem masterFormat_givenBack (modules : List Module) (registry : Registry) :
    masterFormat (givenBack modules registry) = masterFormat modules := by
  have back : ∀ piece ∈ reread (modules.map pieceOf),
      pieceOf (restoredPiece modules registry piece) = piece := by
    intro piece member
    apply pieceOf_restoredPiece
    rintro name rfl
    obtain ⟨mod, _, same⟩ := List.mem_map.mp (reference_mem_reread member)
    unfold pieceOf at same
    split at same
    · cases same
    · rename_i noText
      cases same
      simpa [Module.isText] using noText
  have pieces : (givenBack modules registry).map pieceOf = reread (modules.map pieceOf) := by
    rw [givenBack, List.map_map]
    exact (List.map_congr_left back).trans (List.map_id _)
  rw [← String.toList_inj, toList_masterFormat, toList_masterFormat, pieces,
    flatMap_closed_reread]

theorem hasFormat_givenBack (modules : List Module) (registry : Registry) :
    hasFormat (givenBack modules registry) = true := by
  apply hasFormat_of_ofText
  intro mod member isText
  obtain ⟨piece, inPieces, rfl⟩ := List.mem_map.mp member
  cases piece with
  | literal text => exact ⟨_, rfl⟩
  | reference name =>
      obtain ⟨source, _, same⟩ := List.mem_map.mp (reference_mem_reread inPieces)
      unfold pieceOf at same
      split at same
      · cases same
      · rename_i noText
        cases same
        rw [restoredPiece, Module.isText, type_restored, String.ofList_toList] at isText
        exact absurd isText noText

theorem mapM_moduleSection_map {change : Module → Module} {modules : List Module}
    (same : ∀ mod ∈ modules, moduleSection (change mod) = moduleSection mod) :
    (modules.map change).mapM moduleSection = modules.mapM moduleSection := by
  induction modules with
  | nil => rfl
  | cons mod modules inductionHypothesis =>
      rw [List.map_cons, List.mapM_cons, List.mapM_cons, same mod List.mem_cons_self,
        inductionHypothesis fun other member => same other (.tail _ member)]

theorem topLines_settledSettings {modules others : List Module} (settings : Settings)
    (same : masterFormat modules = masterFormat others) :
    topLines modules (settledSettings settings) = topLines others settings := by
  simp only [topLines, settledSettings, filled_filled, same]

/-- Generating from the modules that a document gives back leads to the same document. -/
theorem generate_givenBack (wellNamed : WellNamed registry) (defaults : SupportedDefaults registry)
    {settings : Settings} {written : String}
    (done : (generate (heldModules data registry) settings).outcome = .ok written) :
    (generate (givenBack (heldModules data registry) registry)
      (settledSettings settings)).outcome = .ok written := by
  have held := exists_generate_iff.mp ⟨written, done⟩
  have lines := topLines_settledSettings settings
    (masterFormat_givenBack (heldModules data registry) registry)
  have top : hasTopLines (givenBack (heldModules data registry) registry)
      (settledSettings settings) = hasTopLines (heldModules data registry) settings := by
    rw [hasTopLines, hasTopLines, hasFormat_givenBack, hasFormat_heldModules wellNamed]
    rfl
  have sections : (sectionModules (givenBack (heldModules data registry) registry)
      (settledSettings settings)).mapM moduleSection =
        (sectionModules (heldModules data registry) settings).mapM moduleSection := by
    rw [sectionModules, lines, givenBack, firstModules_reread]
    apply mapM_moduleSection_map
    intro mod member
    obtain ⟨inModules, _, noBreak, noText⟩ := mem_firstModules member
    exact moduleSection_restored defaults inModules noText noBreak (held.writable mod member)
  rw [← done, outcome_generate, outcome_generate, sections, top]
  simp only [documentSheet, lines]
  rfl

/-- A valid text can be read if no integer in it that has to be turned into a text has too many
digits, and then a document is generated if none of those that it would hold has. Reading that
document gives no warning, and generating from it changes nothing. -/
theorem generate_parse_generate (wellNamed : WellNamed registry)
    (defaults : SupportedDefaults registry) {text : String} (valid : Toml.read text = some data) :
    ((∃ parsed, (parse text registry).outcome = .ok parsed) ↔
      ReadableModules data registry ∧ hasPalettes data = true) ∧
    ∀ parsed, (parse text registry).outcome = .ok parsed →
      ((∃ written, (generate parsed.modules parsed.settings).outcome = .ok written) ↔
        FewDigits parsed.modules parsed.settings) ∧
      ∀ written, (generate parsed.modules parsed.settings).outcome = .ok written →
        (parse written registry).warnings = [] ∧
        ∃ again, (parse written registry).outcome = .ok again ∧
          (generate again.modules again.settings).outcome = .ok written := by
  have known : ∀ mod ∈ heldModules data registry, Known registry mod :=
    fun mod member => known_of_mem member
  have supported : ∀ mod ∈ heldModules data registry, Supported mod.properties.entries :=
    fun mod member => supported_of_mem defaults member
  have unused : ∀ mod ∈ heldModules data registry, mod.type ∉ settingKeys :=
    fun mod member => ((known mod member).no_key wellNamed).1
  have free : ∀ mod ∈ heldModules data registry, mod.type ≠ palettesKey :=
    fun mod member => ((known mod member).no_key wellNamed).2
  constructor
  · simp only [parse_eq_ok_iff, valid, Option.some.injEq, exists_eq_left', exists_and_left,
      exists_eq', and_true]
  intro parsed given
  obtain ⟨other, same, _, _, rfl⟩ := parse_eq_ok_iff.mp given
  obtain rfl := Option.some.inj (valid.symm.trans same)
  refine ⟨exists_generate_iff_fewDigits unused supported, ?_⟩
  intro written done
  obtain ⟨data', read, entries⟩ := read_generate free done
  have modules := modulesOf_documentEntries wellNamed entries known supported
    (readable_heldModules wellNamed)
  have settings : readSettings data' = settledSettings (readSettings data) :=
    readSettings_documentEntries entries unused free
  have again := parse_of_read read (hasPalettes_documentEntries entries free) registry
  rw [modules, settings] at again
  refine ⟨by rw [again]; rfl, ⟨givenBack (heldModules data registry) registry, _⟩, ?_,
    generate_givenBack wellNamed defaults done⟩
  rw [again]
  rfl

/-- The unknown module between the texts is dropped, and the open escape at the end is closed. -/
theorem generate_parse_generate_unknown :
    let text := "format = 'a$none-$time\\\\\\'\n[time]\nn = 0xff\n"
    let registry : Registry := .ofList [{ name := "time" }]
    ∃ parsed written again, (parse text registry).outcome = .ok parsed ∧
      (generate parsed.modules parsed.settings).outcome = .ok written ∧
      (parse written registry).warnings = [] ∧
      (parse written registry).outcome = .ok again ∧
      (generate again.modules again.settings).outcome = .ok written := by
  intro text registry
  have wellNamed : WellNamed registry := by decide
  have defaults : SupportedDefaults registry := by
    intro type definition held
    rcases List.mem_singleton.mp (OrderedMap.mem_of_find held) with ⟨rfl, rfl⟩
    intro pair inside
    cases inside
  have readable : (Toml.read text).isSome := by decide +kernel
  have checked : (parse text registry).outcome.toOption.any fun parsed =>
      (generate parsed.modules parsed.settings).outcome.toOption.isSome := by
    decide +kernel
  obtain ⟨data, valid⟩ := Option.isSome_iff_exists.mp readable
  obtain ⟨parsed, given, generates⟩ := exists_ok_of_any checked
  obtain ⟨written, generated⟩ := exists_ok_of_isSome generates
  obtain ⟨quiet, again, outcome, same⟩ :=
    ((generate_parse_generate wellNamed defaults valid).2 parsed given).2 written generated
  exact ⟨parsed, written, again, given, generated, quiet, outcome, same⟩

end Again

/-- A one and some zeros in base sixteen as a time limit. -/
def hexTimeout (zeros : Nat) : String :=
  .ofList ("scan_timeout = 0x1".toList ++ List.replicate zeros '0' ++ ['\n'])

theorem read_hexTimeout (zeros : Nat) : Toml.read (hexTimeout zeros) =
    some (.ofList [("scan_timeout", .integer (16 ^ zeros : Nat))]) := by
  have hex : ∀ c ∈ '1' :: List.replicate zeros '0', (Text.hexValue? c).isSome := by
    intro c member
    rcases List.mem_cons.mp member with rfl | zero
    · rfl
    · rw [List.eq_of_mem_replicate zero]
      rfl
  have held : Toml.readValue ('0' :: 'x' :: '1' :: List.replicate zeros '0' ++ ['\n']) = _ :=
    Toml.readValue_hex (List.cons_ne_nil _ _) hex rfl
  have layout : hexTimeout zeros = String.ofList (Toml.writePair "scan_timeout"
      ('0' :: 'x' :: '1' :: List.replicate zeros '0' ++ ['\n'])) := rfl
  rw [Toml.hexNumber_one_zeros] at held
  rw [layout]
  exact Toml.read_writePair ⟨_, _, rfl, rfl⟩ held

theorem parse_hexTimeout (zeros : Nat) : (parse (hexTimeout zeros) .empty).outcome =
    .ok ⟨[], { scanTimeout := some (16 ^ zeros : Nat) }⟩ :=
  parse_eq_ok_iff.mpr ⟨_, read_hexTimeout zeros, nofun, rfl, rfl⟩

/-- Five digits in base sixteen say more than six decimal digits. -/
theorem pow_ten_le_pow_sixteen {count few many : Nat} (least : few ≤ 6 * count)
    (most : 5 * count ≤ many) : 10 ^ few ≤ 16 ^ many :=
  calc 10 ^ few ≤ 10 ^ (6 * count) := Nat.pow_le_pow_right (by decide) least
    _ = (10 ^ 6) ^ count := Nat.pow_mul 10 6 count
    _ ≤ (16 ^ 5) ^ count := Nat.pow_le_pow_left (by decide) count
    _ = 16 ^ (5 * count) := (Nat.pow_mul 16 5 count).symm
    _ ≤ 16 ^ many := Nat.pow_le_pow_right (by decide) most

theorem not_isWritable_pow_sixteen {zeros : Nat} (many : 3585 ≤ zeros) :
    ¬ Text.isWritable (16 ^ zeros : Nat) = true := by
  have least : Text.maxDigits ≤ 6 * 717 := by decide
  rw [Toml.isWritable_iff, Int.natAbs_natCast]
  exact Nat.not_lt.mpr (pow_ten_le_pow_sixteen least many)

theorem not_exists_generate_of_hexTimeout {zeros : Nat} (many : 3585 ≤ zeros) {parsed : Parsed}
    (given : (parse (hexTimeout zeros) .empty).outcome = .ok parsed) :
    ¬ ∃ written, (generate parsed.modules parsed.settings).outcome = .ok written := by
  rw [parse_hexTimeout] at given
  cases given
  rintro ⟨written, done⟩
  have top := (exists_generate_iff.mp ⟨written, done⟩).top
  simp only [hasTopLines, Bool.and_eq_true, Option.all_some] at top
  exact not_isWritable_pow_sixteen many top.1.2

/-- A valid text of one line, for which there is no document. -/
theorem not_exists_generate_hexTimeout :
    (∃ data, Toml.read (hexTimeout 3585) = some data) ∧
      ∃ parsed, (parse (hexTimeout 3585) .empty).outcome = .ok parsed ∧
        ¬ ∃ written, (generate parsed.modules parsed.settings).outcome = .ok written :=
  ⟨⟨_, read_hexTimeout _⟩, _, parse_hexTimeout _,
    not_exists_generate_of_hexTimeout (Nat.le_refl _) (parse_hexTimeout _)⟩

end ShellPrompt.Config
