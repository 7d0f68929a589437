import ShellPrompt.Proofs.Config.Format
import ShellPrompt.Proofs.Config.Properties
import ShellPrompt.Proofs.Config.Settings

/-!
Modules survive a document. They come back in their order, and every module of a type has what the
first one of that type has, over the defaults of its definition.
-/

namespace ShellPrompt.Config

/-- A name that a type of module may have: it can be told from free text in a master format, and is
no key that a document uses for something else. -/
structure IsModuleName (name : String) : Prop where
  filled : name ≠ ""
  plain : ∀ c ∈ name.toList, Template.isNameChar c = true
  noText : name ≠ Module.textType
  noSetting : name ∉ settingKeys
  noPalettes : name ≠ palettesKey

instance (name : String) : Decidable (IsModuleName name) :=
  decidable_of_iff (name ≠ "" ∧ name.toList.all Template.isNameChar = true ∧
      name ≠ Module.textType ∧ name ∉ settingKeys ∧ name ≠ palettesKey)
    ⟨fun ⟨filled, plain, others⟩ =>
      ⟨filled, List.all_eq_true.mp plain, others.1, others.2.1, others.2.2⟩,
      fun ⟨filled, plain, noText, noSetting, noPalettes⟩ =>
        ⟨filled, List.all_eq_true.mpr plain, noText, noSetting, noPalettes⟩⟩

def WellNamed (registry : Registry) : Prop := ∀ name ∈ registry.names, IsModuleName name

instance (registry : Registry) : Decidable (WellNamed registry) :=
  inferInstanceAs (Decidable (∀ name ∈ registry.names, IsModuleName name))

/-- A module that a configuration can name, or some free text. -/
def Known (registry : Registry) (mod : Module) : Prop :=
  mod.type = Module.textType ∨ mod.type = Module.lineBreakType ∨ mod.type ∈ registry.names

theorem isModuleName_lineBreak : IsModuleName Module.lineBreakType := by decide

theorem Known.isModuleName {registry : Registry} (wellNamed : WellNamed registry) {mod : Module}
    (known : Known registry mod) (noText : mod.type ≠ Module.textType) :
    IsModuleName mod.type := by
  rcases known with text | lineBreak | registered
  · exact absurd text noText
  · exact lineBreak ▸ isModuleName_lineBreak
  · exact wellNamed mod.type registered

theorem Known.no_key {registry : Registry} (wellNamed : WellNamed registry) {mod : Module}
    (known : Known registry mod) : mod.type ∉ settingKeys ∧ mod.type ≠ palettesKey := by
  by_cases text : mod.type = Module.textType
  · rw [text]
    exact ⟨by decide, by decide⟩
  · have named := known.isModuleName wellNamed text
    exact ⟨named.noSetting, named.noPalettes⟩

/-- The piece of a master format that a module is. -/
def pieceOf (mod : Module) : Piece :=
  if mod.isText then .literal mod.freeText.toList else .reference mod.type.toList

theorem closed_pieceOf (mod : Module) : (pieceOf mod).closed = formatPart mod := by
  unfold pieceOf formatPart
  by_cases lineBreak : mod.isLineBreak
  · have type : mod.type = Module.lineBreakType := by simpa [Module.isLineBreak] using lineBreak
    have noText : mod.isText = false := by
      rw [Module.isText, type]
      rfl
    rw [if_pos lineBreak, noText, if_neg Bool.false_ne_true, type]
    rfl
  · rw [if_neg lineBreak]
    split <;> rfl

theorem pieceOf_of_type {mod : Module} (noText : mod.type ≠ Module.textType) :
    pieceOf mod = .reference mod.type.toList := by
  rw [pieceOf, if_neg]
  simpa [Module.isText] using noText

theorem IsModuleName.sound {name : String} (named : IsModuleName name) :
    (Piece.reference name.toList).Sound :=
  ⟨fun empty => named.filled (String.toList_eq_nil_iff.mp empty), named.plain⟩

theorem toList_masterFormat (modules : List Module) :
    (masterFormat modules).toList = (modules.map pieceOf).flatMap Piece.closed := by
  rw [masterFormat, String.toList_ofList, List.flatMap_map]
  simp only [closed_pieceOf]

theorem reference_mem_reread {name : List Char} {all : List Piece}
    (member : .reference name ∈ reread all) : .reference name ∈ all := by
  induction all with
  | nil => cases member
  | cons piece rest inductionHypothesis =>
      cases piece with
      | reference other =>
          rcases List.mem_cons.mp member with same | member
          · exact same ▸ List.mem_cons_self
          · exact .tail _ (inductionHypothesis member)
      | literal text =>
          refine .tail _ (inductionHypothesis ?_)
          rw [reread] at member
          unfold growText at member
          split at member
          · rename_i after others same
            rcases List.mem_cons.mp member with impossible | member
            · cases impossible
            · rw [same]
              exact .tail _ member
          · rcases List.mem_cons.mp member with impossible | member
            · cases impossible
            · exact member

theorem gather_eq {α : Type} {read : α → Report LongInteger (Option Module)} {items : List α}
    {result : α → Module} (each : ∀ item ∈ items, read item = pure (some (result item))) :
    gather read items = pure (items.map result) := by
  induction items with
  | nil => rfl
  | cons item items inductionHypothesis =>
      rw [gather, each item List.mem_cons_self,
        inductionHypothesis fun other member => each other (.tail _ member)]
      rfl

/-- What a document makes of a type of module that it holds a section for. -/
def restored (modules : List Module) (registry : Registry) (type : String) : Module :=
  if type = Module.lineBreakType then Module.lineBreak
  else
    match modules.find? fun mod => mod.type = type, registry.get? type with
    | some first, some definition =>
        { type
          disabled := first.disabled
          properties := definition.defaults.insertAll (propertyValues first.properties.entries) }
    | _, _ => { type }

theorem type_restored (modules : List Module) (registry : Registry) (type : String) :
    (restored modules registry type).type = type := by
  unfold restored
  split
  · rename_i lineBreak
    exact lineBreak.symm
  · split <;> rfl

/-- What a document makes of a piece of its master format. -/
def restoredPiece (modules : List Module) (registry : Registry) : Piece → Module
  | .literal text => Module.ofText (String.ofList text)
  | .reference name => restored modules registry (String.ofList name)

section Reading
variable {modules : List Module} {settings : Settings} {data : Data} {registry : Registry}

theorem get?_format (read : data.entries = documentEntries modules settings)
    (unused : ∀ mod ∈ modules, mod.type ∉ settingKeys) :
    data.get? "format" = some (.text (masterFormat modules)) := by
  have alone : ∀ mod ∈ modules, mod.type ≠ "format" := by
    intro mod member same
    exact unused mod member (same ▸ by decide)
  rw [get?_setting read alone (by decide), find_topLines]
  simp

/-- The table under a name comes from the first module of that type. -/
theorem get?_section (read : data.entries = documentEntries modules settings) {type : String}
    (named : IsModuleName type) (noBreak : type ≠ Module.lineBreakType) :
    data.get? type = (modules.find? fun mod => mod.type = type).map sectionTable := by
  have noLine : type ∉ (topLines modules settings).map Prod.fst :=
    not_mem_topLines named.noSetting
  have top : OrderedMap.find type
      ((topLines modules settings).map fun line => (line.1, line.2.toValue)) = none := by
    rw [OrderedMap.find_eq_none_iff, List.map_map]
    exact noLine
  rw [OrderedMap.get?, read, documentEntries, OrderedMap.find_append, OrderedMap.find_append, top,
    find_palettesTable named.noPalettes, Option.none_or, Option.or_none, sectionModules,
    find_firstModules sectionTable modules noLine noBreak named.noText]

theorem restored_of_mem {mod : Module} (member : mod ∈ modules)
    (registered : mod.type ∈ registry.names) (noBreak : mod.type ≠ Module.lineBreakType) :
    ∃ first definition, first ∈ modules ∧ first.type = mod.type ∧
      modules.find? (fun other => other.type = mod.type) = some first ∧
      registry.get? mod.type = some definition ∧
      restored modules registry mod.type =
        { type := mod.type
          disabled := first.disabled
          properties :=
            definition.defaults.insertAll (propertyValues first.properties.entries) } := by
  obtain ⟨definition, held⟩ : ∃ definition, registry.get? mod.type = some definition :=
    OrderedMap.mem_keys_iff.mp registered
  obtain ⟨first, found⟩ : ∃ first, modules.find? (fun other => other.type = mod.type) =
      some first := by
    apply Option.isSome_iff_exists.mp
    rw [List.find?_isSome]
    exact ⟨mod, member, by simp⟩
  have sameType : first.type = mod.type := by
    simpa using List.find?_some found
  refine ⟨first, definition, List.mem_of_find?_eq_some found, sameType, found, held, ?_⟩
  rw [restored, if_neg noBreak, found, held]

theorem namedModule_restored (wellNamed : WellNamed registry)
    (read : data.entries = documentEntries modules settings)
    (supported : ∀ mod ∈ modules, Supported mod.properties.entries) {mod : Module}
    (member : mod ∈ modules) (known : Known registry mod) (noText : mod.type ≠ Module.textType) :
    namedModule data registry mod.type = pure (some (restored modules registry mod.type)) := by
  by_cases lineBreak : mod.type = Module.lineBreakType
  · rw [namedModule, restored, if_pos lineBreak, if_pos lineBreak]
  · have named := known.isModuleName wellNamed noText
    have registered := (known.resolve_left noText).resolve_left lineBreak
    obtain ⟨first, definition, inModules, sameType, found, held, restores⟩ :=
      restored_of_mem member registered lineBreak
    have table : data.get? first.type = some (sectionTable first) := by
      rw [sameType, get?_section read named lineBreak, found]
      rfl
    have module := readModule_sectionTable table (supported first inModules) definition
    rw [sameType] at module
    rw [restores, namedModule, if_neg lineBreak, held]
    simp only [module]
    rfl

/-- Reading the modules of a generated document gives back what its master format names, without any
warning. -/
theorem modulesOf_documentEntries (wellNamed : WellNamed registry)
    (read : data.entries = documentEntries modules settings)
    (known : ∀ mod ∈ modules, Known registry mod)
    (supported : ∀ mod ∈ modules, Supported mod.properties.entries)
    (readable : Readable (modules.map pieceOf)) :
    modulesOf data registry =
      pure ((reread (modules.map pieceOf)).map (restoredPiece modules registry)) := by
  have unused : ∀ mod ∈ modules, mod.type ∉ settingKeys :=
    fun mod member => ((known mod member).no_key wellNamed).1
  have format : modulesOf data registry =
      modulesOfFormat (masterFormat modules) data registry := by
    rw [modulesOf, get?_format read unused]
    rfl
  rw [format, modulesOfFormat, toList_masterFormat, pieces_closed readable]
  apply gather_eq
  intro piece member
  cases piece with
  | literal text => rfl
  | reference name =>
      obtain ⟨mod, inModules, same⟩ := List.mem_map.mp (reference_mem_reread member)
      unfold pieceOf at same
      split at same
      · cases same
      · rename_i noText
        cases same
        have other : mod.type ≠ Module.textType := by simpa [Module.isText] using noText
        rw [pieceModule, String.ofList_toList, restoredPiece, String.ofList_toList]
        exact namedModule_restored wellNamed read supported inModules (known mod inModules) other

end Reading

/-- A value of a supported kind, with nothing but texts in a map. -/
inductive IsProperty : Value → Prop where
  | flag (value : Bool) : IsProperty (.flag value)
  | integer (value : Int) : IsProperty (.integer value)
  | decimal (value : Decimal) : IsProperty (.decimal value)
  | text (value : String) : IsProperty (.text value)
  | map (entries : OrderedMap String String) : IsProperty (paletteTable entries)

theorem IsProperty.kind {value : Value} (property : IsProperty value) : value.kind?.isSome := by
  cases property with
  | flag => rfl
  | integer => rfl
  | decimal => rfl
  | text => rfl
  | map entries => rw [kind?_paletteTable, Option.isSome_some]

theorem IsProperty.settled {value : Value} (property : IsProperty value) :
    settle value = value := by
  cases property with
  | flag => rfl
  | integer => rfl
  | decimal => rfl
  | text => rfl
  | map entries => exact settle_paletteTable entries

/-- Where a module has nothing but texts in its maps, its properties are found as they were. -/
theorem get?_insertAll_propertyValues {properties : Properties}
    (plain : ∀ entry ∈ properties.entries, IsProperty entry.2) (defaults : Properties)
    {key : String} (enabled : key ≠ "disabled") :
    (defaults.insertAll (propertyValues properties.entries)).get? key =
      (properties.get? key).or (defaults.get? key) := by
  have settled : (properties.get? key).map settle = properties.get? key := by
    cases found : properties.get? key with
    | none => rfl
    | some value =>
        have property := plain (key, value) (OrderedMap.mem_of_find found)
        rw [Option.map_some, property.settled]
  rw [OrderedMap.get?_insertAll (nodup_map_fst_propertyValues properties),
    find_propertyValues enabled]
  exact congrArg (Option.or · (defaults.get? key)) settled

theorem reread_references (names : List (List Char)) :
    reread (names.map Piece.reference) = names.map Piece.reference := by
  induction names with
  | nil => rfl
  | cons name names inductionHypothesis =>
      rw [List.map_cons, reread, inductionHypothesis]

section References
variable {modules : List Module}

/-- Modules without free text are nothing but references. -/
theorem map_pieceOf (named : ∀ mod ∈ modules, IsModuleName mod.type) :
    modules.map pieceOf = (modules.map fun mod => mod.type.toList).map Piece.reference := by
  rw [List.map_map]
  apply List.map_congr_left
  exact fun mod member => pieceOf_of_type (named mod member).noText

theorem readable_references (named : ∀ mod ∈ modules, IsModuleName mod.type) :
    Readable (modules.map pieceOf) := by
  rw [map_pieceOf named, List.map_map]
  apply readable_of_forall
  intro piece member
  obtain ⟨mod, inModules, rfl⟩ := List.mem_map.mp member
  exact ⟨(named mod inModules).sound, trivial⟩

/-- Without free text, every module comes back as what the document makes of its type. -/
theorem heldModules_documentEntries {settings : Settings} {data : Data} {registry : Registry}
    (wellNamed : WellNamed registry) (read : data.entries = documentEntries modules settings)
    (named : ∀ mod ∈ modules, IsModuleName mod.type)
    (known : ∀ mod ∈ modules, Known registry mod)
    (supported : ∀ mod ∈ modules, Supported mod.properties.entries) :
    heldModules data registry = modules.map fun mod => restored modules registry mod.type := by
  have gathered :=
    modulesOf_documentEntries wellNamed read known supported (readable_references named)
  have held := (outcome_modulesOf_eq_ok_iff.mp (congrArg Report.outcome gathered)).2
  rw [held, map_pieceOf named, reread_references, List.map_map, List.map_map]
  apply List.map_congr_left
  intro mod member
  simp only [Function.comp_apply, restoredPiece, String.ofList_toList]

end References

/-- A document exists exactly if its integers have few enough digits, and it gives the modules back
in their order. Each has the flag and the properties of the first module of its type, and the
defaults of its definition for the rest. -/
theorem modules_parse_generate {registry : Registry} (wellNamed : WellNamed registry)
    {modules : List Module} (settings : Settings)
    (types : ∀ mod ∈ modules, mod.type = Module.lineBreakType ∨ mod.type ∈ registry.names)
    (plain : ∀ mod ∈ modules, ∀ entry ∈ mod.properties.entries, IsProperty entry.2) :
    ((∃ text, (generate modules settings).outcome = .ok text) ↔ FewDigits modules settings) ∧
    ∀ text, (generate modules settings).outcome = .ok text →
      ∃ parsed, (parse text registry).outcome = .ok parsed ∧
      parsed.modules.map Module.type = modules.map Module.type ∧
      ∀ mod ∈ parsed.modules, mod.type ≠ Module.lineBreakType →
        ∃ first definition, modules.find? (fun other => other.type = mod.type) = some first ∧
          registry.get? mod.type = some definition ∧ mod.disabled = first.disabled ∧
          ∀ key, key ≠ "disabled" → mod.properties.get? key =
            (first.properties.get? key).or (definition.defaults.get? key) := by
  have known : ∀ mod ∈ modules, Known registry mod := fun mod member => .inr (types mod member)
  have named : ∀ mod ∈ modules, IsModuleName mod.type := by
    intro mod member
    rcases types mod member with lineBreak | registered
    · exact lineBreak ▸ isModuleName_lineBreak
    · exact wellNamed mod.type registered
  have supported : ∀ mod ∈ modules, Supported mod.properties.entries :=
    fun mod member entry inside _ => (plain mod member entry inside).kind
  have noKey : ∀ mod ∈ modules, mod.type ∉ settingKeys :=
    fun mod member => (named mod member).noSetting
  refine ⟨exists_generate_iff_fewDigits noKey supported, ?_⟩
  intro text done
  have free : ∀ mod ∈ modules, mod.type ≠ palettesKey :=
    fun mod member => (named mod member).noPalettes
  obtain ⟨data, read, entries⟩ := read_generate free done
  have held := heldModules_documentEntries wellNamed entries named known supported
  refine ⟨_, parse_generate_eq_ok registry done read entries free, ?_, ?_⟩
  · simp only [held, List.map_map]
    apply List.map_congr_left
    exact fun mod _ => type_restored modules registry mod.type
  · simp only [held]
    intro mod member noBreak
    obtain ⟨source, inModules, rfl⟩ := List.mem_map.mp member
    rw [type_restored] at noBreak ⊢
    obtain ⟨first, definition, firstInModules, sameType, found, held, restores⟩ :=
      restored_of_mem inModules ((types source inModules).resolve_left noBreak) noBreak
    refine ⟨first, definition, found, held, by rw [restores], ?_⟩
    intro key enabled
    rw [restores]
    exact get?_insertAll_propertyValues (plain first firstInModules) definition.defaults enabled

theorem modules_parse_generate_repeated :
    let modules : List Module :=
      [{ type := "time", disabled := true
         properties := .ofList [("style", .text "it's"), ("n", .integer (-5))] },
        Module.lineBreak, { type := "time" }]
    ∃ text parsed, (generate modules {}).outcome = .ok text ∧
      (parse text (.ofList [{ name := "time" }])).outcome = .ok parsed ∧
      parsed.modules.map Module.type = ["time", "line_break", "time"] := by
  intro modules
  have wellNamed : WellNamed (.ofList [{ name := "time" }]) := by decide
  have types : ∀ mod ∈ modules, mod.type = Module.lineBreakType ∨
      mod.type ∈ (Registry.ofList [{ name := "time" }]).names := by
    decide
  have entries {mod : Module} (member : mod ∈ modules) {entry : String × Value}
      (inside : entry ∈ mod.properties.entries) :
      entry = ("style", .text "it's") ∨ entry = ("n", .integer (-5)) := by
    simp only [modules, List.mem_cons, List.not_mem_nil, or_false] at member
    rcases member with rfl | rfl | rfl
    · have listed : entry ∈ [("style", Value.text "it's"), ("n", .integer (-5))] := inside
      simpa using listed
    · cases inside
    · cases inside
  have plain : ∀ mod ∈ modules, ∀ entry ∈ mod.properties.entries, IsProperty entry.2 := by
    intro mod member entry inside
    rcases entries member inside with rfl | rfl
    · exact .text "it's"
    · exact .integer (-5)
  have few : FewDigits modules {} := by
    refine ⟨nofun, nofun, rfl, fun mod _ _ found entry inside _ => ?_⟩
    rcases entries (List.mem_of_find?_eq_some found) inside with rfl | rfl <;> decide
  obtain ⟨written, reads⟩ := modules_parse_generate wellNamed {} types plain
  obtain ⟨text, done⟩ := written.mpr few
  obtain ⟨parsed, outcome, same, _⟩ := reads text done
  exact ⟨text, parsed, done, outcome, same⟩

/-- An integer property of one digit too many leaves no document. -/
theorem not_exists_generate_longInteger :
    let registry : Registry := .ofList [{ name := "time" }]
    let mod : Module :=
      { type := "time", properties := .ofList [("n", .integer (10 ^ Text.maxDigits : Nat))] }
    WellNamed registry ∧ mod.type ∈ registry.names ∧
      (∀ entry ∈ mod.properties.entries, IsProperty entry.2) ∧
      ¬ ∃ text, (generate [mod] {}).outcome = .ok text := by
  intro registry mod
  have wellNamed : WellNamed registry := by decide
  have known : mod.type ∈ registry.names := List.mem_singleton.mpr rfl
  have plain : ∀ entry ∈ mod.properties.entries, IsProperty entry.2 := by
    intro entry inside
    rcases List.mem_singleton.mp inside with rfl
    exact .integer _
  refine ⟨wellNamed, known, plain, ?_⟩
  rintro ⟨text, done⟩
  have writable := (exists_generate_iff.mp ⟨text, done⟩).writable mod List.mem_cons_self _
    List.mem_cons_self (by decide)
  exact Bool.false_ne_true (Toml.isWritable_pow_maxDigits.symm.trans writable)

end ShellPrompt.Config
