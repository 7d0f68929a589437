import ShellPrompt.Proofs.Config.Document
import ShellPrompt.Proofs.Config.Reading

/-!
Settings survive a document. Each of them is found under its own key again, and the palettes in
their order, because no module goes by the key of a setting.
-/

namespace ShellPrompt.Config

section Lookup
variable {modules : List Module} {settings : Settings} {data : Data}

theorem find_sections_eq_none {key : String} (unused : ∀ mod ∈ modules, mod.type ≠ key) :
    OrderedMap.find key
      ((sectionModules modules settings).map fun mod => (mod.type, sectionTable mod)) = none := by
  rw [OrderedMap.find_eq_none_iff, List.map_map]
  intro member
  obtain ⟨mod, inSections, same⟩ := List.mem_map.mp member
  exact unused mod (mem_firstModules inSections).1 same

theorem find_palettesTable {key : String} (other : key ≠ palettesKey) :
    OrderedMap.find key (if settings.palettes.entries = [] then []
      else [(palettesKey, palettesTable settings.palettes)]) = none := by
  split
  · rfl
  · rw [OrderedMap.find, if_neg other.symm]
    rfl

/-- Where no module goes by a key, only the top-level lines and the palettes can hold it. -/
theorem get?_setting (read : data.entries = documentEntries modules settings) {key : String}
    (unused : ∀ mod ∈ modules, mod.type ≠ key) (other : key ≠ palettesKey) :
    data.get? key = OrderedMap.find key
      ((topLines modules settings).map fun line => (line.1, line.2.toValue)) := by
  rw [OrderedMap.get?, read, documentEntries, OrderedMap.find_append, OrderedMap.find_append,
    find_sections_eq_none unused, find_palettesTable other, Option.or_none, Option.or_none]

theorem get?_palettes (read : data.entries = documentEntries modules settings)
    (free : ∀ mod ∈ modules, mod.type ≠ palettesKey) :
    data.get? palettesKey =
      if settings.palettes.entries = [] then none else some (palettesTable settings.palettes) := by
  have top : OrderedMap.find palettesKey
      ((topLines modules settings).map fun line => (line.1, line.2.toValue)) = none := by
    rw [OrderedMap.find_eq_none_iff, List.map_map]
    exact not_mem_topLines (by decide)
  rw [OrderedMap.get?, read, documentEntries, OrderedMap.find_append, OrderedMap.find_append,
    find_sections_eq_none free, top, Option.or_none, Option.none_or]
  split
  · rfl
  · rw [OrderedMap.find, if_pos rfl]

end Lookup

/-- What the top-level lines hold under each key of a setting. -/
theorem find_topLines (modules : List Module) (settings : Settings) (key : String) :
    OrderedMap.find key
        ((topLines modules settings).map fun line => (line.1, line.2.toValue)) =
      if key = "add_newline" then settings.addNewline.map .flag
      else if key = "command_timeout" then settings.commandTimeout.map .integer
      else if key = "scan_timeout" then settings.scanTimeout.map .integer
      else if key = "palette" then (filled settings.palette).map .text
      else if key = "format" then some (.text (masterFormat modules))
      else if key = "right_format" then (filled settings.rightFormat).map .text
      else if key = "continuation_prompt" then (filled settings.continuationPrompt).map .text
      else none := by
  unfold topLines
  simp only [List.map_append, OrderedMap.find_append, find_optionalLine, List.map_cons,
    List.map_nil, OrderedMap.find]
  by_cases inKeys : key ∈ settingKeys
  · simp only [settingKeys, List.mem_cons, List.not_mem_nil, or_false] at inKeys
    rcases inKeys with rfl | rfl | rfl | rfl | rfl | rfl | rfl <;> simp [Toml.Item.toValue]
  · simp only [settingKeys, List.mem_cons, List.not_mem_nil, or_false, not_or] at inKeys
    simp [inKeys, eq_comm]

/-- The palettes that a table of palettes stands for. -/
theorem readPalettes_palettesTable (palettes : OrderedMap String Palette) :
    readPalettes ((palettes.mapValues paletteTable).entries.map fun entry =>
      (.text entry.1, entry.2)) = palettes := by
  refine (congrArg OrderedMap.ofList ?_).trans (OrderedMap.ofList_entries palettes)
  simp only [OrderedMap.mapValues, List.map_map, List.filterMap_map, Function.comp_def,
    paletteTable, Value.table, Value.toText_text]
  have same (palette : Palette) := textTable_palette palette
  simp only [OrderedMap.mapValues, List.map_map, Function.comp_def] at same
  simp [same]

theorem filled_of_ne {setting : Option String} (set : setting ≠ some "") :
    filled setting = setting := by
  cases setting with
  | none => rfl
  | some text =>
      have filledText : text ≠ "" := fun empty => set (congrArg some empty)
      simp [filled, filledText]

theorem asText?_map_text (setting : Option String) :
    (setting.map Value.text).bind Value.asText? = setting := by
  cases setting <;> rfl

section Reading
variable {modules : List Module} {settings : Settings} {data : Data}

/-- The value of a setting is that of its line: no section goes by the same name. -/
theorem get?_settingKey (read : data.entries = documentEntries modules settings)
    (unused : ∀ mod ∈ modules, mod.type ∉ settingKeys) {key : String}
    (inKeys : key ∈ settingKeys) :
    data.get? key = OrderedMap.find key
      ((topLines modules settings).map fun line => (line.1, line.2.toValue)) := by
  apply get?_setting read
  · rintro mod member rfl
    exact unused mod member inKeys
  · rintro rfl
    exact absurd inKeys (by decide)

theorem palettes_readSettings (read : data.entries = documentEntries modules settings)
    (free : ∀ mod ∈ modules, mod.type ≠ palettesKey) :
    (readSettings data).palettes = settings.palettes := by
  have held := get?_palettes read free
  rw [palettesKey] at held
  by_cases empty : settings.palettes.entries = []
  · rw [if_pos empty] at held
    simp only [readSettings, held]
    exact OrderedMap.ext empty.symm
  · rw [if_neg empty] at held
    simp only [readSettings, held]
    exact readPalettes_palettesTable settings.palettes

/-- The settings that a generated document gives back. An empty text is not written. -/
theorem readSettings_documentEntries (read : data.entries = documentEntries modules settings)
    (unused : ∀ mod ∈ modules, mod.type ∉ settingKeys)
    (free : ∀ mod ∈ modules, mod.type ≠ palettesKey) :
    readSettings data =
      { settings with
        palette := filled settings.palette
        rightFormat := filled settings.rightFormat
        continuationPrompt := filled settings.continuationPrompt } := by
  have found {key : String} (inKeys : key ∈ settingKeys) :=
    (get?_settingKey read unused inKeys).trans (find_topLines modules settings key)
  have palettes := palettes_readSettings read free
  unfold readSettings
  congr 1
  · rw [found (by decide)]
    cases settings.addNewline <;> rfl
  · rw [found (by decide)]
    cases settings.commandTimeout <;> rfl
  · rw [found (by decide)]
    cases settings.scanTimeout <;> rfl
  · rw [found (by decide)]
    exact asText?_map_text (filled settings.palette)
  · rw [found (by decide)]
    exact asText?_map_text (filled settings.rightFormat)
  · rw [found (by decide)]
    exact asText?_map_text (filled settings.continuationPrompt)

end Reading

section Readable
variable {modules : List Module} {settings : Settings} {data : Data}

theorem readableSection_of_toValue {item : Toml.Item} {entries : List (Value × Value)}
    (table : item.toValue = .map entries) : ReadableSection entries := by
  cases item with
  | table texts =>
      obtain rfl := Value.map.inj table
      intro entry member _
      obtain ⟨_, inside, rfl⟩ := List.mem_map.mp member
      obtain ⟨_, _, rfl⟩ := List.mem_map.mp inside
      rfl
  | short text => cases table
  | long text => cases table
  | flag value => cases table
  | integer value => cases table
  | decimal value => cases table

theorem readableSection_palettes {palettes : OrderedMap String Palette}
    {entries : List (Value × Value)} (table : palettesTable palettes = .map entries) :
    ReadableSection entries := by
  obtain rfl := Value.map.inj table
  intro entry member _
  obtain ⟨_, inside, rfl⟩ := List.mem_map.mp member
  obtain ⟨palette, _, rfl⟩ := List.mem_map.mp inside
  exact isReadable_of_isWritable (isWritable_paletteTable palette.2)

/-- Every section of a generated document can be read, also one that is taken for a module's. -/
theorem readableSection_documentEntries (held : Generable modules settings)
    (read : data.entries = documentEntries modules settings) (type : String) :
    ReadableSection (entriesUnder data type) := by
  unfold entriesUnder
  split
  · rename_i entries found
    have member := OrderedMap.mem_of_find found
    rw [read, documentEntries] at member
    rcases List.mem_append.mp member with member | member
    · rcases List.mem_append.mp member with member | member
      · obtain ⟨line, _, same⟩ := List.mem_map.mp member
        exact readableSection_of_toValue (congrArg Prod.snd same)
      · obtain ⟨mod, inSections, same⟩ := List.mem_map.mp member
        obtain rfl := Value.map.inj ((sectionTable_eq mod).symm.trans (congrArg Prod.snd same))
        exact readableSection_sectionEntries (held.supported mod inSections)
    · split at member
      · cases member
      · have same := congrArg Prod.snd (List.mem_singleton.mp member)
        exact readableSection_palettes same.symm
  · exact fun _ member => absurd member List.not_mem_nil

theorem hasPalettes_documentEntries (read : data.entries = documentEntries modules settings)
    (free : ∀ mod ∈ modules, mod.type ≠ palettesKey) : hasPalettes data = true := by
  have held := get?_palettes read free
  rw [palettesKey] at held
  unfold hasPalettes
  rw [held]
  split
  · rename_i entries found
    split at found
    · cases found
    · obtain rfl := Value.map.inj (Option.some.inj found)
      rw [List.all_eq_true]
      intro entry member
      obtain ⟨_, inside, rfl⟩ := List.mem_map.mp member
      obtain ⟨palette, _, rfl⟩ := List.mem_map.mp inside
      exact isWritable_paletteTable palette.2
  · rfl

/-- A generated text is read as the modules and the settings that its document holds. -/
theorem parse_generate_eq_ok {text : String} (registry : Registry)
    (done : (generate modules settings).outcome = .ok text) (read : Toml.read text = some data)
    (entries : data.entries = documentEntries modules settings)
    (free : ∀ mod ∈ modules, mod.type ≠ palettesKey) :
    (parse text registry).outcome = .ok ⟨heldModules data registry, readSettings data⟩ := by
  have held := exists_generate_iff.mp ⟨text, done⟩
  exact parse_eq_ok_iff.mpr ⟨data, read,
    readableModules_of_sections (readableSection_documentEntries held entries),
    hasPalettes_documentEntries entries free, rfl⟩

end Readable

/-- Reading a generated document gives the settings back. A text that is empty counts as left out,
so the right format comes back as nothing where it was empty. -/
theorem settings_parse_generate {modules : List Module} {settings : Settings} {text : String}
    (registry : Registry) (done : (generate modules settings).outcome = .ok text)
    (names : ∀ mod ∈ modules, mod.type ∉ settingKeys ∧ mod.type ≠ palettesKey)
    (palette : settings.palette ≠ some "") (continuation : settings.continuationPrompt ≠ some "") :
    ∃ parsed, (parse text registry).outcome = .ok parsed ∧
      parsed.settings = { settings with rightFormat := filled settings.rightFormat } := by
  have free : ∀ mod ∈ modules, mod.type ≠ palettesKey := fun mod member => (names mod member).2
  have unused : ∀ mod ∈ modules, mod.type ∉ settingKeys := fun mod member => (names mod member).1
  obtain ⟨data, read, entries⟩ := read_generate free done
  refine ⟨_, parse_generate_eq_ok registry done read entries free, ?_⟩
  simp only [readSettings_documentEntries entries unused free, filled_of_ne palette,
    filled_of_ne continuation]

theorem settings_parse_generate_palettes :
    ∃ text parsed,
      (generate [{ type := "directory" }, Module.ofText "it's"]
        { addNewline := some false
          palette := some "it's"
          palettes := .ofList [("", .ofList [("a.b", "\"red\"")]), ("x", .empty)] }).outcome =
        .ok text ∧
      (parse text .empty).outcome = .ok parsed ∧
      parsed.settings =
        { addNewline := some false
          palette := some "it's"
          palettes := .ofList [("", .ofList [("a.b", "\"red\"")]), ("x", .empty)] } := by
  have supported : ∀ mod ∈ [{ type := "directory" }, Module.ofText "it's"],
      Supported mod.properties.entries := by
    unfold Supported
    decide
  have writable : ∀ mod ∈ [{ type := "directory" }, Module.ofText "it's"],
      Writable mod.properties.entries := by
    unfold Writable
    decide
  obtain ⟨text, done⟩ := generate_of_supported
    { addNewline := some false
      palette := some "it's"
      palettes := .ofList [("", .ofList [("a.b", "\"red\"")]), ("x", .empty)] }
    (by decide) supported writable
  obtain ⟨parsed, outcome, same⟩ :=
    settings_parse_generate .empty done (by decide) (by decide) (by decide)
  exact ⟨text, parsed, done, outcome, same⟩

end ShellPrompt.Config
