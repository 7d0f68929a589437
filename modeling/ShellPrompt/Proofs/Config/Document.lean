import ShellPrompt.Proofs.Config.Sections

/-!
A generated document as data. Its top-level table holds the settings, one table for each type of
module, and the table of the palettes, as long as no module goes by the key of the palettes.
-/

namespace ShellPrompt.Config

open Toml

/-- The keys of settings that a document may have beside the palettes. -/
def settingKeys : List String :=
  ["add_newline", "command_timeout", "scan_timeout", "palette", "format", "right_format",
    "continuation_prompt"]

section TopLines
variable {α : Type} (key : String) (item : α → Item) (setting : Option α)

theorem map_fst_optionalLine_sublist :
    ((optionalLine key item setting).map Prod.fst).Sublist [key] := by
  cases setting with
  | none => exact List.nil_sublist _
  | some value => exact List.Sublist.refl _

/-- An optional line is found under its own key only. -/
theorem find_optionalLine (name : String) :
    OrderedMap.find name
        ((optionalLine key item setting).map fun line => (line.1, line.2.toValue)) =
      if key = name then setting.map fun value => (item value).toValue else none := by
  cases setting with
  | none =>
      rw [Option.map_none, ite_self]
      rfl
  | some value => rfl

end TopLines

theorem map_fst_topLines_sublist (modules : List Module) (settings : Settings) :
    ((topLines modules settings).map Prod.fst).Sublist settingKeys := by
  unfold topLines
  simp only [List.map_append, List.map_cons, List.map_nil]
  have flag := map_fst_optionalLine_sublist "add_newline" .flag settings.addNewline
  have command := map_fst_optionalLine_sublist "command_timeout" .integer settings.commandTimeout
  have scan := map_fst_optionalLine_sublist "scan_timeout" .integer settings.scanTimeout
  have palette := map_fst_optionalLine_sublist "palette" .short (filled settings.palette)
  have format := List.Sublist.refl ["format"]
  have right := map_fst_optionalLine_sublist "right_format" .long (filled settings.rightFormat)
  have continuation :=
    map_fst_optionalLine_sublist "continuation_prompt" .short (filled settings.continuationPrompt)
  exact (((((flag.append command).append scan).append palette).append format).append right).append
    continuation

theorem nodup_map_fst_topLines (modules : List Module) (settings : Settings) :
    ((topLines modules settings).map Prod.fst).Nodup :=
  (map_fst_topLines_sublist modules settings).nodup (by decide)

theorem not_mem_topLines {modules : List Module} {settings : Settings} {key : String}
    (other : key ∉ settingKeys) : key ∉ (topLines modules settings).map Prod.fst := by
  intro member
  exact other ((map_fst_topLines_sublist modules settings).subset member)

def palettesTable (palettes : OrderedMap String Palette) : Value :=
  .table (palettes.mapValues paletteTable).entries

/-- The modules with a section of their own. -/
def sectionModules (modules : List Module) (settings : Settings) : List Module :=
  firstModules ((topLines modules settings).map Prod.fst) modules

/-- The top-level table of a generated document. -/
def documentEntries (modules : List Module) (settings : Settings) : List (String × Value) :=
  ((topLines modules settings).map fun line => (line.1, line.2.toValue)) ++
    ((sectionModules modules settings).map fun mod => (mod.type, sectionTable mod)) ++
      if settings.palettes.entries = [] then []
      else [(palettesKey, palettesTable settings.palettes)]

/-- The sheet of a document with these sections. -/
def documentSheet (modules : List Module) (settings : Settings) (parts : List Section) : Sheet where
  comments := headerLines
  lines := topLines modules settings
  groups := arrange parts (paletteSections settings)

theorem outcome_generate (modules : List Module) (settings : Settings) :
    (generate modules settings).outcome =
      if hasTopLines modules settings then
        ((sectionModules modules settings).mapM moduleSection).map fun parts =>
          String.ofList (documentSheet modules settings parts).write
      else .error (.long {}) := by
  rw [generate, sheet, Report.outcome_bind]
  split
  · simp only [Report.outcome_bind, outcome_moduleSections, Report.outcome_pure]
    rw [← sectionModules]
    cases (sectionModules modules settings).mapM moduleSection with
    | error fault => rfl
    | ok parts => rfl
  · rfl

theorem generate_eq_ok_iff {modules : List Module} {settings : Settings} {text : String} :
    (generate modules settings).outcome = .ok text ↔
      hasTopLines modules settings = true ∧
      ∃ parts, (sectionModules modules settings).mapM moduleSection = .ok parts ∧
        String.ofList (documentSheet modules settings parts).write = text := by
  rw [outcome_generate]
  split
  · rename_i top
    rw [map_eq_ok_iff, and_iff_right top]
  · rename_i long
    exact iff_of_false nofun fun made => long made.1

/-- What has to hold for a document to exist: each property in a section is of a supported kind, and
everything that is written has a text. -/
structure Generable (modules : List Module) (settings : Settings) : Prop where
  top : hasTopLines modules settings = true
  supported : ∀ mod ∈ sectionModules modules settings, Supported mod.properties.entries
  writable : ∀ mod ∈ sectionModules modules settings, Writable mod.properties.entries

theorem exists_generate_iff {modules : List Module} {settings : Settings} :
    (∃ text, (generate modules settings).outcome = .ok text) ↔ Generable modules settings := by
  have sections : (∃ parts, (sectionModules modules settings).mapM moduleSection = .ok parts) ↔
      ∀ mod ∈ sectionModules modules settings,
        Supported mod.properties.entries ∧ Writable mod.properties.entries := by
    simp only [exists_mapM_iff, exists_moduleSection_iff]
  rw [outcome_generate]
  split
  · rename_i top
    rw [exists_map_iff, sections]
    exact ⟨fun each => ⟨top, fun mod member => (each mod member).1,
      fun mod member => (each mod member).2⟩,
      fun held mod member => ⟨held.supported mod member, held.writable mod member⟩⟩
  · rename_i long
    exact iff_of_false nofun fun held => long held.top

/-- The integers that a document would hold have few enough digits: the time limits, those in free
text, and those in the properties of the first module of every type. -/
structure FewDigits (modules : List Module) (settings : Settings) : Prop where
  command : ∀ value, settings.commandTimeout = some value → Text.isWritable value = true
  scan : ∀ value, settings.scanTimeout = some value → Text.isWritable value = true
  texts : hasFormat modules = true
  properties : ∀ mod : Module, mod.type ≠ Module.lineBreakType → mod.type ≠ Module.textType →
    modules.find? (fun other => other.type = mod.type) = some mod →
      Writable mod.properties.entries

theorem mem_sectionModules_iff {modules : List Module} {settings : Settings} {mod : Module}
    (noKey : mod.type ∉ settingKeys) (noBreak : mod.type ≠ Module.lineBreakType)
    (noText : mod.type ≠ Module.textType) : mod ∈ sectionModules modules settings ↔
      modules.find? (fun other => other.type = mod.type) = some mod :=
  mem_firstModules_iff (not_mem_topLines noKey) noBreak noText

/-- Where all types have sections and all properties are of supported kinds, a document exists
exactly if its integers have few enough digits. -/
theorem exists_generate_iff_fewDigits {modules : List Module} {settings : Settings}
    (noKey : ∀ mod ∈ modules, mod.type ∉ settingKeys)
    (supported : ∀ mod ∈ modules, Supported mod.properties.entries) :
    (∃ text, (generate modules settings).outcome = .ok text) ↔ FewDigits modules settings := by
  rw [exists_generate_iff]
  constructor
  · rintro ⟨top, _, writable⟩
    simp only [hasTopLines, Bool.and_eq_true, Option.all_eq_true] at top
    refine ⟨top.1.1, top.1.2, top.2, fun mod noBreak noText found => writable mod ?_⟩
    have member := List.mem_of_find?_eq_some found
    exact (mem_sectionModules_iff (noKey mod member) noBreak noText).mpr found
  · intro few
    refine ⟨?_, fun mod inSections => supported mod (mem_firstModules inSections).1,
      fun mod inSections => ?_⟩
    · simp only [hasTopLines, Bool.and_eq_true, Option.all_eq_true]
      exact ⟨⟨few.command, few.scan⟩, few.texts⟩
    · obtain ⟨member, _, noBreak, noText⟩ := mem_firstModules inSections
      exact few.properties mod noBreak noText
        ((mem_sectionModules_iff (noKey mod member) noBreak noText).mp inSections)

/-- Palettes have no integers, so embedding one changes nothing about them. -/
theorem fewDigits_embed {modules : List Module} (settings : Settings) (theme : Theme) :
    FewDigits modules (settings.embed theme) ↔ FewDigits modules settings := by
  unfold Settings.embed
  split
  · split
    · exact Iff.rfl
    · exact ⟨fun few => ⟨few.command, few.scan, few.texts, few.properties⟩,
        fun few => ⟨few.command, few.scan, few.texts, few.properties⟩⟩
  · exact Iff.rfl

theorem generate_of_supported {modules : List Module} (settings : Settings)
    (top : hasTopLines modules settings = true)
    (supported : ∀ mod ∈ modules, Supported mod.properties.entries)
    (writable : ∀ mod ∈ modules, Writable mod.properties.entries) :
    ∃ text, (generate modules settings).outcome = .ok text :=
  exists_generate_iff.mpr ⟨top, fun mod member => supported mod (mem_firstModules member).1,
    fun mod member => writable mod (mem_firstModules member).1⟩

/-- Sections of modules are sections with names of their own. -/
theorem mapM_moduleSection_ok {modules : List Module} {parts : List Section}
    (done : modules.mapM moduleSection = .ok parts) :
    ∃ named, parts = named.map topSection ∧ DistinctLines named ∧
      (∀ part ∈ named, Short part.2) ∧
      named.map (fun part => (part.1, lineTable part.2)) =
        modules.map fun mod => (mod.type, sectionTable mod) := by
  induction modules generalizing parts with
  | nil =>
      cases done
      exact ⟨[], rfl, nofun, nofun, rfl⟩
  | cons mod rest inductionHypothesis =>
      rw [List.mapM_cons] at done
      obtain ⟨part, made, done⟩ := bind_eq_ok_iff.mp done
      obtain ⟨others, later, done⟩ := bind_eq_ok_iff.mp done
      cases done
      obtain ⟨lines, rfl, distinct, short, table⟩ := moduleSection_ok made
      obtain ⟨named, rfl, distinctLater, shortLater, tables⟩ := inductionHypothesis later
      refine ⟨(mod.type, lines) :: named, rfl, ?_, ?_, ?_⟩
      · exact List.forall_mem_cons.mpr ⟨distinct, distinctLater⟩
      · exact List.forall_mem_cons.mpr ⟨short, shortLater⟩
      · rw [List.map_cons, List.map_cons, tables, table]

theorem statements_arrange {parts palettes : List Section}
    (free : ∀ part ∈ parts, part.path ≠ [palettesKey]) :
    (arrange parts palettes).flatMap SectionGroup.statements =
      parts.flatMap Section.statements ++ palettes.flatMap Section.statements := by
  have single : (parts.map fun part => ({ sections := [part] } : SectionGroup)).flatMap
      SectionGroup.statements = parts.flatMap Section.statements := by
    rw [List.flatMap_map]
    simp [SectionGroup.statements]
  have none : (parts.any fun part => part.path = [palettesKey]) = false := by
    simpa using free
  unfold arrange
  by_cases empty : palettes = []
  · rw [if_pos empty, single, empty, List.flatMap_nil, List.append_nil]
  · rw [if_neg empty, none, if_neg Bool.false_ne_true, List.flatMap_append, single,
      List.flatMap_singleton]
    rfl

/-- Arranging sections adds none to them. -/
theorem mem_arrange {parts palettes : List Section} {group : SectionGroup} {part : Section}
    (member : group ∈ arrange parts palettes) (inside : part ∈ group.sections) :
    part ∈ parts ∨ part ∈ palettes := by
  unfold arrange at member
  split at member
  · obtain ⟨other, source, rfl⟩ := List.mem_map.mp member
    exact .inl (List.mem_singleton.mp inside ▸ source)
  · split at member
    · obtain ⟨other, source, rfl⟩ := List.mem_map.mp member
      split at inside
      · exact .inr inside
      · exact .inl (List.mem_singleton.mp inside ▸ source)
    · rcases List.mem_append.mp member with member | member
      · obtain ⟨other, source, rfl⟩ := List.mem_map.mp member
        exact .inl (List.mem_singleton.mp inside ▸ source)
      · rw [List.mem_singleton.mp member] at inside
        exact .inr inside

theorem sound_arrange {parts palettes : List Section} (sound : ∀ part ∈ parts, part.Sound)
    (palettesSound : ∀ part ∈ palettes, part.Sound) : Sound (arrange parts palettes) := by
  intro group member part inside
  rcases mem_arrange member inside with source | source
  · exact sound part source
  · exact palettesSound part source

/-- The lines of a palette's section. -/
def paletteLines (palette : Palette) : List Line :=
  palette.entries.map fun color => (color.1, .short color.2)

def paletteParts (settings : Settings) : List (String × List Line) :=
  settings.palettes.entries.map fun entry => (entry.1, paletteLines entry.2)

theorem paletteSections_eq (settings : Settings) :
    paletteSections settings = (paletteParts settings).map (innerSection palettesKey) := by
  rw [paletteParts, List.map_map]
  rfl

theorem lineTable_paletteLines (palette : Palette) :
    lineTable (paletteLines palette) = paletteTable palette := by
  rw [lineTable, paletteLines, List.map_map]
  rfl

theorem distinctLines_paletteParts (settings : Settings) :
    DistinctLines (paletteParts settings) := by
  intro part member
  obtain ⟨entry, _, rfl⟩ := List.mem_map.mp member
  have keys : (paletteLines entry.2).map Prod.fst = entry.2.keys := by
    rw [paletteLines, List.map_map]
    rfl
  rw [keys]
  exact entry.2.distinct

theorem map_fst_paletteParts (settings : Settings) :
    (paletteParts settings).map Prod.fst = settings.palettes.keys := by
  rw [paletteParts, List.map_map]
  rfl

/-- The outline of a document whose modules have these sections. -/
def documentOutline (modules : List Module) (settings : Settings)
    (named : List (String × List Line)) : Outline where
  lines := topLines modules settings
  parts := named
  outer := palettesKey
  inner := paletteParts settings

section Outline
variable {modules : List Module} {settings : Settings} {named : List (String × List Line)}

theorem distinct_documentOutline
    (types : named.map Prod.fst = (sectionModules modules settings).map Module.type)
    (distinct : DistinctLines named) (free : ∀ mod ∈ modules, mod.type ≠ palettesKey) :
    (documentOutline modules settings named).Distinct where
  names := by
    refine List.nodup_append.mpr ⟨nodup_map_fst_topLines modules settings, ?_, ?_⟩
    · exact types ▸ nodup_firstModules _ modules
    · intro key top type member same
      rw [documentOutline, types] at member
      obtain ⟨mod, inSections, rfl⟩ := List.mem_map.mp member
      exact (mem_firstModules inSections).2.1 (same ▸ top)
  outer := by
    intro member
    rcases List.mem_append.mp member with top | member
    · have other : palettesKey ∉ settingKeys := by decide
      exact not_mem_topLines other top
    · rw [documentOutline, types] at member
      obtain ⟨mod, inSections, same⟩ := List.mem_map.mp member
      exact free mod (mem_firstModules inSections).1 same
  inner := by
    rw [documentOutline, map_fst_paletteParts]
    exact settings.palettes.distinct
  partLines := distinct
  innerLines := distinctLines_paletteParts settings

theorem statements_documentSheet (free : ∀ part ∈ named, part.1 ≠ palettesKey) :
    (documentSheet modules settings (named.map topSection)).statements =
      (documentOutline modules settings named).statements := by
  have paths : ∀ part ∈ named.map topSection, part.path ≠ [palettesKey] := by
    intro part member
    obtain ⟨entry, inNamed, rfl⟩ := List.mem_map.mp member
    intro same
    exact free entry inNamed (List.cons.inj same).1
  rw [Sheet.statements, documentSheet, statements_arrange paths, paletteSections_eq,
    List.flatMap_map, List.flatMap_map]
  rfl

theorem entries_documentOutline
    (tables : named.map (fun part => (part.1, lineTable part.2)) =
      (sectionModules modules settings).map fun mod => (mod.type, sectionTable mod)) :
    (documentOutline modules settings named).entries = documentEntries modules settings := by
  have palettes : (paletteParts settings).map (fun part => (part.1, lineTable part.2)) =
      (settings.palettes.mapValues paletteTable).entries := by
    rw [paletteParts, List.map_map]
    simp only [Function.comp_def, lineTable_paletteLines]
    rfl
  have empty : paletteParts settings = [] ↔ settings.palettes.entries = [] := List.map_eq_nil_iff
  rw [Outline.entries, documentOutline, tables, palettes, documentEntries]
  simp only [empty]
  rfl

end Outline

theorem clean_headerLines :
    ∀ comment ∈ headerLines, ∀ c ∈ comment.toList, isControl c = false := by
  have checked : headerLines.all (fun comment => comment.toList.all fun c => !isControl c) := by
    decide
  intro comment member c inside
  simpa using List.all_eq_true.mp (List.all_eq_true.mp checked comment member) c inside

theorem short_optionalLine {α : Type} {key : String} {item : α → Item} {setting : Option α}
    (short : ∀ value, setting = some value → (item value).Short) :
    Short (optionalLine key item setting) := by
  cases setting with
  | none => exact nofun
  | some value => exact List.forall_mem_singleton.mpr (short value rfl)

theorem short_topLines {modules : List Module} {settings : Settings}
    (top : hasTopLines modules settings = true) : Short (topLines modules settings) := by
  simp only [hasTopLines, Bool.and_eq_true, Option.all_eq_true] at top
  obtain ⟨⟨command, scan⟩, _⟩ := top
  simp only [Short, topLines, List.forall_mem_append, List.forall_mem_singleton]
  exact ⟨⟨⟨⟨⟨⟨short_optionalLine fun _ _ => trivial, short_optionalLine command⟩,
    short_optionalLine scan⟩, short_optionalLine fun _ _ => trivial⟩, trivial⟩,
    short_optionalLine fun _ _ => trivial⟩, short_optionalLine fun _ _ => trivial⟩

/-- A document that is generated can be read again. -/
theorem sound_documentSheet {modules : List Module} {settings : Settings} {parts : List Section}
    (top : hasTopLines modules settings = true)
    (sections : (sectionModules modules settings).mapM moduleSection = .ok parts) :
    (documentSheet modules settings parts).Sound where
  clean := clean_headerLines
  short := short_topLines top
  groups := by
    obtain ⟨named, rfl, _, short, _⟩ := mapM_moduleSection_ok sections
    apply sound_arrange
    · intro part member
      obtain ⟨entry, inNamed, rfl⟩ := List.mem_map.mp member
      exact ⟨List.cons_ne_nil _ _, short entry inNamed⟩
    · intro part member
      obtain ⟨entry, _, rfl⟩ := List.mem_map.mp member
      refine ⟨List.cons_ne_nil _ _, fun line inside => ?_⟩
      obtain ⟨color, _, rfl⟩ := List.mem_map.mp inside
      trivial

/-- A generated text reads as the document's top-level table. -/
theorem read_generate {modules : List Module} {settings : Settings} {text : String}
    (free : ∀ mod ∈ modules, mod.type ≠ palettesKey)
    (done : (generate modules settings).outcome = .ok text) :
    ∃ data, Toml.read text = some data ∧ data.entries = documentEntries modules settings := by
  obtain ⟨top, parts, sections, rfl⟩ := generate_eq_ok_iff.mp done
  obtain ⟨named, rfl, distinct, _, tables⟩ := mapM_moduleSection_ok sections
  have types : named.map Prod.fst = (sectionModules modules settings).map Module.type := by
    have same := congrArg (List.map Prod.fst) tables
    rw [List.map_map, List.map_map] at same
    exact same
  have others : ∀ part ∈ named, part.1 ≠ palettesKey := by
    intro part member
    have inTypes : part.1 ∈ named.map Prod.fst := List.mem_map_of_mem member
    rw [types] at inTypes
    obtain ⟨mod, inSections, same⟩ := List.mem_map.mp inTypes
    exact same ▸ free mod (mem_firstModules inSections).1
  rw [← entries_documentOutline tables]
  exact read_write (sound_documentSheet top sections) (statements_documentSheet others)
    (distinct_documentOutline types distinct free)

end ShellPrompt.Config
