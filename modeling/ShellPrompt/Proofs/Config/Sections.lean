import ShellPrompt.Config.Parse
import ShellPrompt.Config.Generate
import ShellPrompt.Proofs.Report
import ShellPrompt.Proofs.Toml.Sheets

/-!
The sections of a generated document. The first module of every type gets one, and it holds the
module's properties with the entries of maps as texts.
-/

namespace ShellPrompt.Config

open Toml

/-- The table of a palette, or of any map from texts to texts. -/
def paletteTable (palette : Palette) : Value := .table (palette.mapValues Value.text).entries

theorem textTable_palette (palette : Palette) :
    textTable ((palette.mapValues Value.text).entries.map fun entry => (.text entry.1, entry.2)) =
      palette := by
  have pairs : ((palette.mapValues Value.text).entries.map fun entry =>
      ((Value.text entry.1, entry.2) : Value × Value)).map
        (fun entry => (entry.1.toText, entry.2.toText)) = palette.entries := by
    simp [OrderedMap.mapValues, Function.comp_def]
  rw [textTable, pairs, OrderedMap.ofList_entries]

/-- A property as a document gives it back: the entries of a map become texts. -/
def settle : Value → Value
  | .map entries => paletteTable (textTable entries)
  | value => value

theorem settle_paletteTable (palette : Palette) :
    settle (paletteTable palette) = paletteTable palette :=
  congrArg paletteTable (textTable_palette palette)

theorem settle_settle (value : Value) : settle (settle value) = settle value := by
  cases value with
  | map entries => exact settle_paletteTable (textTable entries)
  | null => rfl
  | flag value => rfl
  | integer value => rfl
  | decimal value => rfl
  | text value => rfl
  | moment value => rfl
  | list items => rfl

theorem kind?_paletteTable (palette : Palette) :
    (paletteTable palette).kind? = some .stringMap := by
  simp [paletteTable, Value.table, Value.kind?, Value.isText]

theorem ofValue_eq_ok_iff {value : Value} {item : Item} : Item.ofValue value = .ok item ↔
    value.isWritable = true ∧ Item.ofSupported value = .ok item := by
  unfold Item.ofValue
  split
  · rename_i writable
    rw [mapError_eq_ok_iff, and_iff_right writable]
  · rename_i long
    exact iff_of_false nofun fun made => long made.1

theorem toValue_ofValue {value : Value} {item : Item} (done : Item.ofValue value = .ok item) :
    item.toValue = settle value := by
  have made := (ofValue_eq_ok_iff.mp done).2
  unfold Item.ofSupported at made
  split at made
  · cases made
    rfl
  · cases made
    rfl
  · cases made
    rfl
  · cases made
    rfl
  · split at made
    · cases made
      rfl
    · cases made
  · cases made

theorem short_of_ofValue {value : Value} {item : Item} (done : Item.ofValue value = .ok item) :
    item.Short := by
  obtain ⟨writable, made⟩ := ofValue_eq_ok_iff.mp done
  unfold Item.ofSupported at made
  split at made
  · cases made
    trivial
  · cases made
    trivial
  · cases made
    rwa [Value.isWritable] at writable
  · cases made
    trivial
  · split at made
    · cases made
      trivial
    · cases made
  · cases made

theorem exists_ofSupported_iff {value : Value} :
    (∃ item, Item.ofSupported value = .ok item) ↔ value.kind?.isSome := by
  cases value with
  | flag value => exact iff_of_true ⟨_, rfl⟩ rfl
  | integer value => exact iff_of_true ⟨_, rfl⟩ rfl
  | decimal value => exact iff_of_true ⟨_, rfl⟩ rfl
  | text value => exact iff_of_true ⟨_, rfl⟩ rfl
  | map entries =>
      by_cases named : entries.all fun entry => entry.1.isText <;>
        simp [Item.ofSupported, Value.kind?, named]
  | null => exact iff_of_false nofun Bool.false_ne_true
  | moment value => exact iff_of_false nofun Bool.false_ne_true
  | list items => exact iff_of_false nofun Bool.false_ne_true

/-- A property can be written if it is of a supported kind and has a text. -/
theorem exists_ofValue_iff {value : Value} :
    (∃ item, Item.ofValue value = .ok item) ↔ value.kind?.isSome ∧ value.isWritable = true := by
  simp only [ofValue_eq_ok_iff, exists_and_left, exists_ofSupported_iff]
  exact and_comm

/-- The entries that properties give a section. -/
def propertyValues (properties : List (String × Value)) : List (String × Value) :=
  (properties.filter fun entry => entry.1 ≠ "disabled").map fun entry => (entry.1, settle entry.2)

/-- All properties but `disabled`, which no section takes from them, are of a supported kind. -/
def Supported (properties : List (String × Value)) : Prop :=
  ∀ entry ∈ properties, entry.1 ≠ "disabled" → entry.2.kind?.isSome

/-- All properties but `disabled` have a text: no integer in them has too many digits. -/
def Writable (properties : List (String × Value)) : Prop :=
  ∀ entry ∈ properties, entry.1 ≠ "disabled" → entry.2.isWritable = true

theorem propertyValues_cons_disabled (value : Value) (properties : List (String × Value)) :
    propertyValues (("disabled", value) :: properties) = propertyValues properties := by
  simp [propertyValues]

theorem propertyValues_cons {key : String} (other : key ≠ "disabled") (value : Value)
    (properties : List (String × Value)) :
    propertyValues ((key, value) :: properties) =
      (key, settle value) :: propertyValues properties := by
  simp [propertyValues, other]

theorem propertyLines_values {properties : List (String × Value)} {lines : List Line}
    (done : propertyLines properties = .ok lines) :
    lines.map (fun line => (line.1, line.2.toValue)) = propertyValues properties := by
  fun_induction propertyLines properties generalizing lines with
  | case1 =>
      cases done
      rfl
  | case2 value rest inductionHypothesis =>
      rw [propertyValues_cons_disabled]
      exact inductionHypothesis done
  | case3 => cases done
  | case4 key value rest other item made inductionHypothesis =>
      cases later : propertyLines rest with
      | error fault =>
          rw [later] at done
          cases done
      | ok lines =>
          rw [later] at done
          cases done
          rw [List.map_cons, inductionHypothesis later, toValue_ofValue made,
            propertyValues_cons other]

theorem short_propertyLines {properties : List (String × Value)} {lines : List Line}
    (done : propertyLines properties = .ok lines) : Short lines := by
  fun_induction propertyLines properties generalizing lines with
  | case1 =>
      cases done
      exact fun _ member => (List.not_mem_nil member).elim
  | case2 value rest inductionHypothesis => exact inductionHypothesis done
  | case3 => cases done
  | case4 key value rest other item made inductionHypothesis =>
      obtain ⟨lines, later, rfl⟩ := map_eq_ok_iff.mp done
      exact List.forall_mem_cons.mpr ⟨short_of_ofValue made, inductionHypothesis later⟩

theorem exists_propertyLines_iff {properties : List (String × Value)} :
    (∃ lines, propertyLines properties = .ok lines) ↔
      Supported properties ∧ Writable properties := by
  unfold Supported Writable
  fun_induction propertyLines properties with
  | case1 => simp
  | case2 value rest inductionHypothesis =>
      rw [inductionHypothesis, List.forall_mem_cons, List.forall_mem_cons]
      simp
  | case3 key value rest other fault failed =>
      rw [List.forall_mem_cons, List.forall_mem_cons]
      refine iff_of_false nofun ?_
      rintro ⟨⟨kind, _⟩, writable, _⟩
      obtain ⟨item, made⟩ := exists_ofValue_iff.mpr ⟨kind other, writable other⟩
      rw [failed] at made
      cases made
  | case4 key value rest other item made inductionHypothesis =>
      obtain ⟨kind, writable⟩ := exists_ofValue_iff.mp ⟨item, made⟩
      rw [exists_map_iff, inductionHypothesis, List.forall_mem_cons, List.forall_mem_cons]
      simp [kind, writable]

/-- The table that a module's section makes. -/
def sectionTable (mod : Module) : Value :=
  .table (("disabled", .flag mod.disabled) :: propertyValues mod.properties.entries)

theorem nodup_propertyValues {properties : List (String × Value)}
    (distinct : (properties.map Prod.fst).Nodup) :
    ((("disabled", Value.flag true) :: propertyValues properties).map Prod.fst).Nodup := by
  have keys : (propertyValues properties).map Prod.fst =
      (properties.filter fun entry => entry.1 ≠ "disabled").map Prod.fst := by
    simp [propertyValues, Function.comp_def]
  rw [List.map_cons, List.nodup_cons, keys]
  refine ⟨?_, distinct.sublist (List.filter_sublist.map _)⟩
  simp

/-- A module's section has the module's name, no key twice and no integer that is too long, and
makes the module's table. -/
theorem moduleSection_ok {mod : Module} {part : Section} (done : moduleSection mod = .ok part) :
    ∃ lines, part = topSection (mod.type, lines) ∧ (lines.map Prod.fst).Nodup ∧ Short lines ∧
      lineTable lines = sectionTable mod := by
  unfold moduleSection at done
  cases made : propertyLines mod.properties.entries with
  | error fault =>
      rw [made] at done
      cases done
  | ok lines =>
      rw [made] at done
      cases done
      have values := propertyLines_values made
      refine ⟨("disabled", .flag mod.disabled) :: lines, rfl, ?_,
        List.forall_mem_cons.mpr ⟨trivial, short_propertyLines made⟩, ?_⟩
      · have keys : lines.map Prod.fst = (propertyValues mod.properties.entries).map Prod.fst := by
          rw [← values, List.map_map]
          rfl
        rw [List.map_cons, keys]
        exact nodup_propertyValues mod.properties.distinct
      · rw [lineTable, List.map_cons, values]
        rfl

theorem exists_moduleSection_iff {mod : Module} : (∃ part, moduleSection mod = .ok part) ↔
    Supported mod.properties.entries ∧ Writable mod.properties.entries := by
  rw [moduleSection, exists_map_iff, exists_propertyLines_iff]

/-- The modules that get a section: the first of every type that is no key yet. -/
def firstModules (written : List String) : List Module → List Module
  | [] => []
  | mod :: rest =>
      if mod.isLineBreak || mod.isText then firstModules written rest
      else if written.contains mod.type then firstModules written rest
      else mod :: firstModules (mod.type :: written) rest

theorem outcome_moduleSections (written : List String) (modules : List Module) :
    (moduleSections written modules).outcome =
      (firstModules written modules).mapM moduleSection := by
  fun_induction firstModules written modules with
  | case1 => rfl
  | case2 written mod rest special inductionHypothesis =>
      rw [moduleSections, if_pos special, inductionHypothesis]
  | case3 written mod rest special known inductionHypothesis =>
      rw [moduleSections, if_neg special, if_pos known, Report.outcome_bind, inductionHypothesis]
      rfl
  | case4 written mod rest special known inductionHypothesis =>
      rw [moduleSections, if_neg special, if_neg known, Report.outcome_bind, List.mapM_cons]
      simp only [Report.outcome_bind, inductionHypothesis]
      rfl

theorem mem_firstModules {written : List String} {modules : List Module} {mod : Module}
    (member : mod ∈ firstModules written modules) :
    mod ∈ modules ∧ mod.type ∉ written ∧ mod.type ≠ Module.lineBreakType ∧
      mod.type ≠ Module.textType := by
  fun_induction firstModules written modules with
  | case1 => cases member
  | case2 written other rest _ inductionHypothesis =>
      obtain ⟨later, facts⟩ := inductionHypothesis member
      exact ⟨.tail _ later, facts⟩
  | case3 written other rest _ _ inductionHypothesis =>
      obtain ⟨later, facts⟩ := inductionHypothesis member
      exact ⟨.tail _ later, facts⟩
  | case4 written other rest special known inductionHypothesis =>
      rcases List.mem_cons.mp member with rfl | member
      · simp only [Module.isLineBreak, Module.isText, Bool.or_eq_true, decide_eq_true_eq,
          not_or] at special
        exact ⟨List.mem_cons_self, fun old => known (by simpa using old), special⟩
      · obtain ⟨later, new, kinds⟩ := inductionHypothesis member
        exact ⟨.tail _ later, fun old => new (.tail _ old), kinds⟩

theorem nodup_firstModules (written : List String) (modules : List Module) :
    ((firstModules written modules).map Module.type).Nodup := by
  fun_induction firstModules written modules with
  | case1 => exact List.nodup_nil
  | case2 _ _ _ _ inductionHypothesis => exact inductionHypothesis
  | case3 _ _ _ _ _ inductionHypothesis => exact inductionHypothesis
  | case4 written mod rest _ _ inductionHypothesis =>
      rw [List.map_cons, List.nodup_cons]
      refine ⟨?_, inductionHypothesis⟩
      intro repeated
      obtain ⟨other, member, same⟩ := List.mem_map.mp repeated
      exact (mem_firstModules member).2.1 (same ▸ List.mem_cons_self)

/-- What the sections hold for a type comes from the first module of that type. -/
theorem find_firstModules {ν : Type} (value : Module → ν) {type : String} {written : List String}
    (modules : List Module) (new : type ∉ written) (noBreak : type ≠ Module.lineBreakType)
    (noText : type ≠ Module.textType) :
    OrderedMap.find type ((firstModules written modules).map fun mod => (mod.type, value mod)) =
      (modules.find? fun mod => mod.type = type).map value := by
  fun_induction firstModules written modules with
  | case1 => rfl
  | case2 written mod rest special inductionHypothesis =>
      have differs : mod.type ≠ type := by
        rintro rfl
        simp [Module.isLineBreak, Module.isText, noBreak, noText] at special
      rw [List.find?_cons_of_neg (by simp [differs])]
      exact inductionHypothesis new
  | case3 written mod rest _ known inductionHypothesis =>
      have differs : mod.type ≠ type := by
        rintro rfl
        exact new (by simpa using known)
      rw [List.find?_cons_of_neg (by simp [differs])]
      exact inductionHypothesis new
  | case4 written mod rest _ _ inductionHypothesis =>
      by_cases same : mod.type = type
      · rw [List.map_cons, OrderedMap.find, if_pos same,
          List.find?_cons_of_pos (by simp [same])]
        rfl
      · rw [List.map_cons, OrderedMap.find, if_neg same, List.find?_cons_of_neg (by simp [same])]
        apply inductionHypothesis
        intro member
        rcases List.mem_cons.mp member with rfl | old
        · exact same rfl
        · exact new old

/-- The modules with a section are the first ones of their types. -/
theorem mem_firstModules_iff {written : List String} {modules : List Module} {mod : Module}
    (new : mod.type ∉ written) (noBreak : mod.type ≠ Module.lineBreakType)
    (noText : mod.type ≠ Module.textType) : mod ∈ firstModules written modules ↔
      modules.find? (fun other => other.type = mod.type) = some mod := by
  have found := find_firstModules id modules new noBreak noText
  rw [Option.map_id_fun, id] at found
  have keys : ((firstModules written modules).map fun mod => (mod.type, id mod)).map Prod.fst =
      (firstModules written modules).map Module.type := by
    rw [List.map_map]
    rfl
  rw [← found]
  constructor
  · intro member
    exact OrderedMap.find_of_mem (keys ▸ nodup_firstModules written modules)
      (List.mem_map_of_mem member)
  · intro held
    obtain ⟨other, member, same⟩ := List.mem_map.mp (OrderedMap.mem_of_find held)
    obtain rfl : other = mod := congrArg Prod.snd same
    exact member

end ShellPrompt.Config
