import ShellPrompt.Proofs.Config.Sections
import ShellPrompt.Proofs.Report

/-!
The properties of a module as its section gives them. A section's values stand over the defaults,
and writing and reading the properties once more leaves them as they are.
-/

namespace ShellPrompt.Config

theorem outcome_property_eq_ok_iff {type key : String} {value : Value} {result : Option Value} :
    (property type key value).outcome = .ok result ↔
      isReadable value = true ∧ accepted value = result := by
  unfold property
  split
  · rename_i readable
    rw [and_iff_right readable]
    cases accepted value with
    | none => exact ⟨Except.ok.inj, congrArg Except.ok⟩
    | some value => exact ⟨Except.ok.inj, congrArg Except.ok⟩
  · rename_i long
    exact iff_of_false nofun fun read => long read.1

theorem kind?_settle {value : Value} (supported : value.kind?.isSome) :
    (settle value).kind?.isSome := by
  cases value with
  | map entries => rw [settle, kind?_paletteTable, Option.isSome_some]
  | null => cases supported
  | flag value => rfl
  | integer value => rfl
  | decimal value => rfl
  | text value => rfl
  | moment value => cases supported
  | list items => cases supported

theorem accepted_of_kind {value : Value} (supported : value.kind?.isSome) :
    accepted value = some (settle value) := by
  cases value with
  | map entries => rfl
  | null => cases supported
  | flag value => rfl
  | integer value => rfl
  | decimal value => rfl
  | text value => rfl
  | moment value => cases supported
  | list items => cases supported

theorem isReadable_of_isWritable {value : Value} (writable : value.isWritable = true) :
    isReadable value = true := by
  cases value with
  | integer value => rfl
  | null => rfl
  | flag value => rfl
  | decimal value => rfl
  | text value => rfl
  | moment value => rfl
  | list items => exact writable
  | map entries => exact writable

/-- No text is too long to be written. -/
theorem isWritable_paletteTable (palette : Palette) : (paletteTable palette).isWritable = true := by
  have texts (entries : List (String × String)) : Value.entriesWritable
      (entries.map fun entry => (.text entry.1, .text entry.2)) = true := by
    induction entries with
    | nil => rfl
    | cons entry entries inductionHypothesis =>
        rw [List.map_cons, Value.entriesWritable, inductionHypothesis]
        rfl
  rw [paletteTable, Value.table, Value.isWritable, OrderedMap.mapValues, List.map_map]
  exact texts palette.entries

theorem isReadable_settle {value : Value} (supported : value.kind?.isSome) :
    isReadable (settle value) = true := by
  cases value with
  | map entries => exact isReadable_of_isWritable (isWritable_paletteTable (textTable entries))
  | null => cases supported
  | flag value => rfl
  | integer value => rfl
  | decimal value => rfl
  | text value => rfl
  | moment value => cases supported
  | list items => cases supported

theorem property_of_kind {value : Value} (type key : String) (readable : isReadable value = true)
    (supported : value.kind?.isSome) : property type key value = pure (some (settle value)) := by
  rw [property, if_pos readable, accepted_of_kind supported]

theorem kind?_of_accepted {value result : Value} (made : accepted value = some result) :
    result.kind?.isSome := by
  unfold accepted at made
  split at made
  · cases made
    exact Option.isSome_iff_exists.mpr ⟨.stringMap, kind?_paletteTable _⟩
  · split at made
    · cases made
      assumption
    · cases made

/-- The properties that a section gives, in order. -/
def sectionProperties (entries : List (Value × Value)) : List (String × Value) :=
  entries.filterMap fun entry =>
    if entry.1.toText = "disabled" then none
    else (accepted entry.2).map fun value => (entry.1.toText, value)

/-- All entries that make properties can be read: an integer of too many digits is there on its own
only. -/
def ReadableSection (entries : List (Value × Value)) : Prop :=
  ∀ entry ∈ entries, entry.1.toText ≠ "disabled" → isReadable entry.2 = true

theorem outcome_addProperties_eq_ok_iff {type : String} {properties result : Properties}
    {entries : List (Value × Value)} :
    (addProperties type properties entries).outcome = .ok result ↔
      ReadableSection entries ∧ properties.insertAll (sectionProperties entries) = result := by
  unfold ReadableSection
  fun_induction addProperties type properties entries with
  | case1 properties =>
      rw [sectionProperties, List.filterMap_nil, and_iff_right nofun]
      exact ⟨Except.ok.inj, congrArg Except.ok⟩
  | case2 properties key value rest name disabled inductionHypothesis =>
      rw [inductionHypothesis, List.forall_mem_cons, sectionProperties, sectionProperties,
        List.filterMap_cons, if_pos disabled, and_iff_right fun enabled => absurd disabled enabled]
  | case3 properties key value rest name enabled skipped kept =>
      rw [Report.outcome_bind, bind_eq_ok_iff, List.forall_mem_cons, sectionProperties,
        List.filterMap_cons, if_neg enabled]
      simp only [outcome_property_eq_ok_iff, and_assoc, exists_and_left, exists_eq_left']
      rw [imp_iff_right (show key.toText ≠ "disabled" from enabled)]
      cases accepted value with
      | none => rw [skipped, Option.map_none, sectionProperties]
      | some value => rw [kept value, Option.map_some, OrderedMap.insertAll_cons, sectionProperties]

theorem addProperties_of_supported (type : String) (properties : Properties)
    {entries : List (Value × Value)} (readable : ReadableSection entries)
    (supported : ∀ entry ∈ entries, entry.1.toText ≠ "disabled" → entry.2.kind?.isSome) :
    addProperties type properties entries =
      pure (properties.insertAll (sectionProperties entries)) := by
  unfold ReadableSection at readable
  fun_induction addProperties type properties entries with
  | case1 => rfl
  | case2 properties key value rest name disabled inductionHypothesis =>
      rw [inductionHypothesis (fun entry member => readable entry (.tail _ member))
        fun entry member => supported entry (.tail _ member), sectionProperties, sectionProperties,
        List.filterMap_cons, if_pos disabled]
  | case3 properties key value rest name enabled skipped kept =>
      obtain ⟨taken, laterReadable⟩ := List.forall_mem_cons.mp readable
      obtain ⟨kind, laterKinds⟩ := List.forall_mem_cons.mp supported
      rw [property_of_kind type name (taken enabled) (kind enabled), pure_bind, sectionProperties,
        List.filterMap_cons, if_neg enabled, accepted_of_kind (kind enabled)]
      exact kept (settle value) laterReadable laterKinds

/-- A property is found in a section as it was, but for the texts in a map. -/
theorem find_propertyValues {key : String} (other : key ≠ "disabled")
    (properties : List (String × Value)) :
    OrderedMap.find key (propertyValues properties) =
      (OrderedMap.find key properties).map settle := by
  induction properties with
  | nil => rfl
  | cons entry properties inductionHypothesis =>
      obtain ⟨name, value⟩ := entry
      by_cases disabled : name = "disabled"
      · subst disabled
        rw [propertyValues_cons_disabled, inductionHypothesis, OrderedMap.find,
          if_neg other.symm]
      · rw [propertyValues_cons disabled, OrderedMap.find, OrderedMap.find]
        by_cases same : name = key
        · rw [if_pos same, if_pos same]
          rfl
        · rw [if_neg same, if_neg same, inductionHypothesis]

theorem map_fst_propertyValues (properties : List (String × Value)) :
    (propertyValues properties).map Prod.fst =
      (properties.map Prod.fst).filter fun key => key ≠ "disabled" := by
  rw [propertyValues, List.map_map, List.filter_map]
  rfl

theorem kind?_propertyValues {properties : List (String × Value)}
    (supported : Supported properties) :
    ∀ entry ∈ propertyValues properties, entry.1 ≠ "disabled" ∧ entry.2.kind?.isSome := by
  intro entry member
  obtain ⟨source, kept, rfl⟩ := List.mem_map.mp member
  obtain ⟨inside, enabled⟩ := List.mem_filter.mp kept
  have other : source.1 ≠ "disabled" := by simpa using enabled
  exact ⟨other, kind?_settle (supported source inside other)⟩

theorem settle_propertyValues {properties : List (String × Value)} :
    ∀ entry ∈ propertyValues properties, settle entry.2 = entry.2 := by
  intro entry member
  obtain ⟨source, _, rfl⟩ := List.mem_map.mp member
  exact settle_settle source.2

/-- Values that need no change are given back by a section. -/
theorem sectionProperties_of_settled {properties : List (String × Value)}
    (kinds : ∀ entry ∈ properties, entry.1 ≠ "disabled" ∧ entry.2.kind?.isSome)
    (settled : ∀ entry ∈ properties, settle entry.2 = entry.2) :
    sectionProperties (properties.map fun entry => (.text entry.1, entry.2)) = properties := by
  induction properties with
  | nil => rfl
  | cons entry properties inductionHypothesis =>
      obtain ⟨enabled, kind⟩ := kinds entry List.mem_cons_self
      have same : accepted entry.2 = some entry.2 := by
        rw [accepted_of_kind kind, settled entry List.mem_cons_self]
      have later := inductionHypothesis (fun other member => kinds other (.tail _ member))
        fun other member => settled other (.tail _ member)
      rw [sectionProperties] at later
      rw [sectionProperties, List.map_cons, List.filterMap_cons, Value.toText_text,
        if_neg enabled, same, Option.map_some, later]

/-- The entries of a module's section. -/
def sectionEntries (mod : Module) : List (Value × Value) :=
  (.text "disabled", .flag mod.disabled) ::
    (propertyValues mod.properties.entries).map fun entry => (.text entry.1, entry.2)

theorem sectionTable_eq (mod : Module) : sectionTable mod = .map (sectionEntries mod) := rfl

theorem isDisabled_sectionEntries (mod : Module) :
    isDisabled (sectionEntries mod) = mod.disabled := by
  simp [isDisabled, sectionEntries, Value.field?]

theorem settled_of_mem_sectionEntries {mod : Module} (supported : Supported mod.properties.entries)
    {entry : Value × Value} (member : entry ∈ sectionEntries mod)
    (enabled : entry.1.toText ≠ "disabled") :
    ∃ value, value.kind?.isSome ∧ entry.2 = settle value := by
  rcases List.mem_cons.mp member with rfl | member
  · exact absurd rfl enabled
  · obtain ⟨source, inside, rfl⟩ := List.mem_map.mp member
    obtain ⟨pair, kept, rfl⟩ := List.mem_map.mp inside
    exact ⟨pair.2, supported pair (List.mem_filter.mp kept).1 enabled, rfl⟩

/-- What is written into a section can be read from it. -/
theorem readableSection_sectionEntries {mod : Module}
    (supported : Supported mod.properties.entries) : ReadableSection (sectionEntries mod) := by
  intro entry member enabled
  obtain ⟨value, kind, same⟩ := settled_of_mem_sectionEntries supported member enabled
  exact same ▸ isReadable_settle kind

/-- Reading a module's section gives its properties over the defaults, without any warning. -/
theorem readModule_sectionTable {data : Data} {mod : Module}
    (found : data.get? mod.type = some (sectionTable mod))
    (supported : Supported mod.properties.entries) (definition : Definition) :
    readModule data mod.type definition =
      pure { type := mod.type
             disabled := mod.disabled
             properties :=
               definition.defaults.insertAll (propertyValues mod.properties.entries) } := by
  have held : sectionOf data mod.type = pure (sectionEntries mod) := by
    rw [sectionOf, found, sectionTable_eq]
  have properties : sectionProperties (sectionEntries mod) =
      propertyValues mod.properties.entries := by
    rw [sectionEntries, sectionProperties, List.filterMap_cons]
    exact sectionProperties_of_settled (kind?_propertyValues supported) settle_propertyValues
  have kinds : ∀ entry ∈ sectionEntries mod, entry.1.toText ≠ "disabled" →
      entry.2.kind?.isSome := by
    intro entry member enabled
    obtain ⟨value, kind, same⟩ := settled_of_mem_sectionEntries supported member enabled
    exact same ▸ kind?_settle kind
  rw [readModule, held, pure_bind,
    addProperties_of_supported _ _ (readableSection_sectionEntries supported) kinds, pure_bind,
    properties, isDisabled_sectionEntries]

theorem ofSupported_settle {value : Value} (supported : value.kind?.isSome) :
    Toml.Item.ofSupported (settle value) = Toml.Item.ofSupported value := by
  cases value with
  | map entries =>
      have named : entries.all fun entry => entry.1.isText := by
        by_cases named : entries.all fun entry => entry.1.isText
        · exact named
        · simp [Value.kind?, named] at supported
      have texts : ((textTable entries).mapValues Value.text).entries.map
          (fun entry => ((Value.text entry.1, entry.2) : Value × Value)) |>.all
            fun entry => entry.1.isText := by
        simp [Value.isText]
      have table := textTable_palette (textTable entries)
      rw [textTable] at table
      rw [settle, paletteTable, Value.table, Toml.Item.ofSupported, Toml.Item.ofSupported,
        if_pos named, if_pos texts, table, textTable]
  | null => rfl
  | flag value => rfl
  | integer value => rfl
  | decimal value => rfl
  | text value => rfl
  | moment value => rfl
  | list items => rfl

theorem isWritable_settle {value : Value} (writable : value.isWritable = true) :
    (settle value).isWritable = true := by
  cases value with
  | map entries => exact isWritable_paletteTable (textTable entries)
  | null => rfl
  | flag value => rfl
  | integer value => exact writable
  | decimal value => rfl
  | text value => rfl
  | moment value => rfl
  | list items => exact writable

theorem ofValue_settle {value : Value} (supported : value.kind?.isSome)
    (writable : value.isWritable = true) :
    Toml.Item.ofValue (settle value) = Toml.Item.ofValue value := by
  rw [Toml.Item.ofValue, Toml.Item.ofValue, if_pos writable, if_pos (isWritable_settle writable),
    ofSupported_settle supported]

/-- The properties with the entries of maps as texts, in their order. -/
def settleAll (properties : Properties) : Properties where
  entries := properties.entries.map fun entry =>
    (entry.1, if entry.1 = "disabled" then entry.2 else settle entry.2)
  distinct := by
    rw [List.map_map]
    exact properties.distinct

theorem propertyLines_settleAll {properties : Properties}
    (supported : Supported properties.entries) (writable : Writable properties.entries) :
    propertyLines (settleAll properties).entries = propertyLines properties.entries := by
  change propertyLines (properties.entries.map fun entry =>
    (entry.1, if entry.1 = "disabled" then entry.2 else settle entry.2)) = _
  generalize properties.entries = entries at supported writable
  induction entries with
  | nil => rfl
  | cons entry entries inductionHypothesis =>
      have later := inductionHypothesis (fun other member => supported other (.tail _ member))
        fun other member => writable other (.tail _ member)
      obtain ⟨key, value⟩ := entry
      by_cases disabled : key = "disabled"
      · rw [List.map_cons, propertyLines, propertyLines, if_pos disabled, if_pos disabled, later]
      · have same := ofValue_settle (supported (key, value) List.mem_cons_self disabled)
          (writable (key, value) List.mem_cons_self disabled)
        rw [List.map_cons, propertyLines, propertyLines, if_neg disabled, if_neg disabled,
          if_neg disabled, later, same]

theorem keys_settleAll (properties : Properties) :
    (settleAll properties).keys = properties.keys := by
  rw [OrderedMap.keys, settleAll, List.map_map]
  rfl

theorem get?_settleAll (properties : Properties) (key : String) :
    (settleAll properties).get? key = (properties.get? key).map fun value =>
      if key = "disabled" then value else settle value :=
  OrderedMap.find_map key (fun name value => if name = "disabled" then value else settle value)
    properties.entries

theorem nodup_map_fst_propertyValues (properties : Properties) :
    ((propertyValues properties.entries).map Prod.fst).Nodup :=
  (List.nodup_cons.mp (nodup_propertyValues properties.distinct)).2

section Again
variable {pairs : List (String × Value)} (enabled : "disabled" ∉ pairs.map Prod.fst)
  (defaults : Properties)

include enabled in
/-- The default keys come first, and the further ones are new and no flag. -/
theorem keys_insertAll_propertyValues :
    (defaults.insertAll (propertyValues (defaults.insertAll pairs).entries)).keys =
      (defaults.insertAll pairs).keys := by
  obtain ⟨added, keys, known⟩ := OrderedMap.keys_insertAll defaults pairs
  have nodup := (defaults.insertAll pairs).distinct
  rw [← OrderedMap.keys, keys, List.nodup_append] at nodup
  have old : (defaults.keys.filter fun key =>
      decide (key ∉ defaults.keys) && decide (key ≠ "disabled")) = [] := by
    apply List.filter_eq_nil_iff.mpr
    intro key member
    simp [member]
  have new : (added.filter fun key =>
      decide (key ∉ defaults.keys) && decide (key ≠ "disabled")) = added := by
    apply List.filter_eq_self.mpr
    intro key member
    have other : key ≠ "disabled" := by
      rintro rfl
      exact enabled (known _ member)
    have fresh : key ∉ defaults.keys := fun old => nodup.2.2 key old key member rfl
    simp [other, fresh]
  rw [OrderedMap.keys_insertAll_of_nodup (nodup_map_fst_propertyValues _),
    map_fst_propertyValues, ← OrderedMap.keys, keys, List.filter_filter, List.filter_append, old,
    new, List.nil_append]

include enabled in
theorem get?_insertAll_propertyValues_insertAll (key : String) :
    (defaults.insertAll (propertyValues (defaults.insertAll pairs).entries)).get? key =
      ((defaults.insertAll pairs).get? key).map fun value =>
        if key = "disabled" then value else settle value := by
  rw [OrderedMap.get?_insertAll (nodup_map_fst_propertyValues _)]
  by_cases disabled : key = "disabled"
  · have absent : OrderedMap.find key
        (propertyValues (defaults.insertAll pairs).entries) = none := by
      rw [OrderedMap.find_eq_none_iff, map_fst_propertyValues, disabled]
      simp
    rw [absent, Option.none_or, disabled, OrderedMap.get?_insertAll_of_not_mem enabled]
    simp
  · rw [find_propertyValues disabled]
    simp only [if_neg disabled]
    change (((defaults.insertAll pairs).get? key).map settle).or (defaults.get? key) = _
    cases found : (defaults.insertAll pairs).get? key with
    | some value => rfl
    | none =>
        obtain ⟨added, keys, _⟩ := OrderedMap.keys_insertAll defaults pairs
        have absent : key ∉ (defaults.insertAll pairs).keys :=
          OrderedMap.find_eq_none_iff.mp found
        rw [keys, List.mem_append, not_or] at absent
        exact OrderedMap.find_eq_none_iff.mpr absent.1

include enabled in
/-- Properties that came from a section over defaults come from it again, in the same order. -/
theorem insertAll_propertyValues :
    defaults.insertAll (propertyValues (defaults.insertAll pairs).entries) =
      settleAll (defaults.insertAll pairs) := by
  apply OrderedMap.ext_get?
  · rw [keys_insertAll_propertyValues enabled, keys_settleAll]
  · intro key _
    rw [get?_insertAll_propertyValues_insertAll enabled, get?_settleAll]

end Again

end ShellPrompt.Config
