import ShellPrompt.Proofs.Config.Modules
import ShellPrompt.Proofs.Preview

/-!
What a reader sees of modules that were saved and loaded again. A preview shows them as before, but
for line breaks: a document has no place for their flag, so they come back switched on.
-/

namespace ShellPrompt.Config

/-- A module that was made from its definition, and edited from then on. -/
inductive Edited (registry : Registry) : Module → Prop where
  | create {type : String} {mod : Module} (made : registry.create type = .ok mod) :
      Edited registry mod
  | setProperty {mod : Module} (edited : Edited registry mod) {key : String} {value : Value}
      (enabled : key ≠ "disabled") (property : IsProperty value) :
      Edited registry (mod.setProperty key value)
  | switch {mod : Module} (edited : Edited registry mod) (disabled : Bool) :
      Edited registry { mod with disabled }

/-- The defaults of all definitions are values that a property may have. -/
def PlainDefaults (registry : Registry) : Prop :=
  ∀ definition ∈ registry.all, ∀ entry ∈ definition.defaults.entries, IsProperty entry.2

section Edited
variable {registry : Registry} {mod : Module}

theorem create_ok {type : String} (made : registry.create type = .ok mod) :
    ∃ definition, registry.get? type = some definition ∧
      mod = { type, properties := definition.defaults } := by
  unfold Registry.create Registry.require at made
  split at made
  · rename_i definition held
    cases made
    exact ⟨definition, held, rfl⟩
  · cases made

theorem mem_all_of_get? {type : String} {definition : Definition}
    (held : registry.get? type = some definition) : definition ∈ registry.all :=
  List.mem_map_of_mem (OrderedMap.mem_of_find held)

/-- What an edited module keeps of its definition: the keys of the defaults, and the property that
goes by the name of the flag. -/
theorem Edited.exists_definition (edited : Edited registry mod) :
    ∃ definition, registry.get? mod.type = some definition ∧
      mod.properties.get? "disabled" = definition.defaults.get? "disabled" ∧
      ∀ key, mod.properties.get? key = none → definition.defaults.get? key = none := by
  induction edited with
  | create made =>
      obtain ⟨definition, held, rfl⟩ := create_ok made
      exact ⟨definition, held, rfl, fun _ absent => absent⟩
  | setProperty edited enabled property inductionHypothesis =>
      obtain ⟨definition, held, flag, absent⟩ := inductionHypothesis
      refine ⟨definition, held, ?_, ?_⟩
      · rw [Module.setProperty, OrderedMap.get?_insert, if_neg enabled, flag]
      · intro other missing
        rw [Module.setProperty, OrderedMap.get?_insert] at missing
        split at missing
        · cases missing
        · exact absent other missing
  | switch edited disabled inductionHypothesis => exact inductionHypothesis

theorem Edited.plain (plainDefaults : PlainDefaults registry) (edited : Edited registry mod) :
    ∀ entry ∈ mod.properties.entries, IsProperty entry.2 := by
  induction edited with
  | create made =>
      obtain ⟨definition, held, rfl⟩ := create_ok made
      exact plainDefaults definition (mem_all_of_get? held)
  | setProperty edited enabled property inductionHypothesis =>
      intro entry member
      rcases OrderedMap.mem_put member with rfl | old
      · exact property
      · exact inductionHypothesis entry old
  | switch edited disabled inductionHypothesis => exact inductionHypothesis

theorem Edited.mem_names (edited : Edited registry mod) : mod.type ∈ registry.names := by
  obtain ⟨definition, held, _⟩ := edited.exists_definition
  exact OrderedMap.mem_keys_iff.mpr ⟨definition, held⟩

/-- The section of an edited module stands over the defaults that the module came from. -/
theorem Edited.get?_insertAll (plainDefaults : PlainDefaults registry)
    (edited : Edited registry mod) {definition : Definition}
    (held : registry.get? mod.type = some definition) (key : String) :
    (definition.defaults.insertAll (propertyValues mod.properties.entries)).get? key =
      mod.properties.get? key := by
  obtain ⟨source, same, flag, absent⟩ := edited.exists_definition
  cases held.symm.trans same
  by_cases disabled : key = "disabled"
  · subst disabled
    rw [flag]
    apply OrderedMap.get?_insertAll_of_not_mem
    rw [map_fst_propertyValues]
    simp
  · rw [get?_insertAll_propertyValues (edited.plain plainDefaults) definition.defaults disabled]
    cases found : mod.properties.get? key with
    | some value => rfl
    | none => exact absent key found

end Edited

section Restored
variable {registry : Registry} (plainDefaults : PlainDefaults registry)
  {modules : List Module} (edited : ∀ mod ∈ modules, Edited registry mod)
include plainDefaults edited

theorem exists_generate_edited_iff (wellNamed : WellNamed registry) (settings : Settings) :
    (∃ text, (generate modules settings).outcome = .ok text) ↔ FewDigits modules settings := by
  apply exists_generate_iff_fewDigits
  · exact fun mod member => (wellNamed mod.type (edited mod member).mem_names).noSetting
  · intro mod member entry inside _
    exact ((edited mod member).plain plainDefaults entry inside).kind

theorem parse_generate_restored (wellNamed : WellNamed registry) {settings : Settings}
    {text : String} (done : (generate modules settings).outcome = .ok text) :
    ∃ parsed, (parse text registry).outcome = .ok parsed ∧
      parsed.modules = modules.map fun mod => restored modules registry mod.type := by
  have known : ∀ mod ∈ modules, Known registry mod :=
    fun mod member => .inr (.inr (edited mod member).mem_names)
  have named : ∀ mod ∈ modules, IsModuleName mod.type :=
    fun mod member => wellNamed mod.type (edited mod member).mem_names
  have supported : ∀ mod ∈ modules, Supported mod.properties.entries :=
    fun mod member entry inside _ => ((edited mod member).plain plainDefaults entry inside).kind
  have free : ∀ mod ∈ modules, mod.type ≠ palettesKey :=
    fun mod member => (named mod member).noPalettes
  obtain ⟨data, read, entries⟩ := read_generate free done
  exact ⟨_, parse_generate_eq_ok registry done read entries free,
    heldModules_documentEntries wellNamed entries named known supported⟩

variable (alike : ∀ first ∈ modules, ∀ second ∈ modules, first.type = second.type →
  Preview.Alike first second)
include alike

/-- A module that is no line break comes back as a module like it. -/
theorem alike_restored {mod : Module} (member : mod ∈ modules)
    (noBreak : mod.type ≠ Module.lineBreakType) :
    Preview.Alike (restored modules registry mod.type) mod := by
  obtain ⟨first, definition, inModules, sameType, _, held, restores⟩ :=
    restored_of_mem member (edited mod member).mem_names noBreak
  have same := alike first inModules mod member sameType
  rw [restores]
  refine ⟨rfl, same.disabled, fun key => ?_⟩
  rw [← same.properties]
  apply (edited first inModules).get?_insertAll plainDefaults
  rw [sameType, held]

theorem renderPart_restored {mod : Module} (member : mod ∈ modules) (theme : Option Theme)
    (context : Preview.Context) :
    Preview.renderPart registry theme context (restored modules registry mod.type) =
      Preview.renderPart registry theme context (Preview.withBreak mod) := by
  by_cases lineBreak : mod.type = Module.lineBreakType
  · have isLineBreak : mod.isLineBreak = true := by simpa [Module.isLineBreak] using lineBreak
    rw [restored, if_pos lineBreak, Preview.withBreak, if_pos isLineBreak,
      Preview.renderPart_lineBreak registry theme context rfl rfl]
    apply Eq.symm
    apply Preview.renderPart_lineBreak
    · exact lineBreak
    · rfl
  · have noBreak : mod.isLineBreak = false := by simpa [Module.isLineBreak] using lineBreak
    rw [Preview.withBreak_of_enabled (by simp [noBreak])]
    apply Preview.Alike.renderPart
    exact alike_restored plainDefaults edited alike member lineBreak

end Restored

/-- There is a document for edited modules exactly if its integers have few enough digits. Saving
and loading the modules again does then not change what a preview shows of them, but for line
breaks that were switched off: those come back switched on, and can be seen where there is a
preview at all. -/
theorem renderPrompt_parse_generate {registry : Registry} (wellNamed : WellNamed registry)
    (plainDefaults : PlainDefaults registry) {modules : List Module}
    (edited : ∀ mod ∈ modules, Edited registry mod)
    (alike : ∀ first ∈ modules, ∀ second ∈ modules, first.type = second.type →
      Preview.Alike first second)
    (settings : Settings) :
    ((∃ text, (generate modules settings).outcome = .ok text) ↔ FewDigits modules settings) ∧
    ∀ text, (generate modules settings).outcome = .ok text →
      ∃ parsed, (parse text registry).outcome = .ok parsed ∧
        ∀ theme context,
          Preview.renderPrompt parsed.modules registry theme context =
            Preview.renderPrompt (modules.map Preview.withBreak) registry theme context ∧
          (Preview.renderPrompt parsed.modules registry theme context =
              Preview.renderPrompt modules registry theme context ↔
            (∃ fault,
              (Preview.renderPrompt modules registry theme context).outcome = .error fault) ∨
              ∀ mod ∈ modules, mod.isLineBreak = true → mod.disabled = false) := by
  refine ⟨exists_generate_edited_iff plainDefaults edited wellNamed settings, fun text done => ?_⟩
  obtain ⟨parsed, outcome, same⟩ := parse_generate_restored plainDefaults edited wellNamed done
  refine ⟨parsed, outcome, fun theme context => ?_⟩
  have shown : Preview.renderPrompt parsed.modules registry theme context =
      Preview.renderPrompt (modules.map Preview.withBreak) registry theme context := by
    rw [same]
    apply Preview.renderPrompt_congr
    intro mod member
    exact renderPart_restored plainDefaults edited alike member theme context
  refine ⟨shown, ?_⟩
  rw [shown]
  exact Preview.renderPrompt_withBreak_eq_iff registry theme context modules

/-- A module that is edited over its defaults and comes twice, around a line break that is off. -/
theorem renderPrompt_parse_generate_edited :
    let registry : Registry := .ofList
      [{ name := "a", defaults := .ofList [("style", .text "red")], references := ["$k"] },
        { name := "line_break" }]
    let mod : Module :=
      { type := "a", properties := .ofList [("style", .text "red"), ("k", .integer 1)] }
    let modules := [mod, { type := "line_break", disabled := true }, mod]
    WellNamed registry ∧ PlainDefaults registry ∧ (∀ mod ∈ modules, Edited registry mod) ∧
      (∀ first ∈ modules, ∀ second ∈ modules, first.type = second.type →
        Preview.Alike first second) ∧
      ∃ text parsed, (generate modules {}).outcome = .ok text ∧
        (parse text registry).outcome = .ok parsed ∧
        ∀ theme context,
          Preview.renderPrompt parsed.modules registry theme context =
            Preview.renderPrompt (modules.map Preview.withBreak) registry theme context ∧
          (Preview.renderPrompt parsed.modules registry theme context =
              Preview.renderPrompt modules registry theme context ↔
            (∃ fault,
              (Preview.renderPrompt modules registry theme context).outcome = .error fault) ∨
              ∀ mod ∈ modules, mod.isLineBreak = true → mod.disabled = false) := by
  intro registry mod modules
  have wellNamed : WellNamed registry := by decide
  have plainDefaults : PlainDefaults registry := by
    intro definition member entry inside
    rcases List.mem_cons.mp member with rfl | member
    · rcases List.mem_singleton.mp inside with rfl
      exact .text "red"
    · rcases List.mem_singleton.mp member with rfl
      cases inside
  have made : registry.create "a" =
      .ok { type := "a", properties := .ofList [("style", .text "red")] } := rfl
  have first := Edited.setProperty (Edited.create made) (by decide : "k" ≠ "disabled")
    (.integer 1)
  have madeBreak : registry.create "line_break" = .ok { type := "line_break" } := rfl
  have second := Edited.switch (Edited.create madeBreak) true
  have edited : ∀ mod ∈ modules, Edited registry mod := by
    intro other member
    simp only [modules, List.mem_cons, List.not_mem_nil, or_false] at member
    rcases member with rfl | rfl | rfl
    · exact first
    · exact second
    · exact first
  have alike : ∀ first ∈ modules, ∀ second ∈ modules, first.type = second.type →
      Preview.Alike first second := by
    intro one member other otherMember same
    simp only [modules, List.mem_cons, List.not_mem_nil, or_false] at member otherMember
    have equal : one = other := by
      rcases member with rfl | rfl | rfl <;> rcases otherMember with rfl | rfl | rfl <;>
        first | rfl | exact absurd same (by decide)
    exact equal ▸ ⟨rfl, rfl, fun _ => rfl⟩
  have writable : ∀ mod ∈ modules, Writable mod.properties.entries := by
    unfold Writable
    decide
  have few : FewDigits modules {} :=
    ⟨nofun, nofun, rfl, fun mod _ _ found => writable mod (List.mem_of_find?_eq_some found)⟩
  obtain ⟨written, reads⟩ := renderPrompt_parse_generate wellNamed plainDefaults edited alike {}
  obtain ⟨text, done⟩ := written.mpr few
  obtain ⟨parsed, outcome, shown⟩ := reads text done
  exact ⟨wellNamed, plainDefaults, edited, alike, text, parsed, done, outcome, shown⟩

/-- A line break that is off shows nothing, and a line after it was saved and loaded again. -/
theorem renderPrompt_parse_generate_disabled_break :
    let registry : Registry := .ofList [{ name := "line_break" }]
    let mod : Module := { type := "line_break", disabled := true }
    WellNamed registry ∧ PlainDefaults registry ∧ Edited registry mod ∧
      Preview.Alike mod mod ∧
      ∃ text parsed, (generate [mod] {}).outcome = .ok text ∧
        (parse text registry).outcome = .ok parsed ∧
        Preview.renderPrompt [mod] registry none .home = pure [] ∧
        Preview.renderPrompt parsed.modules registry none .home = pure [⟨"\n", {}⟩] := by
  intro registry mod
  have wellNamed : WellNamed registry := by decide
  have plainDefaults : PlainDefaults registry := by
    intro definition member entry inside
    rcases List.mem_singleton.mp member with rfl
    cases inside
  have made : registry.create "line_break" = .ok { type := "line_break" } := rfl
  have edited : Edited registry mod := Edited.switch (Edited.create made) true
  have all : ∀ other ∈ [mod], Edited registry other := by
    intro other member
    rcases List.mem_singleton.mp member with rfl
    exact edited
  have few : FewDigits [mod] {} :=
    ⟨nofun, nofun, rfl, fun other noBreak _ found =>
      absurd (congrArg Module.type (List.mem_singleton.mp (List.mem_of_find?_eq_some found)))
        noBreak⟩
  obtain ⟨text, done⟩ := (exists_generate_edited_iff plainDefaults all wellNamed {}).mpr few
  obtain ⟨parsed, outcome, same⟩ := parse_generate_restored plainDefaults all wellNamed done
  have alike : Preview.Alike mod mod := ⟨rfl, rfl, fun _ => rfl⟩
  refine ⟨wellNamed, plainDefaults, edited, alike, text, parsed, done, outcome, rfl, ?_⟩
  rw [same]
  rfl

end ShellPrompt.Config
