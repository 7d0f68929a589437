import ShellPrompt.Proofs.Config.Settings
import ShellPrompt.Proofs.Style.Colors
import ShellPrompt.Proofs.Theme.Palette

/-!
Palettes of imported themes inside configurations. Embedded, written and read again, they give every
colour that they gave before, to any theme that takes them up, and take none of its slots.
-/

namespace ShellPrompt.Config

/-- Settings that select a palette select the same one after they were written and read. -/
theorem parse_generate_palettes {modules : List Module} {settings : Settings}
    (names : ∀ mod ∈ modules, mod.type ∉ settingKeys ∧ mod.type ≠ palettesKey) {text : String}
    (done : (generate modules settings).outcome = .ok text) (registry : Registry) :
    ∃ parsed, (parse text registry).outcome = .ok parsed ∧
      parsed.settings.palette = filled settings.palette ∧
      parsed.settings.palettes = settings.palettes := by
  have free : ∀ mod ∈ modules, mod.type ≠ palettesKey := fun mod member => (names mod member).2
  have unused : ∀ mod ∈ modules, mod.type ∉ settingKeys := fun mod member => (names mod member).1
  obtain ⟨data, read, entries⟩ := read_generate free done
  have same := readSettings_documentEntries entries unused free
  refine ⟨_, parse_generate_eq_ok registry done read entries free, ?_, ?_⟩
  · exact congrArg Settings.palette same
  · exact palettes_readSettings entries free

/-- Settings that were given the palette of a theme hand it to any theme that takes up theirs. -/
theorem palette_withPalette_embed {theme : Theme} {palette : Palette}
    (own : theme.palette = some palette) (nonempty : palette.isEmpty = false)
    (colored : ∀ entry ∈ palette.entries, entry.2 ≠ "") {name : String}
    (named : theme.name = .text name) (visible : Text.HasVisible name.toList)
    (settings : Settings) (base : Theme) :
    (base.withPalette (filled (settings.embed theme).palette)
      (settings.embed theme).palettes).palette = some palette := by
  have key : Theme.slug name ≠ "" := Theme.slug_ne_empty visible
  have shared := Theme.sharedPalette?_eq own nonempty colored
  rw [Settings.embed_eq shared nonempty named settings, filled_of_ne (by simpa using key)]
  rw [Theme.withPalette_eq key]
  rw [OrderedMap.get?_insert, if_pos rfl]

/-- The palette of an imported theme goes through a configuration, which can be written exactly if
its integers have few enough digits. Whatever theme takes the palette up there shows every colour
of it under its key, as the imported theme does, and its own colours under all spellings of the
names of slots. -/
theorem resolveColor_embed {source : String} {theme : Theme}
    (imported : (Theme.ofYaml source).outcome = .ok (some theme)) {name : String}
    (named : theme.name = .text name) (visible : Text.HasVisible name.toList)
    {modules : List Module}
    (names : ∀ mod ∈ modules, mod.type ∉ settingKeys ∧ mod.type ≠ palettesKey)
    (supported : ∀ mod ∈ modules, Supported mod.properties.entries) {base : Theme}
    (complete : ∀ slot, base.colors slot ≠ "") (settings : Settings) (registry : Registry) :
    ((∃ text, (generate modules (settings.embed theme)).outcome = .ok text) ↔
      FewDigits modules settings) ∧
    ∀ text, (generate modules (settings.embed theme)).outcome = .ok text →
      ∃ parsed palette, (parse text registry).outcome = .ok parsed ∧ theme.palette = some palette ∧
        (∀ key color, palette.get? key = some color →
          resolveColor (some (base.withPalette parsed.settings.palette parsed.settings.palettes))
            key = color ∧
          resolveColor (some theme) key = color) ∧
        ∀ token slot, Slot.ofName? (slotAlias (Text.lower token)) = some slot →
          resolveColor (some (base.withPalette parsed.settings.palette parsed.settings.palettes))
            token = resolveColor (some base) token := by
  constructor
  · rw [← fewDigits_embed settings theme]
    exact exists_generate_iff_fewDigits (fun mod member => (names mod member).1) supported
  intro text done
  obtain ⟨parsed, outcome, selected, palettes⟩ := parse_generate_palettes names done registry
  obtain ⟨palette, own, sound⟩ := Theme.exists_palette_of_ofYaml imported
  refine ⟨parsed, palette, outcome, own, ?_, ?_⟩
  · intro key color held
    have colored : ∀ entry ∈ palette.entries, entry.2 ≠ "" := by
      intro entry member empty
      have hashed := (sound entry member).2
      rw [empty] at hashed
      cases hashed
    have member : (key, color) ∈ palette.entries := OrderedMap.mem_of_find held
    have nonempty : palette.isEmpty = false :=
      List.isEmpty_eq_false_iff.mpr (List.ne_nil_of_mem member)
    have inKeys : key ∈ Theme.schemeKeys := (sound _ member).1
    have taken := palette_withPalette_embed own nonempty colored named visible settings base
    rw [← selected, ← palettes] at taken
    exact ⟨resolveColor_schemeKey taken inKeys held (colored _ member),
      resolveColor_schemeKey own inKeys held (colored _ member)⟩
  · intro token slot spelled
    have shown := complete slot
    rw [← Theme.colors_withPalette base parsed.settings.palette parsed.settings.palettes] at shown
    rw [resolveColor_slot spelled shown, resolveColor_slot spelled (complete slot),
      Theme.colors_withPalette]

/-- A scheme without a name. Each colour is the last digit of its key. -/
def digitScheme : List Char :=
  "\x7b\"palette\":\x7b".toList ++
    Theme.Base16.requiredKeys.flatMap
      (fun key => '"' :: key.toList ++ "\":\"".toList ++ key.toList.drop 5 ++ "\",".toList) ++
    "\x7d\x7d".toList

theorem resolveColor_embed_digits :
    let modules : List Module := [{ type := "time" }, Module.ofText "it's"]
    ∃ theme name,
      (Theme.ofYaml (String.ofList digitScheme)).outcome = .ok (some theme) ∧
      theme.name = .text name ∧ Text.HasVisible name.toList ∧
      ∃ text parsed palette,
        (generate modules (Settings.embed {} theme)).outcome = .ok text ∧
        (parse text .empty).outcome = .ok parsed ∧ theme.palette = some palette ∧
        (∀ key color, palette.get? key = some color →
          resolveColor (some (Theme.default.withPalette parsed.settings.palette
            parsed.settings.palettes)) key = color ∧
          resolveColor (some theme) key = color) ∧
        ∀ token slot, Slot.ofName? (slotAlias (Text.lower token)) = some slot →
          resolveColor (some (Theme.default.withPalette parsed.settings.palette
            parsed.settings.palettes)) token = resolveColor (some Theme.default) token := by
  intro modules
  have checked : ∀ source : String, source.toList = digitScheme →
      (((Theme.ofYaml source).outcome.toOption.bind id).any fun theme =>
        theme.name.asText?.any fun name => name.toList.any fun c => !Text.isBlank c) = true := by
    intro source characters
    unfold Theme.ofYaml Yaml.read
    rw [characters]
    decide +kernel
  obtain ⟨theme, held, checked⟩ :=
    (Option.any_eq_true _ _).mp (checked (String.ofList digitScheme) String.toList_ofList)
  obtain ⟨name, named, visible⟩ := (Option.any_eq_true _ _).mp checked
  have imported : (Theme.ofYaml (String.ofList digitScheme)).outcome = .ok (some theme) := by
    cases reading : (Theme.ofYaml (String.ofList digitScheme)).outcome with
    | error fault =>
        rw [reading] at held
        cases held
    | ok found =>
        rw [reading] at held
        exact congrArg Except.ok held
  have named : theme.name = .text name := by
    cases kept : theme.name with
    | text value =>
        rw [kept] at named
        exact congrArg Value.text (Option.some.inj named)
    | _ =>
        rw [kept] at named
        cases named
  have visible : Text.HasVisible name.toList := by
    obtain ⟨c, member, shown⟩ := List.any_eq_true.mp visible
    exact ⟨c, member, by simpa using shown⟩
  have complete : ∀ slot, Theme.default.colors slot ≠ "" := by
    intro slot
    cases slot <;> decide
  have supported : ∀ mod ∈ modules,
      Supported mod.properties.entries ∧ Writable mod.properties.entries := by
    unfold Supported Writable
    decide
  have few : FewDigits modules {} := ⟨nofun, nofun, rfl,
    fun mod _ _ found => (supported mod (List.mem_of_find?_eq_some found)).2⟩
  obtain ⟨written, reads⟩ := resolveColor_embed imported named visible
    (by decide : ∀ mod ∈ modules, mod.type ∉ settingKeys ∧ mod.type ≠ palettesKey)
    (fun mod member => (supported mod member).1) complete {} .empty
  obtain ⟨text, done⟩ := written.mpr few
  obtain ⟨parsed, palette, shown⟩ := reads text done
  exact ⟨theme, name, imported, named, visible, text, parsed, palette, done, shown⟩

end ShellPrompt.Config
