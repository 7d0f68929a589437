import ShellPrompt.Config.Settings
import ShellPrompt.Proofs.Text.Lower
import ShellPrompt.Proofs.Value
import ShellPrompt.Theme.Palette

/-!
Palettes on their way from a theme through a configuration. A theme whose name can be seen has a
key for its palette, settings that embed it hold the palette under that key and select it, and a
theme that takes it up has its own colours still.
-/

namespace ShellPrompt

namespace Theme

theorem slug_ne_empty {name : String} (visible : Text.HasVisible name.toList) :
    slug name ≠ "" := by
  have lowered : Text.HasVisible (Text.lower name).toList := by
    rw [Text.lower, String.toList_ofList]
    exact Text.hasVisible_lowerFrom visible false
  obtain ⟨word, others, words⟩ := List.exists_cons_of_ne_nil (Text.words_ne_nil lowered)
  have filled : word ≠ [] := Text.ne_nil_of_mem_words (words ▸ List.mem_cons_self)
  rw [slug, Text.wordsOf, words, List.map_cons]
  exact intercalate_ne_empty "_" (ofList_ne_empty filled) _

/-- There is nothing to make a key of in a name that cannot be seen. -/
theorem slug_eq_empty {name : String} (blank : ¬ Text.HasVisible name.toList) : slug name = "" := by
  have blanks := Text.not_hasVisible_iff.mp blank
  rw [slug, Text.lower, Text.lowerFrom_of_blank blanks, String.ofList_toList, Text.wordsOf,
    Text.words_of_blank blanks]
  rfl

@[simp]
theorem colors_withPalette (theme : Theme) (selected : Option String)
    (palettes : OrderedMap String Palette) :
    (theme.withPalette selected palettes).colors = theme.colors := by
  unfold withPalette
  split
  · rfl
  · split
    · rfl
    · split <;> rfl

theorem withPalette_eq {name : String} (filled : name ≠ "") {palettes : OrderedMap String Palette}
    {palette : Palette} (held : palettes.get? name = some palette) (theme : Theme) :
    theme.withPalette (some name) palettes =
      { theme with name := .text name, palette := some palette } := by
  simp only [withPalette, if_neg filled, held]

/-- An empty key selects no palette, also where there is one under it. -/
theorem withPalette_empty (theme : Theme) (palettes : OrderedMap String Palette) :
    theme.withPalette (some "") palettes = theme := rfl

theorem sharedPalette?_eq {theme : Theme} {palette : Palette} (own : theme.palette = some palette)
    (nonempty : palette.isEmpty = false) (filled : ∀ entry ∈ palette.entries, entry.2 ≠ "") :
    theme.sharedPalette? = some palette := by
  have all : palette.filterValues (fun color => color != "") = palette := by
    apply OrderedMap.ext
    apply List.filter_eq_self.mpr
    intro entry member
    simpa using filled entry member
  simp only [sharedPalette?, own, nonempty, all]
  rfl

/-- A theme shares its palette if some entry of it holds a colour. -/
theorem exists_sharedPalette {theme : Theme} {palette : Palette}
    (own : theme.palette = some palette) (colored : ∃ entry ∈ palette.entries, entry.2 ≠ "") :
    ∃ shared, theme.sharedPalette? = some shared ∧ shared.isEmpty = false := by
  obtain ⟨entry, member, color⟩ := colored
  have nonempty : palette.isEmpty = false :=
    List.isEmpty_eq_false_iff.mpr (List.ne_nil_of_mem member)
  have kept : entry ∈ (palette.filterValues fun color => color != "").entries :=
    List.mem_filter.mpr ⟨member, by simpa using color⟩
  refine ⟨palette.filterValues fun color => color != "", ?_, ?_⟩
  · simp only [sharedPalette?, own, nonempty]
    rfl
  · exact List.isEmpty_eq_false_iff.mpr (List.ne_nil_of_mem kept)

end Theme

theorem Config.Settings.embed_eq {theme : Theme} {palette : Palette}
    (shared : theme.sharedPalette? = some palette) (nonempty : palette.isEmpty = false)
    {name : String} (named : theme.name = .text name) (settings : Settings) :
    settings.embed theme =
      { settings with
        palette := some (Theme.slug name)
        palettes := settings.palettes.insert (Theme.slug name) palette } := by
  have key : theme.paletteName? = some (Theme.slug name) := by
    rw [Theme.paletteName?, named]
    rfl
  simp only [Settings.embed, shared, key, nonempty]
  rfl

end ShellPrompt
