import ShellPrompt.Proofs.OrderedMap
import ShellPrompt.Proofs.Theme.Palette

/-!
The palette that settings select once a theme was embedded in them. It is the theme's, under a key
made of its name, and nothing else among the settings changes. Any theme can take it up from there,
unless there is nothing to be seen in the name: then the key is empty, and no palette is selected.
-/

namespace ShellPrompt.Config

/-- Embedding a theme puts its palette among those of the settings and selects it. All other
settings stay, doing it again changes nothing, and any theme that takes up the selected palette
becomes the one with this palette and its own colours. From a theme without a visible name nothing
is taken up. -/
theorem withPalette_embed {theme : Theme} {name : String} (named : theme.name = .text name)
    {palette : Palette} (own : theme.palette = some palette)
    (colored : ∃ entry ∈ palette.entries, entry.2 ≠ "") (settings : Settings) :
    (Text.HasVisible name.toList → ∀ base : Theme,
      base.withPalette (settings.embed theme).palette (settings.embed theme).palettes =
        { base with name := .text (Theme.slug name), palette := theme.sharedPalette? }) ∧
    (¬ Text.HasVisible name.toList → ∀ base : Theme,
      base.withPalette (settings.embed theme).palette (settings.embed theme).palettes = base) ∧
    (settings.embed theme).embed theme = settings.embed theme ∧
    (settings.embed theme).palettes.get? (Theme.slug name) = theme.sharedPalette? ∧
    (settings.embed theme).palettes.erase (Theme.slug name) =
      settings.palettes.erase (Theme.slug name) ∧
    { settings.embed theme with
      palette := settings.palette
      palettes := settings.palettes } = settings := by
  obtain ⟨shared, sharing, filled⟩ := Theme.exists_sharedPalette own colored
  have embeds := Settings.embed_eq sharing filled named
  have held : (settings.palettes.insert (Theme.slug name) shared).get? (Theme.slug name) =
      some shared := by
    rw [OrderedMap.get?_insert, if_pos rfl]
  rw [embeds, embeds, sharing]
  refine ⟨?_, ?_, ?_, held, OrderedMap.erase_insert _ _ _, rfl⟩
  · intro visible base
    exact Theme.withPalette_eq (Theme.slug_ne_empty visible) held base
  · intro blank base
    rw [Theme.slug_eq_empty blank]
    exact base.withPalette_empty _
  · rw [OrderedMap.insert_insert]

def reef : Theme :=
  { Theme.default with
    name := .text " Deep\tSea"
    palette := some (.ofList [("coral", "#ff7f50"), ("sand", "")]) }

/-- Another palette is held under the key already, and gives its place to the new one. -/
theorem withPalette_embed_reef :
    let settings : Settings :=
      { palettes := .ofList [("deep_sea", .empty), ("shore", .ofList [("sand", "#eedd88")])] }
    (∃ entry ∈ (OrderedMap.ofList [("coral", "#ff7f50"), ("sand", "")]).entries, entry.2 ≠ "") ∧
      Text.HasVisible " Deep\tSea".toList ∧
      Theme.tokyoNight.withPalette (settings.embed reef).palette (settings.embed reef).palettes =
        { Theme.tokyoNight with
          name := .text "deep_sea"
          palette := some (.ofList [("coral", "#ff7f50")]) } := by
  intro settings
  have colored : ∃ entry ∈ (OrderedMap.ofList [("coral", "#ff7f50"), ("sand", "")]).entries,
      entry.2 ≠ "" :=
    ⟨("coral", "#ff7f50"), by decide +kernel, by decide⟩
  have visible : Text.HasVisible " Deep\tSea".toList := ⟨'D', by decide, by decide⟩
  have key : Theme.slug " Deep\tSea" = "deep_sea" := by decide +kernel
  have shared : reef.sharedPalette? = some (.ofList [("coral", "#ff7f50")]) := by decide +kernel
  have named : reef.name = .text " Deep\tSea" := rfl
  refine ⟨colored, visible, ?_⟩
  rw [(withPalette_embed named rfl colored settings).1 visible, key, shared]

/-- Settings with a palette under the empty name select none, though they hold it. -/
theorem palette_withPalette_embed_blank :
    let blank : Theme :=
      { Theme.default with name := .text " ", palette := some (.ofList [("coral", "#ff7f50")]) }
    let settings := Settings.embed {} blank
    settings.palettes.get? "" = blank.sharedPalette? ∧ settings.palette = some "" ∧
      (Theme.default.withPalette settings.palette settings.palettes).palette ≠
        blank.sharedPalette? := by
  decide +kernel

end ShellPrompt.Config
