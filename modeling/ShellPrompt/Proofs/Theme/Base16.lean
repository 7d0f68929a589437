import ShellPrompt.Proofs.OrderedMap
import ShellPrompt.Proofs.Value
import ShellPrompt.Theme.Catalog

/-!
Themes from schemes. Their palettes have nothing but keys of schemes, each with a colour behind a
number sign.
-/

namespace ShellPrompt

theorem head?_hashColor {color : String} (filled : color ≠ "") :
    (hashColor color).toList.head? = some '#' := by
  unfold hashColor
  split
  · rename_i empty
    exact absurd (String.toList_eq_nil_iff.mp empty) filled
  · rename_i hashed
    rw [hashed]
    rfl
  · rw [String.toList_append]
    rfl

namespace Theme

/-- A theme all of whose colours have a number sign in front. -/
structure Hashed (theme : Theme) : Prop where
  slots : ∀ slot, (theme.colors slot).toList.head? = some '#'
  entries : ∀ palette, theme.palette = some palette →
    ∀ entry ∈ palette.entries, entry.2.toList.head? = some '#'

theorem ofYaml_ok {source : String} {theme : Theme}
    (imported : (ofYaml source).outcome = .ok (some theme)) :
    ∃ scheme, Yaml.read source = .ok scheme ∧ ofScheme scheme = .ok theme := by
  unfold ofYaml at imported
  split at imported
  · cases imported
  · cases imported
  · rename_i scheme read
    split at imported
    · rename_i made same
      cases imported
      exact ⟨scheme, read, same⟩
    · cases imported
    · cases imported

open Base16

theorem ofScheme_ok {scheme : Value} {theme : Theme} (made : ofScheme scheme = .ok theme) :
    ∃ fields entries, scheme = .map fields ∧
      Value.field? "palette" fields = some (.map entries) ∧ missingKeys entries = [] ∧
      theme = themeOf fields entries := by
  unfold ofScheme at made
  split at made
  · rename_i fields
    split at made
    · rename_i entries held
      split at made
      · rename_i complete
        cases made
        exact ⟨fields, entries, rfl, held, complete, rfl⟩
      · cases made
    · cases made
  · cases made

/-- All keys that a scheme may give a colour. -/
def schemeKeys : List String := requiredKeys ++ furtherKeys

theorem mem_colorsUnder {keys : List String} {entries : List (Value × Value)}
    {entry : String × String} (member : entry ∈ colorsUnder keys entries) :
    entry.1 ∈ keys ∧ entry.2.toList.head? = some '#' := by
  obtain ⟨key, inKeys, given⟩ := List.mem_filterMap.mp member
  obtain ⟨value, held, rfl⟩ := Option.map_eq_some_iff.mp given
  have set : value.isSet = true := (Option.filter_eq_some_iff.mp held).2
  exact ⟨inKeys, head?_hashColor (Value.toText_ne_empty set)⟩

theorem mem_paletteOf {system : Value} {entries : List (Value × Value)}
    {entry : String × String} (member : entry ∈ (paletteOf system entries).entries) :
    entry.1 ∈ schemeKeys ∧ entry.2.toList.head? = some '#' := by
  rcases OrderedMap.mem_insertAll member with old | new
  · cases old
  · obtain ⟨inKeys, hashed⟩ := mem_colorsUnder new
    refine ⟨?_, hashed⟩
    rcases List.mem_append.mp inKeys with required | further
    · exact List.mem_append_left _ required
    · split at further
      · exact List.mem_append_right _ further
      · cases further

theorem find_colorsUnder (keys : List String) (entries : List (Value × Value)) (key : String) :
    OrderedMap.find key (colorsUnder keys entries) =
      if key ∈ keys then (given? key entries).map fun value => hashColor value.toText
      else none := by
  induction keys with
  | nil => rfl
  | cons first rest inductionHypothesis =>
      unfold colorsUnder at inductionHypothesis ⊢
      by_cases same : first = key
      · subst same
        rw [if_pos List.mem_cons_self]
        cases given : given? first entries with
        | none =>
            rw [List.filterMap_cons_none (by rw [given]; rfl), inductionHypothesis, given]
            exact ite_self none
        | some value =>
            rw [List.filterMap_cons_some (by rw [given]; rfl), OrderedMap.find, if_pos rfl]
            rfl
      · have member : key ∈ first :: rest ↔ key ∈ rest := by simp [Ne.symm same]
        simp only [member, ← inductionHypothesis]
        cases given : given? first entries with
        | none => rw [List.filterMap_cons_none (by rw [given]; rfl)]
        | some value =>
            rw [List.filterMap_cons_some (by rw [given]; rfl), OrderedMap.find, if_neg same]

theorem map_fst_colorsUnder (keys : List String) (entries : List (Value × Value)) :
    (colorsUnder keys entries).map Prod.fst =
      keys.filter fun key => (given? key entries).isSome := by
  induction keys with
  | nil => rfl
  | cons first rest inductionHypothesis =>
      unfold colorsUnder at inductionHypothesis ⊢
      cases given : given? first entries with
      | none =>
          rw [List.filterMap_cons_none (by rw [given]; rfl), inductionHypothesis,
            List.filter_cons_of_neg (by simp [given])]
      | some value =>
          rw [List.filterMap_cons_some (by rw [given]; rfl), List.map_cons, inductionHypothesis,
            List.filter_cons_of_pos (by simp [given])]

theorem get?_paletteOf (system : Value) (entries : List (Value × Value)) (key : String) :
    (paletteOf system entries).get? key =
      if key ∈ requiredKeys ++ (if isBase24 system then furtherKeys else []) then
        (given? key entries).map fun value => hashColor value.toText
      else none := by
  have distinct : (requiredKeys ++ if isBase24 system then furtherKeys else []).Nodup := by
    cases isBase24 system <;> decide
  rw [paletteOf, ← find_colorsUnder]
  have written := OrderedMap.get?_insertAll
    (map_fst_colorsUnder _ entries ▸ distinct.filter _) .empty key
  rw [OrderedMap.get?_empty, Option.or_none] at written
  exact written

theorem given?_of_missingKeys {entries : List (Value × Value)} (complete : missingKeys entries = [])
    {key : String} (required : key ∈ requiredKeys) : ∃ value, given? key entries = some value := by
  have present : ¬ (given? key entries).isNone := List.filter_eq_nil_iff.mp complete key required
  exact Option.ne_none_iff_exists'.mp (by simpa using present)

/-- All colours of an imported theme have a number sign in front. -/
theorem hashed_ofScheme {scheme : Value} {theme : Theme} (made : ofScheme scheme = .ok theme) :
    theme.Hashed := by
  obtain ⟨fields, entries, _, _, complete, rfl⟩ := ofScheme_ok made
  refine ⟨fun slot => ?_, ?_⟩
  · have required := schemeKey_mem_requiredKeys slot
    obtain ⟨value, given⟩ := given?_of_missingKeys complete required
    have set : value.isSet = true := (Option.filter_eq_some_iff.mp given).2
    have held : (paletteOf (givenOr "base16" "system" fields) entries).get? slot.schemeKey =
        some (hashColor value.toText) := by
      rw [get?_paletteOf, if_pos (List.mem_append_left _ required), given]
      rfl
    simp only [themeOf, held, Option.getD_some]
    exact head?_hashColor (Value.toText_ne_empty set)
  · rintro palette ⟨⟩ entry member
    exact (mem_paletteOf member).2

/-- The palette that a scheme gives a theme. -/
theorem exists_palette_of_ofYaml {source : String} {theme : Theme}
    (imported : (ofYaml source).outcome = .ok (some theme)) :
    ∃ palette, theme.palette = some palette ∧
      ∀ entry ∈ palette.entries, entry.1 ∈ schemeKeys ∧ entry.2.toList.head? = some '#' := by
  obtain ⟨scheme, _, made⟩ := ofYaml_ok imported
  obtain ⟨fields, entries, _, _, _, rfl⟩ := ofScheme_ok made
  exact ⟨_, rfl, fun _ member => mem_paletteOf member⟩

end Theme

end ShellPrompt
