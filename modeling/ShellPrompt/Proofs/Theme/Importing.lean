import Mathlib.Data.List.Basic
import ShellPrompt.Proofs.Style.Colors
import ShellPrompt.Proofs.Theme.Files

/-!
Themes that are imported from schemes. A scheme is taken exactly if its palette has a colour under
every key that schemes have to give, and all colours of the theme come from there: under the same
keys in a fixed order, with number signs in front, and found again under the names of slots.
-/

namespace ShellPrompt.Theme

open Base16

/-- A scheme in which every key that schemes have to give a colour holds one. -/
inductive Complete : Value → Prop
  | intro {fields entries : List (Value × Value)}
      (held : Value.field? "palette" fields = some (.map entries))
      (required : ∀ key ∈ requiredKeys, ∃ value, given? key entries = some value) :
      Complete (.map fields)

section Schemes
variable {scheme : Value} {fields entries : List (Value × Value)}

theorem missingKeys_eq_nil_iff :
    missingKeys entries = [] ↔ ∀ key ∈ requiredKeys, ∃ value, given? key entries = some value := by
  constructor
  · exact fun complete key required => given?_of_missingKeys complete required
  · intro required
    apply List.filter_eq_nil_iff.mpr
    intro key member missing
    obtain ⟨value, given⟩ := required key member
    simp [given] at missing

theorem ofScheme_of_required (held : Value.field? "palette" fields = some (.map entries))
    (required : ∀ key ∈ requiredKeys, ∃ value, given? key entries = some value) :
    ofScheme (.map fields) = .ok (themeOf fields entries) := by
  simp only [ofScheme, held, missingKeys_eq_nil_iff.mpr required, if_true]

theorem complete_of_ofScheme {theme : Theme} (made : ofScheme scheme = .ok theme) :
    Complete scheme := by
  obtain ⟨fields, entries, rfl, held, complete, _⟩ := ofScheme_ok made
  exact .intro held (missingKeys_eq_nil_iff.mp complete)

theorem exists_ofScheme_iff : (∃ theme, ofScheme scheme = .ok theme) ↔ Complete scheme := by
  constructor
  · rintro ⟨theme, made⟩
    exact complete_of_ofScheme made
  · rintro ⟨held, required⟩
    exact ⟨_, ofScheme_of_required held required⟩

end Schemes

section Colors

theorem hashColor_eq {color : String} (filled : color ≠ "") :
    hashColor color = if color.toList.head? = some '#' then color else "#" ++ color := by
  unfold hashColor
  split
  · rename_i empty
    exact absurd (String.toList_eq_nil_iff.mp empty) filled
  · rename_i hashed
    rw [hashed]
    rfl
  · rename_i noHash
    rw [if_neg]
    intro head
    obtain ⟨rest, hashed⟩ := List.head?_eq_some_iff.mp head
    exact noHash rest hashed

variable {fields entries : List (Value × Value)}

/-- Whether a scheme says that it is a Base24 scheme. -/
def saysBase24 (fields : List (Value × Value)) : Bool :=
  (Value.field? "system" fields).any isBase24

theorem isSet_of_isBase24 {system : Value} (base24 : isBase24 system = true) :
    system.isSet = true := by
  cases system with
  | text name =>
      have same : name = "base24" := by simpa [isBase24] using base24
      rw [same]
      decide
  | _ => cases base24

theorem isBase24_givenOr : isBase24 (givenOr "base16" "system" fields) = saysBase24 fields := by
  rw [saysBase24, givenOr, given?]
  cases Value.field? "system" fields with
  | none => rfl
  | some system =>
      rw [Option.filter_some]
      split
      · rfl
      · rename_i unset
        have other : isBase24 system = false :=
          Bool.eq_false_iff.mpr fun base24 => unset (isSet_of_isBase24 base24)
        rw [Option.any_some, other]
        rfl

/-- The keys that count in a scheme. -/
def countedKeys (fields : List (Value × Value)) : List String :=
  requiredKeys ++ if saysBase24 fields then furtherKeys else []

theorem entries_paletteOf :
    (paletteOf (givenOr "base16" "system" fields) entries).entries =
      colorsUnder (countedKeys fields) entries := by
  have distinct : (countedKeys fields).Nodup := by
    unfold countedKeys
    cases saysBase24 fields <;> decide
  rw [paletteOf, isBase24_givenOr]
  apply OrderedMap.entries_ofList
  rw [map_fst_colorsUnder]
  exact distinct.filter _

theorem keys_paletteOf
    (required : ∀ key ∈ requiredKeys, ∃ value, given? key entries = some value) :
    (paletteOf (givenOr "base16" "system" fields) entries).keys =
      requiredKeys ++
        if saysBase24 fields then furtherKeys.filter fun key => (given? key entries).isSome
        else [] := by
  have all : requiredKeys.filter (fun key => (given? key entries).isSome) = requiredKeys := by
    apply List.filter_eq_self.mpr
    intro key member
    obtain ⟨value, given⟩ := required key member
    rw [given]
    rfl
  rw [OrderedMap.keys, entries_paletteOf, map_fst_colorsUnder, countedKeys, List.filter_append, all]
  split
  · rfl
  · rfl

/-- The value of the entry of a palette, and its text with one number sign in front. -/
theorem given?_of_get?_paletteOf {system : Value} {key color : String}
    (held : (paletteOf system entries).get? key = some color) :
    ∃ value, given? key entries = some value ∧
      color = if value.toText.toList.head? = some '#' then value.toText
        else "#" ++ value.toText := by
  rw [get?_paletteOf, Option.ite_none_right_eq_some] at held
  obtain ⟨value, given, rfl⟩ := Option.map_eq_some_iff.mp held.2
  have set : value.isSet = true := (Option.filter_eq_some_iff.mp given).2
  exact ⟨value, given, hashColor_eq (Value.toText_ne_empty set)⟩

end Colors

/-- A theme with the colours of a scheme: the palette has the keys that count in their order, the
texts of the values with a number sign, and gives the slots their colours. The words for colours
lead to the same ones. -/
structure ColoredBy (fields entries : List (Value × Value)) (theme : Theme) (palette : Palette) :
    Prop where
  own : theme.palette = some palette
  keys : palette.keys = requiredKeys ++
    if saysBase24 fields then furtherKeys.filter fun key => (given? key entries).isSome else []
  values : ∀ key color, palette.get? key = some color →
    ∃ value, given? key entries = some value ∧
      color = if value.toText.toList.head? = some '#' then value.toText else "#" ++ value.toText
  slots : ∀ slot, theme.colors slot ≠ "" ∧
    palette.get? slot.schemeKey = some (theme.colors slot) ∧
    resolveColor (some theme) slot.name = theme.colors slot
  resolved : ∀ key color, palette.get? key = some color → resolveColor (some theme) key = color

/-- Schemes that agree in all that colours are taken from. -/
inductive Agree : Value → Value → Prop
  | intro {fields entries others otherEntries : List (Value × Value)}
      (held : Value.field? "palette" fields = some (.map entries))
      (otherHeld : Value.field? "palette" others = some (.map otherEntries))
      (system : saysBase24 fields = saysBase24 others)
      (values : ∀ key ∈ countedKeys fields, given? key entries = given? key otherEntries) :
      Agree (.map fields) (.map others)

section Themes
variable {fields entries : List (Value × Value)}

theorem mem_schemeKeys_of_get?_paletteOf {system : Value} {key color : String}
    (held : (paletteOf system entries).get? key = some color) :
    key ∈ schemeKeys ∧ color ≠ "" := by
  obtain ⟨inKeys, hashed⟩ := mem_paletteOf (OrderedMap.mem_of_find held)
  refine ⟨inKeys, ?_⟩
  rintro rfl
  cases hashed

theorem ofName?_lower_name (slot : Slot) :
    Slot.ofName? (slotAlias (Text.lower slot.name)) = some slot := by
  cases slot <;> decide +kernel

theorem coloredBy_themeOf
    (required : ∀ key ∈ requiredKeys, ∃ value, given? key entries = some value) :
    ColoredBy fields entries (themeOf fields entries)
      (paletteOf (givenOr "base16" "system" fields) entries) where
  own := rfl
  keys := keys_paletteOf required
  values _ _ held := given?_of_get?_paletteOf held
  slots slot := by
    have inKeys := schemeKey_mem_requiredKeys slot
    obtain ⟨value, given⟩ := required _ inKeys
    have held : (paletteOf (givenOr "base16" "system" fields) entries).get? slot.schemeKey =
        some ((themeOf fields entries).colors slot) := by
      rw [get?_paletteOf, if_pos (List.mem_append_left _ inKeys), given]
      simp only [themeOf, get?_paletteOf, if_pos (List.mem_append_left _ inKeys), given]
      rfl
    have filled := (mem_schemeKeys_of_get?_paletteOf held).2
    exact ⟨filled, held, resolveColor_slot (ofName?_lower_name slot) filled⟩
  resolved _ _ held :=
    have ⟨inKeys, filled⟩ := mem_schemeKeys_of_get?_paletteOf held
    resolveColor_schemeKey rfl inKeys held filled

theorem colorsUnder_congr {keys : List String} {otherEntries : List (Value × Value)}
    (same : ∀ key ∈ keys, given? key entries = given? key otherEntries) :
    colorsUnder keys entries = colorsUnder keys otherEntries :=
  List.filterMap_congr fun key member => by rw [same key member]

theorem paletteOf_eq_of_agree {others otherEntries : List (Value × Value)}
    (system : saysBase24 fields = saysBase24 others)
    (values : ∀ key ∈ countedKeys fields, given? key entries = given? key otherEntries) :
    paletteOf (givenOr "base16" "system" fields) entries =
      paletteOf (givenOr "base16" "system" others) otherEntries := by
  have sameKeys : countedKeys fields = countedKeys others := by
    rw [countedKeys, countedKeys, system]
  apply OrderedMap.ext
  rw [entries_paletteOf, entries_paletteOf, ← sameKeys]
  exact colorsUnder_congr values

/-- Nothing else in a scheme decides whether it is taken, and what colours the theme has then. -/
theorem exists_ofScheme_of_agree {scheme other : Value} (agree : Agree scheme other)
    {theme : Theme} (made : ofScheme scheme = .ok theme) :
    ∃ otherTheme, ofScheme other = .ok otherTheme ∧ otherTheme.colors = theme.colors ∧
      otherTheme.palette = theme.palette := by
  cases agree with
  | @intro fields entries others otherEntries held otherHeld system values =>
      obtain ⟨_, _, ⟨⟩, sameHeld, complete, rfl⟩ := ofScheme_ok made
      rw [held] at sameHeld
      cases sameHeld
      have required : ∀ key ∈ requiredKeys, ∃ value, given? key otherEntries = some value := by
        intro key member
        rw [← values key (List.mem_append_left _ member)]
        exact given?_of_missingKeys complete member
      have palette := paletteOf_eq_of_agree system values
      refine ⟨_, ofScheme_of_required otherHeld required, ?_, congrArg some palette.symm⟩
      funext slot
      simp only [themeOf, palette]

end Themes

/-- A document makes up a theme exactly if it is a complete scheme. The theme has the colours that
the scheme gives, under the keys and slots that they belong to, and nothing else of the document has
a part in that. -/
theorem ofScheme_of_document (scheme : Value) :
    (∀ text, Yaml.read text = .ok scheme →
      (ofYaml text).outcome = .ok (ofScheme scheme).toOption) ∧
    ((∃ theme, ofScheme scheme = .ok theme) ↔ Complete scheme) ∧
    ∀ theme, ofScheme scheme = .ok theme →
      (∃ fields entries palette, scheme = .map fields ∧
        Value.field? "palette" fields = some (.map entries) ∧
        ColoredBy fields entries theme palette) ∧
      ∀ other, Agree scheme other → ∃ otherTheme, ofScheme other = .ok otherTheme ∧
        otherTheme.colors = theme.colors ∧ otherTheme.palette = theme.palette := by
  refine ⟨fun text read => outcome_ofYaml_of_read read, exists_ofScheme_iff, ?_⟩
  intro theme made
  refine ⟨?_, fun other agree => exists_ofScheme_of_agree agree made⟩
  obtain ⟨fields, entries, rfl, held, complete, rfl⟩ := ofScheme_ok made
  exact ⟨fields, entries, _, rfl, held, coloredBy_themeOf (missingKeys_eq_nil_iff.mp complete)⟩

/-- A Base24 scheme with a list for a name and a list for one of its further colours. -/
def listScheme : List Char :=
  "\x7b\"system\":\"base24\",\"name\":[\"\"],\"palette\":\x7b\"base17\":[\"c\"],".toList ++
    requiredKeys.flatMap
      (fun key => '"' :: key.toList ++ "\":\"".toList ++ key.toList.drop 5 ++ "\",".toList) ++
    "\x7d\x7d".toList

theorem read_listScheme :
    ∃ scheme theme, Yaml.read (String.ofList listScheme) = .ok scheme ∧
      ofScheme scheme = .ok theme ∧ theme.name.isText = false := by
  have checked : ∀ source : String, source.toList = listScheme →
      (Yaml.read source).toOption.any fun scheme =>
        (ofScheme scheme).toOption.any fun theme => !theme.name.isText := by
    intro source characters
    unfold Yaml.read
    rw [characters]
    decide +kernel
  obtain ⟨scheme, read, checked⟩ :=
    exists_ok_of_any (checked (String.ofList listScheme) String.toList_ofList)
  obtain ⟨theme, made, noText⟩ := exists_ok_of_any checked
  exact ⟨scheme, theme, read, made, by simpa using noText⟩

theorem ofScheme_of_document_lists :
    ∃ fields theme, Yaml.read (String.ofList listScheme) = .ok (.map fields) ∧
      (ofYaml (String.ofList listScheme)).outcome = .ok (ofScheme (.map fields)).toOption ∧
      ofScheme (.map fields) = .ok theme ∧ Complete (.map fields) ∧
      (∃ others entries palette, Value.map fields = .map others ∧
        Value.field? "palette" others = some (.map entries) ∧
        ColoredBy others entries theme palette) ∧
      Agree (.map fields) (.map ((.text "author", .list []) :: fields)) ∧
      ∃ otherTheme, ofScheme (.map ((.text "author", .list []) :: fields)) = .ok otherTheme ∧
        otherTheme.colors = theme.colors ∧ otherTheme.palette = theme.palette := by
  obtain ⟨scheme, theme, read, made, _⟩ := read_listScheme
  obtain ⟨fields, entries, rfl, held, _⟩ := ofScheme_ok made
  obtain ⟨outcome, complete, colored⟩ := ofScheme_of_document (.map fields)
  obtain ⟨fromScheme, unchanged⟩ := colored theme made
  have agree : Agree (.map fields) (.map ((.text "author", .list []) :: fields)) :=
    .intro held held rfl fun _ _ => rfl
  exact ⟨fields, theme, read, outcome _ read, made, complete.mp ⟨theme, made⟩, fromScheme, agree,
    unchanged _ agree⟩

section Catalogs
variable {text : String}

theorem unusableText_iff :
    UnusableText text ↔ (∃ number, Yaml.read text = .error (.noCharacter number)) ∨
      (∃ fault, Yaml.read text = .error (.long fault)) ∨
      ∃ fields name, Yaml.read text = .ok (.map fields) ∧ Complete (.map fields) ∧
        given? "name" fields = some name ∧ name.isText = false := by
  constructor
  · intro unusable
    cases unusable with
    | noCharacter failed => exact .inl ⟨_, failed⟩
    | long failed => exact .inr (.inl ⟨_, failed⟩)
    | name parsed made noText =>
        obtain ⟨fields, entries, rfl, held, _, same⟩ := ofScheme_ok made
        refine .inr (.inr ⟨fields, _, parsed, complete_of_ofScheme made, ?_, noText⟩)
        have named := congrArg Theme.name same
        simp only [themeOf, givenOr] at named
        cases given : given? "name" fields with
        | none =>
            rw [named, given] at noText
            cases noText
        | some name => rw [named, given]; rfl
  · rintro (⟨number, failed⟩ | ⟨fault, failed⟩ | ⟨fields, name, parsed, complete, given, noText⟩)
    · exact .noCharacter failed
    · exact .long failed
    · obtain ⟨theme, made⟩ := exists_ofScheme_iff.mpr complete
      refine .name parsed made ?_
      obtain ⟨_, _, ⟨⟩, _, _, rfl⟩ := ofScheme_ok made
      simp only [themeOf, givenOr, given, Option.getD_some, noText]

end Catalogs

end ShellPrompt.Theme
