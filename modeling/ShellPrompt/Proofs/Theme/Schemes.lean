import ShellPrompt.Proofs.Json.Files
import ShellPrompt.Proofs.Theme.Files

/-!
The themes that a file of terminal colour schemes adds to the built-in ones. They go by the keys of
the file, and the themes under other names stay, unless a colour of one of its schemes is no text or
an integer in the file is too long to be read.
-/

namespace ShellPrompt.Theme.Catalog

/-- The built-in themes with those of the schemes in a document. -/
structure Extends (document : Value) (catalog : Catalog) : Prop where
  offered : ∀ name scheme, Offers document name scheme →
    ∃ theme, ofTerminalScheme name scheme = .ok theme ∧ catalog.get? name = some theme
  others : ∀ name, (∀ scheme, ¬ Offers document name scheme) →
    catalog.get? name = builtIn.get? name

section Schemes
variable {name : String} {entries : List (String × Value)}

/-- What the schemes of a list leave under a name that has a value in the list or none. -/
def Settled (catalog grown : Catalog) (name : String) : Option Value → Prop
  | some (.map scheme) =>
      ∃ theme, ofTerminalScheme name scheme = .ok theme ∧ grown.get? name = some theme
  | _ => grown.get? name = catalog.get? name

theorem settled_iff {catalog grown : Catalog} {value? : Option Value}
    (noScheme : ∀ scheme, value? ≠ some (.map scheme)) :
    Settled catalog grown name value? ↔ grown.get? name = catalog.get? name := by
  rw [Settled]
  exact noScheme

theorem Settled.of_put {catalog grown : Catalog} {key : String} {theme : Theme}
    {value? : Option Value} (settled : Settled (catalog.put key theme) grown name value?)
    (differs : key ≠ name) : Settled catalog grown name value? := by
  by_cases isScheme : ∃ scheme, value? = some (.map scheme)
  · obtain ⟨scheme, rfl⟩ := isScheme
    exact settled
  · have noScheme := not_exists.mp isScheme
    refine (settled_iff noScheme).mpr (((settled_iff noScheme).mp settled).trans ?_)
    exact (get?_put ..).trans (if_neg differs)

theorem settled_withSchemes {catalog grown : Catalog} (name : String)
    (distinct : (entries.map Prod.fst).Nodup)
    (done : catalog.withSchemes (entries.map fun entry => (.text entry.1, entry.2)) = .ok grown) :
    Settled catalog grown name (OrderedMap.find name entries) := by
  induction entries generalizing catalog with
  | nil =>
      cases done
      rfl
  | cons entry entries inductionHypothesis =>
      obtain ⟨key, value⟩ := entry
      obtain ⟨fresh, laterDistinct⟩ := List.nodup_cons.mp distinct
      have absent : OrderedMap.find key entries = none := OrderedMap.find_eq_none_iff.mpr fresh
      rw [List.map_cons] at done
      by_cases isScheme : ∃ scheme, value = .map scheme
      · obtain ⟨scheme, rfl⟩ := isScheme
        obtain ⟨theme, made, done⟩ := bind_eq_ok_iff.mp done
        have later := inductionHypothesis laterDistinct done
        by_cases same : key = name
        · subst same
          -- No later entry changes the theme that has just been put under the key.
          rw [absent] at later
          rw [OrderedMap.find, if_pos rfl]
          exact ⟨theme, made, later.trans ((get?_put ..).trans (if_pos rfl))⟩
        · rw [OrderedMap.find, if_neg same]
          exact later.of_put same
      · have noScheme := not_exists.mp isScheme
        rw [withSchemes] at done
        · have later := inductionHypothesis laterDistinct done
          by_cases same : key = name
          · subst same
            rw [absent] at later
            rw [OrderedMap.find, if_pos rfl]
            exact (settled_iff fun scheme taken =>
              noScheme scheme (Option.some.inj taken)).mpr later
          · rw [OrderedMap.find, if_neg same]
            exact later
        · exact fun _ scheme taken => noScheme scheme (congrArg Prod.snd taken)

end Schemes

section Files
variable {host : Host} {path : Path} {document : Value}

theorem outcome_load_of_map {schemes : List (Value × Value)}
    (held : Json.HeldAt host path (.map schemes)) :
    (load host (some path)).outcome = (builtIn.withSchemes schemes).mapError .color := by
  obtain ⟨text, read, parsed⟩ := Json.heldAt_iff.mp held
  simp only [load, ofFile, read, parsed]
  rfl

theorem outcome_load_of_noMap (held : Json.HeldAt host path document)
    (noMap : ∀ schemes, document ≠ .map schemes) :
    (load host (some path)).outcome = .ok builtIn := by
  obtain ⟨text, read, parsed⟩ := Json.heldAt_iff.mp held
  simp only [load, ofFile, read, parsed]
  cases document with
  | map schemes => exact absurd rfl (noMap schemes)
  | _ => rfl

theorem extends_of_heldAt {catalog : Catalog} (held : Json.HeldAt host path document)
    (loaded : (load host (some path)).outcome = .ok catalog) : Extends document catalog := by
  by_cases isMap : ∃ entries, document = .map entries
  · obtain ⟨_, rfl⟩ := isMap
    obtain ⟨fields, same⟩ := held.exists_table
    rw [outcome_load_of_map held] at loaded
    have done := mapError_eq_ok_iff.mp loaded
    obtain rfl := Value.map.inj same
    constructor
    · intro name scheme offered
      have settled := settled_withSchemes name fields.distinct done
      rw [offers_table_iff.mp offered] at settled
      exact settled
    · intro name noScheme
      have settled := settled_withSchemes name fields.distinct done
      exact (settled_iff fun scheme taken =>
        noScheme scheme (offers_table_iff.mpr taken)).mp settled
  · have noOffer : ∀ name scheme, ¬ Offers document name scheme :=
      fun name scheme ⟨entries, same, _⟩ => isMap ⟨entries, same⟩
    rw [outcome_load_of_noMap held (not_exists.mp isMap)] at loaded
    cases loaded
    exact ⟨fun name scheme offered => absurd offered (noOffer name scheme), fun _ _ => rfl⟩

/-- A readable document leaves no catalog exactly if a scheme has something set that is no text
where the colour of a slot belongs. -/
theorem exists_error_load_of_heldAt (held : Json.HeldAt host path document) :
    (∃ fault, (load host (some path)).outcome = .error fault) ↔
      ∃ name scheme slot, Offers document name scheme ∧ MisplacedColor scheme slot := by
  by_cases isMap : ∃ entries, document = .map entries
  · obtain ⟨_, rfl⟩ := isMap
    obtain ⟨fields, same⟩ := held.exists_table
    rw [outcome_load_of_map held, exists_error_mapError_iff,
      exists_error_withSchemes_table_iff same]
  · rw [outcome_load_of_noMap held (not_exists.mp isMap)]
    refine iff_of_false nofun ?_
    rintro ⟨name, scheme, _, ⟨entries, same, _⟩, _⟩
    exact isMap ⟨entries, same⟩

theorem outcome_load_of_longAt (long : Json.LongAt host path) :
    (load host (some path)).outcome = .error (.long {}) := by
  obtain ⟨text, fault, read, stopped⟩ := Json.longAt_iff.mp long
  simp only [load, ofFile, read, stopped]
  rfl

theorem load_of_noDocument {catalog : Catalog}
    (noDocument : ∀ document, ¬ Json.HeldAt host path document)
    (loaded : (load host (some path)).outcome = .ok catalog) : catalog = builtIn := by
  rw [load, ofFile] at loaded
  split at loaded
  · split at loaded
    · cases loaded
      rfl
    · cases loaded
  · cases loaded
  · rename_i text read
    split at loaded
    · cases loaded
      rfl
    · cases loaded
    all_goals
      rename_i parsed
      exact absurd (Json.heldAt_iff.mpr ⟨text, read, parsed⟩) (noDocument _)

/-- With a JSON document as its themes file, a catalog has the theme of each scheme in the document
under the name of the scheme, and the built-in themes under all other names. There is no catalog
exactly if a scheme has something set that is no text where the colour of a slot belongs, or if the
document comes to an integer that is too long to be read. Without a document there are just the
built-in themes. -/
theorem load_themesFile (host : Host) (path : Path) :
    (∀ document, Json.HeldAt host path document →
      ((∃ fault, (load host (some path)).outcome = .error fault) ↔
        ∃ name scheme slot, Offers document name scheme ∧ MisplacedColor scheme slot) ∧
      ∀ catalog, (load host (some path)).outcome = .ok catalog → Extends document catalog) ∧
    (Json.LongAt host path → (load host (some path)).outcome = .error (.long {})) ∧
    ∀ catalog, (load host (some path)).outcome = .ok catalog →
      (∀ document, ¬ Json.HeldAt host path document) → catalog = builtIn :=
  ⟨fun _ held => ⟨exists_error_load_of_heldAt held, fun _ => extends_of_heldAt held⟩,
    outcome_load_of_longAt, fun _ loaded noDocument => load_of_noDocument noDocument loaded⟩

/-- A number for a colour leaves no catalog, not even one of the built-in themes. -/
theorem not_exists_load_numberColor :
    let content := "\x7b\"Default\": \x7b\"background\": 5\x7d\x7d".toUTF8
    let host : Host := { files := ⟨.ofList [(["t.json"], .file content)]⟩ }
    let path := Path.ofText "t.json"
    (∃ document, Json.HeldAt host path document) ∧
      ¬ ∃ catalog, (load host (some path)).outcome = .ok catalog := by
  intro content host path
  refine ⟨Json.exists_heldAt (by decide +kernel), ?_⟩
  have failed : (load host (some path)).outcome.toOption.isNone := by decide +kernel
  rintro ⟨catalog, loaded⟩
  rw [loaded] at failed
  cases failed

end Files

end ShellPrompt.Theme.Catalog
