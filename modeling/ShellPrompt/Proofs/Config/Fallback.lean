import ShellPrompt.Proofs.Config.Interleaving
import ShellPrompt.Proofs.Config.Modules

/-!
Documents without a master format. Their modules are those of the format that names the known
sections one after the other, and reading either way gives the same warnings.
-/

namespace ShellPrompt.Config

/-- The master format that names the known sections of a document in their order. -/
def sectionFormat (data : Data) (registry : Registry) : String :=
  String.ofList ((data.keys.filter registry.contains).flatMap fun key => '$' :: key.toList)

theorem mem_names_of_contains {registry : Registry} {type : String}
    (contained : registry.contains type) : type ∈ registry.names :=
  OrderedMap.mem_keys_iff.mpr (Option.isSome_iff_exists.mp contained)

/-- Names with a dollar sign in front are told apart, also where one is the start of another. -/
theorem pieces_names {names : List String} (referenced : ∀ name ∈ names, IsReferenceName name) :
    pieces (names.flatMap fun name => '$' :: name.toList) =
      (names.map String.toList).map Piece.reference := by
  have written : (names.flatMap fun name => '$' :: name.toList) =
      ((names.map String.toList).map Piece.reference).flatMap Piece.closed := by
    rw [List.flatMap_map, List.flatMap_map]
    rfl
  have readable : Readable ((names.map String.toList).map Piece.reference) := by
    apply readable_of_forall
    intro piece member
    obtain ⟨name, inNames, rfl⟩ := List.mem_map.mp (List.map_map ▸ member)
    exact ⟨⟨(referenced name inNames).toList_ne_nil, (referenced name inNames).plain⟩, trivial⟩
  rw [written, pieces_closed readable, reread_references]

theorem gather_map {α β : Type} (change : α → β) (read : β → Report LongInteger (Option Module))
    (items : List α) :
    gather read (items.map change) = gather (fun item => read (change item)) items := by
  induction items with
  | nil => rfl
  | cons item items inductionHypothesis =>
      rw [List.map_cons, gather, gather, inductionHypothesis]

/-- The sections of a document give the modules, and the warnings, that a master format gives which
names the known ones in their order. -/
theorem modulesOfFormat_sectionFormat {registry : Registry}
    (names : ∀ name ∈ registry.names, IsReferenceName name) (data : Data) :
    modulesOfFormat (sectionFormat data registry) data registry =
      modulesOfSections data registry := by
  have referenced : ∀ key ∈ data.keys.filter registry.contains, IsReferenceName key :=
    fun key member => names key (mem_names_of_contains (List.mem_filter.mp member).2)
  rw [modulesOfFormat, sectionFormat, String.toList_ofList, pieces_names referenced, gather_map,
    gather_map, modulesOfSections]
  simp only [pieceModule, String.ofList_toList]

/-- A section that is no table, one that is not known, a line break, and a name that is the start of
another one. -/
theorem modulesOfFormat_sectionFormat_no_table :
    modulesOfFormat "$a$line_break$ab"
        (.ofList [("a", .table [("symbol", .list [])]), ("b", .null), ("line_break", .integer 1),
          ("ab", .flag true)])
        (.ofList [{ name := "ab" }, { name := "line_break" }, { name := "a" }]) =
      { warnings := [.unsupportedProperty "a" "symbol", .notATable "ab"],
        outcome := .ok [{ type := "a" }, { type := "line_break" }, { type := "ab" }] } := by
  have names : ∀ name ∈
      (Registry.ofList [{ name := "ab" }, { name := "line_break" }, { name := "a" }]).names,
      IsReferenceName name := by decide
  have same := modulesOfFormat_sectionFormat names
    (.ofList [("a", .table [("symbol", .list [])]), ("b", .null), ("line_break", .integer 1),
      ("ab", .flag true)])
  have format : sectionFormat
      (.ofList [("a", .table [("symbol", .list [])]), ("b", .null), ("line_break", .integer 1),
        ("ab", .flag true)])
      (.ofList [{ name := "ab" }, { name := "line_break" }, { name := "a" }]) =
        "$a$line_break$ab" := by
    decide
  rw [format] at same
  exact same

end ShellPrompt.Config
