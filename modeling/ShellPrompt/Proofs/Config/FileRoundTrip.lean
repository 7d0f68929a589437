import Mathlib.Data.List.Forall2
import ShellPrompt.Proofs.Config.JoinedFormat
import ShellPrompt.Proofs.Config.LineEnds
import ShellPrompt.Proofs.Config.Settings
import ShellPrompt.Proofs.Config.Storage

/-!
A configuration that is saved and loaded again. Reading a file unifies its line ends, so a master
format or a right one with a carriage return in front of a line feed is loaded without that carriage
return; all else is loaded as it is read from the generated text.
-/

namespace ShellPrompt.Config

open Text

/-- A module and what is loaded in its place: a free text may have other line ends. -/
inductive JoinedModule : Module → Module → Prop
  | same (mod : Module) : JoinedModule mod mod
  | ofText (text : String) : JoinedModule (Module.ofText text) (Module.ofText (joinText text))

/-- What is read from a generated text, and what is loaded from a file with that text. -/
inductive LoadedAs {ε : Type} : Except ε Parsed → Except ε Parsed → Prop
  | error (fault : ε) : LoadedAs (.error fault) (.error fault)
  | ok {parsed loaded : Parsed}
      (modules : List.Forall₂ JoinedModule parsed.modules loaded.modules)
      (settings : loaded.settings =
        { parsed.settings with rightFormat := parsed.settings.rightFormat.map joinText }) :
      LoadedAs (.ok parsed) (.ok loaded)

/-- What is read from a document and from the one in its place. -/
def JoinedParsed (parsed loaded : Parsed) : Prop :=
  List.Forall₂ JoinedModule parsed.modules loaded.modules ∧
    loaded.settings =
      { parsed.settings with rightFormat := parsed.settings.rightFormat.map joinText }

section Data
variable {data joined : Data} (given : GivenBack data joined)
include given

theorem sectionOf_joined (type : String) : sectionOf joined type = sectionOf data type := by
  rw [sectionOf, sectionOf, given type]
  cases data.get? type with
  | none => rfl
  | some value => cases value <;> rfl

theorem named?_joined (registry : Registry) (type : String) :
    named? joined registry type = named? data registry type := by
  have entries : entriesUnder joined type = entriesUnder data type := by
    rw [entriesUnder, entriesUnder, given type]
    cases data.get? type with
    | none => rfl
    | some value => cases value <;> rfl
  have same : described joined type = described data type := by
    funext definition
    rw [described, described, entries]
  rw [named?, named?, same]

theorem namedModule_joined (registry : Registry) (type : String) :
    namedModule joined registry type = namedModule data registry type := by
  simp only [namedModule, readModule, sectionOf_joined given]

/-- A piece names the same module in what is loaded, or is a text with other line ends. -/
theorem pieceModule_joined (registry : Registry) (piece : Piece) :
    Report.Alike (fun first second => List.Forall₂ JoinedModule first.toList second.toList)
      (pieceModule data registry piece) (pieceModule joined registry piece.joined) := by
  cases piece with
  | literal text =>
      have module := JoinedModule.ofText (String.ofList text)
      rw [joinText, String.toList_ofList] at module
      exact .value [] (.cons module .nil)
  | reference type =>
      rw [Piece.joined, pieceModule, pieceModule, namedModule_joined given]
      apply Report.Alike.refl
      exact fun _ => List.forall₂_same.mpr fun mod _ => .same mod

theorem gather_joined (registry : Registry) (all : List Piece) :
    Report.Alike (List.Forall₂ JoinedModule) (gather (pieceModule data registry) all)
      (gather (pieceModule joined registry) (all.map Piece.joined)) := by
  induction all with
  | nil => exact .value [] .nil
  | cons piece rest inductionHypothesis =>
      refine (pieceModule_joined given registry piece).bind fun first other firstAlike => ?_
      refine inductionHypothesis.bind fun modules others laterAlike => ?_
      exact .value [] (List.rel_append firstAlike laterAlike)

/-- If the same modules are loaded, no piece has other line ends. -/
theorem map_joined_of_held {registry : Registry} {all : List Piece}
    (same : (all.map Piece.joined).filterMap (ofPiece? joined registry) =
      all.filterMap (ofPiece? data registry)) : all.map Piece.joined = all := by
  induction all with
  | nil => rfl
  | cons piece rest inductionHypothesis =>
      rw [List.map_cons] at same ⊢
      cases piece with
      | literal text =>
          obtain ⟨first, later⟩ := List.cons.inj same
          have texts : String.ofList (joinBreaks text) = String.ofList text :=
            congrArg Module.freeText first
          rw [Piece.joined, String.ofList_injective texts, inductionHypothesis later]
      | reference type =>
          have sameName : ofPiece? joined registry (.reference type) =
              ofPiece? data registry (.reference type) :=
            named?_joined given registry (String.ofList type)
          rw [Piece.joined, List.filterMap_cons, List.filterMap_cons, sameName] at same
          rw [Piece.joined, inductionHypothesis]
          cases made : ofPiece? data registry (.reference type) with
          | none => simpa [made] using same
          | some mod => simpa [made] using same

theorem get?_joined {key : String} (other : key ≠ "format" ∧ key ≠ "right_format") :
    joined.get? key = data.get? key := by
  have same : joinFormat key = id := funext fun text => by
    rw [joinFormat, if_neg (by simp [other]), id]
  rw [given key, same]
  cases data.get? key with
  | none => rfl
  | some value => cases value <;> rfl

theorem readSettings_joined : readSettings joined =
    { readSettings data with rightFormat := (readSettings data).rightFormat.map joinText } := by
  have right : (joined.get? "right_format").bind Value.asText? =
      ((data.get? "right_format").bind Value.asText?).map joinText := by
    rw [given]
    cases data.get? "right_format" with
    | none => rfl
    | some value => cases value <;> rfl
  simp only [readSettings, right, get?_joined given, ne_eq, String.reduceEq, not_false_eq_true,
    and_self]

theorem modulesOf_joined {format : String} (held : data.get? "format" = some (.text format))
    (registry : Registry) :
    Report.Alike (List.Forall₂ JoinedModule) (modulesOf data registry)
      (modulesOf joined registry) := by
  have joinedFormat : joined.get? "format" = some (.text (joinText format)) := by
    rw [given, held]
    rfl
  have second : modulesOf joined registry =
      gather (pieceModule joined registry) ((pieces format.toList).map Piece.joined) := by
    rw [modulesOf, joinedFormat, ← pieces_joinBreaks]
    change modulesOfFormat (joinText format) joined registry = _
    rw [modulesOfFormat, joinText, String.toList_ofList]
  have first : modulesOf data registry =
      gather (pieceModule data registry) (pieces format.toList) := by
    rw [modulesOf, held]
    rfl
  rw [first, second]
  exact gather_joined given registry _

theorem not_hasPair_of_heldModules {format : String}
    (held : data.get? "format" = some (.text format)) {registry : Registry}
    (same : heldModules joined registry = heldModules data registry) :
    ¬ HasPair format.toList := by
  have joinedFormat : joined.get? "format" = some (.text (joinText format)) := by
    rw [given, held]
    rfl
  have first : heldModules data registry = heldByFormat data registry format := by
    rw [heldModules, held]
    rfl
  have second : heldModules joined registry = heldByFormat joined registry (joinText format) := by
    rw [heldModules, joinedFormat]
    rfl
  rw [first, second, heldByFormat, heldByFormat, joinText, String.toList_ofList,
    pieces_joinBreaks] at same
  have unchanged := map_joined_of_held given same
  rw [← pieces_joinBreaks] at unchanged
  rw [← joinBreaks_eq_self_iff, ← written_pieces (joinBreaks _), unchanged, written_pieces]

theorem hasPalettes_joined : hasPalettes joined = hasPalettes data := by
  simp only [hasPalettes, get?_joined given, ne_eq, String.reduceEq, not_false_eq_true, and_self]

theorem ofData_joined {format : String} (held : data.get? "format" = some (.text format))
    (registry : Registry) :
    Report.Alike JoinedParsed (ofData data registry) (ofData joined registry) := by
  unfold ofData
  refine (modulesOf_joined given held registry).bind fun modules others alike => ?_
  rw [hasPalettes_joined given]
  split
  · exact .value [] ⟨alike, readSettings_joined given⟩
  · exact .fault [] (LongInteger.mk)

end Data

section Texts
variable {modules : List Module} {settings : Settings} {text : String}
  (done : (generate modules settings).outcome = .ok text)
include done

theorem unifyNewlines_generate (noPair : ¬ PairInFormats modules settings) :
    String.ofList (unifyNewlines text.toList) = text := by
  rw [unifyNewlines_eq_self ((onlyBreaks_generate done).return_notMem noPair), String.ofList_toList]

/-- A right format that is loaded as it was has no other line ends. -/
theorem not_hasPair_of_rightFormat {data : Data} (read : Toml.read text = some data)
    (same : (readSettings data).rightFormat.map joinText = (readSettings data).rightFormat)
    {shown : String} (given : settings.rightFormat = some shown) : ¬ HasPair shown.toList := by
  by_cases empty : shown = ""
  · subst empty
    rintro ⟨before, after, impossible⟩
    simp at impossible
  · have held := get?_of_mem_topLines done read (mem_topLines_rightFormat given empty)
    have setting : (readSettings data).rightFormat = some shown := by
      rw [readSettings, held]
      rfl
    rw [setting] at same
    exact joinText_eq_self_iff.mp (Option.some.inj same)

/-- What is read from a generated text with unified line ends. -/
theorem alike_parse (registry : Registry) : Report.Alike JoinedParsed (parse text registry)
    (parse (String.ofList (unifyNewlines text.toList)) registry) := by
  have related := read_unifyNewlines_generate done
  unfold parse
  generalize read : Toml.read text = before at related
  generalize Toml.read (String.ofList (unifyNewlines text.toList)) = after at related
  cases related with
  | none => exact .fault [] (ParseFault.invalid {})
  | some given =>
      have held := get?_of_mem_topLines done read mem_topLines_format
      exact (ofData_joined given held registry).mapFault ParseFault.long

theorem not_pairInFormats_of_parse {registry : Registry} {parsed : Parsed}
    (plain : (parse text registry).outcome = .ok parsed)
    (unified : (parse (String.ofList (unifyNewlines text.toList)) registry).outcome = .ok parsed) :
    ¬ PairInFormats modules settings := by
  obtain ⟨data, read, _, _, rfl⟩ := parse_eq_ok_iff.mp plain
  obtain ⟨joined, reread, _, _, same⟩ := parse_eq_ok_iff.mp unified
  obtain ⟨sameModules, sameSettings⟩ := Parsed.mk.inj same
  have related := read_unifyNewlines_generate done
  rw [read, reread] at related
  cases related with
  | some given =>
      rintro (pair | ⟨shown, right, pair⟩)
      · have held := get?_of_mem_topLines done read mem_topLines_format
        exact not_hasPair_of_heldModules given held sameModules pair
      · rw [readSettings_joined given] at sameSettings
        have kept := congrArg Settings.rightFormat sameSettings
        exact not_hasPair_of_rightFormat done read kept right pair

theorem parse_unifyNewlines_eq_iff (registry : Registry) :
    parse (String.ofList (unifyNewlines text.toList)) registry = parse text registry ↔
      (∃ fault, (parse text registry).outcome = .error fault) ∨
        ¬ PairInFormats modules settings := by
  constructor
  · intro same
    cases outcome : (parse text registry).outcome with
    | error fault => exact .inl ⟨fault, rfl⟩
    | ok parsed =>
        have unified := (congrArg Report.outcome same).trans outcome
        exact .inr (not_pairInFormats_of_parse done outcome unified)
  · rintro (⟨fault, failed⟩ | noPair)
    · exact ((alike_parse done registry).eq_of_error failed).symm
    · rw [unifyNewlines_generate done noPair]

end Texts

section Saved
variable {host : Host} {path : Path} {modules : List Module} {settings : Settings} {text : String}

theorem readText_save (writable : ¬ Unwritable host path)
    (generated : (generate modules settings).outcome = .ok text) :
    ({ host with files := (save host path modules settings).1 } : Host).readText path =
      .ok (String.ofList (unifyNewlines text.toList)) := by
  obtain ⟨other, same, writes⟩ := files_save_of_ok (outcome_save_of_generate writable generated)
  cases generated.symm.trans same
  have decoded : String.fromUTF8? text.toUTF8 = some text := dif_pos text.isValidUTF8
  exact Host.readText_eq_ok_iff.mpr ⟨_, _, writes.read, decoded, rfl⟩

theorem loadedAs_of_alike {ε : Type} {first second : Report ε Parsed}
    (alike : Report.Alike JoinedParsed first second) : LoadedAs first.outcome second.outcome := by
  cases alike with
  | fault _ fault => exact .error fault
  | value _ holds => exact .ok holds.1 holds.2

theorem mapFault_parse_inj {first second : Report ParseFault Parsed} :
    first.mapFault LoadFault.parse = second.mapFault LoadFault.parse ↔ first = second := by
  refine ⟨fun same => ?_, fun same => by rw [same]⟩
  rcases first with ⟨firstWarnings, fault | parsed⟩ <;>
    rcases second with ⟨secondWarnings, other | other⟩ <;>
    simp_all [Report.mapFault]

/-- A configuration that is saved where a file can be written is loaded as its text is read, with
the same warnings, but for carriage returns in front of line feeds in its formats. Where its text
can be read at all, the two are the same exactly if there are none of these. -/
theorem load_save (writable : ¬ Unwritable host path)
    (generated : (generate modules settings).outcome = .ok text) (registry : Registry) :
    let saved := save host path modules settings
    let loaded := load { host with files := saved.1 } path registry
    let parsed := (parse text registry).mapFault LoadFault.parse
    saved.2.outcome = .ok () ∧ loaded.warnings = parsed.warnings ∧
      LoadedAs parsed.outcome loaded.outcome ∧
      (loaded = parsed ↔
        (∃ fault, parsed.outcome = .error fault) ∨ ¬ PairInFormats modules settings) := by
  intro saved loaded parsed
  have done : loaded =
      (parse (String.ofList (unifyNewlines text.toList)) registry).mapFault .parse := by
    simp only [loaded, saved, load, readText_save writable generated]
  have alike : Report.Alike JoinedParsed parsed loaded := by
    rw [done]
    exact (alike_parse generated registry).mapFault LoadFault.parse
  refine ⟨outcome_save_of_generate writable generated, alike.warnings.symm,
    loadedAs_of_alike alike, ?_⟩
  rw [done, mapFault_parse_inj, parse_unifyNewlines_eq_iff generated]
  simp only [parsed, Report.mapFault, exists_error_mapError_iff]

/-- Nothing stands in the way of a file in the working directory of an empty machine. -/
theorem writable_empty : ¬ Unwritable {} (.ofText "s.toml") := by
  have around : Files.makeDirectories {} [] (Path.ofText "s.toml").parent = ({}, .ok ()) := by
    rw [Files.makeDirectories]
    rfl
  exact not_unwritable_of_write around rfl

/-- Both formats have such a carriage return: the right one, and a text among the modules. -/
theorem load_save_pair :
    let modules := [{ type := "time" }, Module.ofText "x\r\ny"]
    let settings : Settings := { rightFormat := some "a\r\nb" }
    let saved := save {} (.ofText "s.toml") modules settings
    ¬ Unwritable {} (.ofText "s.toml") ∧ ∃ text, (generate modules settings).outcome = .ok text ∧
      let loaded := load { files := saved.1 } (.ofText "s.toml") .empty
      let parsed := (parse text .empty).mapFault LoadFault.parse
      saved.2.outcome = .ok () ∧ loaded.warnings = parsed.warnings ∧
        LoadedAs parsed.outcome loaded.outcome ∧
        (loaded = parsed ↔
          (∃ fault, parsed.outcome = .error fault) ∨ ¬ PairInFormats modules settings) := by
  intro modules settings saved
  have supported : ∀ mod ∈ modules,
      Supported mod.properties.entries ∧ Writable mod.properties.entries := by
    unfold Supported Writable
    decide
  obtain ⟨text, generated⟩ := generate_of_supported settings (by decide)
    (fun mod member => (supported mod member).1) fun mod member => (supported mod member).2
  exact ⟨writable_empty, text, generated, load_save writable_empty generated .empty⟩

/-- The right format is loaded without its carriage return, which the generated text has. -/
theorem load_save_ne_parse :
    let settings : Settings := { rightFormat := some "a\r\nb" }
    let saved := save {} (.ofText "s.toml") [] settings
    saved.2.outcome = .ok () ∧ ∃ text loaded parsed,
      (generate [] settings).outcome = .ok text ∧
      (load { files := saved.1 } (.ofText "s.toml") .empty).outcome = .ok loaded ∧
      (parse text .empty).outcome = .ok parsed ∧
      loaded.settings.rightFormat = some "a\nb" ∧
      parsed.settings.rightFormat = some "a\r\nb" := by
  intro settings saved
  have generates : (generate [] settings).outcome.toOption.any fun text =>
      (parse text .empty).outcome.toOption.any fun parsed =>
        parsed.settings.rightFormat = some "a\r\nb" := by
    decide +kernel
  obtain ⟨text, generated, reads⟩ := exists_ok_of_any generates
  obtain ⟨parsed, read, kept⟩ := exists_ok_of_any reads
  have kept := of_decide_eq_true kept
  have related := loadedAs_of_alike (alike_parse generated .empty)
  rw [read] at related
  generalize reread : (parse (String.ofList _) .empty).outcome = outcome at related
  cases related with
  | @ok _ loaded modules changed =>
      refine ⟨outcome_save_of_generate writable_empty generated, text, loaded, parsed, generated,
        ?_, read, ?_, kept⟩
      · exact load_eq_ok_iff.mpr ⟨_, readText_save writable_empty generated, reread⟩
      · rw [changed, kept]
        rfl

end Saved

end ShellPrompt.Config
