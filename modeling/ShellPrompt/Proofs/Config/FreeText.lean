import Mathlib.Data.List.Flatten
import ShellPrompt.Proofs.Config.Interleaving
import ShellPrompt.Proofs.Config.Stability

/-!
Free text between the modules of a master format. Reading the format gives the modules and the texts
back exactly if no part of it runs into what stands behind it.
-/

namespace ShellPrompt.Config

open Template

/-- A text without references makes up free text once its end is closed. -/
theorem freeText_closeEscape {text : List Char} (none : names (scan text) = []) :
    FreeText (closeEscape text) := by
  fun_induction scan text with
  | case1 => exact .nil
  | case2 => exact .escape '\\' .nil
  | case3 c rest inductionHypothesis =>
      rw [closeEscape_escape]
      exact .escape c (inductionHypothesis none)
  | case4 rest nameless inductionHypothesis =>
      exact freeText_dollar (startsApart_of_takeWhile nameless) (inductionHypothesis none)
  | case5 rest named inductionHypothesis => cases none
  | case6 c rest noEnd noEscape noDollar inductionHypothesis =>
      have plain := ne_backslash noEnd noEscape
      rw [closeEscape_cons plain]
      exact .plain plain noDollar (inductionHypothesis none)

/-- Modules whose parts of a master format do not run into what stands behind them. -/
def KeptApart : List Module → Prop
  | [] => True
  | mod :: rest =>
      (isOpenEnded (formatPart mod) = true → StartsApart (rest.flatMap formatPart)) ∧
        KeptApart rest

/-- The free text of a module as a master format holds it. -/
def closedText (mod : Module) : List Char := closeEscape mod.freeText.toList

theorem formatPart_of_text {mod : Module} (text : mod.isText) :
    formatPart mod = closedText mod := by
  rw [← closed_pieceOf, pieceOf, if_pos text]
  rfl

theorem formatPart_of_not_text {mod : Module} (noText : ¬ mod.isText) :
    formatPart mod = '$' :: mod.type.toList := by
  rw [← closed_pieceOf, pieceOf, if_neg noText]
  rfl

theorem startsApart_formatParts {modules : List Module}
    (apart : ∀ mod ∈ modules, mod.isText → StartsApart mod.freeText.toList) :
    StartsApart (modules.flatMap formatPart) := by
  induction modules with
  | nil => exact startsApart_nil
  | cons mod rest inductionHypothesis =>
      have later := inductionHypothesis fun other member => apart other (.tail _ member)
      rw [List.flatMap_cons]
      by_cases text : mod.isText
      · have first := apart mod List.mem_cons_self text
        rw [formatPart_of_text text, closedText]
        cases content : mod.freeText.toList with
        | nil => exact later
        | cons c more =>
            obtain ⟨after, written⟩ := closeEscape_cons_head c more
            rw [written]
            rw [content] at first
            exact fun d same => first d same
      · rw [formatPart_of_not_text text]
        exact startsApart_dollar _

/-- Modules are kept apart if no text but that of the first one starts with a character of a
name. -/
theorem keptApart_of_startsApart {mod : Module} {rest : List Module}
    (apart : ∀ other ∈ rest, other.isText → StartsApart other.freeText.toList) :
    KeptApart (mod :: rest) := by
  induction rest generalizing mod with
  | nil => exact ⟨fun _ => startsApart_nil, trivial⟩
  | cons next rest inductionHypothesis =>
      exact ⟨fun _ => startsApart_formatParts apart,
        inductionHypothesis fun other member => apart other (.tail _ member)⟩

namespace Interleaving

theorem ofModules_of_text (content : Module → List Char) {mod : Module} (text : mod.isText)
    (rest : List Module) :
    ofModules content (mod :: rest) = (ofModules content rest).addText (content mod) :=
  if_pos text

theorem ofModules_of_not_text (content : Module → List Char) {mod : Module} (noText : ¬ mod.isText)
    (rest : List Module) :
    ofModules content (mod :: rest) = (ofModules content rest).addName mod.type :=
  if_neg noText

theorem written_ofModules (modules : List Module) :
    (ofModules closedText modules).written = modules.flatMap formatPart := by
  induction modules with
  | nil => rfl
  | cons mod rest inductionHypothesis =>
      rw [List.flatMap_cons]
      by_cases text : mod.isText
      · rw [ofModules_of_text closedText text, written_addText, inductionHypothesis,
          formatPart_of_text text]
      · rw [ofModules_of_not_text closedText text, written_addName, inductionHypothesis,
          formatPart_of_not_text text, List.cons_append]

/-- The tokens of a master format are the names and the texts it was made of exactly if no part of
it runs into the next one. -/
theorem ofTokens_formatParts_iff {modules : List Module}
    (named : ∀ mod ∈ modules, ¬ mod.isText → IsReferenceName mod.type)
    (free : ∀ mod ∈ modules, mod.isText → FreeText (closedText mod)) :
    ofTokens (scan (modules.flatMap formatPart)) = ofModules closedText modules ↔
      KeptApart modules := by
  induction modules with
  | nil =>
      rw [List.flatMap_nil, scan_nil]
      exact iff_of_true rfl trivial
  | cons mod rest inductionHypothesis =>
      have later := inductionHypothesis (fun other member => named other (.tail _ member))
        fun other member => free other (.tail _ member)
      rw [List.flatMap_cons, KeptApart, ← later]
      by_cases text : mod.isText
      · rw [ofModules_of_text closedText text, formatPart_of_text text]
        exact ofTokens_text_iff (free mod List.mem_cons_self text)
      · have referenced := named mod List.mem_cons_self text
        rw [ofModules_of_not_text closedText text, formatPart_of_not_text text, List.cons_append,
          isOpenEnded_reference referenced, ofTokens_reference_iff referenced]
        simp only [forall_const]

end Interleaving

section Reading
variable {data : Data} {registry : Registry}

/-- Whether a token of a format is read as something: a name only if there is such a module. -/
def understood (data : Data) (registry : Registry) : Token → Bool
  | .reference name => (named? data registry (String.ofList name)).isSome
  | _ => true

theorem isSome_named? {type : String}
    (known : type = Module.lineBreakType ∨ type ∈ registry.names) :
    (named? data registry type).isSome := by
  unfold named?
  split
  · rfl
  · rename_i noBreak
    obtain ⟨definition, held⟩ : ∃ definition, registry.get? type = some definition :=
      OrderedMap.mem_keys_iff.mp (known.resolve_left noBreak)
    rw [held]
    rfl

theorem not_isText_of_named (noText : Module.textType ∉ registry.names) {type : String}
    {mod : Module} (named : named? data registry type = some mod) :
    mod.type = type ∧ ¬ mod.isText := by
  obtain ⟨sameType, rfl | ⟨_, registered, _⟩⟩ := named?_eq_some named
  · exact ⟨sameType, Bool.false_ne_true⟩
  · refine ⟨sameType, fun text => noText ?_⟩
    have isText : mod.type = Module.textType := by simpa [Module.isText] using text
    rw [← isText, sameType]
    exact registered

/-- The modules that pieces of a format stand for. -/
def pieceModules (data : Data) (registry : Registry) (all : List Piece) : List Module :=
  all.filterMap (ofPiece? data registry)

theorem pieceModules_cons (piece : Piece) (all : List Piece) :
    pieceModules data registry (piece :: all) =
      (ofPiece? data registry piece).toList ++ pieceModules data registry all := by
  rw [pieceModules, List.filterMap_cons]
  cases ofPiece? data registry piece with
  | none => rfl
  | some mod => rfl

def plainText (mod : Module) : List Char := mod.freeText.toList

namespace Interleaving

theorem ofModules_literal (text : List Char) (all : List Piece) :
    ofModules plainText (pieceModules data registry (.literal text :: all)) =
      (ofModules plainText (pieceModules data registry all)).addText text := by
  have content : plainText (Module.ofText (String.ofList text)) = text := String.toList_ofList
  have made : ofPiece? data registry (.literal text) =
      some (Module.ofText (String.ofList text)) := rfl
  rw [pieceModules_cons, made, Option.toList_some, List.singleton_append,
    ofModules_of_text plainText rfl, content]

theorem ofModules_growText (text : List Char) (all : List Piece) :
    ofModules plainText (pieceModules data registry (growText text all)) =
      (ofModules plainText (pieceModules data registry all)).addText text := by
  unfold growText
  split
  · rw [ofModules_literal, ofModules_literal, addText_append]
  · rw [ofModules_literal]

theorem ofModules_reference (noText : Module.textType ∉ registry.names) (name : List Char)
    (all : List Piece) :
    ofModules plainText (pieceModules data registry (.reference name :: all)) =
      if understood data registry (.reference name) then
        (ofModules plainText (pieceModules data registry all)).addName (String.ofList name)
      else ofModules plainText (pieceModules data registry all) := by
  rw [pieceModules_cons, ofPiece?, understood]
  cases named : named? data registry (String.ofList name) with
  | none => rw [Option.isSome_none, if_neg Bool.false_ne_true, Option.toList_none, List.nil_append]
  | some mod =>
      obtain ⟨sameType, other⟩ := not_isText_of_named noText named
      rw [Option.toList_some, List.singleton_append, ofModules_of_not_text plainText other,
        sameType, Option.isSome_some, if_pos rfl]

/-- What the modules of a format hold is what the tokens of it do that are understood. -/
theorem ofModules_pieces (noText : Module.textType ∉ registry.names) (text : List Char) :
    ofModules plainText (pieceModules data registry (pieces text)) =
      ofTokens ((scan text).filter (understood data registry)) := by
  fun_induction pieces text with
  | case1 => rw [scan_nil]; rfl
  | case2 => rw [scan]; rfl
  | case3 c rest inductionHypothesis =>
      rw [ofModules_growText, inductionHypothesis, scan]
      rfl
  | case4 rest nameless inductionHypothesis =>
      rw [ofModules_growText, inductionHypothesis, scan, if_pos nameless]
      rfl
  | case5 rest named inductionHypothesis =>
      rw [scan, if_neg named, ofModules_reference noText]
      split
      · rename_i found
        rw [List.filter_cons_of_pos found, inductionHypothesis, ofTokens]
      · rename_i missing
        rw [List.filter_cons_of_neg missing, inductionHypothesis]
  | case6 c rest noEnd noEscape noDollar inductionHypothesis =>
      rw [ofModules_growText, inductionHypothesis,
        scan_plain (ne_backslash noEnd noEscape) noDollar]
      rfl

end Interleaving

/-- Tokens cannot be left out and be written as before. -/
theorem filter_eq_self_of_joined {keep : Token → Bool} {tokens : List Token}
    (same : Token.joined (tokens.filter keep) = Token.joined tokens) :
    tokens.filter keep = tokens := by
  induction tokens with
  | nil => rfl
  | cons token rest inductionHypothesis =>
      by_cases kept : keep token
      · rw [List.filter_cons_of_pos kept] at same ⊢
        exact congrArg (token :: ·) (inductionHypothesis (List.append_cancel_left same))
      · rw [List.filter_cons_of_neg kept] at same
        have fewer : (Token.joined (rest.filter keep)).length ≤ (Token.joined rest).length :=
          (List.filter_sublist.flatMap Token.text).length_le
        have longer := List.length_pos_iff.mpr token.text_ne_nil
        rw [same, Token.joined, List.flatMap_cons, List.length_append, ← Token.joined] at fewer
        omega

theorem isReferenceName_lineBreak : IsReferenceName Module.lineBreakType where
  filled := isModuleName_lineBreak.filled
  plain := isModuleName_lineBreak.plain

section Known
variable {modules : List Module} (known : ∀ mod ∈ modules, Known registry mod)
include known

theorem isReferenceName_of_known (names : ∀ name ∈ registry.names, IsReferenceName name) :
    ∀ mod ∈ modules, ¬ mod.isText → IsReferenceName mod.type := by
  intro mod member noText
  rcases known mod member with text | lineBreak | registered
  · exact absurd (by simpa [Module.isText] using text) noText
  · exact lineBreak ▸ isReferenceName_lineBreak
  · exact names mod.type registered

/-- Tokens that hold only what known modules do are all understood. -/
theorem filter_understood {tokens : List Token} (content : Module → List Char)
    (same : Interleaving.ofTokens tokens = Interleaving.ofModules content modules) :
    tokens.filter (understood data registry) = tokens := by
  rw [List.filter_eq_self]
  intro token member
  cases token with
  | escape c => rfl
  | plain c => rfl
  | reference name =>
      have inNames : String.ofList name ∈ (Interleaving.ofModules content modules).names := by
        rw [← same, Interleaving.names_ofTokens]
        exact List.mem_map_of_mem (List.mem_filterMap.mpr ⟨_, member, rfl⟩)
      rw [Interleaving.names_ofModules] at inNames
      obtain ⟨mod, inModules, sameType⟩ := List.mem_map.mp inNames
      obtain ⟨inModules, noText⟩ := List.mem_filter.mp inModules
      have other : mod.type ≠ Module.textType := by simpa [Module.isText] using noText
      rw [understood, ← sameType]
      exact isSome_named? ((known mod inModules).resolve_left other)

end Known

end Reading

/-- A master format can be read if the sections that it names can. Free text between modules then
changes nothing about how the modules are read, and is read as it is but for its closed end, exactly
if no part of the master format runs into what stands behind it. -/
theorem modulesOfFormat_masterFormat_iff (data : Data) {registry : Registry} {modules : List Module}
    (names : ∀ name ∈ registry.names, IsReferenceName name)
    (noText : Module.textType ∉ registry.names) (known : ∀ mod ∈ modules, Known registry mod)
    (free : ∀ mod ∈ modules, mod.isText → references mod.freeText = []) :
    ((∃ read, (modulesOfFormat (masterFormat modules) data registry).outcome = .ok read) ↔
      ReadableFormat data registry (masterFormat modules)) ∧
    ∀ read, (modulesOfFormat (masterFormat modules) data registry).outcome = .ok read →
      (Interleaving.ofModules plainText read = Interleaving.ofModules closedText modules ↔
        KeptApart modules) := by
  constructor
  · simp only [outcome_modulesOfFormat_eq_ok_iff, exists_and_left, exists_eq', and_true]
  intro read given
  obtain ⟨_, rfl⟩ := outcome_modulesOfFormat_eq_ok_iff.mp given
  have referenced := isReferenceName_of_known known names
  have texts : ∀ mod ∈ modules, mod.isText → FreeText (closedText mod) :=
    fun mod member text => freeText_closeEscape (List.map_eq_nil_iff.mp (free mod member text))
  have held : heldByFormat data registry (masterFormat modules) =
      pieceModules data registry (pieces (modules.flatMap formatPart)) := by
    rw [heldByFormat, masterFormat, String.toList_ofList, pieceModules]
  rw [held, Interleaving.ofModules_pieces noText,
    ← Interleaving.ofTokens_formatParts_iff referenced texts]
  constructor
  · intro same
    -- A token that is not understood would be missing when the rest is written again.
    have whole : Token.joined
        ((scan (modules.flatMap formatPart)).filter (understood data registry)) =
          Token.joined (scan (modules.flatMap formatPart)) := by
      rw [← Interleaving.written_ofTokens, same, Interleaving.written_ofModules, joined_scan]
    rw [← same, filter_eq_self_of_joined whole]
  · intro same
    rw [filter_understood known closedText same, same]

theorem modulesOfFormat_masterFormat_escape :
    let modules := [Module.ofText "it's \\", { type := "time" }, Module.ofText " $ $",
      Module.ofText "", Module.lineBreak]
    ∃ read, (modulesOfFormat (masterFormat modules) .empty (.ofList [{ name := "time" }])).outcome =
        .ok read ∧
      Interleaving.ofModules plainText read = Interleaving.ofModules closedText modules := by
  intro modules
  have names : ∀ name ∈ (Registry.ofList [{ name := "time" }]).names, IsReferenceName name := by
    decide
  have known : ∀ mod ∈ modules, Known (.ofList [{ name := "time" }]) mod := by
    unfold Known
    decide
  have free : ∀ mod ∈ modules, mod.isText → references mod.freeText = [] := by
    decide +kernel
  have noSection : ∀ type, ReadableName .empty (.ofList [{ name := "time" }]) type :=
    fun type _ _ => nofun
  have apart : KeptApart modules := by
    apply keptApart_of_startsApart
    decide +kernel
  obtain ⟨given, reads⟩ := modulesOfFormat_masterFormat_iff .empty names (by decide) known free
  obtain ⟨read, outcome⟩ := given.mpr fun type _ => noSection (String.ofList type)
  exact ⟨read, outcome, (reads read outcome).mpr apart⟩

/-- A name takes in the start of the text behind it, and no module goes by the longer name. -/
theorem modulesOfFormat_masterFormat_longer_name :
    references (Module.ofText "b").freeText = [] ∧
      ∃ read, (modulesOfFormat (masterFormat [{ type := "a" }, Module.ofText "b"]) .empty
          (.ofList [{ name := "a" }])).outcome = .ok read ∧
        read.map Module.type = [] ∧
        Interleaving.ofModules plainText read ≠
          Interleaving.ofModules closedText [{ type := "a" }, Module.ofText "b"] := by
  have checked : (modulesOfFormat (masterFormat [{ type := "a" }, Module.ofText "b"]) .empty
      (.ofList [{ name := "a" }])).outcome.toOption.any fun read =>
        read.map Module.type = [] ∧ Interleaving.ofModules plainText read ≠
          Interleaving.ofModules closedText [{ type := "a" }, Module.ofText "b"] := by
    decide +kernel
  obtain ⟨read, outcome, differs⟩ := exists_ok_of_any checked
  exact ⟨by decide +kernel, read, outcome, of_decide_eq_true differs⟩

end ShellPrompt.Config
