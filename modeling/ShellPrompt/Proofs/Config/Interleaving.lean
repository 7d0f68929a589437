import ShellPrompt.Proofs.Config.Format

/-!
Names with the text around them: what a list of modules, a master format and the tokens of it have
in common. A name or some free text is read from a format as it was written exactly if it is closed,
or no character of a name stands right behind it; otherwise the name grows, or the text becomes one.
-/

namespace ShellPrompt.Config

open Template

/-- Names, the text in front of the first of them, and the text behind each of them. -/
structure Interleaving where
  front : List Char := []
  parts : List (String × List Char) := []
  deriving DecidableEq

namespace Interleaving

def addText (text : List Char) (rest : Interleaving) : Interleaving :=
  { rest with front := text ++ rest.front }

def addName (name : String) (rest : Interleaving) : Interleaving :=
  ⟨[], (name, rest.front) :: rest.parts⟩

def names (all : Interleaving) : List String := all.parts.map Prod.fst

/-- The texts and the names in their order, each name with a dollar sign. -/
def written (all : Interleaving) : List Char :=
  all.front ++ all.parts.flatMap fun part => '$' :: (part.1.toList ++ part.2)

/-- The types of modules with the free text around them, as `content` gives it. -/
def ofModules (content : Module → List Char) : List Module → Interleaving
  | [] => {}
  | mod :: rest =>
      if mod.isText then (ofModules content rest).addText (content mod)
      else (ofModules content rest).addName mod.type

/-- The names that tokens refer to, with the text around them. -/
def ofTokens : List Token → Interleaving
  | [] => {}
  | .reference name :: rest => (ofTokens rest).addName (String.ofList name)
  | token :: rest => (ofTokens rest).addText token.text

theorem addText_inj {text : List Char} {first second : Interleaving} :
    first.addText text = second.addText text ↔ first = second := by
  constructor
  · intro same
    cases first
    cases second
    simpa [addText] using same
  · exact congrArg _

theorem addName_inj {first second : String} {before after : Interleaving} :
    before.addName first = after.addName second ↔ first = second ∧ before = after := by
  constructor
  · intro same
    cases before
    cases after
    simpa [addName, and_assoc] using same
  · rintro ⟨rfl, rfl⟩
    rfl

theorem addText_append (first second : List Char) (all : Interleaving) :
    all.addText (first ++ second) = (all.addText second).addText first := by
  simp [addText]

theorem written_addText (text : List Char) (all : Interleaving) :
    (all.addText text).written = text ++ all.written := by
  simp [written, addText]

theorem written_addName (name : String) (all : Interleaving) :
    (all.addName name).written = '$' :: (name.toList ++ all.written) := by
  simp [written, addName]

theorem ofTokens_cons {token : Token} (noName : token.name? = none) (rest : List Token) :
    ofTokens (token :: rest) = (ofTokens rest).addText token.text := by
  cases token with
  | reference name => cases noName
  | escape c => rfl
  | plain c => rfl

/-- Nothing of the tokens is lost. -/
theorem written_ofTokens (tokens : List Token) :
    (ofTokens tokens).written = Token.joined tokens := by
  induction tokens with
  | nil => rfl
  | cons token rest inductionHypothesis =>
      cases named : token.name? with
      | none =>
          rw [ofTokens_cons named, written_addText, inductionHypothesis]
          rfl
      | some name =>
          cases token with
          | reference name =>
              rw [ofTokens, written_addName, inductionHypothesis, String.toList_ofList]
              rfl
          | escape c => cases named
          | plain c => cases named

theorem names_ofTokens (tokens : List Token) :
    (ofTokens tokens).names = (Template.names tokens).map String.ofList := by
  induction tokens with
  | nil => rfl
  | cons token rest inductionHypothesis =>
      cases token with
      | reference name => exact congrArg (String.ofList name :: ·) inductionHypothesis
      | escape c => exact inductionHypothesis
      | plain c => exact inductionHypothesis

theorem names_ofModules (content : Module → List Char) (modules : List Module) :
    (ofModules content modules).names =
      (modules.filter fun mod => !mod.isText).map Module.type := by
  induction modules with
  | nil => rfl
  | cons mod rest inductionHypothesis =>
      by_cases text : mod.isText
      · rw [ofModules, if_pos text, List.filter_cons_of_neg (by simp [text])]
        exact inductionHypothesis
      · rw [ofModules, if_neg text, List.filter_cons_of_pos (by simp [text]), List.map_cons]
        exact congrArg (mod.type :: ·) inductionHypothesis

end Interleaving

/-- A name that a master format can refer to. -/
structure IsReferenceName (name : String) : Prop where
  filled : name ≠ ""
  plain : ∀ c ∈ name.toList, isNameChar c = true

instance (name : String) : Decidable (IsReferenceName name) :=
  decidable_of_iff (name ≠ "" ∧ name.toList.all isNameChar = true)
    ⟨fun ⟨filled, plain⟩ => ⟨filled, List.all_eq_true.mp plain⟩,
      fun ⟨filled, plain⟩ => ⟨filled, List.all_eq_true.mpr plain⟩⟩

theorem IsReferenceName.toList_ne_nil {name : String} (referenced : IsReferenceName name) :
    name.toList ≠ [] :=
  fun empty => referenced.filled (String.toList_eq_nil_iff.mp empty)

section Ends

/-- Whether characters behind a token may become part of it: a name may grow, and a dollar sign may
get one. -/
def isOpen : Token → Bool
  | .reference _ => true
  | .plain c => c == '$'
  | .escape _ => false

/-- Whether characters behind a text may become part of its last token. -/
def isOpenEnded (text : List Char) : Bool := (scan text).getLast?.any isOpen

theorem isOpenEnded_nil : isOpenEnded [] = false := by
  rw [isOpenEnded, scan_nil]
  rfl

/-- The first token does not matter for the end, unless it is an open one and the last. -/
theorem isOpenEnded_cons {token : Token} {text rest : List Char}
    (read : scan text = token :: scan rest) (shut : isOpen token = false ∨ rest ≠ []) :
    isOpenEnded text = isOpenEnded rest := by
  rw [isOpenEnded, isOpenEnded, read, List.getLast?_cons]
  cases last : (scan rest).getLast? with
  | some token => rfl
  | none =>
      have empty : rest = [] := scan_eq_nil (List.getLast?_eq_none_iff.mp last)
      exact shut.resolve_right fun filled => filled empty

theorem isOpenEnded_reference {name : String} (referenced : IsReferenceName name) :
    isOpenEnded ('$' :: name.toList) = true := by
  have read := scan_reference referenced.toList_ne_nil referenced.plain startsApart_nil
  rw [List.append_nil, scan_nil] at read
  rw [isOpenEnded, read]
  rfl

end Ends

namespace Interleaving

/-- A reference is read as it is exactly if no character behind it belongs to a name. -/
theorem ofTokens_reference_iff {name : String} (referenced : IsReferenceName name)
    {rest : List Char} {all : Interleaving} :
    ofTokens (scan ('$' :: (name.toList ++ rest))) = all.addName name ↔
      StartsApart rest ∧ ofTokens (scan rest) = all := by
  rw [scan_reference_append referenced.toList_ne_nil referenced.plain, ofTokens, addName_inj,
    ← String.toList_inj, String.toList_ofList, List.append_right_eq_self]
  constructor
  · rintro ⟨none, same⟩
    have apart := startsApart_of_takeWhile none
    rw [apart.dropWhile] at same
    exact ⟨apart, same⟩
  · rintro ⟨apart, same⟩
    rw [apart.dropWhile]
    exact ⟨apart.takeWhile, same⟩

/-- A dollar sign is read as text exactly if no character behind it belongs to a name. -/
theorem ofTokens_dollar_iff {rest : List Char} {all : Interleaving} :
    ofTokens (scan ('$' :: rest)) = all.addText ['$'] ↔
      StartsApart rest ∧ ofTokens (scan rest) = all := by
  by_cases apart : StartsApart rest
  · have read : scan ('$' :: rest) = .plain '$' :: scan rest := by
      rw [scan, if_pos apart.takeWhile]
    rw [read, ofTokens_cons rfl, and_iff_right apart]
    exact addText_inj
  · have named : rest.takeWhile isNameChar ≠ [] :=
      fun none => apart (startsApart_of_takeWhile none)
    rw [scan, if_neg named, ofTokens]
    constructor
    · intro same
      cases congrArg front same
    · exact fun both => absurd both.1 apart

/-- One more token in front of free text. -/
theorem ofTokens_text_cons (token : Token) (noName : token.name? = none) {text rest : List Char}
    {all : Interleaving}
    (reads : ∀ behind, scan (token.text ++ (text ++ behind)) = token :: scan (text ++ behind))
    (shut : isOpen token = false ∨ text ≠ [])
    (tail : ofTokens (scan (text ++ rest)) = all.addText text ↔
      (isOpenEnded text = true → StartsApart rest) ∧ ofTokens (scan rest) = all) :
    ofTokens (scan (token.text ++ text ++ rest)) = all.addText (token.text ++ text) ↔
      (isOpenEnded (token.text ++ text) = true → StartsApart rest) ∧
        ofTokens (scan rest) = all := by
  have alone := reads []
  rw [List.append_nil] at alone
  rw [isOpenEnded_cons alone shut, List.append_assoc, reads, ofTokens_cons noName, addText_append,
    addText_inj, tail]

/-- Free text is read as it is exactly if its end is closed, or no character behind it belongs to a
name. -/
theorem ofTokens_text_iff {text : List Char} (free : FreeText text) {rest : List Char}
    {all : Interleaving} :
    ofTokens (scan (text ++ rest)) = all.addText text ↔
      (isOpenEnded text = true → StartsApart rest) ∧ ofTokens (scan rest) = all := by
  induction free with
  | nil => simp [isOpenEnded_nil, addText]
  | @escape c text _ inductionHypothesis =>
      refine ofTokens_text_cons (.escape (some c)) rfl ?_ (.inl rfl) inductionHypothesis
      intro behind
      change scan ('\\' :: c :: (text ++ behind)) = _
      rw [scan]
  | @dollar text apart _ inductionHypothesis =>
      -- Only at the end is a dollar sign open: otherwise free text keeps a name away from it.
      by_cases last : text = []
      · subst last
        have opened : isOpenEnded ['$'] = true := by
          rw [isOpenEnded, scan, if_pos List.takeWhile_nil, scan_nil]
          rfl
        rw [opened]
        simpa using ofTokens_dollar_iff
      · refine ofTokens_text_cons (.plain '$') rfl ?_ (.inr last) inductionHypothesis
        intro behind
        change scan ('$' :: (text ++ behind)) = _
        rw [scan, if_pos (apart.append last behind).takeWhile]
  | @plain c text noEscape noDollar _ inductionHypothesis =>
      refine ofTokens_text_cons (.plain c) rfl ?_ (.inl (by simpa [isOpen] using noDollar))
        inductionHypothesis
      exact fun behind => scan_plain noEscape noDollar _

end Interleaving

end ShellPrompt.Config
