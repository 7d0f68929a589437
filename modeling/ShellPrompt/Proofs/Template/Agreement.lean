import Mathlib.Data.List.Flatten
import ShellPrompt.Proofs.Template.Staying
import ShellPrompt.Template

/-!
What rendering takes from the bindings: nothing but the texts of the names that the template refers
to. Of these texts the groups only ask which are empty, and the fewer are, the more of the template
is left. No text that is put in is looked at again, so that it may spell any reference.
-/

namespace ShellPrompt.Template

theorem names_subset {first second : List Token} (part : first.Sublist second) :
    names first ⊆ names second :=
  (part.filterMap Token.name?).subset

section Congruence
variable {first second : Bindings}

/-- A group stays shown when more names have a text. -/
theorem Shown.mono {inner : List Token}
    (filled : ∀ name ∈ names inner, first.lookUp name ≠ [] → second.lookUp name ≠ [])
    (shown : Shown first inner) : Shown second inner := by
  rcases shown with nameless | ⟨token, member, name, named, text⟩
  · exact .inl nameless
  · have inNames : name ∈ names inner := List.mem_filterMap.mpr ⟨token, member, named⟩
    exact .inr ⟨token, member, name, named, filled name inNames text⟩

theorem Stays.mono {behindBracket : Bool} {tokens : List Token} {position : Nat}
    (filled : ∀ name ∈ names tokens, first.lookUp name ≠ [] → second.lookUp name ≠ [])
    (stays : Stays first behindBracket tokens position) :
    Stays second behindBracket tokens position := by
  intro group member
  obtain ⟨noOpen, noClose, inside⟩ := stays group member
  refine ⟨noOpen, noClose, fun behind before => (inside behind before).mono ?_⟩
  intro name inGroup
  exact filled name (names_subset (between_sublist tokens group.1 group.2) inGroup)

/-- No token is lost when more names have a text. -/
theorem resolveGroups_mono {behindBracket : Bool} {tokens : List Token}
    (filled : ∀ name ∈ names tokens, first.lookUp name ≠ [] → second.lookUp name ≠ []) :
    (resolveGroups first behindBracket tokens).Sublist
      (resolveGroups second behindBracket tokens) := by
  rw [resolveGroups_eq_stayingTokens, resolveGroups_eq_stayingTokens]
  apply keepAt_mono
  intro position stays
  exact decide_eq_true (Stays.mono filled (of_decide_eq_true stays))

/-- Which tokens are left only depends on which of the names in them have a text. -/
theorem resolveGroups_congr {behindBracket : Bool} {tokens : List Token}
    (same : ∀ name ∈ names tokens, first.lookUp name = [] ↔ second.lookUp name = []) :
    resolveGroups first behindBracket tokens = resolveGroups second behindBracket tokens := by
  apply List.Sublist.antisymm
  · exact resolveGroups_mono fun name member text => mt (same name member).mpr text
  · exact resolveGroups_mono fun name member text => mt (same name member).mp text

theorem substituteTokens_congr {tokens : List Token}
    (same : ∀ name ∈ names tokens, first.lookUp name = second.lookUp name) (style : List Char) :
    substituteTokens first style tokens = substituteTokens second style tokens := by
  rw [substituteTokens, substituteTokens, List.flatMap_def, List.flatMap_def]
  congr 1
  apply List.map_congr_left
  intro token member
  cases token with
  | escape c => rfl
  | plain c => rfl
  | reference name =>
      have inNames : name ∈ names tokens := List.mem_filterMap.mpr ⟨_, member, rfl⟩
      rw [Token.substituted, Token.substituted, same name inNames]

end Congruence

/-- Each name in the tokens of a template is that of a reference. -/
theorem exists_reference {template : String} {name : List Char}
    (member : name ∈ names (scan template.toList)) :
    ∃ reference ∈ references template, reference.toList.drop 1 = name :=
  ⟨_, List.mem_map_of_mem member, congrArg (List.drop 1) String.toList_ofList⟩

/-- Texts for more references never take anything of a template away, and only which references
have a text decides what is left of it. -/
theorem resolveOptionalGroups_mono {template : String} {first second : Bindings}
    (filled : ∀ reference ∈ references template,
      first.lookUp (reference.toList.drop 1) ≠ [] →
        second.lookUp (reference.toList.drop 1) ≠ []) :
    (resolveGroups first false (scan template.toList)).Sublist
        (resolveGroups second false (scan template.toList)) ∧
      (resolveOptionalGroups template first).toList.Sublist
        (resolveOptionalGroups template second).toList ∧
      ((∀ reference ∈ references template,
          second.lookUp (reference.toList.drop 1) ≠ [] →
            first.lookUp (reference.toList.drop 1) ≠ []) →
        resolveOptionalGroups template first = resolveOptionalGroups template second) := by
  have more : ∀ name ∈ names (scan template.toList),
      first.lookUp name ≠ [] → second.lookUp name ≠ [] := by
    intro name member
    obtain ⟨reference, referred, rfl⟩ := exists_reference member
    exact filled reference referred
  have left : (resolveGroups first false (scan template.toList)).Sublist
      (resolveGroups second false (scan template.toList)) := resolveGroups_mono more
  refine ⟨left, ?_, ?_⟩
  · rw [resolveOptionalGroups, resolveOptionalGroups, String.toList_ofList, String.toList_ofList]
    exact left.flatMap Token.text
  · intro emptied
    have same : ∀ name ∈ names (scan template.toList),
        first.lookUp name = [] ↔ second.lookUp name = [] := by
      intro name member
      obtain ⟨reference, referred, rfl⟩ := exists_reference member
      exact not_iff_not.mp ⟨filled reference referred, emptied reference referred⟩
    rw [resolveOptionalGroups, resolveOptionalGroups, resolveGroups_congr same]

/-- A group inside one that goes comes back with it. -/
theorem resolveOptionalGroups_mono_nested :
    resolveOptionalGroups "x($a($b)($c))y" (.ofList [("d", .text "D")]) = "xy" ∧
      resolveOptionalGroups "x($a($b)($c))y" (.ofList [("$b", .text "B")]) = "x$a$by" ∧
      (resolveOptionalGroups "x($a($b)($c))y" (.ofList [("d", .text "D")])).toList.Sublist
        (resolveOptionalGroups "x($a($b)($c))y" (.ofList [("$b", .text "B")])).toList := by
  have filled : ∀ reference ∈ references "x($a($b)($c))y",
      Bindings.lookUp (.ofList [("d", .text "D")]) (reference.toList.drop 1) ≠ [] →
        Bindings.lookUp (.ofList [("$b", .text "B")]) (reference.toList.drop 1) ≠ [] := by
    decide +kernel
  refine ⟨?_, ?_, (resolveOptionalGroups_mono filled).2.1⟩
  · decide +kernel
  · decide +kernel

/-- Bindings that give the references of a template the same texts render it alike, whatever these
texts spell and whatever else is bound. -/
theorem render_congr {template : String} {first second : Bindings}
    (same : ∀ reference ∈ references template,
      first.lookUp (reference.toList.drop 1) = second.lookUp (reference.toList.drop 1))
    (style : String) (theme : Option Theme) :
    render template first style theme = render template second style theme := by
  have agree : ∀ name ∈ names (scan template.toList), first.lookUp name = second.lookUp name := by
    intro name member
    have referred := same _ (List.mem_map_of_mem member)
    rwa [String.toList_ofList] at referred
  have left : resolveGroups first false (scan template.toList) =
      resolveGroups second false (scan template.toList) := by
    apply resolveGroups_congr
    intro name member
    rw [agree name member]
  have part := resolveGroups_sublist second false (scan template.toList)
  rw [render, render]
  simp only [left]
  rw [substituteTokens_congr fun name member => agree name (names_subset part member)]

/-- A value that spells a reference is shown as it is, and the group of a name without a text goes,
whether that is bound to nothing or not at all. -/
theorem render_congr_unread :
    render "[$a](bold)( $b)" (.ofList [("$a", .text "$c("), ("c", .text "x"), ("b", .text "")])
        "" none = [⟨"$c(", { bold := some true }⟩] ∧
      render "[$a](bold)( $b)" (.ofList [("a", .text "$c("), ("$c", .text "y")]) "" none =
        [⟨"$c(", { bold := some true }⟩] := by
  have same : ∀ reference ∈ references "[$a](bold)( $b)",
      Bindings.lookUp (.ofList [("$a", .text "$c("), ("c", .text "x"), ("b", .text "")])
          (reference.toList.drop 1) =
        Bindings.lookUp (.ofList [("a", .text "$c("), ("$c", .text "y")])
          (reference.toList.drop 1) := by
    decide +kernel
  have shown : render "[$a](bold)( $b)" (.ofList [("a", .text "$c("), ("$c", .text "y")]) "" none =
      [⟨"$c(", { bold := some true }⟩] := by
    decide +kernel
  exact ⟨(render_congr same "" none).trans shown, shown⟩

end ShellPrompt.Template
