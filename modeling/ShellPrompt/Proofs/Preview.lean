import ShellPrompt.Preview
import ShellPrompt.Proofs.Report

/-!
What a preview shows of a module depends on its type, its flag and what its properties hold, in
whatever order. Of a line break it shows only whether it is switched on.
-/

namespace ShellPrompt.Preview

/-- Modules of one type that are switched on or off alike and have the same properties. -/
structure Alike (first second : Module) : Prop where
  type : first.type = second.type
  disabled : first.disabled = second.disabled
  properties : ∀ key, first.properties.get? key = second.properties.get? key

section Alike
variable {first second : Module} (alike : Alike first second)
include alike

theorem Alike.effective (definition : Definition) (key default : String) :
    Preview.effective first definition key default =
      Preview.effective second definition key default := by
  rw [Preview.effective, Preview.effective, alike.properties]

theorem Alike.variableValue (definition : Definition) (context : Context) (reference : String) :
    Preview.variableValue first definition context reference =
      Preview.variableValue second definition context reference := by
  simp only [Preview.variableValue, alike.properties, alike.effective]
  rw [alike.type]

theorem Alike.valuesOf (definition : Definition) (context : Context) :
    Preview.valuesOf first definition context = Preview.valuesOf second definition context := by
  simp only [Preview.valuesOf, alike.variableValue]

theorem Alike.isText : first.isText = second.isText := by
  rw [Module.isText, Module.isText, alike.type]

theorem Alike.isLineBreak : first.isLineBreak = second.isLineBreak := by
  rw [Module.isLineBreak, Module.isLineBreak, alike.type]

theorem Alike.freeValue : first.freeValue = second.freeValue := by
  rw [Module.freeValue, Module.freeValue, alike.properties]

theorem Alike.renderModule (registry : Registry) (theme : Option Theme) (context : Context) :
    Preview.renderModule first registry theme context =
      Preview.renderModule second registry theme context := by
  simp only [Preview.renderModule, alike.isText, alike.type, alike.freeValue, alike.effective,
    alike.valuesOf]

theorem Alike.renderPart (registry : Registry) (theme : Option Theme) (context : Context) :
    Preview.renderPart registry theme context first =
      Preview.renderPart registry theme context second := by
  simp only [Preview.renderPart, alike.isLineBreak, alike.type, alike.disabled,
    alike.renderModule]

end Alike

section LineBreaks
variable (registry : Registry) (theme : Option Theme) (context : Context)

theorem renderPart_disabled {mod : Module} (disabled : mod.disabled = true) :
    renderPart registry theme context mod = pure [] := by
  rw [renderPart, disabled]
  rfl

theorem renderPart_lineBreak {mod : Module} (lineBreak : mod.type = Module.lineBreakType)
    (enabled : mod.disabled = false) :
    renderPart registry theme context mod = pure [⟨"\n", {}⟩] := by
  have isLineBreak : mod.isLineBreak = true := by simpa [Module.isLineBreak] using lineBreak
  have shown : isShown mod.type context = true := by
    rw [lineBreak]
    rfl
  rw [renderPart, enabled, shown, isLineBreak]
  rfl

/-- The module itself, with a line break switched on. -/
def withBreak (mod : Module) : Module :=
  if mod.isLineBreak then { mod with disabled := false } else mod

theorem withBreak_of_enabled {mod : Module}
    (enabled : mod.isLineBreak = true → mod.disabled = false) : withBreak mod = mod := by
  unfold withBreak
  split
  · rename_i lineBreak
    rw [← enabled lineBreak]
  · rfl

/-- Switching a line break on adds a segment if it was off. -/
theorem renderPart_withBreak (mod : Module) :
    Report.Alike (fun shown withBreaks => withBreaks.length =
        shown.length + if mod.isLineBreak && mod.disabled then 1 else 0)
      (renderPart registry theme context mod)
      (renderPart registry theme context (withBreak mod)) := by
  cases lineBreak : mod.isLineBreak with
  | false =>
      rw [withBreak_of_enabled (by simp [lineBreak])]
      exact Report.Alike.refl (fun part => (Nat.add_zero part.length).symm) _
  | true =>
      cases disabled : mod.disabled with
      | false =>
          rw [withBreak_of_enabled fun _ => disabled]
          exact Report.Alike.refl (fun part => (Nat.add_zero part.length).symm) _
      | true =>
          have type : mod.type = Module.lineBreakType := by
            simpa [Module.isLineBreak] using lineBreak
          rw [withBreak, if_pos lineBreak, renderPart_disabled registry theme context disabled,
            renderPart_lineBreak registry theme context (by exact type) rfl]
          exact .value [] rfl

end LineBreaks

section Prompts
variable (registry : Registry) (theme : Option Theme) (context : Context)

/-- Prompts are shown alike if each of their modules is. -/
theorem renderPrompt_congr {first second : Module → Module} {modules : List Module}
    (same : ∀ mod ∈ modules, renderPart registry theme context (first mod) =
      renderPart registry theme context (second mod)) :
    renderPrompt (modules.map first) registry theme context =
      renderPrompt (modules.map second) registry theme context := by
  induction modules with
  | nil => rfl
  | cons mod modules inductionHypothesis =>
      rw [List.map_cons, List.map_cons, renderPrompt, renderPrompt, same mod List.mem_cons_self,
        inductionHypothesis fun other member => same other (.tail _ member)]

theorem alike_renderPrompt_withBreak (modules : List Module) :
    Report.Alike (fun shown withBreaks => withBreaks.length =
        shown.length + modules.countP fun mod => mod.isLineBreak && mod.disabled)
      (renderPrompt modules registry theme context)
      (renderPrompt (modules.map withBreak) registry theme context) := by
  induction modules with
  | nil => exact .value [] rfl
  | cons mod modules inductionHypothesis =>
      refine (renderPart_withBreak registry theme context mod).bind fun part shown first => ?_
      refine inductionHypothesis.bind fun others rest later => .value [] ?_
      rw [List.length_append, List.length_append, first, later, List.countP_cons]
      omega

/-- Switching all line breaks on is not seen exactly if none was off, or there is no preview. -/
theorem renderPrompt_withBreak_eq_iff (modules : List Module) :
    renderPrompt (modules.map withBreak) registry theme context =
        renderPrompt modules registry theme context ↔
      (∃ fault, (renderPrompt modules registry theme context).outcome = .error fault) ∨
        ∀ mod ∈ modules, mod.isLineBreak = true → mod.disabled = false := by
  have alike := alike_renderPrompt_withBreak registry theme context modules
  constructor
  · intro same
    rw [same] at alike
    generalize renderPrompt modules registry theme context = report at alike
    rcases report with ⟨warnings, fault | shown⟩
    · exact .inl ⟨fault, rfl⟩
    · refine .inr fun mod member lineBreak => ?_
      cases alike with
      | value _ lengths =>
          have noneOff : modules.countP (fun mod => mod.isLineBreak && mod.disabled) = 0 := by
            omega
          have on := List.countP_eq_zero.mp noneOff mod member
          simpa [lineBreak] using on
  · rintro (⟨fault, failed⟩ | enabled)
    · exact (alike.eq_of_error failed).symm
    · have unchanged : modules.map withBreak = modules.map id :=
        List.map_congr_left fun mod member => withBreak_of_enabled (enabled mod member)
      rw [unchanged, List.map_id]

end Prompts

section Written
variable {registry : Registry} (theme : Option Theme) {context : Context} {mod : Module}

theorem exists_write_iff {value : Value} :
    (∃ text, value.write = .ok text) ↔ value.isWritable = true := by
  unfold Value.write
  split
  · rename_i writable
    exact iff_of_true ⟨_, rfl⟩ writable
  · rename_i long
    exact iff_of_false nofun long

theorem exists_valuesOf_iff {definition : Definition} :
    (∃ values, valuesOf mod definition context = .ok values) ↔
      ∀ reference ∈ definition.references,
        (variableValue mod definition context reference).isWritable = true := by
  simp only [valuesOf, pure, Except.pure, exists_bind_ok_iff, exists_mapM_iff, exists_write_iff]

/-- All values that a preview of the module takes into its text have a text themselves. -/
def Written (registry : Registry) (context : Context) (mod : Module) : Prop :=
  if mod.isText then mod.freeValue.isWritable = true
  else ∀ definition, registry.get? mod.type = some definition →
    (∀ reference ∈ definition.references,
      (variableValue mod definition context reference).isWritable = true) ∧
    (effective mod definition "format" "").isWritable = true ∧
    (effective mod definition "style" "").isWritable = true

theorem require_of_get? {type : String} {definition : Definition}
    (held : registry.get? type = some definition) : registry.require type = .ok definition := by
  rw [Registry.require, held]

/-- A module that is known is shown, if all its values have texts. -/
theorem exists_renderModule_iff {definition : Definition} (noText : ¬ mod.isText)
    (held : registry.get? mod.type = some definition) :
    (∃ shown, renderModule mod registry theme context = .ok shown) ↔
      (∃ values, valuesOf mod definition context = .ok values) ∧
        (∃ layout, (effective mod definition "format" "").write = .ok layout) ∧
        ∃ style, (effective mod definition "style" "").write = .ok style := by
  rw [renderModule, if_neg noText, require_of_get? held]
  simp only [mapError_ok, bind_eq_ok_iff, mapError_eq_ok_iff, pure, Except.pure, Except.ok.injEq,
    exists_eq_left']
  constructor
  · rintro ⟨_, values, read, layout, written, style, styled, _⟩
    exact ⟨⟨values, read⟩, ⟨layout, written⟩, style, styled⟩
  · rintro ⟨⟨values, read⟩, ⟨layout, written⟩, style, styled⟩
    exact ⟨_, values, read, layout, written, style, styled, rfl⟩

theorem renderModule_ne_unknown {definition : Definition} (noText : ¬ mod.isText)
    (held : registry.get? mod.type = some definition) (fault : UnknownModule) :
    renderModule mod registry theme context ≠ .error (.unknown fault) := by
  rw [renderModule, if_neg noText, require_of_get? held]
  simp [bind_eq_error_iff, mapError_eq_error_iff, pure, Except.pure]

theorem exists_long_renderModule_iff :
    (∃ fault, renderModule mod registry theme context = .error (.long fault)) ↔
      ¬ Written registry context mod := by
  unfold Written
  split
  · rename_i text
    rw [renderModule, if_pos text, ← exists_write_iff]
    cases mod.freeValue.write with
    | ok layout => exact iff_of_false nofun fun long => long ⟨layout, rfl⟩
    | error fault => exact iff_of_true ⟨fault, rfl⟩ nofun
  · rename_i noText
    cases held : registry.get? mod.type with
    | none =>
        have unknown : renderModule mod registry theme context = .error (.unknown ⟨mod.type⟩) := by
          rw [renderModule, if_neg noText, Registry.require, held]
          rfl
        rw [unknown]
        exact iff_of_false nofun fun long => long nofun
    | some definition =>
        simp only [Option.some.injEq, forall_eq']
        rw [← exists_valuesOf_iff, ← exists_write_iff, ← exists_write_iff,
          ← exists_renderModule_iff theme noText held]
        cases outcome : renderModule mod registry theme context with
        | ok shown => exact iff_of_false nofun fun none => none ⟨shown, rfl⟩
        | error fault =>
            cases fault with
            | unknown fault =>
                exact absurd outcome (renderModule_ne_unknown theme noText held fault)
            | long fault => exact iff_of_true ⟨fault, rfl⟩ nofun

/-- A preview takes its text from the module: it is switched on, has a place in the surroundings,
and is no line break. -/
structure Visible (context : Context) (mod : Module) : Prop where
  enabled : mod.disabled = false
  shown : isShown mod.type context = true
  noBreak : mod.isLineBreak = false

theorem exists_renderPart_iff :
    (∃ shown, (renderPart registry theme context mod).outcome = .ok shown) ↔
      (Visible context mod → Written registry context mod) := by
  unfold renderPart
  split
  · rename_i hidden
    refine iff_of_true ⟨_, rfl⟩ fun visible => ?_
    rw [visible.enabled, visible.shown] at hidden
    cases hidden
  · rename_i reached
    have reached : mod.disabled = false ∧ isShown mod.type context = true := by
      simpa using reached
    split
    · rename_i lineBreak
      exact iff_of_true ⟨_, rfl⟩ fun visible =>
        absurd (visible.noBreak.symm.trans lineBreak) Bool.false_ne_true
    · rename_i noBreak
      have visible : Visible context mod := ⟨reached.1, reached.2, Bool.not_eq_true _ ▸ noBreak⟩
      rw [forall_prop_of_true visible]
      have long : _ ↔ ¬ Written registry context mod := exists_long_renderModule_iff theme
      cases outcome : renderModule mod registry theme context with
      | ok segments =>
          rw [outcome] at long
          exact iff_of_true ⟨segments, rfl⟩ (Classical.not_not.mp fun unwritten =>
            nomatch long.mpr unwritten)
      | error fault =>
          rw [outcome] at long
          cases fault with
          | unknown fault =>
              exact iff_of_true ⟨[], rfl⟩ (Classical.not_not.mp fun unwritten =>
                nomatch long.mpr unwritten)
          | long fault => exact iff_of_false nofun (long.mp ⟨fault, rfl⟩)

/-- There is a preview of a prompt exactly if no module that it shows has a value without a text. -/
theorem exists_renderPrompt_iff {modules : List Module} :
    (∃ shown, (renderPrompt modules registry theme context).outcome = .ok shown) ↔
      ∀ mod ∈ modules, Visible context mod → Written registry context mod := by
  induction modules with
  | nil => exact iff_of_true ⟨[], rfl⟩ nofun
  | cons mod modules inductionHypothesis =>
      rw [List.forall_mem_cons, ← inductionHypothesis, ← exists_renderPart_iff theme]
      simp only [renderPrompt, Report.outcome_bind, bind_eq_ok_iff, Report.outcome_pure,
        Except.ok.injEq]
      constructor
      · rintro ⟨_, part, first, others, later, _⟩
        exact ⟨⟨part, first⟩, others, later⟩
      · rintro ⟨⟨part, first⟩, others, later⟩
        exact ⟨_, part, first, others, later, rfl⟩

end Written

end ShellPrompt.Preview
