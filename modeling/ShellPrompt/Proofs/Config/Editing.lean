import ShellPrompt.Config.Edit
import ShellPrompt.Proofs.Config.Reloading
import ShellPrompt.Proofs.Report

/-!
Edits of an open configuration, one by one and in runs. An edit is carried out exactly where its
index names a module, and what every edit keeps of modules, a run of edits does. So modules that
come from their definitions can be written and read again after any run of edits that drops no
property.
-/

namespace ShellPrompt.Config

section Places
variable {modules : List Module} {index : Int}

/-- An index names a place in a list from the front, or from the end if it is negative. -/
theorem exists_place?_iff {length : Nat} :
    (∃ place, place? length index = some place) ↔ -(length : Int) ≤ index ∧ index < length := by
  simp only [place?, fromFront]
  split <;> split <;> simp <;> omega

theorem mem_insertAt {mod other : Module} (member : other ∈ insertAt modules index mod) :
    other = mod ∨ other ∈ modules :=
  (List.mem_insertIdx (gap_le modules.length index)).mp member

theorem length_insertAt (mod : Module) :
    (insertAt modules index mod).length = modules.length + 1 :=
  List.length_insertIdx_of_le_length (gap_le modules.length index) mod

/-- What is taken out, and what is left. -/
theorem takeOut_eq_ok {mod : Module} {rest : List Module}
    (taken : takeOut modules index = .ok (mod, rest)) :
    mod ∈ modules ∧ rest.Sublist modules ∧ rest.length + 1 = modules.length := by
  unfold takeOut at taken
  split at taken
  · cases taken
  · rename_i place found
    split at taken
    · cases taken
    · rename_i there
      cases taken
      refine ⟨List.mem_of_getElem? there, List.eraseIdx_sublist modules place, ?_⟩
      have inside := place?_lt found
      rw [List.length_eraseIdx_of_lt inside]
      omega

theorem exists_takeOut_iff : (∃ result, takeOut modules index = .ok result) ↔
    -(modules.length : Int) ≤ index ∧ index < modules.length := by
  rw [← exists_place?_iff]
  unfold takeOut
  cases found : place? modules.length index with
  | none => exact iff_of_false nofun nofun
  | some place =>
      have there := List.getElem?_eq_getElem (place?_lt found)
      simp only [there]
      exact iff_of_true ⟨_, rfl⟩ ⟨_, rfl⟩

theorem modifyAt_eq_ok {change : Module → Module} {after : List Module}
    (done : modifyAt modules index change = .ok after) :
    after.length = modules.length ∧
      ∀ other ∈ after, other ∈ modules ∨ ∃ mod ∈ modules, other = change mod := by
  unfold modifyAt at done
  split at done
  · cases done
  · rename_i place found
    cases done
    refine ⟨List.length_modify .., fun other member => ?_⟩
    obtain ⟨position, held⟩ := List.mem_iff_getElem?.mp member
    rw [List.getElem?_modify] at held
    obtain ⟨mod, there, rfl⟩ := Option.map_eq_some_iff.mp held
    have inModules := List.mem_of_getElem? there
    split
    · exact .inr ⟨mod, inModules, rfl⟩
    · exact .inl inModules

theorem exists_modifyAt_iff {change : Module → Module} :
    (∃ after, modifyAt modules index change = .ok after) ↔
      -(modules.length : Int) ≤ index ∧ index < modules.length := by
  rw [← exists_place?_iff]
  unfold modifyAt
  cases place? modules.length index with
  | none => exact iff_of_false nofun nofun
  | some place => exact iff_of_true ⟨_, rfl⟩ ⟨_, rfl⟩

end Places

namespace Edit

/-- The index at which an edit needs a module. -/
def index? : Edit → Option Int
  | .remove index | .move index _ | .disable index _ | .setProperty index _ _
  | .unsetProperty index _ => some index
  | .insert _ _ | .change _ | .embed _ => none

/-- What an edit does to the number of modules. -/
def growth : Edit → Int
  | .insert _ _ => 1
  | .remove _ => -1
  | _ => 0

/-- What an edit does to the settings. -/
def onSettings : Edit → Settings → Settings
  | .change setting, settings => settings.change setting
  | .embed theme, settings => settings.embed theme
  | _, settings => settings

/-- Whatever holds of all modules does so after the edit as well: of a new module, and of one that
is changed. -/
def Keeps (holds : Module → Prop) : Edit → Prop
  | .insert _ mod => holds mod
  | .disable _ disabled => ∀ mod, holds mod → holds { mod with disabled }
  | .setProperty _ key value => ∀ mod, holds mod → holds (mod.setProperty key value)
  | .unsetProperty _ key => ∀ mod, holds mod → holds (mod.eraseProperty key)
  | .remove _ | .move _ _ | .change _ | .embed _ => True

end Edit

section Steps
variable {parsed after : Parsed} {edit : Edit}

/-- An edit is carried out if there is a module at the place that it speaks of, and never
otherwise. -/
theorem exists_edit_iff : (∃ after, parsed.edit edit = .ok after) ↔
    ∀ index, edit.index? = some index →
      -(parsed.modules.length : Int) ≤ index ∧ index < parsed.modules.length := by
  cases edit with
  | insert index mod => exact iff_of_true ⟨_, rfl⟩ nofun
  | change setting => exact iff_of_true ⟨_, rfl⟩ nofun
  | embed theme => exact iff_of_true ⟨_, rfl⟩ nofun
  | remove index =>
      simp only [Parsed.edit, Edit.index?, exists_map_iff, exists_takeOut_iff, Option.some.injEq,
        forall_eq']
  | move source target =>
      simp only [Parsed.edit, Edit.index?, exists_map_iff, exists_takeOut_iff, Option.some.injEq,
        forall_eq']
  | disable index disabled =>
      simp only [Parsed.edit, Edit.index?, exists_map_iff, exists_modifyAt_iff, Option.some.injEq,
        forall_eq']
  | setProperty index key value =>
      simp only [Parsed.edit, Edit.index?, exists_map_iff, exists_modifyAt_iff, Option.some.injEq,
        forall_eq']
  | unsetProperty index key =>
      simp only [Parsed.edit, Edit.index?, exists_map_iff, exists_modifyAt_iff, Option.some.injEq,
        forall_eq']

/-- What each edit does where it is carried out. -/
inductive Carried (parsed : Parsed) : Edit → Parsed → Prop
  | insert (index : Int) (mod : Module) :
      Carried parsed (.insert index mod)
        { parsed with modules := insertAt parsed.modules index mod }
  | remove {index : Int} {mod : Module} {rest : List Module}
      (taken : takeOut parsed.modules index = .ok (mod, rest)) :
      Carried parsed (.remove index) { parsed with modules := rest }
  | move {source : Int} {mod : Module} {rest : List Module}
      (taken : takeOut parsed.modules source = .ok (mod, rest)) (target : Int) :
      Carried parsed (.move source target) { parsed with modules := insertAt rest target mod }
  | disable {index : Int} {disabled : Bool} {modules : List Module}
      (modified : modifyAt parsed.modules index (fun mod => { mod with disabled }) = .ok modules) :
      Carried parsed (.disable index disabled) { parsed with modules }
  | setProperty {index : Int} {key : String} {value : Value} {modules : List Module}
      (modified : modifyAt parsed.modules index (·.setProperty key value) = .ok modules) :
      Carried parsed (.setProperty index key value) { parsed with modules }
  | unsetProperty {index : Int} {key : String} {modules : List Module}
      (modified : modifyAt parsed.modules index (·.eraseProperty key) = .ok modules) :
      Carried parsed (.unsetProperty index key) { parsed with modules }
  | change (setting : Setting) :
      Carried parsed (.change setting)
        { parsed with settings := parsed.settings.change setting }
  | embed (theme : Theme) :
      Carried parsed (.embed theme) { parsed with settings := parsed.settings.embed theme }

theorem carried_edit (done : parsed.edit edit = .ok after) : Carried parsed edit after := by
  cases edit with
  | insert index mod =>
      cases done
      exact .insert index mod
  | remove index =>
      obtain ⟨_, removed, rfl⟩ := map_eq_ok_iff.mp done
      obtain ⟨_, taken, rfl⟩ := map_eq_ok_iff.mp removed
      exact .remove taken
  | move source target =>
      obtain ⟨_, moved, rfl⟩ := map_eq_ok_iff.mp done
      obtain ⟨_, taken, rfl⟩ := map_eq_ok_iff.mp moved
      exact .move taken target
  | disable index disabled =>
      obtain ⟨_, modified, rfl⟩ := map_eq_ok_iff.mp done
      exact .disable modified
  | setProperty index key value =>
      obtain ⟨_, modified, rfl⟩ := map_eq_ok_iff.mp done
      exact .setProperty modified
  | unsetProperty index key =>
      obtain ⟨_, modified, rfl⟩ := map_eq_ok_iff.mp done
      exact .unsetProperty modified
  | change setting =>
      cases done
      exact .change setting
  | embed theme =>
      cases done
      exact .embed theme

theorem settings_edit (done : parsed.edit edit = .ok after) :
    after.settings = edit.onSettings parsed.settings := by
  cases carried_edit done <;> rfl

theorem length_edit (done : parsed.edit edit = .ok after) :
    (after.modules.length : Int) = parsed.modules.length + edit.growth := by
  cases carried_edit done with
  | insert index mod => simp [length_insertAt, Edit.growth]
  | remove taken =>
      have shorter := (takeOut_eq_ok taken).2.2
      simp only [Edit.growth]
      omega
  | move taken target =>
      have shorter := (takeOut_eq_ok taken).2.2
      simp only [length_insertAt, Edit.growth]
      omega
  | disable modified => simp [(modifyAt_eq_ok modified).1, Edit.growth]
  | setProperty modified => simp [(modifyAt_eq_ok modified).1, Edit.growth]
  | unsetProperty modified => simp [(modifyAt_eq_ok modified).1, Edit.growth]
  | change setting => simp [Edit.growth]
  | embed theme => simp [Edit.growth]

theorem forall_mem_modifyAt {holds : Module → Prop} {modules after : List Module} {index : Int}
    {change : Module → Module} (done : modifyAt modules index change = .ok after)
    (keeps : ∀ mod, holds mod → holds (change mod)) (all : ∀ mod ∈ modules, holds mod) :
    ∀ mod ∈ after, holds mod := by
  intro other member
  rcases (modifyAt_eq_ok done).2 other member with old | ⟨mod, inModules, rfl⟩
  · exact all other old
  · exact keeps mod (all mod inModules)

/-- What an edit keeps of modules holds of all of them afterwards. -/
theorem forall_mem_edit {holds : Module → Prop} (keeps : edit.Keeps holds)
    (done : parsed.edit edit = .ok after) (all : ∀ mod ∈ parsed.modules, holds mod) :
    ∀ mod ∈ after.modules, holds mod := by
  cases carried_edit done with
  | insert index mod =>
      intro other member
      rcases mem_insertAt member with rfl | old
      · exact keeps
      · exact all other old
  | remove taken => exact fun other member => all other ((takeOut_eq_ok taken).2.1.mem member)
  | move taken target =>
      obtain ⟨inModules, fewer, _⟩ := takeOut_eq_ok taken
      intro other member
      rcases mem_insertAt member with rfl | old
      · exact all other inModules
      · exact all other (fewer.mem old)
  | disable modified => exact forall_mem_modifyAt modified keeps all
  | setProperty modified => exact forall_mem_modifyAt modified keeps all
  | unsetProperty modified => exact forall_mem_modifyAt modified keeps all
  | change setting => exact all
  | embed theme => exact all

end Steps

/-- Edits one after the other, as long as each can be carried out. -/
def Parsed.editAll (parsed : Parsed) (edits : List Edit) : Except NoSuchPlace Parsed :=
  edits.foldlM Parsed.edit parsed

section Runs
variable {parsed after : Parsed} {edits : List Edit}

theorem editAll_cons_eq_ok_iff {edit : Edit} : parsed.editAll (edit :: edits) = .ok after ↔
    ∃ between, parsed.edit edit = .ok between ∧ between.editAll edits = .ok after := by
  rw [Parsed.editAll, List.foldlM_cons, bind_eq_ok_iff]
  rfl

/-- Where each edit changes a part of a configuration in its own way, a run makes these changes one
after the other. -/
theorem part_editAll {α : Type} (part : Parsed → α) (effect : α → Edit → α)
    (step : ∀ (parsed after : Parsed) (edit : Edit), parsed.edit edit = .ok after →
      part after = effect (part parsed) edit)
    (done : parsed.editAll edits = .ok after) : part after = edits.foldl effect (part parsed) := by
  induction edits generalizing parsed with
  | nil =>
      cases done
      rfl
  | cons edit edits inductionHypothesis =>
      obtain ⟨between, first, later⟩ := editAll_cons_eq_ok_iff.mp done
      rw [inductionHypothesis later, step parsed between edit first, List.foldl_cons]

/-- The settings after a run are those of its edits of settings, whatever it does to modules. -/
theorem settings_editAll (done : parsed.editAll edits = .ok after) :
    after.settings =
      edits.foldl (fun settings edit => edit.onSettings settings) parsed.settings :=
  part_editAll Parsed.settings _ (fun _ _ _ => settings_edit) done

theorem length_editAll (done : parsed.editAll edits = .ok after) :
    (after.modules.length : Int) =
      edits.foldl (fun length edit => length + edit.growth) (parsed.modules.length : Int) :=
  part_editAll (fun parsed => (parsed.modules.length : Int)) _ (fun _ _ _ => length_edit) done

/-- What every edit keeps of modules, a run of edits does. -/
theorem forall_mem_editAll {holds : Module → Prop} (keeps : ∀ edit ∈ edits, edit.Keeps holds)
    (done : parsed.editAll edits = .ok after) (all : ∀ mod ∈ parsed.modules, holds mod) :
    ∀ mod ∈ after.modules, holds mod := by
  induction edits generalizing parsed with
  | nil =>
      cases done
      exact all
  | cons edit edits inductionHypothesis =>
      obtain ⟨between, first, later⟩ := editAll_cons_eq_ok_iff.mp done
      obtain ⟨firstKeeps, laterKeeps⟩ := List.forall_mem_cons.mp keeps
      exact inductionHypothesis laterKeeps later (forall_mem_edit firstKeeps first all)

end Runs

section Edited
variable {registry : Registry} {parsed after : Parsed} {edits : List Edit}

/-- Edits that take in modules made of their definitions only, drop no property, and set properties
to what they can be. -/
def Edit.Plain (registry : Registry) : Edit → Prop
  | .insert _ mod => Edited registry mod
  | .setProperty _ key value => key ≠ "disabled" ∧ IsProperty value
  | .unsetProperty _ _ => False
  | .remove _ | .move _ _ | .disable _ _ | .change _ | .embed _ => True

theorem Edit.Plain.keeps {edit : Edit} (plain : edit.Plain registry) :
    edit.Keeps (Edited registry) := by
  cases edit with
  | insert index mod => exact plain
  | disable index disabled => exact fun mod edited => edited.switch disabled
  | setProperty index key value =>
      exact fun mod edited => edited.setProperty plain.1 plain.2
  | unsetProperty index key => exact plain.elim
  | remove index => exact trivial
  | move source target => exact trivial
  | change setting => exact trivial
  | embed theme => exact trivial

/-- Modules that come from their definitions still do after a run of such edits. -/
theorem edited_editAll (plain : ∀ edit ∈ edits, edit.Plain registry)
    (done : parsed.editAll edits = .ok after)
    (edited : ∀ mod ∈ parsed.modules, Edited registry mod) :
    ∀ mod ∈ after.modules, Edited registry mod :=
  forall_mem_editAll (fun edit member => (plain edit member).keeps) done edited

/-- After such edits there is a document exactly if its integers have few enough digits, and it
gives every module back as its section and its definition describe it. -/
theorem parse_generate_editAll (wellNamed : WellNamed registry)
    (plainDefaults : PlainDefaults registry) (plain : ∀ edit ∈ edits, edit.Plain registry)
    (done : parsed.editAll edits = .ok after)
    (edited : ∀ mod ∈ parsed.modules, Edited registry mod) :
    ((∃ text, (generate after.modules after.settings).outcome = .ok text) ↔
      FewDigits after.modules after.settings) ∧
    ∀ text, (generate after.modules after.settings).outcome = .ok text →
      ∃ again, (parse text registry).outcome = .ok again ∧
        again.modules = after.modules.map fun mod =>
          restored after.modules registry mod.type := by
  have stillEdited := edited_editAll plain done edited
  exact ⟨exists_generate_edited_iff plainDefaults stillEdited wellNamed after.settings,
    fun text written => parse_generate_restored plainDefaults stillEdited wellNamed written⟩

end Edited

end ShellPrompt.Config
