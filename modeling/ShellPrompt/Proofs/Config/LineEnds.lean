import ShellPrompt.Proofs.Config.Document
import ShellPrompt.Proofs.Report
import ShellPrompt.Proofs.Toml.LineEnds

/-!
The line ends of a generated document. The master format and the right one are its only long texts,
so these two alone can put a carriage return into it, and a file gives them back in another form.
-/

namespace ShellPrompt.Config

open Text Toml

section Sections

theorem not_keepsReturn_of_ofValue {value : Value} {item : Item}
    (made : Item.ofValue value = .ok item) : ¬ item.KeepsReturn := by
  rintro ⟨text, rfl, _⟩
  have supported := (ofValue_eq_ok_iff.mp made).2
  unfold Item.ofSupported at supported
  split at supported
  · cases supported
  · cases supported
  · cases supported
  · cases supported
  · split at supported <;> cases supported
  · cases supported

theorem not_keepsReturn_of_propertyLines {properties : List (String × Value)} {lines : List Line}
    (done : propertyLines properties = .ok lines) : ∀ line ∈ lines, ¬ line.2.KeepsReturn := by
  fun_induction propertyLines properties generalizing lines with
  | case1 =>
      cases done
      exact List.forall_mem_nil _
  | case2 value rest inductionHypothesis => exact inductionHypothesis done
  | case3 => cases done
  | case4 key value rest other item made inductionHypothesis =>
      obtain ⟨others, later, rfl⟩ := map_eq_ok_iff.mp done
      exact List.forall_mem_cons.mpr
        ⟨not_keepsReturn_of_ofValue made, inductionHypothesis later⟩

theorem not_keepsReturn_moduleSection {mod : Module} {part : Section}
    (done : moduleSection mod = .ok part) : ¬ part.KeepsReturn := by
  obtain ⟨lines, made, rfl⟩ := map_eq_ok_iff.mp done
  rintro ⟨line, member, keeps⟩
  rcases List.mem_cons.mp member with rfl | member
  · cases keeps.choose_spec.1
  · exact not_keepsReturn_of_propertyLines made line member keeps

theorem not_keepsReturn_paletteSection (entry : String × Palette) :
    ¬ (paletteSection entry).KeepsReturn := by
  rintro ⟨line, member, text, same, _⟩
  obtain ⟨color, _, rfl⟩ := List.mem_map.mp member
  cases same

variable {modules : List Module} {settings : Settings} {parts : List Section}

theorem not_keepsReturn_groups
    (sections : (sectionModules modules settings).mapM moduleSection = .ok parts) :
    ∀ group ∈ (documentSheet modules settings parts).groups, ∀ part ∈ group.sections,
      ¬ part.KeepsReturn := by
  intro group member part inside
  rcases mem_arrange member inside with source | source
  · obtain ⟨mod, _, made⟩ := mem_of_mapM_eq_ok sections source
    exact not_keepsReturn_moduleSection made
  · obtain ⟨entry, _, rfl⟩ := List.mem_map.mp source
    exact not_keepsReturn_paletteSection entry

end Sections

section TopLines
variable {modules : List Module} {settings : Settings} {line : Line}

theorem mem_optionalLine {α : Type} {key : String} {item : α → Item} {setting : Option α}
    (member : line ∈ optionalLine key item setting) :
    ∃ value, setting = some value ∧ line = (key, item value) := by
  cases setting with
  | none => cases member
  | some value => exact ⟨value, rfl, List.mem_singleton.mp member⟩

theorem mem_topLines_format :
    ("format", .long (masterFormat modules)) ∈ topLines modules settings := by
  simp [topLines]

theorem mem_topLines_rightFormat {shown : String} (given : settings.rightFormat = some shown)
    (present : shown ≠ "") : ("right_format", .long shown) ∈ topLines modules settings := by
  have written : filled settings.rightFormat = some shown := by
    simp [filled, given, present]
  simp [topLines, written, optionalLine]

/-- A long text at the top is one of the two formats. -/
theorem long_of_mem_topLines (member : line ∈ topLines modules settings) :
    (∀ text, line.2 ≠ .long text) ∧ line.1 ≠ "format" ∧ line.1 ≠ "right_format" ∨
      line = ("format", .long (masterFormat modules)) ∨
      ∃ shown, settings.rightFormat = some shown ∧ line = ("right_format", .long shown) := by
  have short {α : Type} {key : String} {item : α → Item} {setting : Option α}
      (inside : line ∈ optionalLine key item setting)
      (kind : ∀ value text, item value ≠ .long text)
      (named : key ≠ "format" ∧ key ≠ "right_format") :
      (∀ text, line.2 ≠ .long text) ∧ line.1 ≠ "format" ∧ line.1 ≠ "right_format" := by
    obtain ⟨value, _, rfl⟩ := mem_optionalLine inside
    exact ⟨kind value, named⟩
  simp only [topLines, List.mem_append, List.mem_singleton] at member
  rcases member with (((((member | member) | member) | member) | member) | member) | member
  · exact .inl (short member (by simp) (by decide))
  · exact .inl (short member (by simp) (by decide))
  · exact .inl (short member (by simp) (by decide))
  · exact .inl (short member (by simp) (by decide))
  · exact .inr (.inl member)
  · obtain ⟨shown, written, rfl⟩ := mem_optionalLine member
    exact .inr (.inr ⟨shown, (Option.filter_eq_some_iff.mp written).1, rfl⟩)
  · exact .inl (short member (by simp) (by decide))

/-- One of the formats has a carriage return in front of a line feed. -/
def PairInFormats (modules : List Module) (settings : Settings) : Prop :=
  HasPair (masterFormat modules).toList ∨
    ∃ shown, settings.rightFormat = some shown ∧ HasPair shown.toList

/-- The control characters of a document are line feeds, and carriage returns if there are some in
front of line feeds in the formats. -/
theorem onlyBreaks_generate {text : String}
    (done : (generate modules settings).outcome = .ok text) :
    OnlyBreaks (PairInFormats modules settings) text.toList := by
  obtain ⟨_, parts, sections, rfl⟩ := generate_eq_ok_iff.mp done
  rw [String.toList_ofList]
  refine (onlyBreaks_write clean_headerLines).mono ?_
  rintro (⟨line, member, text, same, pair⟩ | ⟨group, member, part, inside, keeps⟩)
  · rcases long_of_mem_topLines member with ⟨short, _⟩ | rfl | ⟨shown, given, rfl⟩
    · exact absurd same (short text)
    · cases same
      exact .inl pair
    · cases same
      exact .inr ⟨_, given, pair⟩
  · exact absurd keeps (not_keepsReturn_groups sections group member part inside)

/-- The texts at the top of a document as a file gives them back. -/
def joinFormat (key text : String) : String :=
  if key = "format" ∨ key = "right_format" then joinText text else text

theorem joins_topLines (modules : List Module) (settings : Settings) :
    Joins joinFormat (topLines modules settings) := by
  intro line member
  rcases long_of_mem_topLines member with ⟨short, noFormat, noRight⟩ | rfl | ⟨shown, _, rfl⟩
  · have unchanged (text : String) : joinFormat line.1 text = text := by
      rw [joinFormat, if_neg (by simp [noFormat, noRight])]
    cases kind : line.2 with
    | long text => exact absurd kind (short text)
    | short text => rw [Item.joined, Item.toValue, Value.mapText, unchanged]; simp
    | _ => rfl
  · rfl
  · rfl

/-- What a document holds, once it has been in a file. -/
def GivenBack (data joined : Data) : Prop :=
  ∀ key, joined.get? key = (data.get? key).map (Value.mapText (joinFormat key))

theorem read_unifyNewlines_generate {text : String}
    (done : (generate modules settings).outcome = .ok text) :
    Option.Rel GivenBack (Toml.read text)
      (Toml.read (String.ofList (unifyNewlines text.toList))) := by
  obtain ⟨top, parts, sections, rfl⟩ := generate_eq_ok_iff.mp done
  rw [String.toList_ofList]
  exact read_unifyNewlines_write (sound_documentSheet top sections)
    (not_keepsReturn_groups sections) (nodup_map_fst_topLines modules settings)
    (joins_topLines modules settings)

/-- Whatever else there is in a document, it holds its top-level lines. -/
theorem get?_of_mem_topLines {text : String} {data : Data}
    (done : (generate modules settings).outcome = .ok text) (read : Toml.read text = some data)
    (member : line ∈ topLines modules settings) : data.get? line.1 = some line.2.toValue := by
  obtain ⟨top, parts, sections, rfl⟩ := generate_eq_ok_iff.mp done
  exact get?_of_read_write (sound_documentSheet top sections)
    (nodup_map_fst_topLines modules settings) read member

end TopLines

end ShellPrompt.Config
