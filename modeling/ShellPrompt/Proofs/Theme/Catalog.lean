import Mathlib.Tactic.FinCases
import ShellPrompt.Proofs.Theme.TerminalScheme
import ShellPrompt.Theme.Session

/-!
What holds of a catalog of themes whatever has been done with it. Every theme goes by its own name
and has nothing but colours behind a number sign, whether it is built in, from a terminal or from a
scheme, and an import changes the theme of one name or nothing.
-/

namespace ShellPrompt.Theme.Catalog

/-- A catalog in which every theme goes by its own name and has all its colours. -/
structure Sound (catalog : Catalog) : Prop where
  named : ∀ name theme, catalog.get? name = some theme → theme.name = .text name
  hashed : ∀ name theme, catalog.get? name = some theme → theme.Hashed

section Names

theorem mem_names {catalog : Catalog} {name : String} :
    name ∈ catalog.names ↔ ∃ theme, catalog.get? name = some theme := by
  rw [names, List.mem_mergeSort]
  exact OrderedMap.mem_keys_iff

/-- The names of the themes, in order and each of them once. -/
theorem pairwise_names (catalog : Catalog) : catalog.names.Pairwise (· < ·) := by
  have transitive : ∀ first second third : String, decide (first ≤ second) = true →
      decide (second ≤ third) = true → decide (first ≤ third) = true := by
    intro first second third before after
    exact decide_eq_true (String.le_trans (of_decide_eq_true before) (of_decide_eq_true after))
  have total : ∀ first second : String,
      (decide (first ≤ second) || decide (second ≤ first)) = true := by
    intro first second
    simpa using String.le_total first second
  have sorted := List.pairwise_mergeSort transitive total catalog.themes.keys
  have distinct : catalog.names.Nodup :=
    (List.mergeSort_perm _ _).nodup_iff.mpr catalog.themes.distinct
  refine sorted.imp₂ (fun first second ordered differs => ?_) distinct
  exact Std.lt_of_le_of_ne (of_decide_eq_true ordered) differs

end Names

section Growing
variable {catalog : Catalog} {name : String} {theme : Theme}

theorem get?_put (catalog : Catalog) (name other : String) (theme : Theme) :
    (catalog.put name theme).get? other =
      if name = other then some theme else catalog.get? other :=
  OrderedMap.get?_insert ..

theorem sound_put (sound : catalog.Sound) (named : theme.name = .text name)
    (hashed : theme.Hashed) : (catalog.put name theme).Sound := by
  constructor
  all_goals
    intro other found held
    rw [get?_put] at held
    split at held
  · rename_i same
    cases held
    exact same ▸ named
  · exact sound.named other found held
  · cases held
    exact hashed
  · exact sound.hashed other found held

theorem sound_builtIn : builtIn.Sound := by
  have slots : ∀ theme ∈ builtIns, ∀ slot ∈ Slot.all,
      (theme.colors slot).toList.head? = some '#' := by
    decide +kernel
  have each : ∀ theme ∈ builtIns, theme.name = .text theme.name.toText ∧ theme.palette = none := by
    intro theme member
    fin_cases member <;> exact ⟨rfl, rfl⟩
  have among : ∀ name theme, builtIn.get? name = some theme →
      theme ∈ builtIns ∧ name = theme.name.toText := by
    intro name theme held
    rcases OrderedMap.mem_insertAll (OrderedMap.mem_of_find held) with old | new
    · cases old
    · obtain ⟨other, member, same⟩ := List.mem_map.mp new
      cases same
      exact ⟨member, rfl⟩
  constructor
  · intro name theme held
    obtain ⟨member, rfl⟩ := among name theme held
    exact (each theme member).1
  · intro name theme held
    obtain ⟨member, _⟩ := among name theme held
    refine ⟨fun slot => slots theme member slot (Slot.mem_all slot), fun palette own => ?_⟩
    rw [(each theme member).2] at own
    cases own

theorem sound_withSchemes (sound : catalog.Sound) {schemes : List (Value × Value)}
    {grown : Catalog} (done : catalog.withSchemes schemes = .ok grown) : grown.Sound := by
  fun_induction withSchemes catalog schemes with
  | case1 catalog =>
      cases done
      exact sound
  | case2 catalog name scheme rest inductionHypothesis =>
      obtain ⟨theme, made, done⟩ := bind_eq_ok_iff.mp done
      obtain ⟨named, hashed⟩ := hashed_ofTerminalScheme made
      exact inductionHypothesis theme (sound_put sound named hashed) done
  | case3 catalog entry rest noScheme inductionHypothesis => exact inductionHypothesis sound done

theorem sound_load {host : Host} {path : Option Path}
    (loaded : (load host path).outcome = .ok catalog) : catalog.Sound := by
  have builtInOnly {warnings : List Warning}
      (done : (Report.noted warnings builtIn : Report LoadFault Catalog).outcome = .ok catalog) :
      catalog.Sound := by
    cases done
    exact sound_builtIn
  cases path with
  | none => exact builtInOnly loaded
  | some path =>
      rw [load, ofFile] at loaded
      split at loaded
      · split at loaded
        · exact builtInOnly loaded
        · cases loaded
      · cases loaded
      · split at loaded
        · exact builtInOnly loaded
        · cases loaded
        · exact sound_withSchemes sound_builtIn (mapError_eq_ok_iff.mp loaded)
        · exact builtInOnly loaded

end Growing

section Calls
variable {catalog : Catalog}

/-- The two ways that a call can go: the catalog stays as it is, or it takes in a theme under the
name of that theme, which is the answer then. -/
inductive Performed (catalog : Catalog) : Catalog → Except CallFault Answer → Prop
  | kept {outcome : Except CallFault Answer}
      (nothing : ∀ theme, outcome ≠ .ok (.adopted (some theme))) :
      Performed catalog catalog outcome
  | grown {name : String} {theme : Theme} (named : theme.name = .text name)
      (hashed : theme.Hashed) :
      Performed catalog (catalog.put name theme) (.ok (.adopted (some theme)))

theorem add_ok {theme : Theme} {grown : Catalog} (added : catalog.add theme = .ok grown) :
    ∃ name, theme.name = .text name ∧ grown = catalog.put name theme := by
  unfold add at added
  split at added
  · rename_i name named
    cases added
    exact ⟨name, named, rfl⟩
  · cases added

theorem performed_adopt (catalog : Catalog) (text : String) :
    Performed catalog (catalog.settle (catalog.adopt text)).1
      (catalog.settle (catalog.adopt text)).2.outcome := by
  unfold settle
  split
  · rename_i grown answer done
    rw [adopt, Report.outcome_bind] at done
    obtain ⟨imported, read, done⟩ := bind_eq_ok_iff.mp done
    cases imported with
    | none =>
        cases done
        exact .kept nofun
    | some theme =>
        obtain ⟨scheme, _, made⟩ := ofYaml_ok (mapError_eq_ok_iff.mp read)
        simp only [Report.outcome_bind] at done
        obtain ⟨after, added, ⟨⟩⟩ := bind_eq_ok_iff.mp done
        obtain ⟨name, named, rfl⟩ := add_ok (mapError_eq_ok_iff.mp added)
        exact .grown named (hashed_ofScheme made)
  · exact .kept nofun

theorem performed_perform (catalog : Catalog) (call : Call) :
    Performed catalog (catalog.perform call).1 (catalog.perform call).2.outcome := by
  cases call with
  | find name =>
      refine .kept fun theme => ?_
      cases found : catalog.find name <;>
        simp [perform, found, Report.ofExcept, Except.map]
  | names => exact .kept nofun
  | adopt text => exact performed_adopt catalog text
  | adoptFile host path =>
      rw [perform, adoptFile]
      cases host.readText path with
      | error fault => exact .kept nofun
      | ok text => exact performed_adopt catalog text

theorem Performed.sound {after : Catalog} {outcome : Except CallFault Answer}
    (performed : Performed catalog after outcome) (sound : catalog.Sound) : after.Sound := by
  cases performed with
  | kept nothing => exact sound
  | grown named hashed => exact sound_put sound named hashed

theorem sound_session (sound : catalog.Sound) (calls : List Call) :
    (catalog.session calls).1.Sound := by
  induction calls generalizing catalog with
  | nil => exact sound
  | cons call rest inductionHypothesis =>
      exact inductionHypothesis ((performed_perform catalog call).sound sound)

end Calls

/-- Nothing changes but by the theme that an answer holds, which is there under its name then. -/
def ChangesByAnswer (before after : Catalog) : Except CallFault Answer → Prop
  | .ok (.adopted (some theme)) =>
      after.find theme.name = .ok (some theme) ∧
        ∀ name, theme.name ≠ .text name → after.get? name = before.get? name
  | _ => after = before

theorem Performed.changesByAnswer {catalog after : Catalog} {outcome : Except CallFault Answer}
    (performed : Performed catalog after outcome) : ChangesByAnswer catalog after outcome := by
  cases performed with
  | kept nothing =>
      unfold ChangesByAnswer
      split
      · exact absurd rfl (nothing _)
      · rfl
  | @grown name theme named hashed =>
      refine ⟨?_, fun other differs => ?_⟩
      · rw [named, find, get?_put, if_pos rfl]
      · rw [get?_put, if_neg]
        rintro rfl
        exact differs named

/-- After any calls, failed ones included, a catalog that was loaded is sound, lists its names in
order, and changes with the next call only by the theme of an import that succeeds. -/
theorem session_load {host : Host} {path : Option Path} {catalog : Catalog}
    (loaded : (load host path).outcome = .ok catalog) (calls : List Call) (call : Call) :
    let reached := (catalog.session calls).1
    reached.Sound ∧ reached.names.Pairwise (· < ·) ∧
      (∀ name, name ∈ reached.names ↔ ∃ theme, reached.get? name = some theme) ∧
      ChangesByAnswer reached (reached.perform call).1 (reached.perform call).2.outcome := by
  intro reached
  exact ⟨sound_session (sound_load loaded) calls, pairwise_names reached, fun _ => mem_names,
    (performed_perform reached call).changesByAnswer⟩

/-- A terminal scheme with one colour only, and calls that fail in between. -/
theorem session_load_terminal_scheme :
    let content := "\x7b\"Dusk\": \x7b\"background\": \"102030\"\x7d\x7d".toUTF8
    let host : Host := { files := ⟨.ofList [(["t.json"], .file content)]⟩ }
    ∃ catalog, (load host (some (.ofText "t.json"))).outcome = .ok catalog ∧
      let reached := (catalog.session [.find (.list []), .adopt "[", .adoptFile {} (.ofText "d")]).1
      let call := Call.adopt "\x7bname: Dusk, palette: \x7b\x7d\x7d"
      reached.Sound ∧ reached.names.Pairwise (· < ·) ∧
        (∀ name, name ∈ reached.names ↔ ∃ theme, reached.get? name = some theme) ∧
        ChangesByAnswer reached (reached.perform call).1 (reached.perform call).2.outcome := by
  intro content host
  have succeeds : (load host (some (.ofText "t.json"))).outcome.toOption.isSome := by
    decide +kernel
  obtain ⟨catalog, loaded⟩ := exists_ok_of_isSome succeeds
  exact ⟨catalog, loaded, session_load loaded _ _⟩

end ShellPrompt.Theme.Catalog
