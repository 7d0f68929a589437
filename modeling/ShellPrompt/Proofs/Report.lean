import ShellPrompt.Report

/-!
What the outcome of a computation says about its steps: it has a value if all of them have, and its
fault is that of one of them. Reports that warn and fail alike differ in their values only.
-/

namespace ShellPrompt

section Outcomes
variable {ε δ α β : Type}

theorem bind_eq_ok_iff {first : Except ε α} {next : α → Except ε β} {result : β} :
    first >>= next = .ok result ↔ ∃ value, first = .ok value ∧ next value = .ok result := by
  cases first <;> simp [bind, Except.bind]

theorem bind_eq_error_iff {first : Except ε α} {next : α → Except ε β} {fault : ε} :
    first >>= next = .error fault ↔
      first = .error fault ∨ ∃ value, first = .ok value ∧ next value = .error fault := by
  cases first <;> simp [bind, Except.bind]

@[simp]
theorem mapError_ok (value : α) (change : ε → δ) :
    (Except.ok value : Except ε α).mapError change = .ok value := rfl

@[simp]
theorem mapError_error (fault : ε) (change : ε → δ) :
    (Except.error fault : Except ε α).mapError change = .error (change fault) := rfl

theorem mapError_eq_ok_iff {outcome : Except ε α} {change : ε → δ} {value : α} :
    outcome.mapError change = .ok value ↔ outcome = .ok value := by
  cases outcome <;> simp

theorem mapError_eq_error_iff {outcome : Except ε α} {change : ε → δ} {fault : δ} :
    outcome.mapError change = .error fault ↔
      ∃ cause, outcome = .error cause ∧ change cause = fault := by
  cases outcome <;> simp

theorem map_eq_ok_iff {outcome : Except ε α} {change : α → β} {result : β} :
    outcome.map change = .ok result ↔ ∃ value, outcome = .ok value ∧ change value = result := by
  cases outcome <;> simp [Except.map]

theorem exists_map_iff {outcome : Except ε α} {change : α → β} :
    (∃ result, outcome.map change = .ok result) ↔ ∃ value, outcome = .ok value := by
  cases outcome <;> simp [Except.map]

theorem map_eq_error_iff {outcome : Except ε α} {change : α → β} {fault : ε} :
    outcome.map change = .error fault ↔ outcome = .error fault := by
  cases outcome <;> simp [Except.map]

theorem exists_error_iff {outcome : Except ε α} :
    (∃ fault, outcome = .error fault) ↔ ¬ ∃ value, outcome = .ok value := by
  cases outcome <;> simp

theorem exists_error_mapError_iff {outcome : Except ε α} {change : ε → δ} :
    (∃ fault, outcome.mapError change = .error fault) ↔ ∃ fault, outcome = .error fault := by
  cases outcome <;> simp

theorem exists_error_map_iff {outcome : Except ε α} {change : α → β} :
    (∃ fault, outcome.map change = .error fault) ↔ ∃ fault, outcome = .error fault := by
  cases outcome <;> simp [Except.map]

theorem exists_error_bind_iff {first : Except ε α} {next : α → Except ε β} :
    (∃ fault, first >>= next = .error fault) ↔
      (∃ fault, first = .error fault) ∨
        ∃ value, first = .ok value ∧ ∃ fault, next value = .error fault := by
  cases first <;> simp [bind, Except.bind]

/-- What follows the first step of a computation may fail or not whatever the value of that. -/
theorem exists_error_bind_iff_or {first : Except ε α} {next : α → Except ε β} {rest : Prop}
    (later : ∀ value, first = .ok value → ((∃ fault, next value = .error fault) ↔ rest)) :
    (∃ fault, first >>= next = .error fault) ↔ (∃ fault, first = .error fault) ∨ rest := by
  cases first with
  | error fault => simp [bind, Except.bind]
  | ok value => simpa [bind, Except.bind] using later value rfl

theorem exists_error_bind_ok_iff {first : Except ε α} {result : α → β} :
    (∃ fault, (first >>= fun value => .ok (result value)) = .error fault) ↔
      ∃ fault, first = .error fault := by
  cases first <;> simp [bind, Except.bind]

theorem exists_bind_ok_iff {first : Except ε α} {result : α → β} :
    (∃ last, (first >>= fun value => .ok (result value)) = .ok last) ↔
      ∃ value, first = .ok value := by
  cases first <;> simp [bind, Except.bind]

theorem mem_of_mapM_eq_ok {make : α → Except ε β} {items : List α} {results : List β}
    (done : items.mapM make = .ok results) {result : β} (member : result ∈ results) :
    ∃ item ∈ items, make item = .ok result := by
  induction items generalizing results with
  | nil =>
      cases done
      cases member
  | cons item items inductionHypothesis =>
      rw [List.mapM_cons] at done
      obtain ⟨first, made, done⟩ := bind_eq_ok_iff.mp done
      obtain ⟨others, later, done⟩ := bind_eq_ok_iff.mp done
      cases done
      rcases List.mem_cons.mp member with rfl | member
      · exact ⟨item, List.mem_cons_self, made⟩
      · obtain ⟨other, inside, found⟩ := inductionHypothesis later member
        exact ⟨other, .tail _ inside, found⟩

theorem exists_mapM_iff {make : α → Except ε β} {items : List α} :
    (∃ results, items.mapM make = .ok results) ↔
      ∀ item ∈ items, ∃ result, make item = .ok result := by
  induction items with
  | nil => simp [pure, Except.pure]
  | cons item items inductionHypothesis =>
      rw [List.forall_mem_cons, ← inductionHypothesis, List.mapM_cons]
      cases make item with
      | error fault => simp [bind, Except.bind]
      | ok result => cases items.mapM make <;> simp [bind, Except.bind, pure, Except.pure]

theorem toOption_eq_some_iff {outcome : Except ε α} {value : α} :
    outcome.toOption = some value ↔ outcome = .ok value := by
  cases outcome <;> simp [Except.toOption]

theorem exists_ok_of_any {outcome : Except ε α} {test : α → Bool}
    (passes : outcome.toOption.any test) : ∃ value, outcome = .ok value ∧ test value := by
  cases outcome with
  | error fault => cases passes
  | ok value => exact ⟨value, rfl, passes⟩

theorem of_all_toOption {outcome : Except ε α} {test : α → Bool}
    (passes : outcome.toOption.all test) {value : α} (done : outcome = .ok value) :
    test value = true := by
  subst done
  exact passes

theorem exists_ok_of_isSome {outcome : Except ε α} (done : outcome.toOption.isSome) :
    ∃ value, outcome = .ok value := by
  cases outcome with
  | error fault => cases done
  | ok value => exact ⟨value, rfl⟩

end Outcomes

namespace Report

section Alike
variable {ε δ α β : Type}

/-- Two reports with the same warnings that have the same fault, or values that are related. -/
inductive Alike (related : α → β → Prop) : Report ε α → Report ε β → Prop
  | fault (warnings : List Warning) (fault : ε) :
      Alike related ⟨warnings, .error fault⟩ ⟨warnings, .error fault⟩
  | value (warnings : List Warning) {first : α} {second : β} (holds : related first second) :
      Alike related ⟨warnings, .ok first⟩ ⟨warnings, .ok second⟩

theorem Alike.refl {related : α → α → Prop} (reflexive : ∀ value, related value value)
    (report : Report ε α) : Alike related report report := by
  rcases report with ⟨warnings, fault | value⟩
  · exact .fault warnings fault
  · exact .value warnings (reflexive value)

theorem Alike.after {related : α → β → Prop} {first : Report ε α} {second : Report ε β}
    (alike : Alike related first second) (earlier : List Warning) :
    Alike related ⟨earlier ++ first.warnings, first.outcome⟩
      ⟨earlier ++ second.warnings, second.outcome⟩ := by
  cases alike with
  | fault warnings fault => exact .fault _ fault
  | value warnings holds => exact .value _ holds

/-- Computations that go on alike from related values are alike. -/
theorem Alike.bind {α' β' : Type} {related : α → β → Prop} {first : Report ε α}
    {second : Report ε β} (alike : Alike related first second) {later : α' → β' → Prop}
    {next : α → Report ε α'} {other : β → Report ε β'}
    (each : ∀ value result, related value result → Alike later (next value) (other result)) :
    Alike later (first >>= next) (second >>= other) := by
  cases alike with
  | fault warnings fault => exact .fault warnings fault
  | value warnings holds =>
      change Alike later (Report.bind _ next) (Report.bind _ other)
      rw [bind_ok next rfl, bind_ok other rfl]
      exact (each _ _ holds).after warnings

theorem Alike.mapFault {related : α → β → Prop} {first : Report ε α} {second : Report ε β}
    (alike : Alike related first second) (change : ε → δ) :
    Alike related (first.mapFault change) (second.mapFault change) := by
  cases alike with
  | fault warnings fault => exact .fault warnings (change fault)
  | value warnings holds => exact .value warnings holds

theorem Alike.warnings {related : α → β → Prop} {first : Report ε α} {second : Report ε β}
    (alike : Alike related first second) : first.warnings = second.warnings := by
  cases alike <;> rfl

/-- Where the first of two reports that are alike has a fault, they are the same. -/
theorem Alike.eq_of_error {related : α → α → Prop} {first second : Report ε α}
    (alike : Alike related first second) {fault : ε} (failed : first.outcome = .error fault) :
    first = second := by
  cases alike with
  | fault => rfl
  | value => cases failed

end Alike

end Report

end ShellPrompt
