import ShellPrompt.Warning

/-!
The outcome of a computation together with the warnings given on the way, which stay when it fails.
-/

namespace ShellPrompt

structure Report (ε α : Type) where
  warnings : List Warning := []
  outcome : Except ε α

namespace Report

variable {ε δ α β : Type}

def fail (fault : ε) : Report ε α := { outcome := .error fault }

def warn (warnings : List Warning) : Report ε Unit := { warnings, outcome := .ok () }

def ofExcept (outcome : Except ε α) : Report ε α := { outcome }

def noted (warnings : List Warning) (value : α) : Report ε α := { warnings, outcome := .ok value }

def bind (report : Report ε α) (next : α → Report ε β) : Report ε β :=
  match report.outcome with
  | .error fault => { warnings := report.warnings, outcome := .error fault }
  | .ok value =>
      { warnings := report.warnings ++ (next value).warnings, outcome := (next value).outcome }

instance : Monad (Report ε) where
  pure value := { outcome := .ok value }
  bind := bind

def mapFault (change : ε → δ) (report : Report ε α) : Report δ α :=
  { warnings := report.warnings, outcome := report.outcome.mapError change }

@[simp]
theorem outcome_pure (value : α) : (pure value : Report ε α).outcome = .ok value := rfl

@[simp]
theorem warnings_pure (value : α) : (pure value : Report ε α).warnings = [] := rfl

theorem bind_ok {report : Report ε α} {value : α} (next : α → Report ε β)
    (done : report.outcome = .ok value) :
    report.bind next =
      { warnings := report.warnings ++ (next value).warnings,
        outcome := (next value).outcome } := by
  simp [bind, done]

theorem bind_error {report : Report ε α} {fault : ε} (next : α → Report ε β)
    (failed : report.outcome = .error fault) :
    report.bind next = { warnings := report.warnings, outcome := .error fault } := by
  simp [bind, failed]

theorem outcome_bind (report : Report ε α) (next : α → Report ε β) :
    (report >>= next).outcome = report.outcome >>= fun value => (next value).outcome := by
  change (report.bind next).outcome = _
  cases done : report.outcome with
  | error fault => rw [bind_error next done]; rfl
  | ok value => rw [bind_ok next done]; rfl

theorem bind_assoc {γ : Type} (report : Report ε α) (first : α → Report ε β)
    (second : β → Report ε γ) :
    (report.bind first).bind second = report.bind fun value => (first value).bind second := by
  cases done : report.outcome with
  | error fault => simp [bind, done]
  | ok value => cases next : (first value).outcome <;> simp [bind, done, next]

instance : LawfulMonad (Report ε) :=
  LawfulMonad.mk' _
    (fun report => by
      rcases report with ⟨warnings, _ | value⟩
      · rfl
      · exact congrArg (Report.mk · (.ok value)) (List.append_nil warnings))
    (fun _ _ => rfl)
    (fun report first second => bind_assoc report first second)

end Report

end ShellPrompt
