import ShellPrompt.Template.Bindings

/-!
Optional groups `( ... )` of a template. A group stays, without its parentheses, if it refers to no
variable or to one that has a text; otherwise it goes with everything in it. A parenthesis right
behind a closing bracket opens a style and no group.
-/

namespace ShellPrompt.Template

/-- The tokens up to the parenthesis that closes a group with `depth` groups open inside it, and
the tokens behind that parenthesis. -/
def closeGroup (depth : Nat) : List Token → Option (List Token × List Token)
  | [] => none
  | token :: rest =>
      let deeper := fun depth : Nat =>
        (closeGroup depth rest).map fun (inner, after) => (token :: inner, after)
      if token = .plain '(' then deeper (depth + 1)
      else if token = .plain ')' then
        match depth with
        | 0 => some ([], rest)
        | depth + 1 => deeper depth
      else deeper depth

theorem eq_append_of_closeGroup {depth : Nat} {tokens inner after : List Token}
    (closed : closeGroup depth tokens = some (inner, after)) :
    tokens = inner ++ .plain ')' :: after := by
  induction tokens generalizing depth inner with
  | nil => simp [closeGroup] at closed
  | cons token rest inductionHypothesis =>
      have step : ∀ depth : Nat,
          (closeGroup depth rest).map (fun (inner, after) => (token :: inner, after)) =
            some (inner, after) → token :: rest = inner ++ .plain ')' :: after := by
        intro depth found
        obtain ⟨⟨first, last⟩, here, same⟩ := Option.map_eq_some_iff.mp found
        simp only [Prod.mk.injEq] at same
        obtain ⟨rfl, rfl⟩ := same
        rw [inductionHypothesis here, List.cons_append]
      simp only [closeGroup] at closed
      split at closed
      · exact step _ closed
      · split at closed
        · rename_i isClose
          split at closed
          · simp only [Option.some.injEq, Prod.mk.injEq] at closed
            obtain ⟨rfl, rfl⟩ := closed
            simp [isClose]
          · exact step _ closed
        · exact step _ closed

def isVisible (bindings : Bindings) (inner : List Token) : Bool :=
  (names inner).isEmpty || (names inner).any fun name => bindings.lookUp name != []

/-- The tokens that are left of a template; `behindBracket` says whether a closing bracket stands
right before them. -/
def resolveGroups (bindings : Bindings) (behindBracket : Bool) : List Token → List Token
  | [] => []
  | token :: rest =>
      if token = .plain '(' ∧ behindBracket = false then
        match _closed : closeGroup 0 rest with
        | some (inner, after) =>
            (if isVisible bindings inner then resolveGroups bindings false inner else []) ++
              resolveGroups bindings false after
        | none => token :: resolveGroups bindings false rest
      else token :: resolveGroups bindings (token = .plain ']') rest
termination_by tokens => tokens.length
decreasing_by
  all_goals first
    | (have shorter := congrArg List.length (eq_append_of_closeGroup _closed)
       simp only [List.length_append, List.length_cons] at shorter ⊢
       omega)
    | simp only [List.length_cons]; omega

/-- The text of a template once its groups are resolved. -/
def resolveOptionalGroups (template : String) (bindings : Bindings) : String :=
  String.ofList (Token.joined (resolveGroups bindings false (scan template.toList)))

end ShellPrompt.Template
