import Mathlib.Data.List.Basic
import ShellPrompt.Proofs.Template.Positions

/-!
The tokens that are left when the optional groups of a template are resolved. A token stays if it is
no parenthesis of a group and every group around it is shown; resolving the groups one inside the
other leaves exactly these tokens.
-/

namespace ShellPrompt.Template

/-- A parenthesis that nothing closes is a token like any other. -/
theorem resolveGroups_unclosed (bindings : Bindings) {rest : List Token}
    (unclosed : closeGroup 0 rest = none) :
    resolveGroups bindings false (.plain '(' :: rest) =
      .plain '(' :: resolveGroups bindings false rest := by
  rw [resolveGroups, if_pos ⟨rfl, rfl⟩]
  split
  · rename_i closed
    rw [unclosed] at closed
    cases closed
  · rfl

section Visible

/-- The tokens between the parentheses of a group. -/
def between (tokens : List Token) (start finish : Nat) : List Token :=
  (tokens.take finish).drop (start + 1)

/-- Whether a group with these tokens inside is shown: it refers to no variable, or to one that has
a text. -/
def Shown (bindings : Bindings) (inner : List Token) : Prop :=
  (∀ token ∈ inner, token.name? = none) ∨
    ∃ token ∈ inner, ∃ name ∈ token.name?, bindings.lookUp name ≠ []

/-- A token stays if it is no parenthesis of a group, and every group around it is shown. -/
def Stays (bindings : Bindings) (behindBracket : Bool) (tokens : List Token) (position : Nat) :
    Prop :=
  ∀ group ∈ groups behindBracket tokens, position ≠ group.1 ∧ position ≠ group.2 ∧
    (group.1 < position → position < group.2 → Shown bindings (between tokens group.1 group.2))

instance (bindings : Bindings) (inner : List Token) : Decidable (Shown bindings inner) :=
  inferInstanceAs (Decidable (_ ∨ _))

instance (bindings : Bindings) (behindBracket : Bool) (tokens : List Token) :
    DecidablePred (Stays bindings behindBracket tokens) := fun _ =>
  inferInstanceAs (Decidable (∀ group ∈ groups behindBracket tokens, _))

/-- The tokens whose positions pass a test, in their order. -/
def keepAt (keep : Nat → Bool) (tokens : List Token) : List Token :=
  (tokens.zipIdx.filter fun entry => keep entry.2).map Prod.fst

/-- The tokens of a template that stay. -/
def stayingTokens (bindings : Bindings) (behindBracket : Bool) (tokens : List Token) : List Token :=
  keepAt (fun position => Stays bindings behindBracket tokens position) tokens

theorem keepAt_append (keep : Nat → Bool) (first second : List Token) :
    keepAt keep (first ++ second) =
      keepAt keep first ++ keepAt (fun position => keep (first.length + position)) second := by
  have shifted : second.zipIdx first.length =
      second.zipIdx.map fun entry => (entry.1, first.length + entry.2) :=
    List.zipIdx_eq_map_add
  rw [keepAt, List.zipIdx_append, Nat.zero_add, shifted, List.filter_append, List.map_append,
    List.filter_map, List.map_map]
  rfl

theorem keepAt_congr {keep other : Nat → Bool} {tokens : List Token}
    (same : ∀ position, position < tokens.length → keep position = other position) :
    keepAt keep tokens = keepAt other tokens := by
  rw [keepAt, keepAt]
  congr 1
  apply List.filter_congr
  rintro ⟨token, position⟩ member
  exact same position (by simpa using (List.mem_zipIdx member).2.1)

/-- A test that more positions pass keeps more tokens. -/
theorem keepAt_mono {keep other : Nat → Bool} (passes : ∀ position, keep position → other position)
    (tokens : List Token) : (keepAt keep tokens).Sublist (keepAt other tokens) := by
  apply List.Sublist.map
  apply List.monotone_filter_right
  exact fun entry => passes entry.2

theorem keepAt_singleton (keep : Nat → Bool) (token : Token) :
    keepAt keep [token] = if keep 0 then [token] else [] := by
  rw [keepAt, List.zipIdx_singleton, List.filter_cons]
  split <;> rfl

theorem keepAt_sublist (keep : Nat → Bool) (tokens : List Token) :
    (keepAt keep tokens).Sublist tokens := by
  have part : (keepAt keep tokens).Sublist (tokens.zipIdx.map Prod.fst) :=
    List.filter_sublist.map Prod.fst
  rwa [List.zipIdx_map_fst] at part

theorem between_sublist (tokens : List Token) (start finish : Nat) :
    (between tokens start finish).Sublist tokens :=
  (List.drop_sublist _ _).trans (List.take_sublist _ _)

theorem shown_iff {bindings : Bindings} {inner : List Token} :
    Shown bindings inner ↔ isVisible bindings inner = true := by
  simp only [Shown, isVisible, names, Bool.or_eq_true, List.isEmpty_iff,
    List.filterMap_eq_nil_iff, List.any_eq_true, List.mem_filterMap, bne_iff_ne]
  refine or_congr_right ⟨?_, ?_⟩
  · rintro ⟨token, member, name, named, filled⟩
    exact ⟨name, ⟨token, member, named⟩, filled⟩
  · rintro ⟨name, ⟨token, member, named⟩, filled⟩
    exact ⟨token, member, name, named, filled⟩

theorem between_append_left {first : List Token} (second : List Token) {start finish : Nat}
    (within : finish ≤ first.length) :
    between (first ++ second) start finish = between first start finish := by
  rw [between, List.take_append_of_le_length within, between]

theorem between_append_right (first second : List Token) (start finish : Nat) :
    between (first ++ second) (first.length + start) (first.length + finish) =
      between second start finish := by
  rw [between, List.take_length_add_append, Nat.add_assoc, List.drop_length_add_append, between]

variable {bindings : Bindings} {behindBracket : Bool}

theorem stays_iff {tokens : List Token} {position : Nat} :
    Stays bindings behindBracket tokens position ↔
      ∀ start finish, IsGroup behindBracket tokens start finish →
        position ≠ start ∧ position ≠ finish ∧ (start < position → position < finish →
          Shown bindings (between tokens start finish)) := by
  constructor
  · intro stays start finish group
    exact stays (start, finish) (mem_groups.mpr group)
  · rintro stays ⟨start, finish⟩ member
    exact stays start finish (mem_groups.mp member)

/-- Behind tokens whose groups close among them, the rest is left to its own groups. -/
theorem stays_append_right (first second : List Token)
    (apart : ∀ start finish, IsGroup behindBracket (first ++ second) start finish →
      start < first.length → finish < first.length) (position : Nat) :
    Stays bindings behindBracket (first ++ second) (first.length + position) ↔
      Stays bindings (followsBracket behindBracket first first.length) second position := by
  rw [stays_iff, stays_iff]
  constructor
  · intro stays start finish group
    have here := stays _ _ ((isGroup_append_right first second).mpr group)
    rw [between_append_right] at here
    exact ⟨by omega, by omega, fun behind before => here.2.2 (by omega) (by omega)⟩
  · intro stays start finish group
    by_cases inside : start < first.length
    · have within := apart start finish group inside
      exact ⟨by omega, by omega, fun _ before => by omega⟩
    · have later := group.closes.behind
      obtain ⟨first', rfl⟩ := Nat.exists_eq_add_of_le (Nat.not_lt.mp inside)
      obtain ⟨last, rfl⟩ : ∃ last, finish = first.length + last :=
        Nat.exists_eq_add_of_le (by omega)
      have here := stays first' last ((isGroup_append_right first second).mp group)
      rw [between_append_right]
      exact ⟨by omega, by omega, fun behind before => here.2.2 (by omega) (by omega)⟩

/-- A token that starts no group stays in front of what stays of the others. -/
theorem stayingTokens_cons {token : Token} {rest : List Token}
    (noGroup : ∀ finish, ¬ IsGroup behindBracket (token :: rest) 0 finish) :
    stayingTokens bindings behindBracket (token :: rest) =
      token :: stayingTokens bindings (token = .plain ']') rest := by
  have positive {start finish : Nat} (group : IsGroup behindBracket (token :: rest) start finish) :
      0 < start := by
    apply Nat.pos_of_ne_zero
    rintro rfl
    exact noGroup finish group
  have head : Stays bindings behindBracket (token :: rest) 0 := by
    rw [stays_iff]
    intro start finish group
    have first := positive group
    have later := group.closes.behind
    exact ⟨by omega, by omega, fun before => by omega⟩
  have tail (position : Nat) : Stays bindings behindBracket (token :: rest) (1 + position) ↔
      Stays bindings (token = .plain ']') rest position := by
    refine (stays_append_right [token] rest ?_ position).trans ?_
    · intro start finish group inside
      have first := positive group
      rw [List.length_singleton] at inside
      omega
    · simp [followsBracket]
  have split := keepAt_append
    (fun position => Stays bindings behindBracket (token :: rest) position) [token] rest
  rw [keepAt_singleton, if_pos (decide_eq_true head)] at split
  simp only [List.length_singleton, tail] at split
  exact split

section Group
variable {rest inner after : List Token}

theorem between_outer (closed : closeGroup 0 rest = some (inner, after)) :
    between (.plain '(' :: rest) 0 (inner.length + 1) = inner := by
  rw [eq_append_of_closeGroup closed]
  simp [between]

theorem between_inner (closed : closeGroup 0 rest = some (inner, after)) {start finish : Nat}
    (within : finish ≤ inner.length) :
    between (.plain '(' :: rest) (start + 1) (finish + 1) = between inner start finish := by
  rw [eq_append_of_closeGroup closed, Nat.add_comm start, Nat.add_comm finish]
  exact (between_append_right [.plain '('] _ start finish).trans (between_append_left _ within)

theorem stays_inner (closed : closeGroup 0 rest = some (inner, after)) {position : Nat}
    (within : position < inner.length) :
    Stays bindings false (.plain '(' :: rest) (1 + position) ↔
      Shown bindings inner ∧ Stays bindings false inner position := by
  rw [stays_iff, stays_iff]
  constructor
  · intro stays
    refine ⟨?_, ?_⟩
    · rw [← between_outer closed]
      exact (stays _ _ (isGroup_outer closed)).2.2 (by omega) (by omega)
    · intro start finish group
      have here := stays _ _ (isGroup_inner closed group)
      rw [between_inner closed (Nat.le_of_lt group.closes.within)] at here
      exact ⟨by omega, by omega, fun behind before => here.2.2 (by omega) (by omega)⟩
  · rintro ⟨shown, stays⟩ start finish group
    rcases isGroup_cases closed group with ⟨rfl, rfl⟩ | ⟨first, last, rfl, rfl, inside⟩ |
      ⟨first, last, rfl, rfl, _⟩
    · rw [between_outer closed]
      exact ⟨by omega, by omega, fun _ _ => shown⟩
    · have here := stays first last inside
      rw [between_inner closed (Nat.le_of_lt inside.closes.within)]
      exact ⟨by omega, by omega, fun behind before => here.2.2 (by omega) (by omega)⟩
    · exact ⟨by omega, by omega, fun behind => by omega⟩

theorem stays_after (closed : closeGroup 0 rest = some (inner, after)) (position : Nat) :
    Stays bindings false (.plain '(' :: rest) (inner.length + 2 + position) ↔
      Stays bindings false after position := by
  have apart (start finish : Nat) (group : IsGroup false (.plain '(' :: rest) start finish)
      (before : start < inner.length + 2) : finish < inner.length + 2 := by
    rcases isGroup_cases closed group with ⟨_, rfl⟩ | ⟨first, last, _, rfl, inside⟩ |
      ⟨first, last, rfl, _, _⟩
    · omega
    · have within := inside.closes.within
      omega
    · omega
  rw [open_cons_eq closed] at apart ⊢
  rw [← length_open_close inner] at apart ⊢
  rw [stays_append_right _ _ apart, followsBracket_open_close]

/-- A test of positions in a template that starts with a group, part by part. -/
theorem keepAt_open_cons (closed : closeGroup 0 rest = some (inner, after)) (keep : Nat → Bool) :
    keepAt keep (.plain '(' :: rest) =
      (if keep 0 then [.plain '('] else []) ++
        (keepAt (fun position => keep (1 + position)) inner ++
          ((if keep (inner.length + 1) then [.plain ')'] else []) ++
            keepAt (fun position => keep (inner.length + 2 + position)) after)) := by
  have parts : .plain '(' :: rest = [.plain '('] ++ (inner ++ ([.plain ')'] ++ after)) := by
    rw [eq_append_of_closeGroup closed]
    rfl
  have second : 1 + (inner.length + 0) = inner.length + 1 := by omega
  have third (position : Nat) :
      1 + (inner.length + (1 + position)) = inner.length + 2 + position := by omega
  rw [parts, keepAt_append, keepAt_append, keepAt_append, keepAt_singleton, keepAt_singleton]
  simp only [List.length_singleton, second, third]

/-- A group that is not shown goes with everything in it, another one only loses its parentheses. -/
theorem stayingTokens_group (closed : closeGroup 0 rest = some (inner, after)) :
    stayingTokens bindings false (.plain '(' :: rest) =
      (if Shown bindings inner then stayingTokens bindings false inner else []) ++
        stayingTokens bindings false after := by
  have outer := isGroup_outer closed
  have opening : decide (Stays bindings false (.plain '(' :: rest) 0) = false :=
    decide_eq_false fun stays => (stays_iff.mp stays _ _ outer).1 rfl
  have closing : decide (Stays bindings false (.plain '(' :: rest) (inner.length + 1)) = false :=
    decide_eq_false fun stays => (stays_iff.mp stays _ _ outer).2.1 rfl
  have inside : keepAt (fun position => Stays bindings false (.plain '(' :: rest) (1 + position))
      inner = if Shown bindings inner then stayingTokens bindings false inner else [] := by
    by_cases shown : Shown bindings inner
    · rw [if_pos shown]
      apply keepAt_congr
      intro position within
      simp only [stays_inner closed within, shown, true_and]
    · have none : keepAt (fun _ => false) inner = [] := by simp [keepAt]
      rw [if_neg shown, ← none]
      apply keepAt_congr
      intro position within
      simp only [stays_inner closed within, shown, false_and, decide_false]
  rw [stayingTokens, keepAt_open_cons closed, inside, opening, closing]
  simp only [Bool.false_eq_true, if_false, List.nil_append, stays_after closed]
  rfl

end Group

/-- Resolving the groups of a template one inside the other leaves the tokens that stay. -/
theorem resolveGroups_eq_stayingTokens (tokens : List Token) :
    resolveGroups bindings behindBracket tokens = stayingTokens bindings behindBracket tokens := by
  induction behindBracket, tokens using resolveGroups.induct with
  | case1 behindBracket =>
      rw [resolveGroups]
      rfl
  | case2 behindBracket token rest opens inner after closed innerHypothesis afterHypothesis =>
      obtain ⟨rfl, rfl⟩ := opens
      rw [resolveGroups_group bindings closed, stayingTokens_group closed, innerHypothesis,
        afterHypothesis]
      simp only [shown_iff]
  | case3 behindBracket token rest opens unclosed inductionHypothesis =>
      obtain ⟨rfl, rfl⟩ := opens
      have noGroup (finish : Nat) : ¬ IsGroup false (.plain '(' :: rest) 0 finish :=
        fun group => not_closes_of_closeGroup_eq_none unclosed finish group.closes
      rw [resolveGroups_unclosed bindings unclosed, stayingTokens_cons noGroup,
        inductionHypothesis]
      rfl
  | case4 behindBracket token rest opensNothing inductionHypothesis =>
      have noGroup (finish : Nat) : ¬ IsGroup behindBracket (token :: rest) 0 finish := by
        rintro ⟨opens, noStyle, _⟩
        exact opensNothing ⟨Option.some.inj opens, noStyle⟩
      rw [resolveGroups, if_neg opensNothing, stayingTokens_cons noGroup, inductionHypothesis]

/-- The parentheses of a style and those that nothing closes stay. -/
example : stayingTokens .empty false
    [.plain ']', .plain '(', .plain 'a', .plain ')', .plain '(', .plain '(', .reference ['b'],
      .plain ')', .plain '('] =
    [.plain ']', .plain '(', .plain 'a', .plain ')', .plain '(', .plain '('] := by
  decide

end Visible

/-- What is left of some tokens is a part of them, in their order. -/
theorem resolveGroups_sublist (bindings : Bindings) (behindBracket : Bool) (tokens : List Token) :
    (resolveGroups bindings behindBracket tokens).Sublist tokens := by
  rw [resolveGroups_eq_stayingTokens]
  exact keepAt_sublist _ tokens

/-- What is left of a template are the tokens that stay, each one judged by all the groups around
it. -/
theorem resolveOptionalGroups_eq (template : String) (bindings : Bindings) :
    resolveOptionalGroups template bindings =
      String.ofList (Token.joined (stayingTokens bindings false (scan template.toList))) := by
  rw [resolveOptionalGroups, resolveGroups_eq_stayingTokens]

end ShellPrompt.Template
