import ShellPrompt.Proofs.Template.Groups

/-!
Optional groups by their positions. The parentheses in front of a position give its depth, and what
a parenthesis opens reaches to the first place behind which the depth is again what it was before.
So all groups of a template are known at once, and those inside a group are groups of its text.
-/

namespace ShellPrompt.Template

section Depth

/-- How many more parentheses open than close in front of a position. -/
def depthAt (tokens : List Token) (position : Nat) : Int :=
  (tokens.take position).count (.plain '(') - (tokens.take position).count (.plain ')')

@[simp]
theorem depthAt_zero (tokens : List Token) : depthAt tokens 0 = 0 := by
  simp [depthAt]

theorem depthAt_append_left {first : List Token} (second : List Token) {position : Nat}
    (inside : position ≤ first.length) :
    depthAt (first ++ second) position = depthAt first position := by
  rw [depthAt, List.take_append_of_le_length inside, depthAt]

theorem depthAt_append_right (first second : List Token) (position : Nat) :
    depthAt (first ++ second) (first.length + position) =
      depthAt first first.length + depthAt second position := by
  simp only [depthAt, List.take_length_add_append, List.take_length, List.count_append]
  omega

theorem depthAt_open (rest : List Token) (position : Nat) :
    depthAt (.plain '(' :: rest) (position + 1) = depthAt rest position + 1 := by
  simp only [depthAt, List.take_succ_cons, List.count_cons]
  simp
  omega

theorem depthAt_close (rest : List Token) (position : Nat) :
    depthAt (.plain ')' :: rest) (position + 1) = depthAt rest position - 1 := by
  simp only [depthAt, List.take_succ_cons, List.count_cons]
  simp
  omega

theorem depthAt_other {token : Token} (noOpen : token ≠ .plain '(') (noClose : token ≠ .plain ')')
    (rest : List Token) (position : Nat) :
    depthAt (token :: rest) (position + 1) = depthAt rest position := by
  simp [depthAt, noOpen, noClose]

theorem depthAt_succ_of_open {tokens : List Token} {position : Nat}
    (opens : tokens[position]? = some (.plain '(')) :
    depthAt tokens (position + 1) = depthAt tokens position + 1 := by
  simp only [depthAt, List.take_add_one, opens, List.count_append]
  simp
  omega

theorem depthAt_le_succ (tokens : List Token) (position : Nat) :
    depthAt tokens position ≤ depthAt tokens (position + 1) + 1 := by
  have one : (tokens[position]?.toList).count (.plain ')') ≤ 1 := by
    refine Nat.le_trans List.count_le_length ?_
    cases tokens[position]? <;> simp
  simp only [depthAt, List.take_add_one, List.count_append]
  omega

end Depth

section CloseGroup

/-- A step of the search for the parenthesis that closes a group: it ends there, or goes on at a
depth that the token accounts for. -/
theorem closeGroup_cons (depth : Nat) (token : Token) (rest : List Token) :
    (token = .plain ')' ∧ depth = 0) ∨
      ∃ deeper : Nat,
        closeGroup depth (token :: rest) =
            (closeGroup deeper rest).map (fun (inner, after) => (token :: inner, after)) ∧
          ∀ tokens position,
            depthAt (token :: tokens) (position + 1) + depth =
              depthAt tokens position + deeper := by
  by_cases opens : token = .plain '('
  · subst opens
    refine .inr ⟨depth + 1, closeGroup_open depth rest, fun tokens position => ?_⟩
    rw [depthAt_open]
    omega
  by_cases closes : token = .plain ')'
  · subst closes
    cases depth with
    | zero => exact .inl ⟨rfl, rfl⟩
    | succ depth =>
        refine .inr ⟨depth, closeGroup_close_succ depth rest, fun tokens position => ?_⟩
        rw [depthAt_close]
        omega
  · refine .inr ⟨depth, closeGroup_other depth rest opens closes, fun tokens position => ?_⟩
    rw [depthAt_other opens closes]

/-- Up to the parenthesis that closes a group, no more groups close than are open inside it. -/
theorem depthAt_of_closeGroup {depth : Nat} {tokens inner after : List Token}
    (closed : closeGroup depth tokens = some (inner, after)) :
    (∀ position, -(depth : Int) ≤ depthAt inner position) ∧
      depthAt inner inner.length = -depth := by
  induction tokens generalizing depth inner with
  | nil => simp [closeGroup] at closed
  | cons token rest inductionHypothesis =>
      rcases closeGroup_cons depth token rest with ⟨rfl, rfl⟩ | ⟨deeper, step, level⟩
      · rw [closeGroup_close_zero] at closed
        cases closed
        simp [depthAt]
      · rw [step] at closed
        obtain ⟨⟨more, last⟩, here, same⟩ := Option.map_eq_some_iff.mp closed
        cases same
        obtain ⟨bounded, total⟩ := inductionHypothesis here
        refine ⟨?_, ?_⟩
        · intro position
          cases position with
          | zero =>
              rw [depthAt_zero]
              omega
          | succ position =>
              have moved := level more position
              have bound := bounded position
              omega
        · have moved := level more more.length
          rw [List.length_cons]
          omega

/-- A group that nothing closes stays open up to the end. -/
theorem depthAt_of_closeGroup_eq_none {depth : Nat} {tokens : List Token}
    (unclosed : closeGroup depth tokens = none) (position : Nat) :
    -(depth : Int) ≤ depthAt tokens position := by
  induction tokens generalizing depth position with
  | nil => simp [depthAt]
  | cons token rest inductionHypothesis =>
      cases position with
      | zero =>
          rw [depthAt_zero]
          omega
      | succ position =>
          rcases closeGroup_cons depth token rest with ⟨rfl, rfl⟩ | ⟨deeper, step, level⟩
          · rw [closeGroup_close_zero] at unclosed
            cases unclosed
          · rw [step, Option.map_eq_none_iff] at unclosed
            have bound := inductionHypothesis unclosed position
            have moved := level rest position
            omega

end CloseGroup

section Closing

/-- What opens at `start` closes at `finish`: that is the first place behind which the depth is what
it was in front of `start`. -/
structure Closes (tokens : List Token) (start finish : Nat) : Prop where
  behind : start < finish
  within : finish < tokens.length
  level : depthAt tokens (finish + 1) = depthAt tokens start
  first : ∀ position, start < position → position < finish →
    depthAt tokens (position + 1) ≠ depthAt tokens start

/-- The place where it closes what opens at `start`. -/
def closing? (tokens : List Token) (start : Nat) : Option Nat :=
  (List.range tokens.length).find? fun position =>
    start < position ∧ depthAt tokens (position + 1) = depthAt tokens start

theorem closing?_eq_some_iff {tokens : List Token} {start finish : Nat} :
    closing? tokens start = some finish ↔ Closes tokens start finish := by
  simp only [closing?, List.find?_range_eq_some, decide_eq_true_eq, List.mem_range,
    Bool.not_eq_true', decide_eq_false_iff_not, not_and]
  constructor
  · rintro ⟨⟨behind, level⟩, within, first⟩
    exact ⟨behind, within, level, fun position later earlier => first position earlier later⟩
  · rintro ⟨behind, within, level, first⟩
    exact ⟨⟨behind, level⟩, within, fun position earlier later => first position later earlier⟩

theorem closes_append_left {first : List Token} (second : List Token) {start finish : Nat}
    (within : finish < first.length) :
    Closes (first ++ second) start finish ↔ Closes first start finish := by
  have inside {position : Nat} (before : position ≤ first.length) :
      depthAt (first ++ second) position = depthAt first position :=
    depthAt_append_left second before
  constructor
  · rintro ⟨behind, _, level, earliest⟩
    rw [inside within, inside (by omega)] at level
    refine ⟨behind, within, level, ?_⟩
    intro position later earlier
    have missed := earliest position later earlier
    rw [inside (by omega), inside (by omega)] at missed
    exact missed
  · rintro ⟨behind, _, level, earliest⟩
    refine ⟨behind, by rw [List.length_append]; omega, ?_, ?_⟩
    · rw [inside within, inside (by omega), level]
    · intro position later earlier
      rw [inside (by omega), inside (by omega)]
      exact earliest position later earlier

/-- There is at most one place where something closes. -/
theorem Closes.unique {tokens : List Token} {start first second : Nat}
    (closes : Closes tokens start first) (other : Closes tokens start second) : first = second := by
  have same := closing?_eq_some_iff.mpr closes
  rw [closing?_eq_some_iff.mpr other] at same
  exact (Option.some.inj same).symm

theorem closes_append_right (first : List Token) {second : List Token} {start finish : Nat} :
    Closes (first ++ second) (first.length + start) (first.length + finish) ↔
      Closes second start finish := by
  have shifted (position : Nat) := depthAt_append_right first second position
  constructor
  · rintro ⟨behind, within, level, earliest⟩
    rw [List.length_append] at within
    rw [Nat.add_assoc, shifted, shifted] at level
    refine ⟨by omega, by omega, by omega, ?_⟩
    intro position later earlier same
    apply earliest (first.length + position) (by omega) (by omega)
    rw [Nat.add_assoc, shifted, shifted, same]
  · rintro ⟨behind, within, level, earliest⟩
    refine ⟨by omega, by rw [List.length_append]; omega, ?_, ?_⟩
    · rw [Nat.add_assoc, shifted, shifted, level]
    · intro position later earlier same
      obtain ⟨offset, rfl⟩ := Nat.exists_eq_add_of_le (Nat.le_of_lt (Nat.lt_of_le_of_lt
        (Nat.le_add_right first.length start) later))
      rw [Nat.add_assoc, shifted, shifted] at same
      exact earliest offset (by omega) (by omega) (by omega)

/-- The depth changes by one at most, so on its way down it passes every level. -/
theorem exists_depthAt_eq {tokens : List Token} {start bound : Nat}
    (opens : tokens[start]? = some (.plain '(')) (later : start < bound)
    (low : depthAt tokens bound ≤ depthAt tokens start) :
    ∃ position, start < position ∧ position < bound ∧
      depthAt tokens (position + 1) = depthAt tokens start := by
  apply Classical.byContradiction
  intro never
  have above : ∀ offset, start + 1 + offset ≤ bound →
      depthAt tokens start < depthAt tokens (start + 1 + offset) := by
    intro offset inside
    induction offset with
    | zero =>
        rw [Nat.add_zero, depthAt_succ_of_open opens]
        omega
    | succ offset inductionHypothesis =>
        have before := inductionHypothesis (by omega)
        have step := depthAt_le_succ tokens (start + 1 + offset)
        have missed : depthAt tokens (start + 1 + offset + 1) ≠ depthAt tokens start :=
          fun level => never ⟨start + 1 + offset, by omega, by omega, level⟩
        rw [← Nat.add_assoc]
        omega
  have last := above (bound - (start + 1)) (by omega)
  rw [Nat.add_sub_cancel' later] at last
  omega

/-- A parenthesis closes in front of any place where the depth has fallen to what it was before. -/
theorem exists_closes {tokens : List Token} {start bound : Nat}
    (opens : tokens[start]? = some (.plain '(')) (later : start < bound)
    (within : bound ≤ tokens.length) (low : depthAt tokens bound ≤ depthAt tokens start) :
    ∃ finish, Closes tokens start finish ∧ finish < bound := by
  obtain ⟨position, behind, inside, level⟩ := exists_depthAt_eq opens later low
  cases found : closing? tokens start with
  | none =>
      have missing := List.find?_range_eq_none.mp found position (by omega)
      simp [behind, level] at missing
  | some finish =>
      have closes := closing?_eq_some_iff.mp found
      refine ⟨finish, closes, ?_⟩
      apply Classical.byContradiction
      intro late
      exact closes.first position behind (by omega) level

/-- The parenthesis that the search finds is the one that closes the group. -/
theorem closes_of_closeGroup {rest inner after : List Token}
    (closed : closeGroup 0 rest = some (inner, after)) :
    Closes (.plain '(' :: rest) 0 (inner.length + 1) := by
  obtain ⟨bounded, total⟩ := depthAt_of_closeGroup closed
  have split := eq_append_of_closeGroup closed
  subst split
  have inside {position : Nat} (before : position ≤ inner.length) :
      depthAt (.plain '(' :: (inner ++ .plain ')' :: after)) (position + 1) =
        depthAt inner position + 1 := by
    rw [depthAt_open, depthAt_append_left _ before]
  refine ⟨Nat.succ_pos _, by simp, ?_, ?_⟩
  · rw [depthAt_open, depthAt_append_right inner, total, depthAt_close]
    simp
  · intro position later earlier
    have bound := bounded position
    rw [inside (by omega), depthAt_zero]
    omega

theorem not_closes_of_closeGroup_eq_none {rest : List Token}
    (unclosed : closeGroup 0 rest = none) (finish : Nat) :
    ¬ Closes (.plain '(' :: rest) 0 finish := by
  intro closes
  have bound := depthAt_of_closeGroup_eq_none unclosed finish
  have level := closes.level
  rw [depthAt_open, depthAt_zero] at level
  omega

end Closing

section Groups

/-- Whether a closing bracket stands right in front of a position; `behindBracket` says it of the
first position. -/
def followsBracket (behindBracket : Bool) (tokens : List Token) : Nat → Bool
  | 0 => behindBracket
  | position + 1 => tokens[position]? = some (.plain ']')

/-- A group reaches from a parenthesis that opens no style to where that closes. -/
structure IsGroup (behindBracket : Bool) (tokens : List Token) (start finish : Nat) : Prop where
  opens : tokens[start]? = some (.plain '(')
  noStyle : followsBracket behindBracket tokens start = false
  closes : Closes tokens start finish

def groupAt? (behindBracket : Bool) (tokens : List Token) (start : Nat) : Option (Nat × Nat) :=
  if tokens[start]? = some (.plain '(') ∧ followsBracket behindBracket tokens start = false then
    (closing? tokens start).map fun finish => (start, finish)
  else none

/-- The groups of all depths, each with the positions of its parentheses. -/
def groups (behindBracket : Bool) (tokens : List Token) : List (Nat × Nat) :=
  (List.range tokens.length).filterMap (groupAt? behindBracket tokens)

theorem mem_groups {behindBracket : Bool} {tokens : List Token} {start finish : Nat} :
    (start, finish) ∈ groups behindBracket tokens ↔
      IsGroup behindBracket tokens start finish := by
  simp only [groups, List.mem_filterMap, List.mem_range, groupAt?]
  constructor
  · rintro ⟨position, within, found⟩
    split at found
    · rename_i here
      obtain ⟨place, closes, same⟩ := Option.map_eq_some_iff.mp found
      cases same
      exact ⟨here.1, here.2, closing?_eq_some_iff.mp closes⟩
    · cases found
  · rintro ⟨opens, noStyle, closes⟩
    refine ⟨start, Nat.lt_trans closes.behind closes.within, ?_⟩
    rw [if_pos ⟨opens, noStyle⟩, closing?_eq_some_iff.mpr closes]
    rfl

variable {behindBracket : Bool}

/-- The groups behind some tokens are those of the rest. -/
theorem isGroup_append_right (first second : List Token) {start finish : Nat} :
    IsGroup behindBracket (first ++ second) (first.length + start) (first.length + finish) ↔
      IsGroup (followsBracket behindBracket first first.length) second start finish := by
  have shifted (position : Nat) :
      (first ++ second)[first.length + position]? = second[position]? := by
    rw [List.getElem?_append_right (Nat.le_add_right ..), Nat.add_sub_cancel_left]
  have style : followsBracket behindBracket (first ++ second) (first.length + start) =
      followsBracket (followsBracket behindBracket first first.length) second start := by
    cases start with
    | zero =>
        cases first with
        | nil => rfl
        | cons token first =>
            have last :
                (token :: first ++ second)[first.length]? = (token :: first)[first.length]? :=
              List.getElem?_append_left (by simp)
            rw [Nat.add_zero, List.length_cons, followsBracket, followsBracket, followsBracket,
              last]
    | succ start => rw [← Nat.add_assoc, followsBracket, followsBracket, shifted]
  constructor
  · rintro ⟨opens, noStyle, closes⟩
    exact ⟨shifted start ▸ opens, style ▸ noStyle, (closes_append_right first).mp closes⟩
  · rintro ⟨opens, noStyle, closes⟩
    exact ⟨shifted start ▸ opens, style ▸ noStyle, (closes_append_right first).mpr closes⟩

theorem isGroup_append_left {first : List Token} (second : List Token) {start finish : Nat}
    (within : finish < first.length) :
    IsGroup behindBracket (first ++ second) start finish ↔
      IsGroup behindBracket first start finish := by
  have same {position : Nat} (inside : position < first.length) :
      (first ++ second)[position]? = first[position]? :=
    List.getElem?_append_left inside
  have style (inside : start < first.length) :
      followsBracket behindBracket (first ++ second) start =
        followsBracket behindBracket first start := by
    cases start with
    | zero => rfl
    | succ start => rw [followsBracket, followsBracket, same (by omega)]
  constructor
  · rintro ⟨opens, noStyle, closes⟩
    have inside : start < first.length := Nat.lt_trans closes.behind within
    exact ⟨same inside ▸ opens, style inside ▸ noStyle,
      (closes_append_left second within).mp closes⟩
  · rintro ⟨opens, noStyle, closes⟩
    have inside : start < first.length := Nat.lt_trans closes.behind within
    exact ⟨same inside ▸ opens, style inside ▸ noStyle,
      (closes_append_left second within).mpr closes⟩

section Enclosed
variable {rest inner after : List Token}

theorem isGroup_outer (closed : closeGroup 0 rest = some (inner, after)) :
    IsGroup false (.plain '(' :: rest) 0 (inner.length + 1) :=
  ⟨rfl, rfl, closes_of_closeGroup closed⟩

theorem isGroup_inner (closed : closeGroup 0 rest = some (inner, after)) {start finish : Nat}
    (group : IsGroup false inner start finish) :
    IsGroup false (.plain '(' :: rest) (start + 1) (finish + 1) := by
  rw [eq_append_of_closeGroup closed, Nat.add_comm start, Nat.add_comm finish]
  apply (isGroup_append_right [.plain '('] _).mpr
  exact (isGroup_append_left _ group.closes.within).mpr group

/-- The tokens of a group with its parentheses, in front of those behind it. -/
theorem open_cons_eq (closed : closeGroup 0 rest = some (inner, after)) :
    .plain '(' :: rest = (.plain '(' :: (inner ++ [.plain ')'])) ++ after := by
  rw [eq_append_of_closeGroup closed]
  simp

theorem length_open_close (inner : List Token) :
    (Token.plain '(' :: (inner ++ [.plain ')'])).length = inner.length + 2 := by
  simp

theorem followsBracket_open_close (inner : List Token) :
    followsBracket false (.plain '(' :: (inner ++ [.plain ')']))
      (Token.plain '(' :: (inner ++ [.plain ')'])).length = false := by
  rw [length_open_close]
  simp [followsBracket]

theorem isGroup_after (closed : closeGroup 0 rest = some (inner, after)) {start finish : Nat} :
    IsGroup false (.plain '(' :: rest) (inner.length + 2 + start) (inner.length + 2 + finish) ↔
      IsGroup false after start finish := by
  rw [open_cons_eq closed, ← length_open_close inner, isGroup_append_right,
    followsBracket_open_close]

/-- The groups of a template that starts with one: that one, those inside it, and those behind
it. -/
theorem isGroup_cases (closed : closeGroup 0 rest = some (inner, after)) {start finish : Nat}
    (group : IsGroup false (.plain '(' :: rest) start finish) :
    (start = 0 ∧ finish = inner.length + 1) ∨
      (∃ first last, start = first + 1 ∧ finish = last + 1 ∧ IsGroup false inner first last) ∨
        ∃ first last, start = inner.length + 2 + first ∧ finish = inner.length + 2 + last ∧
          IsGroup false after first last := by
  have split := eq_append_of_closeGroup closed
  cases start with
  | zero => exact .inl ⟨rfl, group.closes.unique (closes_of_closeGroup closed)⟩
  | succ first =>
      have opens : (inner ++ .plain ')' :: after)[first]? = some (.plain '(') := split ▸ group.opens
      rcases Nat.lt_trichotomy first inner.length with inside | rfl | behind
      · -- The depth is back at the end of the inner tokens, so the parenthesis closes before that.
        rw [List.getElem?_append_left inside] at opens
        obtain ⟨bounded, total⟩ := depthAt_of_closeGroup closed
        have low : depthAt inner inner.length ≤ depthAt inner first := by
          rw [total]
          exact bounded first
        obtain ⟨last, closes, within⟩ := exists_closes opens inside (Nat.le_refl _) low
        rw [split, Nat.add_comm first] at group
        have here : Closes (.plain '(' :: (inner ++ .plain ')' :: after)) (1 + first) (1 + last) :=
          (closes_append_right [.plain '(']).mpr ((closes_append_left _ within).mpr closes)
        obtain rfl := group.closes.unique here
        refine .inr (.inl ⟨first, last, rfl, Nat.add_comm 1 last, ?_⟩)
        exact (isGroup_append_left _ within).mp ((isGroup_append_right [.plain '('] _).mp group)
      · rw [List.getElem?_append_right (Nat.le_refl _), Nat.sub_self] at opens
        cases opens
      · have later := group.closes.behind
        obtain ⟨first, rfl⟩ := Nat.exists_eq_add_of_le behind
        obtain ⟨last, rfl⟩ : ∃ last, finish = inner.length + 2 + last :=
          Nat.exists_eq_add_of_le (by omega)
        have place : inner.length.succ + first + 1 = inner.length + 2 + first := by omega
        rw [place] at group ⊢
        exact .inr (.inr ⟨first, last, rfl, rfl, (isGroup_after closed).mp group⟩)

end Enclosed

end Groups

end ShellPrompt.Template
