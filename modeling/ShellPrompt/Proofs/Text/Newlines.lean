import ShellPrompt.Text.Newlines

/-!
Line ends and the parts of a text. The line ends of the parts are unified on their own where no
carriage return stands in front of a line feed of the next part.
-/

namespace ShellPrompt.Text

section Unified
variable {text first second : List Char} {c : Char}

theorem unifyNewlines_return (noFeed : text.head? ≠ some '\n') :
    unifyNewlines ('\r' :: text) = '\n' :: unifyNewlines text := by
  rw [unifyNewlines]
  rintro rest rfl
  exact noFeed rfl

theorem unifyNewlines_cons (solid : c ≠ '\r') :
    unifyNewlines (c :: text) = c :: unifyNewlines text := by
  rw [unifyNewlines]
  · exact fun _ same => absurd same solid
  · exact solid

/-- A carriage return ends a line, and takes the line feed behind it into that end. -/
example : unifyNewlines "a\r\r\nb".toList = "a\n\nb".toList := by decide +kernel

/-- No line end has one character in each of two parts. -/
def Apart (first second : List Char) : Prop :=
  first.getLast? = some '\r' → second.head? ≠ some '\n'

theorem Apart.of_cons (apart : Apart (c :: first) second) : Apart first second := by
  intro last
  refine apart ?_
  simp [List.getLast?_cons, last]

theorem unifyNewlines_append (apart : Apart first second) :
    unifyNewlines (first ++ second) = unifyNewlines first ++ unifyNewlines second := by
  fun_induction unifyNewlines first with
  | case1 rest inductionHypothesis =>
      have later := inductionHypothesis apart.of_cons.of_cons
      rw [List.cons_append, List.cons_append, unifyNewlines, later]
      rfl
  | case2 rest noFeed inductionHypothesis =>
      have later := inductionHypothesis apart.of_cons
      rw [List.cons_append, unifyNewlines_return, later]
      · rfl
      · cases rest with
        | nil => exact apart rfl
        | cons d rest => simpa using noFeed rest
  | case3 c rest _ solid inductionHypothesis =>
      have later := inductionHypothesis apart.of_cons
      rw [List.cons_append, unifyNewlines_cons solid, later]
      rfl
  | case4 => rfl

theorem unifyNewlines_append_of_plain (plain : '\r' ∉ first) :
    unifyNewlines (first ++ second) = first ++ unifyNewlines second := by
  rw [unifyNewlines_append, unifyNewlines_eq_self plain]
  exact fun last => absurd (List.mem_of_getLast? last) plain

/-- A text has the parts that its text with unified line ends has. -/
theorem exists_append_of_unifyNewlines (split : unifyNewlines text = first ++ second) :
    ∃ before after, text = before ++ after ∧ unifyNewlines before = first ∧
      unifyNewlines after = second := by
  induction text using unifyNewlines.induct generalizing first with
  | case1 rest inductionHypothesis =>
      cases first with
      | nil => exact ⟨[], _, rfl, rfl, split⟩
      | cons c first =>
          rw [unifyNewlines] at split
          obtain ⟨rfl, later⟩ := List.cons.inj split
          obtain ⟨before, after, rfl, rfl, rfl⟩ := inductionHypothesis later
          exact ⟨'\r' :: '\n' :: before, after, rfl, rfl, rfl⟩
  | case2 rest noFeed inductionHypothesis =>
      cases first with
      | nil => exact ⟨[], _, rfl, rfl, split⟩
      | cons c first =>
          rw [unifyNewlines_return (by cases rest <;> simp_all)] at split
          obtain ⟨rfl, later⟩ := List.cons.inj split
          obtain ⟨before, after, rfl, rfl, rfl⟩ := inductionHypothesis later
          refine ⟨'\r' :: before, after, rfl, unifyNewlines_return ?_, rfl⟩
          cases before with
          | nil => simp
          | cons d before => simpa using noFeed (before ++ after)
  | case3 c rest _ solid inductionHypothesis =>
      cases first with
      | nil => exact ⟨[], _, rfl, rfl, split⟩
      | cons d first =>
          rw [unifyNewlines_cons solid] at split
          obtain ⟨rfl, later⟩ := List.cons.inj split
          obtain ⟨before, after, rfl, rfl, rfl⟩ := inductionHypothesis later
          exact ⟨c :: before, after, rfl, unifyNewlines_cons solid, rfl⟩
  | case4 =>
      obtain ⟨rfl, rfl⟩ := List.append_eq_nil_iff.mp split.symm
      exact ⟨[], [], rfl, rfl, rfl⟩

theorem return_notMem_unifyNewlines (text : List Char) : '\r' ∉ unifyNewlines text := by
  fun_induction unifyNewlines text with
  | case1 rest inductionHypothesis => simpa using inductionHypothesis
  | case2 rest _ inductionHypothesis => simpa using inductionHypothesis
  | case3 c rest _ solid inductionHypothesis =>
      simpa [Ne.symm solid] using inductionHypothesis
  | case4 => simp

/-- A text whose unified text has no line ends has none. -/
theorem eq_unifyNewlines_of_plain (plain : '\n' ∉ unifyNewlines text) :
    text = unifyNewlines text := by
  induction text using unifyNewlines.induct with
  | case1 rest _ => simp [unifyNewlines] at plain
  | case2 rest noFeed _ =>
      rw [unifyNewlines_return (by cases rest <;> simp_all)] at plain
      simp at plain
  | case3 c rest _ solid inductionHypothesis =>
      rw [unifyNewlines_cons solid] at plain ⊢
      rw [← inductionHypothesis fun member => plain (List.mem_cons_of_mem c member)]
  | case4 => rfl

end Unified

/-- A carriage return stands in front of a line feed. -/
def HasPair (text : List Char) : Prop := ['\r', '\n'] <:+: text

/-- A text with something in the place of every carriage return and the line feed behind it. -/
def withPairs (pair : List Char) : List Char → List Char
  | '\r' :: '\n' :: rest => pair ++ withPairs pair rest
  | c :: rest => c :: withPairs pair rest
  | [] => []

/-- A text with a line feed alone in the place of a carriage return and a line feed. Carriage
returns that stand alone stay. -/
def joinBreaks (text : List Char) : List Char := withPairs ['\n'] text

def joinText (text : String) : String := String.ofList (joinBreaks text.toList)

section Joined
variable {text first second : List Char} {c : Char}

theorem HasPair.cons (pair : HasPair text) (c : Char) : HasPair (c :: text) :=
  List.IsInfix.trans pair (List.suffix_cons c text).isInfix

theorem withPairs_self (text : List Char) : withPairs ['\r', '\n'] text = text := by
  fun_induction withPairs ['\r', '\n'] text with
  | case1 rest inductionHypothesis => rw [inductionHypothesis]; rfl
  | case2 c rest _ inductionHypothesis => rw [inductionHypothesis]
  | case3 => rfl

theorem withPairs_cons (pair : List Char) (solid : c ≠ '\r') :
    withPairs pair (c :: text) = c :: withPairs pair text := by
  rw [withPairs]
  exact fun _ same => absurd same solid

theorem joinBreaks_return (noFeed : text.head? ≠ some '\n') :
    joinBreaks ('\r' :: text) = '\r' :: joinBreaks text := by
  rw [joinBreaks, withPairs]
  · rfl
  · rintro rest _ rfl
    exact noFeed rfl

theorem joinBreaks_cons (solid : c ≠ '\r') : joinBreaks (c :: text) = c :: joinBreaks text :=
  withPairs_cons ['\n'] solid

theorem joinBreaks_singleton (c : Char) : joinBreaks [c] = [c] := by
  rw [joinBreaks, withPairs]
  · rfl
  · exact fun _ _ same => nomatch same

theorem joinBreaks_append (apart : Apart first second) :
    joinBreaks (first ++ second) = joinBreaks first ++ joinBreaks second := by
  induction first using withPairs.induct with
  | case1 rest inductionHypothesis =>
      have later := inductionHypothesis apart.of_cons.of_cons
      rw [List.cons_append, List.cons_append]
      exact congrArg ('\n' :: ·) later
  | case2 c rest noPair inductionHypothesis =>
      have later := inductionHypothesis apart.of_cons
      by_cases back : c = '\r'
      · subst back
        have noFeed : (rest ++ second).head? ≠ some '\n' := by
          cases rest with
          | nil => exact apart rfl
          | cons d rest => exact fun same => noPair rest rfl (by simpa using same)
        rw [List.cons_append, joinBreaks_return noFeed, later, joinBreaks_return]
        · rfl
        · cases rest with
          | nil => simp
          | cons d rest => exact noFeed
      · rw [List.cons_append, joinBreaks_cons back, joinBreaks_cons back, later]
        rfl
  | case3 => rfl

theorem length_joinBreaks_le (text : List Char) : (joinBreaks text).length ≤ text.length := by
  unfold joinBreaks
  fun_induction withPairs ['\n'] text with
  | case1 rest inductionHypothesis =>
      simp only [List.length_append, List.length_cons, List.length_nil]
      omega
  | case2 c rest _ inductionHypothesis => simpa using inductionHypothesis
  | case3 => exact Nat.le_refl 0

theorem joinBreaks_of_not_hasPair (noPair : ¬ HasPair text) : joinBreaks text = text := by
  unfold joinBreaks
  fun_induction withPairs ['\n'] text with
  | case1 rest _ => exact absurd ⟨[], rest, rfl⟩ noPair
  | case2 c rest _ inductionHypothesis =>
      rw [inductionHypothesis fun pair => noPair (pair.cons c)]
  | case3 => rfl

theorem joinBreaks_append_of_plain (plain : '\r' ∉ first) :
    joinBreaks (first ++ second) = first ++ joinBreaks second := by
  have noPair : ¬ HasPair first := fun pair => plain (List.IsInfix.subset pair List.mem_cons_self)
  rw [joinBreaks_append, joinBreaks_of_not_hasPair noPair]
  exact fun last => absurd (List.mem_of_getLast? last) plain

theorem joinBreaks_eq_self_iff : joinBreaks text = text ↔ ¬ HasPair text := by
  refine ⟨?_, joinBreaks_of_not_hasPair⟩
  rintro same ⟨before, after, rfl⟩
  have shorter : (joinBreaks (before ++ '\r' :: '\n' :: after)).length <
      (before ++ '\r' :: '\n' :: after).length := by
    rw [joinBreaks_append fun _ => by simp]
    have first := length_joinBreaks_le before
    have last := length_joinBreaks_le after
    have pair : joinBreaks ('\r' :: '\n' :: after) = '\n' :: joinBreaks after := rfl
    rw [pair]
    simp only [List.length_append, List.length_cons]
    omega
  simp only [List.append_assoc, List.cons_append, List.nil_append] at same
  rw [same] at shorter
  exact Nat.lt_irrefl _ shorter

theorem joinText_eq_self_iff {text : String} : joinText text = text ↔ ¬ HasPair text.toList := by
  rw [← joinBreaks_eq_self_iff, ← String.toList_inj, joinText, String.toList_ofList]

end Joined

end ShellPrompt.Text
