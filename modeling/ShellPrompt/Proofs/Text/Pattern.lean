import ShellPrompt.OrderedMap

/-!
Regular expressions that are matched by trying: what a pattern fits at the start of a text, in the
order in which the ways to fit it are tried, and the matches of a pattern all through a text. The
first way that is found counts, not the longest one.
-/

namespace ShellPrompt.Text

/-- A part of a text that a pattern fits, and what its groups hold, in the order in which they
end. -/
structure Match where
  text : List Char
  groups : List (Nat × List Char) := []
  deriving DecidableEq, Repr

def Match.append (first second : Match) : Match where
  text := first.text ++ second.text
  groups := first.groups ++ second.groups

/-- What a group holds. Of a group that ends more than once, that is what it held last. -/
def Match.group? (found : Match) (number : Nat) : Option (List Char) :=
  OrderedMap.find number found.groups.reverse

inductive Pattern where
  /-- One character of a class. -/
  | one (test : Char → Bool)
  | atEnd
  /-- No character of a class comes next. -/
  | notAhead (test : Char → Bool)
  | both (first second : Pattern)
  /-- The first pattern, or else the second. -/
  | either (first second : Pattern)
  /-- Once or more, and as often as it can be. -/
  | repeated (body : Pattern)
  | group (number : Nat) (body : Pattern)

/-- A match at the start of a text, and what the text goes on with. -/
abbrev Way := Match × List Char

/-- The ways to fit something once or more. Going on is tried before ending, but only behind
something that is not empty. -/
def repeatWays (body : List Char → List Way) (text : List Char) : List Way :=
  (body text).flatMap fun way =>
    (if way.2.length < text.length then
      (repeatWays body way.2).map fun more => (way.1.append more.1, more.2)
    else []) ++ [way]
termination_by text.length

/-- The ways to fit a pattern at the start of a text, in the order in which they are tried. -/
def Pattern.ways : Pattern → List Char → List Way
  | .one test, text =>
      match text with
      | [] => []
      | c :: rest => if test c then [(⟨[c], []⟩, rest)] else []
  | .atEnd, text => if text = [] then [(⟨[], []⟩, [])] else []
  | .notAhead test, text => if text.head?.any test then [] else [(⟨[], []⟩, text)]
  | .both first second, text =>
      (first.ways text).flatMap fun way =>
        (second.ways way.2).map fun more => (way.1.append more.1, more.2)
  | .either first second, text => first.ways text ++ second.ways text
  | .repeated body, text => repeatWays body.ways text
  | .group number body, text =>
      (body.ways text).map fun way =>
        (⟨way.1.text, way.1.groups ++ [(number, way.1.text)]⟩, way.2)

/-- A match and where in a text it starts. -/
structure Found where
  start : Nat
  found : Match
  deriving DecidableEq, Repr

def Found.text (found : Found) : List Char := found.found.text

def Found.stop (found : Found) : Nat := found.start + found.text.length

def Found.group? (found : Found) (number : Nat) : Option (List Char) := found.found.group? number

/-- The matches from a place on, one behind the other. Where nothing fits, a character is passed
over. After an empty match the next one at the same place has to be longer. -/
def Pattern.findFrom (pattern : Pattern) (start : Nat) (longer : Bool) (text : List Char) :
    List Found :=
  match (pattern.ways text).find? fun way => !(longer && way.1.text.isEmpty) with
  | some (found, rest) =>
      ⟨start, found⟩ ::
        (if rest.length < text.length then
          findFrom pattern (start + found.text.length) false rest
        else if longer then []
        else findFrom pattern start true text)
  | none =>
      match text with
      | [] => []
      | _ :: rest => findFrom pattern (start + 1) false rest
termination_by 2 * text.length + (!longer).toNat
decreasing_by
  · rename_i shorter
    have := Bool.toNat_le !longer
    simp only [Bool.not_false, Bool.toNat_true]
    omega
  · rename_i again
    simp [Bool.eq_false_iff.mpr again]
  · have := Bool.toNat_le !longer
    simp only [List.length_cons, Bool.not_false, Bool.toNat_true]
    omega

def Pattern.findAll (pattern : Pattern) (text : List Char) : List Found :=
  pattern.findFrom 0 false text

/-- Matches that follow each other from one place to another with nothing between them. -/
def Contiguous (start : Nat) : List Found → Nat → Prop
  | [], stop => start = stop
  | found :: rest, stop => found.start = start ∧ Contiguous found.stop rest stop

section Ways
variable (test : Char → Bool) (first second body : Pattern) (text : List Char)

@[simp] theorem ways_one_nil : (Pattern.one test).ways [] = [] := rfl

@[simp] theorem ways_one_cons (c : Char) :
    (Pattern.one test).ways (c :: text) = if test c then [(⟨[c], []⟩, text)] else [] := rfl

@[simp] theorem ways_atEnd :
    Pattern.atEnd.ways text = if text = [] then [(⟨[], []⟩, [])] else [] := rfl

@[simp] theorem ways_notAhead :
    (Pattern.notAhead test).ways text =
      if text.head?.any test then [] else [(⟨[], []⟩, text)] := rfl

@[simp] theorem ways_both :
    (Pattern.both first second).ways text =
      (first.ways text).flatMap fun way =>
        (second.ways way.2).map fun more => (way.1.append more.1, more.2) := rfl

@[simp] theorem ways_either :
    (Pattern.either first second).ways text = first.ways text ++ second.ways text := rfl

theorem ways_repeated : (Pattern.repeated body).ways text = repeatWays body.ways text := rfl

@[simp] theorem ways_group (number : Nat) :
    (Pattern.group number body).ways text =
      (body.ways text).map fun way =>
        (⟨way.1.text, way.1.groups ++ [(number, way.1.text)]⟩, way.2) := rfl

end Ways

section Parts
variable {first second body : Pattern} {text rest : List Char} {found : Match}

theorem ways_both_of_eq (only : first.ways text = [(found, rest)]) :
    (Pattern.both first second).ways text =
      (second.ways rest).map fun more => (found.append more.1, more.2) := by
  rw [ways_both, only, List.flatMap_singleton]

theorem head?_ways_either (tried : (first.ways text).head? = some (found, rest)) :
    ((Pattern.either first second).ways text).head? = some (found, rest) := by
  rw [ways_either, List.head?_append, tried, Option.some_or]

theorem head?_ways_group (fits : (body.ways text).head? = some (found, rest)) (number : Nat) :
    ((Pattern.group number body).ways text).head? =
      some (⟨found.text, found.groups ++ [(number, found.text)]⟩, rest) := by
  rw [ways_group, List.head?_map, fits]
  rfl

end Parts

section Repeating
variable {body : Pattern} {text rest : List Char} {found : Match}

theorem ways_repeated_eq_nil (none : body.ways text = []) :
    (Pattern.repeated body).ways text = [] := by
  rw [ways_repeated, repeatWays, none, List.flatMap_nil]

/-- Where there is only one way to begin, it is tried to go on from there. -/
theorem ways_repeated_of_eq (only : body.ways text = [(found, rest)])
    (shorter : rest.length < text.length) :
    (Pattern.repeated body).ways text =
      ((Pattern.repeated body).ways rest).map (fun more => (found.append more.1, more.2)) ++
        [(found, rest)] := by
  rw [ways_repeated, repeatWays, only, List.flatMap_singleton, if_pos shorter, ways_repeated]

theorem head?_ways_repeated_last (only : body.ways text = [(found, rest)])
    (shorter : rest.length < text.length) (last : (Pattern.repeated body).ways rest = []) :
    ((Pattern.repeated body).ways text).head? = some (found, rest) := by
  rw [ways_repeated_of_eq only shorter, last]
  rfl

theorem head?_ways_repeated_again (only : body.ways text = [(found, rest)])
    (shorter : rest.length < text.length) {more : Match} {after : List Char}
    (next : ((Pattern.repeated body).ways rest).head? = some (more, after)) :
    ((Pattern.repeated body).ways text).head? = some (found.append more, after) := by
  rw [ways_repeated_of_eq only shorter, List.head?_append, List.head?_map, next]
  rfl

end Repeating

section Classes
variable (test : Char → Bool)

theorem ways_repeated_one_eq_nil {text : List Char} (none : text.takeWhile test = []) :
    (Pattern.repeated (.one test)).ways text = [] := by
  apply ways_repeated_eq_nil
  cases text with
  | nil => rfl
  | cons c text =>
      cases other : test c with
      | false => simp [other]
      | true =>
          rw [List.takeWhile_cons_of_pos other] at none
          cases none

/-- A repeated class takes all characters of the class that come next. -/
theorem head?_ways_repeated_one {text : List Char} (filled : text.takeWhile test ≠ []) :
    ((Pattern.repeated (.one test)).ways text).head? =
      some (⟨text.takeWhile test, []⟩, text.dropWhile test) := by
  induction text with
  | nil => exact absurd rfl filled
  | cons c text inductionHypothesis =>
      cases inClass : test c with
      | false => exact absurd (List.takeWhile_cons_of_neg (by simp [inClass])) filled
      | true =>
          have only : (Pattern.one test).ways (c :: text) = [(⟨[c], []⟩, text)] := by
            simp [inClass]
          have shorter : text.length < (c :: text).length := by simp
          rw [List.takeWhile_cons_of_pos inClass, List.dropWhile_cons_of_pos inClass]
          by_cases last : text.takeWhile test = []
          · have ended := ways_repeated_one_eq_nil test last
            have whole := List.takeWhile_append_dropWhile (p := test) (l := text)
            rw [last, List.nil_append] at whole
            rw [last, whole]
            exact head?_ways_repeated_last only shorter ended
          · exact head?_ways_repeated_again only shorter (inductionHypothesis last)

end Classes

section Finding
variable {pattern : Pattern} {text rest : List Char} {found : Match}

theorem findFrom_nil (none : pattern.ways [] = []) (start : Nat) :
    pattern.findFrom start false [] = [] := by
  rw [Pattern.findFrom, none]
  rfl

/-- A match that is not empty is followed by the matches in what the text goes on with. -/
theorem findFrom_of_head? (first : (pattern.ways text).head? = some (found, rest))
    (shorter : rest.length < text.length) (start : Nat) :
    pattern.findFrom start false text =
      ⟨start, found⟩ :: pattern.findFrom (start + found.text.length) false rest := by
  have chosen : ((pattern.ways text).find? fun way => !(false && way.1.text.isEmpty)) =
      some (found, rest) := by
    obtain ⟨others, ways⟩ := List.head?_eq_some_iff.mp first
    rw [ways]
    rfl
  rw [Pattern.findFrom.eq_def, chosen]
  simp only [if_pos shorter]

end Finding

end ShellPrompt.Text
