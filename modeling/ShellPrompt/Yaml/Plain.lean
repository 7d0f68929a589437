import ShellPrompt.Yaml.Text

/-!
Scalars without quotes. A plain scalar goes on over blanks and line breaks as long as what follows
can be part of it: inside brackets until one of their marks, elsewhere as far as the lines are
indented enough.
-/

namespace ShellPrompt.Yaml

def isFlowMark (c : Char) : Bool :=
  c == ',' || c == '[' || c == ']' || c == '\x7b' || c == '\x7d'

/-- Whether a character ends a word of a plain scalar, given what follows it. -/
def endsPlain (inFlow : Bool) (c : Char) (rest : List Char) : Bool :=
  isBlank c || isBreak c ||
    (c == ':' && (atGap rest || (inFlow && (rest.head?.map isFlowMark).getD false))) ||
    (inFlow && (isFlowMark c || c == '?'))

/-- The word at the front of a text, and the text behind it. -/
def plainWord (inFlow : Bool) : List Char → List Char × List Char
  | [] => ([], [])
  | c :: rest =>
      if endsPlain inFlow c rest then ([], c :: rest)
      else (c :: (plainWord inFlow rest).1, (plainWord inFlow rest).2)

theorem plainWord_append (inFlow : Bool) (text : List Char) :
    (plainWord inFlow text).1 ++ (plainWord inFlow text).2 = text := by
  induction text with
  | nil => rfl
  | cons c rest inductionHypothesis =>
      simp only [plainWord]
      split <;> simp [inductionHypothesis]

structure PlainGap where
  /-- What the gap reads as, empty if the scalar cannot go on behind it. -/
  chars : List Char
  broken : Bool
  /-- How far the line behind the last line break is indented. -/
  column : Nat
  rest : List Char

/-- The line breaks behind a first one and the blanks among them; `none` for the breaks if a
document marker stands behind one. -/
def plainBreaks (column : Nat) (text : List Char) : Option (List Char) × Nat × List Char :=
  if column = 0 ∧ atMarker text then (none, column, text)
  else
    match text with
    | ' ' :: rest => plainBreaks (column + 1) rest
    | text =>
        match _taken : takeBreak text with
        | none => (some [], column, text)
        | some (c, rest) =>
            let others := plainBreaks 0 rest
            (others.1.map (c :: ·), others.2)
termination_by text.length
decreasing_by
  · simp
  · exact length_takeBreak_lt _taken

theorem length_plainBreaks_le (column : Nat) (text : List Char) :
    (plainBreaks column text).2.2.length ≤ text.length := by
  fun_induction plainBreaks column text with
  | case1 => exact Nat.le_refl _
  | case2 column rest _ inductionHypothesis =>
      simp only [List.length_cons]
      omega
  | case3 => simp_all
  | case4 _ text _ c rest taken others _ inductionHypothesis =>
      have := length_takeBreak_lt taken
      have read : others = plainBreaks 0 rest := rfl
      simp only [read]
      omega

def plainGap (text : List Char) : PlainGap :=
  let blanks := text.takeWhile (· = ' ')
  let rest := text.dropWhile (· = ' ')
  match takeBreak rest with
  | none => ⟨blanks, false, 0, rest⟩
  | some (first, rest) =>
      match plainBreaks 0 rest with
      | (none, column, rest) => ⟨[], true, column, rest⟩
      | (some further, column, rest) => ⟨foldBreaks first further, true, column, rest⟩

theorem length_plainGap_le (text : List Char) : (plainGap text).rest.length ≤ text.length := by
  have blanks : (text.dropWhile (· = ' ')).length ≤ text.length :=
    (List.dropWhile_sublist _).length_le
  unfold plainGap
  simp only
  split
  · exact blanks
  · rename_i first rest taken
    have := length_takeBreak_lt taken
    have := length_plainBreaks_le 0 rest
    split
    all_goals
      rename_i read
      simp only [read] at this
      simp only
      omega

/-- A plain scalar from its first word on: its text, what follows it, and whether a line break
stands right before that. `least` is how far its lines have to be indented outside of brackets;
`broken` says whether a line break stands before the first word. -/
def readPlain (inFlow : Bool) (least : Int) (broken : Bool) (text : List Char) :
    List Char × List Char × Bool :=
  match _word : plainWord inFlow text with
  | ([], _) => ([], text, broken)
  | (c :: word, rest) =>
      let gap := plainGap rest
      if gap.chars = [] ∨ gap.rest.head? = some '#' ∨
          (!inFlow && gap.broken && decide (gap.column < least)) then
        (c :: word, gap.rest, gap.broken)
      else
        match readPlain inFlow least gap.broken gap.rest with
        | ([], rest, broken) => (c :: word, rest, broken)
        | (more, rest, broken) => (c :: word ++ gap.chars ++ more, rest, broken)
termination_by text.length
decreasing_by
  have := length_plainGap_le rest
  have whole := plainWord_append inFlow text
  rw [_word] at whole
  simp only [← whole, List.length_append, List.length_cons]
  omega

end ShellPrompt.Yaml
