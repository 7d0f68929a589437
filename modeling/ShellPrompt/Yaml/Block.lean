import ShellPrompt.Yaml.Token

/-!
Scalars that take up lines of their own: literal ones keep their line breaks, folded ones turn
those between two lines of text into blanks. A header says how far the lines are indented, if that
is not to be seen, and what becomes of the line breaks at the end.
-/

namespace ShellPrompt.Yaml

/-- What becomes of the line breaks at the end of a block scalar. -/
inductive Chomping where
  | clip
  | strip
  | keep
  deriving DecidableEq, Repr

structure BlockHeader where
  chomping : Chomping := .clip
  indentation : Option Nat := none

def chomping? : Char → Option Chomping
  | '+' => some .keep
  | '-' => some .strip
  | _ => none

def indentation? (c : Char) : Option Nat :=
  if c.isDigit ∧ c ≠ '0' then some (c.toNat - '0'.toNat) else none

/-- The header at the front of a text: at most one mark of each kind. -/
def readHeaderMarks : List Char → BlockHeader × List Char
  | [] => ({}, [])
  | c :: rest =>
      match chomping? c, indentation? c with
      | some chomping, _ =>
          match rest with
          | [] => ({ chomping }, [])
          | d :: behind =>
              match indentation? d with
              | some indentation => ({ chomping, indentation := some indentation }, behind)
              | none => ({ chomping }, rest)
      | none, some indentation =>
          match rest with
          | [] => ({ indentation := some indentation }, [])
          | d :: behind =>
              match chomping? d with
              | some chomping => ({ chomping, indentation := some indentation }, behind)
              | none => ({ indentation := some indentation }, rest)
      | none, none => ({}, c :: rest)

/-- The header at the front of a text with the line that it stands on. -/
def readBlockHeader (text : List Char) : Option (BlockHeader × List Char) :=
  let (header, rest) := readHeaderMarks text
  if atLineEnd rest || rest.head? == some ' ' then
    (skipLineEnd rest).map fun rest => (header, rest)
  else none

/-- Takes blanks away as far as a column. -/
def takeIndent (limit : Nat) (column : Nat) : List Char → Nat × List Char
  | ' ' :: rest =>
      if column < limit then takeIndent limit (column + 1) rest else (column, ' ' :: rest)
  | text => (column, text)

theorem length_takeIndent_le (limit column : Nat) (text : List Char) :
    (takeIndent limit column text).2.length ≤ text.length := by
  fun_induction takeIndent limit column text with
  | case1 column rest _ inductionHypothesis =>
      simp only [List.length_cons]
      omega
  | case2 => exact Nat.le_refl _
  | case3 => exact Nat.le_refl _

/-- Empty lines at the front of a text, as their line breaks; then the column that the next line is
indented to, counted no further than `limit`, and the text from there. -/
def emptyLines (limit : Nat) (text : List Char) : List Char × Nat × List Char :=
  match _taken : takeBreak (takeIndent limit 0 text).2 with
  | none => ([], takeIndent limit 0 text)
  | some (c, rest) =>
      let others := emptyLines limit rest
      (c :: others.1, others.2)
termination_by text.length
decreasing_by
  have := length_takeBreak_lt _taken
  have := length_takeIndent_le limit 0 text
  omega

theorem length_emptyLines_le (limit : Nat) (text : List Char) :
    (emptyLines limit text).2.2.length ≤ text.length := by
  fun_induction emptyLines limit text with
  | case1 text _ => exact length_takeIndent_le limit 0 text
  | case2 text c rest taken others inductionHypothesis =>
      have := length_takeBreak_lt taken
      have := length_takeIndent_le limit 0 text
      have read : others = emptyLines limit rest := rfl
      simp only [read]
      omega

/-- The largest column that blanks reach before the first line with anything else. -/
def deepestBlank (column : Nat) (text : List Char) : Nat :=
  match text with
  | ' ' :: rest => max (column + 1) (deepestBlank (column + 1) rest)
  | text =>
      match _taken : takeBreak text with
      | none => 0
      | some (_, rest) => deepestBlank 0 rest
termination_by text.length
decreasing_by
  · simp
  · exact length_takeBreak_lt _taken

/-- The line break at the end of the line that a text starts in, if the line has one. -/
def lineEnding (text : List Char) : List Char :=
  ((takeBreak (text.dropWhile fun c => !isBreak c)).map Prod.fst).toList

def nextLine (text : List Char) : List Char :=
  match takeBreak (text.dropWhile fun c => !isBreak c) with
  | none => text.dropWhile fun c => !isBreak c
  | some (_, rest) => rest

theorem length_nextLine_le (text : List Char) : (nextLine text).length ≤ text.length := by
  have line : (text.dropWhile fun c => !isBreak c).length ≤ text.length :=
    (List.dropWhile_sublist _).length_le
  unfold nextLine
  split
  · exact line
  · rename_i taken
    have := length_takeBreak_lt taken
    omega

/-- How the lines of a block scalar read from the first of them on: their text, the line break at
the end of the last one, those of the empty lines behind it, and what follows. -/
structure BlockLines where
  chars : List Char
  ending : List Char
  breaks : List Char
  rest : List Char

/-- The lines that are indented to a column, behind the given empty ones. -/
def readBlockLines (folded : Bool) (indent : Nat) (breaks : List Char) (column : Nat)
    (text : List Char) : BlockLines :=
  match text with
  | [] => ⟨[], [], breaks, []⟩
  | c :: tail =>
      if column ≠ indent then ⟨[], [], breaks, c :: tail⟩
      else
        let line := tail.takeWhile fun c => !isBreak c
        let ending := lineEnding tail
        let next := emptyLines indent (nextLine tail)
        if next.2.1 = indent ∧ next.2.2 ≠ [] then
          let folds := folded && ending == ['\n'] && !isBlank c &&
            !(next.2.2.head?.map isBlank).getD false
          let joint := if folds then if next.1 = [] then [' '] else [] else ending
          let others := readBlockLines folded indent next.1 next.2.1 next.2.2
          { others with chars := breaks ++ c :: line ++ joint ++ others.chars }
        else ⟨breaks ++ c :: line, ending, next.1, next.2.2⟩
termination_by text.length
decreasing_by
  have := length_emptyLines_le indent (nextLine tail)
  have := length_nextLine_le tail
  simp only [List.length_cons]
  omega

/-- A block scalar from behind its first mark, inside a block that is indented to `outer`: its text
and what follows it. -/
def readBlock (folded : Bool) (outer : Int) (text : List Char) :
    Option (List Char × List Char) :=
  (readBlockHeader text).map fun (header, rest) =>
    let least := max 1 (outer + 1).toNat
    let indent := match header.indentation with
      | some indentation => least + indentation - 1
      | none => max least (deepestBlank 0 rest)
    let (breaks, column, rest) := emptyLines indent rest
    let lines := readBlockLines folded indent breaks column rest
    let ending := match header.chomping with
      | .strip => []
      | .clip => lines.ending
      | .keep => lines.ending ++ lines.breaks
    (lines.chars ++ ending, lines.rest)

end ShellPrompt.Yaml
