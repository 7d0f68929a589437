import ShellPrompt.Proofs.Toml.Items

/-!
Reading written documents line by line. A sheet reads as one statement for each of its lines and for
each header of a section, in the order in which they are written.
-/

namespace ShellPrompt.Toml

/-- What a line says. -/
def Line.statement (line : Line) : Statement := .assign [line.1] line.2.toValue

/-- What the header and the lines of a section say. -/
def Section.statements (part : Section) : List Statement :=
  .openTable part.path :: part.lines.map Line.statement

def SectionGroup.statements (group : SectionGroup) : List Statement :=
  group.sections.flatMap Section.statements

/-- What the lines and sections of a sheet say. Comments and empty lines say nothing. -/
def Sheet.statements (sheet : Sheet) : List Statement :=
  sheet.lines.map Line.statement ++ sheet.groups.flatMap SectionGroup.statements

/-- With any bound on the number of lines that the text cannot pass, it reads as these
statements. -/
def ReadsAs (text : List Char) (statements : List Statement) : Prop :=
  ∀ lines, text.length < lines → readStatementsWithin lines text = some statements

theorem readsAs_nil : ReadsAs [] [] := by
  intro lines enough
  obtain ⟨more, rfl⟩ := Nat.exists_eq_succ_of_ne_zero (Nat.ne_of_gt enough)
  rfl

theorem ReadsAs.lineBreak {rest : List Char} {statements : List Statement}
    (reads : ReadsAs rest statements) : ReadsAs ('\n' :: rest) statements := by
  intro lines enough
  obtain ⟨more, rfl⟩ := Nat.exists_eq_succ_of_ne_zero (Nat.ne_of_gt (Nat.zero_lt_of_lt enough))
  exact reads more (Nat.lt_of_succ_lt_succ enough)

theorem skipComment_append {comment : List Char} (clean : ∀ c ∈ comment, isControl c = false)
    (rest : List Char) : skipComment (comment ++ '\n' :: rest) = some ('\n' :: rest) := by
  induction comment with
  | nil => rfl
  | cons c comment inductionHypothesis =>
      have free := clean c List.mem_cons_self
      rw [List.cons_append, skipComment, free]
      · exact inductionHypothesis fun d member => clean d (.tail _ member)
      · rintro rfl
        cases free
      · rintro rfl
        cases free

theorem ReadsAs.comment {comment : String} {rest : List Char} {statements : List Statement}
    (clean : ∀ c ∈ comment.toList, isControl c = false) (reads : ReadsAs rest statements) :
    ReadsAs (writeComment comment ++ rest) statements := by
  intro lines enough
  obtain ⟨more, rfl⟩ := Nat.exists_eq_succ_of_ne_zero (Nat.ne_of_gt (Nat.zero_lt_of_lt enough))
  have layout : writeComment comment ++ rest = '#' :: (' ' :: comment.toList ++ '\n' :: rest) := by
    simp [writeComment]
  have spaced : ∀ c ∈ ' ' :: comment.toList, isControl c = false := by
    intro c member
    rcases List.mem_cons.mp member with rfl | member
    · rfl
    · exact clean c member
  rw [layout] at enough ⊢
  have dropped : ('#' :: (' ' :: comment.toList ++ '\n' :: rest)).dropWhile isMargin =
      '#' :: (' ' :: comment.toList ++ '\n' :: rest) := rfl
  rw [readStatementsWithin, dropped]
  simp only [skipComment_append spaced, Option.bind_some]
  apply reads.lineBreak
  simp only [List.length_cons, List.length_append] at enough ⊢
  omega

/-- A character that a statement may start with. -/
def StartsStatement (c : Char) : Prop := isMargin c = false ∧ c ≠ '\n' ∧ c ≠ '#'

theorem ReadsAs.statement {c : Char} {tail after rest : List Char} {statement : Statement}
    {statements : List Statement} (starts : StartsStatement c)
    (read : readStatement (c :: tail) = some (statement, after))
    (ended : endLine after = some rest) (shorter : rest.length ≤ tail.length)
    (reads : ReadsAs rest statements) : ReadsAs (c :: tail) (statement :: statements) := by
  intro lines enough
  obtain ⟨more, rfl⟩ := Nat.exists_eq_succ_of_ne_zero (Nat.ne_of_gt (Nat.zero_lt_of_lt enough))
  obtain ⟨solid, noBreak, noComment⟩ := starts
  have later : readStatementsWithin more rest = some statements := by
    apply reads
    rw [List.length_cons] at enough
    omega
  rw [readStatementsWithin, List.dropWhile_cons_of_neg (by simp [solid])]
  split
  · rename_i same
    cases same
  · rename_i same
    exact absurd (List.cons.inj same).1 noBreak
  · rename_i same
    exact absurd (List.cons.inj same).1 noComment
  · simp only [read, Option.bind_eq_bind, Option.bind_some, ended, later]

theorem startsStatement_of_isBareChar {c : Char} (first : isBareChar c = true ∨ c = '"') :
    StartsStatement c ∧ c ≠ '[' := by
  rcases first with bare | rfl
  · obtain ⟨noSpace, _, _, noBracket, noComment, noBreak, noReturn⟩ := isBareChar_ne bare
    refine ⟨⟨?_, noBreak, noComment⟩, noBracket⟩
    simp [isMargin, noSpace, noReturn]
  · exact ⟨⟨rfl, by decide, by decide⟩, by decide⟩

section Pairs
variable {key : String} {written rest : List Char} {value : Value}

/-- A key with a value reads as what they say, however the value is written. -/
theorem readStatement_writePair (solid : ∃ c tail, written = c :: tail ∧ isSpace c = false)
    (read : readValue (written ++ '\n' :: rest) = some (value, '\n' :: rest)) :
    readStatement (writePair key (written ++ '\n' :: rest)) =
      some (.assign [key] value, '\n' :: rest) := by
  obtain ⟨c, tail, start, first⟩ := writeKey_cons key.toList
  have noBracket : c ≠ '[' := (startsStatement_of_isBareChar (first.imp_right And.left)).2
  have dropped :
      (' ' :: (written ++ '\n' :: rest)).dropWhile isSpace = written ++ '\n' :: rest := by
    obtain ⟨d, more, rfl, solid⟩ := solid
    rw [List.dropWhile_cons_of_pos rfl, List.cons_append,
      List.dropWhile_cons_of_neg (by simp [solid])]
  have path := readKey_writePair key (written ++ '\n' :: rest)
  have layout : writePair key (written ++ '\n' :: rest) =
      c :: (tail ++ ' ' :: '=' :: ' ' :: (written ++ '\n' :: rest)) := by
    rw [writePair, start, List.cons_append]
  rw [layout] at path ⊢
  unfold readStatement
  split
  · rename_i same
    exact absurd (List.cons.inj same).1 noBracket
  · rename_i same
    exact absurd (List.cons.inj same).1 noBracket
  · simp only [path, dropped, read, Option.map_some]

theorem endLine_lineBreak (rest : List Char) : endLine ('\n' :: rest) = some rest := rfl

theorem ReadsAs.pair {statements : List Statement}
    (solid : ∃ c tail, written = c :: tail ∧ isSpace c = false)
    (read : readValue (written ++ '\n' :: rest) = some (value, '\n' :: rest))
    (reads : ReadsAs rest statements) :
    ReadsAs (writePair key (written ++ '\n' :: rest)) (.assign [key] value :: statements) := by
  obtain ⟨c, tail, start, first⟩ := writeKey_cons key.toList
  have starts := (startsStatement_of_isBareChar (first.imp_right And.left)).1
  have statement : readStatement (writePair key (written ++ '\n' :: rest)) =
      some (.assign [key] value, '\n' :: rest) := readStatement_writePair solid read
  rw [writePair, start, List.cons_append] at statement ⊢
  refine ReadsAs.statement starts statement (endLine_lineBreak rest) ?_ reads
  simp only [List.length_append, List.length_cons]
  omega

end Pairs

/-- Lines without integers that are too long to be written. -/
def Short (lines : List Line) : Prop := ∀ line ∈ lines, line.2.Short

theorem ReadsAs.line {line : Line} (short : line.2.Short) {rest : List Char}
    {statements : List Statement} (reads : ReadsAs rest statements) :
    ReadsAs (writeLine line ++ rest) (line.statement :: statements) := by
  have layout : writeLine line ++ rest = writePair line.1 (line.2.write ++ '\n' :: rest) := by
    simp [writeLine, writePair]
  rw [layout]
  exact reads.pair (write_cons line.2) (readValue_write short rest rfl)

theorem ReadsAs.lines {lines : List Line} (short : Short lines) {rest : List Char}
    {statements : List Statement} (reads : ReadsAs rest statements) :
    ReadsAs (lines.flatMap writeLine ++ rest) (lines.map Line.statement ++ statements) := by
  induction lines with
  | nil => exact reads
  | cons line lines inductionHypothesis =>
      rw [List.flatMap_cons, List.append_assoc, List.map_cons, List.cons_append]
      obtain ⟨first, others⟩ := List.forall_mem_cons.mp short
      exact (inductionHypothesis others).line first

theorem writePath_cons {path : List String} (named : path ≠ []) :
    ∃ c tail, writePath path = c :: tail ∧ c ≠ '[' := by
  obtain ⟨key, others, rfl⟩ := List.exists_cons_of_ne_nil named
  obtain ⟨c, tail, written, first⟩ := writeKey_cons key.toList
  have noBracket := (startsStatement_of_isBareChar (first.imp_right And.left)).2
  cases others with
  | nil =>
      refine ⟨c, tail, ?_, noBracket⟩
      simp [writePath, written]
  | cons next others =>
      refine ⟨c, tail ++ '.' :: writePath (next :: others), ?_, noBracket⟩
      simp [writePath, written, List.intercalate]

theorem readStatement_header {path : List String} (named : path ≠ []) (rest : List Char) :
    readStatement ('[' :: (writePath path ++ ']' :: rest)) = some (.openTable path, rest) := by
  obtain ⟨c, tail, written, noBracket⟩ := writePath_cons named
  have key := readKey_writePath named rest
  rw [written] at key ⊢
  unfold readStatement
  split
  · rename_i same
    exact absurd (List.cons.inj (List.cons.inj same).2).1 noBracket
  · rename_i same
    obtain ⟨_, rfl⟩ := List.cons.inj same
    rw [key]
    rfl
  · rename_i noHeader
    exact absurd rfl (noHeader _)

/-- A section that can be read again: it has a name, and no integer that is too long. -/
structure Section.Sound (part : Section) : Prop where
  named : part.path ≠ []
  short : Short part.lines

/-- A section reads as its statements in front of anything that can be read. -/
theorem ReadsAs.section {part : Section} (sound : part.Sound) {rest : List Char}
    {statements : List Statement} (reads : ReadsAs rest statements) :
    ReadsAs (part.write ++ rest) (part.statements ++ statements) := by
  have layout : part.write ++ rest =
      '\n' :: '[' :: (writePath part.path ++
        ']' :: '\n' :: (part.lines.flatMap writeLine ++ rest)) := by
    simp [Section.write, writePath]
  rw [layout]
  apply ReadsAs.lineBreak
  refine ReadsAs.statement ⟨rfl, by decide, by decide⟩ (readStatement_header sound.named _)
    (endLine_lineBreak _) ?_ (reads.lines sound.short)
  simp only [List.length_append, List.length_cons]
  omega

/-- All sections can be read again. -/
def Sound (groups : List SectionGroup) : Prop :=
  ∀ group ∈ groups, ∀ part ∈ group.sections, part.Sound

/-- A sheet that can be read again: no comment has a control character, all sections can be read
again, and no top-level line has an integer that is too long. -/
structure Sheet.Sound (sheet : Sheet) : Prop where
  clean : ∀ comment ∈ sheet.comments, ∀ c ∈ comment.toList, isControl c = false
  short : Short sheet.lines
  groups : Toml.Sound sheet.groups

theorem ReadsAs.sections {parts : List Section} (sound : ∀ part ∈ parts, part.Sound)
    {rest : List Char} {statements : List Statement} (reads : ReadsAs rest statements) :
    ReadsAs (parts.flatMap Section.write ++ rest)
      (parts.flatMap Section.statements ++ statements) := by
  induction parts with
  | nil => exact reads
  | cons part parts inductionHypothesis =>
      have later := inductionHypothesis fun other member => sound other (.tail _ member)
      rw [List.flatMap_cons, List.append_assoc, List.flatMap_cons, List.append_assoc]
      exact later.section (sound part List.mem_cons_self)

theorem readsAs_writeGroups {groups : List SectionGroup} (sound : Sound groups) :
    ReadsAs (writeGroups groups) (groups.flatMap SectionGroup.statements) := by
  fun_induction writeGroups groups with
  | case1 => exact readsAs_nil
  | case2 group =>
      have reads := readsAs_nil.sections (sound group List.mem_cons_self)
      rw [List.append_nil, List.append_nil] at reads
      rw [List.flatMap_cons, List.flatMap_nil, List.append_nil]
      exact reads
  | case3 group rest _ inductionHypothesis =>
      have later := inductionHypothesis fun other member => sound other (.tail _ member)
      rw [List.flatMap_cons]
      refine ReadsAs.sections (sound group List.mem_cons_self) ?_
      cases group.spaced with
      | true => exact later.lineBreak
      | false => exact later

theorem ReadsAs.comments {comments : List String}
    (clean : ∀ comment ∈ comments, ∀ c ∈ comment.toList, isControl c = false) {rest : List Char}
    {statements : List Statement} (reads : ReadsAs rest statements) :
    ReadsAs (comments.flatMap writeComment ++ rest) statements := by
  induction comments with
  | nil => exact reads
  | cons comment comments inductionHypothesis =>
      have later := inductionHypothesis fun other member => clean other (.tail _ member)
      rw [List.flatMap_cons, List.append_assoc]
      exact later.comment (clean comment List.mem_cons_self)

/-- A written sheet reads as its statements. -/
theorem readStatements_write {sheet : Sheet} (sound : sheet.Sound) :
    readStatements sheet.write = some sheet.statements := by
  have body : ReadsAs ('\n' :: (sheet.lines.flatMap writeLine ++ writeGroups sheet.groups))
      sheet.statements :=
    ((readsAs_writeGroups sound.groups).lines sound.short).lineBreak
  exact body.comments sound.clean _ (Nat.lt_succ_self _)

end ShellPrompt.Toml
