import ShellPrompt.Proofs.Toml.Characters
import ShellPrompt.Proofs.Toml.Leaves

/-!
Reading a written sheet back from a file, which unifies its line ends. Only long texts keep carriage
returns, so a sheet with long texts in its top-level lines only reads as before, but for the
carriage returns in front of the line feeds of these texts.
-/

namespace ShellPrompt.Toml

open ShellPrompt.Text

theorem unifyNewlines_longChars (text rest : List Char) :
    unifyNewlines (longChars text ++ rest) =
      longCharsWith ['\n'] text ++ unifyNewlines rest := by
  fun_induction longChars text with
  | case1 text inductionHypothesis =>
      simp only [List.cons_append, longCharsWith, unifyNewlines_cons (show '"' ≠ '\r' by decide),
        unifyNewlines_cons (show '\\' ≠ '\r' by decide), inductionHypothesis]
  | case2 text few inductionHypothesis =>
      rw [List.cons_append, unifyNewlines_cons (by decide), inductionHypothesis, longCharsWith]
      · rfl
      · exact few
  | case3 text inductionHypothesis =>
      rw [List.cons_append, unifyNewlines_cons (by decide), inductionHypothesis, longCharsWith]
      rfl
  | case4 text inductionHypothesis =>
      rw [List.cons_append, List.cons_append, unifyNewlines, inductionHypothesis, longCharsWith]
      rfl
  | case5 c text noTriple noQuote noFeed noPair inductionHypothesis =>
      have plain : '\r' ∉ escapeChar c :=
        (OnlyBreaks.of_clean (isControl_escapeChar c)).return_notMem not_false
      rw [List.append_assoc, unifyNewlines_append_of_plain plain, inductionHypothesis,
        longCharsWith, List.append_assoc]
      · exact noTriple
      · exact noQuote
      · exact noFeed
      · exact noPair
  | case6 => rfl

theorem unifyNewlines_writeLong (text rest : List Char) :
    unifyNewlines (writeLong text ++ rest) =
      writeLongWith ['\n'] text ++ unifyNewlines rest := by
  have opening : '\r' ∉ ['"', '"', '"'] ++ if startsWithBreak text then ['\n'] else [] := by
    split <;> decide
  have closing : '\r' ∉ ['"', '"', '"'] := by decide
  have layout : writeLong text ++ rest =
      (['"', '"', '"'] ++ if startsWithBreak text then ['\n'] else []) ++
        (longChars text ++ (['"', '"', '"'] ++ rest)) := by
    simp [writeLong]
  rw [layout, unifyNewlines_append_of_plain opening, unifyNewlines_longChars,
    unifyNewlines_append_of_plain closing]
  simp [writeLongWith]

/-- An item as it is read from a file. -/
def Item.joined : Item → Item
  | .long text => .long (joinText text)
  | item => item

def Line.joined (line : Line) : Line := (line.1, line.2.joined)

theorem unifyNewlines_item {item : Item} (short : item.Short) : ∃ written,
    (∀ rest, unifyNewlines (item.write ++ rest) = written ++ unifyNewlines rest) ∧
      (∃ c tail, written = c :: tail ∧ isSpace c = false) ∧
      ∀ rest, readValue (written ++ '\n' :: rest) = some (item.joined.toValue, '\n' :: rest) := by
  by_cases long : ∃ text, item = .long text
  · obtain ⟨text, rfl⟩ := long
    refine ⟨_, unifyNewlines_writeLong text.toList, ⟨_, _, rfl, rfl⟩, fun rest => ?_⟩
    refine readValueWithin_of_readString _ ⟨_, .inl rfl⟩ ?_
    rw [joinText, String.toList_ofList]
    exact readString_writeLongWith_append .feed text.toList (by simp)
  · have plain : '\r' ∉ item.write := by
      refine (onlyBreaks_item item).return_notMem ?_
      rintro ⟨text, same, _⟩
      exact long ⟨text, same⟩
    have same : item.joined = item := by
      cases item with
      | long text => exact absurd ⟨text, rfl⟩ long
      | _ => rfl
    rw [same]
    exact ⟨item.write, fun rest => unifyNewlines_append_of_plain plain, write_cons item,
      fun rest => readValue_write short rest rfl⟩

theorem ReadsAs.unifiedLine {line : Line} (short : line.2.Short) {rest : List Char}
    {statements : List Statement} (reads : ReadsAs (unifyNewlines rest) statements) :
    ReadsAs (unifyNewlines (writeLine line ++ rest)) (line.joined.statement :: statements) := by
  obtain ⟨written, unified, solid, read⟩ := unifyNewlines_item short
  have key : '\r' ∉ writeKey line.1.toList ++ [' ', '=', ' '] := by
    simpa using (onlyBreaks_writeKey _).return_notMem not_false
  have layout : writeLine line ++ rest =
      (writeKey line.1.toList ++ [' ', '=', ' ']) ++ (line.2.write ++ '\n' :: rest) := by
    simp [writeLine, writePair]
  have line : unifyNewlines (writeLine line ++ rest) =
      writePair line.1 (written ++ '\n' :: unifyNewlines rest) := by
    rw [layout, unifyNewlines_append_of_plain key, unified, unifyNewlines_cons (by decide)]
    simp [writePair]
  rw [line]
  exact reads.pair solid (read _)

theorem ReadsAs.unifiedLines {lines : List Line} (short : Short lines) {rest : List Char}
    {statements : List Statement} (reads : ReadsAs (unifyNewlines rest) statements) :
    ReadsAs (unifyNewlines (lines.flatMap writeLine ++ rest))
      (lines.map (fun line => line.joined.statement) ++ statements) := by
  induction lines with
  | nil => exact reads
  | cons line lines inductionHypothesis =>
      rw [List.flatMap_cons, List.append_assoc, List.map_cons, List.cons_append]
      obtain ⟨first, others⟩ := List.forall_mem_cons.mp short
      exact (inductionHypothesis others).unifiedLine first

/-- A sheet as it is read from a file, if only its top-level lines have long texts. -/
def Sheet.joined (sheet : Sheet) : Sheet := { sheet with lines := sheet.lines.map Line.joined }

theorem readStatements_unifyNewlines_write {sheet : Sheet} (sound : sheet.Sound)
    (plain : ∀ group ∈ sheet.groups, ∀ part ∈ group.sections, ¬ part.KeepsReturn) :
    readStatements (unifyNewlines sheet.write) = some sheet.joined.statements := by
  have groups : unifyNewlines (writeGroups sheet.groups) = writeGroups sheet.groups := by
    refine unifyNewlines_eq_self ((onlyBreaks_writeGroups _).return_notMem ?_)
    rintro ⟨group, member, part, inside, keeps⟩
    exact plain group member part inside keeps
  have comments : '\r' ∉ sheet.comments.flatMap writeComment :=
    (onlyBreaks_comments sound.clean).return_notMem not_false
  have body : ReadsAs (unifyNewlines (sheet.lines.flatMap writeLine ++ writeGroups sheet.groups))
      sheet.joined.statements := by
    rw [Sheet.statements, Sheet.joined, List.map_map]
    refine ReadsAs.unifiedLines sound.short ?_
    rw [groups]
    exact readsAs_writeGroups sound.groups
  rw [Sheet.write, unifyNewlines_append_of_plain comments, unifyNewlines_cons (by decide)]
  exact body.lineBreak.comments sound.clean _ (Nat.lt_succ_self _)

section Documents
variable {change : String → String → String}

/-- The texts at the top of a document are read from a file in another form. -/
def Joins (change : String → String → String) (lines : List Line) : Prop :=
  ∀ line ∈ lines, line.2.joined.toValue = line.2.toValue.mapText (change line.1)

theorem lineNodes_joined {lines : List Line} (joins : Joins change lines) :
    lineNodes (lines.map Line.joined) = Entries.mapTexts change (lineNodes lines) := by
  rw [lineNodes, lineNodes, Entries.mapTexts, List.map_map, List.map_map]
  apply List.map_congr_left
  intro line member
  exact congrArg (fun value => (line.1, Node.leaf value)) (joins line member)

theorem ofStatements_joined {sheet : Sheet} (joins : Joins change sheet.lines)
    (distinct : (sheet.lines.map Prod.fst).Nodup) (sound : Sound sheet.groups) :
    Document.ofStatements sheet.joined.statements =
      (Document.ofStatements sheet.statements).map (Document.mapTexts change) := by
  have joinedDistinct : (sheet.joined.lines.map Prod.fst).Nodup := by
    rwa [Sheet.joined, List.map_map]
  rw [ofStatements_statements joinedDistinct, ofStatements_statements distinct, Sheet.joined,
    lineNodes_joined joins]
  exact (inner_groups sound ⟨lineNodes sheet.lines, []⟩).foldlM_mapTexts change

/-- From a file, a sheet reads as a document with other texts at its top, if it reads at all. -/
theorem read_unifyNewlines_write {sheet : Sheet} (sound : sheet.Sound)
    (plain : ∀ group ∈ sheet.groups, ∀ part ∈ group.sections, ¬ part.KeepsReturn)
    (distinct : (sheet.lines.map Prod.fst).Nodup) (joins : Joins change sheet.lines) :
    Option.Rel (fun data joined => ∀ key, joined.get? key =
        (data.get? key).map (Value.mapText (change key)))
      (read (String.ofList sheet.write)) (read (String.ofList (unifyNewlines sheet.write))) := by
  rw [read, read, String.toList_ofList, String.toList_ofList, readStatements_write sound,
    readStatements_unifyNewlines_write sound plain, Option.bind_some, Option.bind_some,
    ofStatements_joined joins distinct sound.groups]
  cases Document.ofStatements sheet.statements with
  | none => exact .none
  | some document =>
      refine .some fun key => ?_
      simp only [Document.mapTexts, toValues_mapTexts]
      exact OrderedMap.get?_insertAll_map (fun name value => Value.mapText (change name) value) _
        .empty .empty (fun _ => rfl) key

end Documents

end ShellPrompt.Toml
