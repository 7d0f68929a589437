import ShellPrompt.Proofs.Toml.Statements

/-!
What a written sheet holds once it is read. The lines come first, then one table for each section,
and last the table that sections with a common outer name share. No key or table is met twice, as
long as the names are distinct.
-/

namespace ShellPrompt.Toml

/-- The entries that lines add to a table. -/
def lineNodes (lines : List Line) : Entries := lines.map fun line => (line.1, .leaf line.2.toValue)

/-- The table of a section. -/
def sectionNode (lines : List Line) : Node := .table .opened (lineNodes lines)

theorem map_fst_lineNodes (lines : List Line) :
    (lineNodes lines).map Prod.fst = lines.map Prod.fst := by
  simp [lineNodes]

/-- Changing the table that a header leads to changes one place of the entries, which `rebuild`
leaves open. -/
def Focuses (header : List String) (rebuild : Entries → Entries) : Prop :=
  ∀ (change : Entries → Option Entries) (inner : Entries),
    Entries.within change header (rebuild inner) = (change inner).map rebuild

theorem focuses_nil : Focuses [] id := by
  intro change inner
  rw [Entries.within, Option.map_id]
  rfl

/-- A header leads into the last of the tables that are there. -/
theorem Focuses.last {header : List String} {rebuild : Entries → Entries}
    (focus : Focuses header rebuild) {name : String} {before : Entries}
    (absent : name ∉ before.map Prod.fst) (origin : Origin) :
    Focuses (name :: header) fun inner => before ++ [(name, .table origin (rebuild inner))] := by
  intro change inner
  have found : Entries.find? name (before ++ [(name, .table origin (rebuild inner))]) =
      some (.table origin (rebuild inner)) :=
    OrderedMap.find_append_cons absent _ []
  have replaced (later : Entries) :
      Entries.put name (.table origin later) (before ++ [(name, .table origin (rebuild inner))]) =
        before ++ [(name, .table origin later)] :=
    OrderedMap.put_append_cons absent _ _ []
  rw [Entries.within, found]
  simp only [focus change inner, Option.map_map, Function.comp_def, replaced]

theorem Document.add_line {header : List String} {rebuild : Entries → Entries}
    (focus : Focuses header rebuild) {inner : Entries} {line : Line}
    (absent : line.1 ∉ inner.map Prod.fst) :
    Document.add ⟨rebuild inner, header⟩ line.statement =
      some ⟨rebuild (inner ++ lineNodes [line]), header⟩ := by
  simp only [Line.statement, Document.add, focus (Entries.assign line.2.toValue [line.1]) inner,
    Entries.assign_new absent, Option.map_some]
  rfl

/-- Lines with new keys go to the table that the header leads to. -/
theorem Document.foldlM_add_lines {header : List String} {rebuild : Entries → Entries}
    (focus : Focuses header rebuild) {inner : Entries} {lines : List Line}
    (distinct : ((inner ++ lineNodes lines).map Prod.fst).Nodup) :
    (lines.map Line.statement).foldlM Document.add ⟨rebuild inner, header⟩ =
      some ⟨rebuild (inner ++ lineNodes lines), header⟩ := by
  induction lines generalizing inner with
  | nil => simp [lineNodes]
  | cons line lines inductionHypothesis =>
      have regrouped : inner ++ lineNodes (line :: lines) =
          inner ++ lineNodes [line] ++ lineNodes lines := by
        simp [lineNodes]
      have absent : line.1 ∉ inner.map Prod.fst := by
        rw [List.map_append, List.nodup_append] at distinct
        intro member
        exact distinct.2.2 line.1 member line.1 (by simp [lineNodes]) rfl
      rw [regrouped] at distinct ⊢
      rw [List.map_cons, List.foldlM_cons, Document.add_line focus absent]
      exact inductionHypothesis distinct

/-- A section with a name of its own. -/
def topSection (part : String × List Line) : Section := ⟨[part.1], part.2⟩

/-- A section inside a table. -/
def innerSection (outer : String) (part : String × List Line) : Section :=
  ⟨[outer, part.1], part.2⟩

def sectionNodes (parts : List (String × List Line)) : Entries :=
  parts.map fun part => (part.1, sectionNode part.2)

/-- In no section a key is written twice. -/
def DistinctLines (parts : List (String × List Line)) : Prop :=
  ∀ part ∈ parts, (part.2.map Prod.fst).Nodup

theorem Entries.openTable_new {name : String} {entries : Entries}
    (absent : name ∉ entries.map Prod.fst) :
    Entries.openTable name entries = some (entries ++ [(name, .table .opened [])]) := by
  rw [Entries.openTable, Entries.find?_eq_none_iff.mpr absent, Entries.put,
    OrderedMap.put_of_not_mem absent]

theorem Document.foldlM_add_topSection {document : Document} {part : String × List Line}
    (absent : part.1 ∉ document.entries.map Prod.fst) (distinct : (part.2.map Prod.fst).Nodup) :
    (topSection part).statements.foldlM Document.add document =
      some ⟨document.entries ++ sectionNodes [part], [part.1]⟩ := by
  have opened : Document.add document (.openTable [part.1]) =
      some ⟨document.entries ++ [(part.1, .table .opened [])], [part.1]⟩ := by
    simp only [Document.add, List.getLast?_singleton, List.dropLast_singleton, Entries.within,
      Entries.openTable_new absent, Option.map_some]
  have lines : (([] ++ lineNodes part.2).map Prod.fst).Nodup := by
    rw [List.nil_append, map_fst_lineNodes]
    exact distinct
  rw [Section.statements, List.foldlM_cons, topSection, opened]
  exact Document.foldlM_add_lines (focuses_nil.last absent .opened) lines

theorem Document.foldlM_add_topSections {parts : List (String × List Line)} {document : Document}
    (names : ((document.entries ++ sectionNodes parts).map Prod.fst).Nodup)
    (distinct : DistinctLines parts) :
    ∃ header,
      (parts.flatMap fun part => (topSection part).statements).foldlM Document.add document =
      some ⟨document.entries ++ sectionNodes parts, header⟩ := by
  induction parts generalizing document with
  | nil => exact ⟨document.header, by simp [sectionNodes]⟩
  | cons part parts inductionHypothesis =>
      have regrouped : document.entries ++ sectionNodes (part :: parts) =
          document.entries ++ sectionNodes [part] ++ sectionNodes parts := by
        simp [sectionNodes]
      have absent : part.1 ∉ document.entries.map Prod.fst := by
        rw [List.map_append, List.nodup_append] at names
        intro member
        exact names.2.2 part.1 member part.1 (by simp [sectionNodes]) rfl
      have first := Document.foldlM_add_topSection absent (distinct part List.mem_cons_self)
      rw [regrouped] at names ⊢
      rw [List.flatMap_cons, List.foldlM_append, first]
      exact inductionHypothesis names fun other member => distinct other (.tail _ member)

/-- Entries with a table behind them that was never opened itself, once it holds something. -/
def nested (before : Entries) (outer : String) (inner : Entries) : Entries :=
  if inner = [] then before else before ++ [(outer, .table .implied inner)]

@[simp]
theorem nested_nil (before : Entries) (outer : String) : nested before outer [] = before :=
  if_pos rfl

theorem within_openTable_nested {before inner : Entries} {outer name : String}
    (absent : outer ∉ before.map Prod.fst) (new : name ∉ inner.map Prod.fst) :
    Entries.within (Entries.openTable name) [outer] (nested before outer inner) =
      some (before ++ [(outer, .table .implied (inner ++ [(name, .table .opened [])]))]) := by
  by_cases empty : inner = []
  · subst empty
    rw [nested, if_pos rfl, Entries.within, Entries.find?_eq_none_iff.mpr absent]
    simp only [Entries.within, Entries.openTable_new new, Option.map_some, Entries.put,
      OrderedMap.put_of_not_mem absent]
  · rw [nested, if_neg empty]
    have focus := (focuses_nil.last absent .implied) (Entries.openTable name) inner
    simp only [id_eq] at focus
    rw [focus, Entries.openTable_new new, Option.map_some]

theorem Document.foldlM_add_innerSection {before inner : Entries} {outer : String}
    {header : List String} {part : String × List Line} (absent : outer ∉ before.map Prod.fst)
    (new : part.1 ∉ inner.map Prod.fst) (distinct : (part.2.map Prod.fst).Nodup) :
    (innerSection outer part).statements.foldlM Document.add ⟨nested before outer inner, header⟩ =
      some ⟨nested before outer (inner ++ sectionNodes [part]), [outer, part.1]⟩ := by
  have opened : Document.add ⟨nested before outer inner, header⟩ (.openTable [outer, part.1]) =
      some ⟨before ++ [(outer, .table .implied (inner ++ [(part.1, .table .opened [])]))],
        [outer, part.1]⟩ := by
    have within := within_openTable_nested absent new
    simp only [Document.add, List.getLast?_cons_cons, List.getLast?_singleton,
      List.dropLast_cons_cons, List.dropLast_singleton, within, Option.map_some]
  have lines : (([] ++ lineNodes part.2).map Prod.fst).Nodup := by
    rw [List.nil_append, map_fst_lineNodes]
    exact distinct
  have filled : inner ++ sectionNodes [part] ≠ [] := by
    simp [sectionNodes]
  rw [Section.statements, List.foldlM_cons, innerSection, opened, nested, if_neg filled]
  exact Document.foldlM_add_lines ((focuses_nil.last new .opened).last absent .implied) lines

/-- Sections with a common outer name make up one table. -/
theorem Document.foldlM_add_innerSections {before inner : Entries} {outer : String}
    {header : List String} {parts : List (String × List Line)}
    (absent : outer ∉ before.map Prod.fst)
    (names : ((inner ++ sectionNodes parts).map Prod.fst).Nodup) (distinct : DistinctLines parts) :
    ∃ last, (parts.flatMap fun part => (innerSection outer part).statements).foldlM Document.add
        ⟨nested before outer inner, header⟩ =
      some ⟨nested before outer (inner ++ sectionNodes parts), last⟩ := by
  induction parts generalizing inner header with
  | nil => exact ⟨header, by simp [sectionNodes]⟩
  | cons part parts inductionHypothesis =>
      have regrouped : inner ++ sectionNodes (part :: parts) =
          inner ++ sectionNodes [part] ++ sectionNodes parts := by
        simp [sectionNodes]
      have new : part.1 ∉ inner.map Prod.fst := by
        rw [List.map_append, List.nodup_append] at names
        intro member
        exact names.2.2 part.1 member part.1 (by simp [sectionNodes]) rfl
      have first : (innerSection outer part).statements.foldlM Document.add
          ⟨nested before outer inner, header⟩ =
            some ⟨nested before outer (inner ++ sectionNodes [part]), [outer, part.1]⟩ :=
        Document.foldlM_add_innerSection absent new (distinct part List.mem_cons_self)
      rw [regrouped] at names ⊢
      rw [List.flatMap_cons, List.foldlM_append, first]
      exact inductionHypothesis names fun other member => distinct other (.tail _ member)

theorem toValues_append (first second : Entries) :
    Entries.toValues (first ++ second) = Entries.toValues first ++ Entries.toValues second := by
  induction first with
  | nil => rfl
  | cons entry rest inductionHypothesis =>
      rw [List.cons_append, Entries.toValues, Entries.toValues, inductionHypothesis,
        List.cons_append]

theorem toValues_lineNodes (lines : List Line) :
    Entries.toValues (lineNodes lines) = lines.map fun line => (line.1, line.2.toValue) := by
  induction lines with
  | nil => rfl
  | cons line lines inductionHypothesis =>
      simp only [lineNodes, List.map_cons, Entries.toValues, Node.toValue, List.cons.injEq,
        true_and]
      exact inductionHypothesis

/-- The table that lines make up. -/
def lineTable (lines : List Line) : Value :=
  .table (lines.map fun line => (line.1, line.2.toValue))

theorem toValues_sectionNodes (parts : List (String × List Line)) :
    Entries.toValues (sectionNodes parts) = parts.map fun part => (part.1, lineTable part.2) := by
  induction parts with
  | nil => rfl
  | cons part parts inductionHypothesis =>
      simp only [sectionNodes, List.map_cons, Entries.toValues, sectionNode, Node.toValue,
        toValues_lineNodes, lineTable, List.cons.injEq, true_and]
      exact inductionHypothesis

/-- A sheet of lines, sections with names of their own, and sections inside one table. -/
structure Outline where
  lines : List Line
  parts : List (String × List Line)
  outer : String
  inner : List (String × List Line)

namespace Outline

def statements (outline : Outline) : List Statement :=
  outline.lines.map Line.statement ++
    ((outline.parts.flatMap fun part => (topSection part).statements) ++
      outline.inner.flatMap fun part => (innerSection outline.outer part).statements)

/-- The top-level entries that an outline stands for. -/
def entries (outline : Outline) : List (String × Value) :=
  (outline.lines.map fun line => (line.1, line.2.toValue)) ++
    (outline.parts.map fun part => (part.1, lineTable part.2)) ++
      if outline.inner = [] then []
      else [(outline.outer, .table (outline.inner.map fun part => (part.1, lineTable part.2)))]

/-- No name is given twice in one table. -/
structure Distinct (outline : Outline) : Prop where
  names : (outline.lines.map Prod.fst ++ outline.parts.map Prod.fst).Nodup
  outer : outline.outer ∉ outline.lines.map Prod.fst ++ outline.parts.map Prod.fst
  inner : (outline.inner.map Prod.fst).Nodup
  partLines : DistinctLines outline.parts
  innerLines : DistinctLines outline.inner

theorem map_fst_sectionNodes (parts : List (String × List Line)) :
    (sectionNodes parts).map Prod.fst = parts.map Prod.fst := by
  simp [sectionNodes]

/-- The entries in front of the common table. -/
def topNodes (outline : Outline) : Entries :=
  lineNodes outline.lines ++ sectionNodes outline.parts

/-- The tables that the statements of an outline build. -/
def nodes (outline : Outline) : Entries :=
  nested outline.topNodes outline.outer (sectionNodes outline.inner)

theorem toValues_topNodes (outline : Outline) :
    Entries.toValues outline.topNodes =
      (outline.lines.map fun line => (line.1, line.2.toValue)) ++
        outline.parts.map fun part => (part.1, lineTable part.2) := by
  rw [topNodes, toValues_append, toValues_lineNodes, toValues_sectionNodes]

theorem map_fst_topNodes (outline : Outline) :
    outline.topNodes.map Prod.fst =
      outline.lines.map Prod.fst ++ outline.parts.map Prod.fst := by
  rw [topNodes, List.map_append, map_fst_lineNodes, map_fst_sectionNodes]

theorem toValues_nodes (outline : Outline) :
    Entries.toValues outline.nodes = outline.entries := by
  by_cases none : outline.inner = []
  · have empty : sectionNodes outline.inner = [] := by
      rw [none]
      rfl
    rw [nodes, empty, nested_nil, toValues_topNodes, entries, if_pos none, List.append_nil]
  · have filled : sectionNodes outline.inner ≠ [] := by
      simpa [sectionNodes] using none
    rw [nodes, nested, if_neg filled, toValues_append, toValues_topNodes, entries, if_neg none]
    simp only [Entries.toValues, Node.toValue, toValues_sectionNodes]

/-- The statements of an outline build its tables. -/
theorem ofStatements_statements {outline : Outline} (distinct : outline.Distinct) :
    ∃ header, Document.ofStatements outline.statements = some ⟨outline.nodes, header⟩ := by
  have lineNames : (([] ++ lineNodes outline.lines).map Prod.fst).Nodup := by
    rw [List.nil_append, map_fst_lineNodes]
    exact (List.nodup_append.mp distinct.names).1
  have partNames : (outline.topNodes.map Prod.fst).Nodup := by
    rw [map_fst_topNodes]
    exact distinct.names
  have outerName : outline.outer ∉ outline.topNodes.map Prod.fst := by
    rw [map_fst_topNodes]
    exact distinct.outer
  have innerNames : (([] ++ sectionNodes outline.inner).map Prod.fst).Nodup := by
    rw [List.nil_append, map_fst_sectionNodes]
    exact distinct.inner
  have lines : (outline.lines.map Line.statement).foldlM Document.add {} =
      some ⟨lineNodes outline.lines, []⟩ :=
    Document.foldlM_add_lines focuses_nil lineNames
  obtain ⟨header, parts⟩ : ∃ header,
      (outline.parts.flatMap fun part => (topSection part).statements).foldlM Document.add
        ⟨lineNodes outline.lines, []⟩ = some ⟨outline.topNodes, header⟩ :=
    Document.foldlM_add_topSections partNames distinct.partLines
  obtain ⟨last, inner⟩ : ∃ last,
      (outline.inner.flatMap fun part => (innerSection outline.outer part).statements).foldlM
        Document.add ⟨nested outline.topNodes outline.outer [], header⟩ =
          some ⟨nested outline.topNodes outline.outer ([] ++ sectionNodes outline.inner), last⟩ :=
    Document.foldlM_add_innerSections outerName innerNames distinct.innerLines
  rw [nested_nil, List.nil_append] at inner
  refine ⟨last, ?_⟩
  rw [Document.ofStatements, statements, List.foldlM_append, lines]
  simp only [Option.bind_eq_bind, Option.bind_some]
  rw [List.foldlM_append, parts]
  exact inner

theorem map_fst_entries (outline : Outline) :
    outline.entries.map Prod.fst = outline.lines.map Prod.fst ++ outline.parts.map Prod.fst ++
      if outline.inner = [] then [] else [outline.outer] := by
  unfold entries
  split <;> simp [List.map_map, Function.comp_def]

theorem nodup_entries {outline : Outline} (distinct : outline.Distinct) :
    (outline.entries.map Prod.fst).Nodup := by
  rw [map_fst_entries]
  split
  · rw [List.append_nil]
    exact distinct.names
  · refine List.nodup_append.mpr ⟨distinct.names, by simp, ?_⟩
    intro name member other same equal
    rw [List.mem_singleton] at same
    exact distinct.outer (same ▸ equal ▸ member)

end Outline

/-- A document of one line reads as that line, however its value is written. -/
theorem read_writePair {key : String} {written : List Char} {value : Value}
    (solid : ∃ c tail, written = c :: tail ∧ isSpace c = false)
    (held : readValue (written ++ ['\n']) = some (value, ['\n'])) :
    read (String.ofList (writePair key (written ++ ['\n']))) = some (.ofList [(key, value)]) := by
  have statements : readStatements (writePair key (written ++ ['\n'])) =
      some [.assign [key] value] :=
    readsAs_nil.pair solid held _ (Nat.lt_succ_self _)
  rw [read, String.toList_ofList, statements]
  rfl

/-- A sheet that follows an outline reads as the entries of the outline, in their order. -/
theorem read_write {sheet : Sheet} {outline : Outline} (sound : sheet.Sound)
    (follows : sheet.statements = outline.statements) (distinct : outline.Distinct) :
    ∃ data, read (String.ofList sheet.write) = some data ∧ data.entries = outline.entries := by
  obtain ⟨header, made⟩ := Outline.ofStatements_statements distinct
  refine ⟨.ofList outline.entries, ?_, OrderedMap.entries_ofList (Outline.nodup_entries distinct)⟩
  rw [read, String.toList_ofList, readStatements_write sound, Option.bind_some, follows, made,
    Option.map_some, Outline.toValues_nodes]

end ShellPrompt.Toml
