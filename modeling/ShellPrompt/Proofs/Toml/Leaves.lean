import ShellPrompt.Proofs.Toml.Sheets

/-!
Values at the top of a document. Once they have been given, no header and no later key looks at what
they are, so a document with other texts in their places is made up in the same way.
-/

namespace ShellPrompt

/-- A value with another text, if it is a text. -/
def Value.mapText (change : String → String) : Value → Value
  | .text written => .text (change written)
  | value => value

namespace Toml

def Node.mapText (change : String → String) : Node → Node
  | .leaf value => .leaf (value.mapText change)
  | node => node

/-- The entries with other texts in the places of the texts that stand directly under them. -/
def Entries.mapTexts (change : String → String → String) (entries : Entries) : Entries :=
  entries.map fun entry => (entry.1, entry.2.mapText (change entry.1))

def Document.mapTexts (change : String → String → String) (document : Document) : Document :=
  { document with entries := Entries.mapTexts change document.entries }

section Entries
variable (change : String → String → String) {name : String} {entries : Entries}

theorem find?_mapTexts : Entries.find? name (Entries.mapTexts change entries) =
    (Entries.find? name entries).map (Node.mapText (change name)) :=
  OrderedMap.find_map name (fun name node => Node.mapText (change name) node) entries

theorem put_mapTexts (node : Node) :
    Entries.put name (node.mapText (change name)) (Entries.mapTexts change entries) =
      Entries.mapTexts change (Entries.put name node entries) := by
  induction entries with
  | nil => rfl
  | cons entry rest inductionHypothesis =>
      simp only [Entries.mapTexts, Entries.put, List.map_cons, OrderedMap.put]
        at inductionHypothesis ⊢
      split
      · rename_i same
        subst same
        rfl
      · rw [List.map_cons, inductionHypothesis]

/-- No header leads to a text. -/
theorem within_mapTexts (step : Entries → Option Entries) {path : List String} (named : path ≠ []) :
    Entries.within step path (Entries.mapTexts change entries) =
      (Entries.within step path entries).map (Entries.mapTexts change) := by
  obtain ⟨name, rest, rfl⟩ := List.exists_cons_of_ne_nil named
  rw [Entries.within, Entries.within, find?_mapTexts]
  have puts (node : Node) (same : node.mapText (change name) = node) :
      Entries.put name node (Entries.mapTexts change entries) =
        Entries.mapTexts change (Entries.put name node entries) := by
    rw [← put_mapTexts, same]
  cases found : Entries.find? name entries with
  | none =>
      simp only [Option.map_none, Option.map_map, Function.comp_def]
      exact congrArg (fun put => Option.map put _) (funext fun inner => puts _ rfl)
  | some node =>
      cases node with
      | leaf value => rfl
      | table origin inner =>
          simp only [Option.map_some, Node.mapText, Option.map_map, Function.comp_def]
          exact congrArg (fun put => Option.map put _) (funext fun inner => puts _ rfl)
      | array tables =>
          simp only [Option.map_some, Node.mapText]
          cases tables.getLast? with
          | none => rfl
          | some last =>
              simp only [Option.map_map, Function.comp_def]
              exact congrArg (fun put => Option.map put _) (funext fun inner => puts _ rfl)

theorem openTable_mapTexts : Entries.openTable name (Entries.mapTexts change entries) =
    (Entries.openTable name entries).map (Entries.mapTexts change) := by
  rw [Entries.openTable, Entries.openTable, find?_mapTexts]
  cases found : Entries.find? name entries with
  | none => exact congrArg some (put_mapTexts change (.table .opened []))
  | some node =>
      cases node with
      | leaf value => rfl
      | table origin inner =>
          cases origin with
          | implied => exact congrArg some (put_mapTexts change (.table .opened inner))
          | opened => rfl
          | dotted => rfl
      | array tables => rfl

end Entries

/-- A name with a value in entries that have each name once. -/
structure Entries.Keeps (name : String) (value : Value) (entries : Entries) : Prop where
  distinct : (entries.map Prod.fst).Nodup
  leaf : Entries.find? name entries = some (.leaf value)

section Kept
variable {name : String} {value : Value} {entries after : Entries}

theorem Entries.Keeps.put (keeps : Entries.Keeps name value entries) {other : String}
    (differs : other ≠ name) (node : Node) :
    Entries.Keeps name value (Entries.put other node entries) where
  distinct := OrderedMap.nodup_put other node keeps.distinct
  leaf := by
    rw [Entries.find?, Entries.put, OrderedMap.find_put, if_neg differs]
    exact keeps.leaf

theorem Entries.Keeps.within (keeps : Entries.Keeps name value entries)
    {step : Entries → Option Entries} {path : List String} (named : path ≠ [])
    (done : Entries.within step path entries = some after) : Entries.Keeps name value after := by
  obtain ⟨other, rest, rfl⟩ := List.exists_cons_of_ne_nil named
  rw [Entries.within] at done
  have differs : other ≠ name := by
    rintro rfl
    rw [keeps.leaf] at done
    cases done
  split at done
  · obtain ⟨inner, _, rfl⟩ := Option.map_eq_some_iff.mp done
    exact keeps.put differs _
  · obtain ⟨inner, _, rfl⟩ := Option.map_eq_some_iff.mp done
    exact keeps.put differs _
  · split at done
    · cases done
    · obtain ⟨inner, _, rfl⟩ := Option.map_eq_some_iff.mp done
      exact keeps.put differs _
  · cases done

theorem Entries.Keeps.openTable (keeps : Entries.Keeps name value entries) {other : String}
    (done : Entries.openTable other entries = some after) : Entries.Keeps name value after := by
  rw [Entries.openTable] at done
  have differs : other ≠ name := by
    rintro rfl
    rw [keeps.leaf] at done
    cases done
  split at done
  · cases done
    exact keeps.put differs _
  · cases done
    exact keeps.put differs _
  · cases done

end Kept

/-- Statements that have no key at the top of the document behind which they stand. -/
inductive Inner : List Statement → Document → Prop
  | nil (document : Document) : Inner [] document
  | openTable {path : List String} {rest : List Statement} {document : Document}
      (later : ∀ after, document.add (.openTable path) = some after → Inner rest after) :
      Inner (.openTable path :: rest) document
  | assign {path : List String} {value : Value} {rest : List Statement} {document : Document}
      (inside : document.header ≠ [])
      (later : ∀ after, document.add (.assign path value) = some after → Inner rest after) :
      Inner (.assign path value :: rest) document

section Statements
variable {statements : List Statement} {document : Document}

theorem Inner.append {second : List Statement} (inner : Inner statements document)
    (later : ∀ after, Inner second after) : Inner (statements ++ second) document := by
  induction inner with
  | nil document => exact later document
  | openTable _ inductionHypothesis => exact .openTable inductionHypothesis
  | assign inside _ inductionHypothesis => exact .assign inside inductionHypothesis

theorem inner_lines {lines : List Line} (inside : document.header ≠ []) :
    Inner (lines.map Line.statement) document := by
  induction lines generalizing document with
  | nil => exact .nil document
  | cons line lines inductionHypothesis =>
      refine .assign inside fun after added => ?_
      obtain ⟨entries, _, rfl⟩ := Option.map_eq_some_iff.mp added
      exact inductionHypothesis inside

theorem header_add_openTable {path : List String} {after : Document}
    (added : document.add (.openTable path) = some after) : after.header = path := by
  rw [Document.add] at added
  split at added
  · cases added
  · obtain ⟨entries, _, rfl⟩ := Option.map_eq_some_iff.mp added
    rfl

theorem inner_section {part : Section} (named : part.path ≠ []) (document : Document) :
    Inner part.statements document :=
  .openTable fun _ added => inner_lines (header_add_openTable added ▸ named)

theorem inner_flatMap {α : Type} {all : List α} {statements : α → List Statement}
    (each : ∀ item ∈ all, ∀ document, Inner (statements item) document) (document : Document) :
    Inner (all.flatMap statements) document := by
  induction all generalizing document with
  | nil => exact .nil document
  | cons item all inductionHypothesis =>
      obtain ⟨first, later⟩ := List.forall_mem_cons.mp each
      rw [List.flatMap_cons]
      exact (first document).append (inductionHypothesis later)

/-- The sections of a sheet have no key at the top of a document. -/
theorem inner_groups {groups : List SectionGroup} (sound : Sound groups) (document : Document) :
    Inner (groups.flatMap SectionGroup.statements) document :=
  inner_flatMap
    (fun group member =>
      inner_flatMap fun part inside => inner_section (sound group member part inside).named)
    document

theorem add_openTable_mapTexts (change : String → String → String) (path : List String)
    (document : Document) :
    (document.mapTexts change).add (.openTable path) =
      (document.add (.openTable path)).map (Document.mapTexts change) := by
  have within (name : String) :
      Entries.within (Entries.openTable name) path.dropLast
          (Entries.mapTexts change document.entries) =
        (Entries.within (Entries.openTable name) path.dropLast document.entries).map
          (Entries.mapTexts change) := by
    by_cases outer : path.dropLast = []
    · rw [outer, Entries.within, Entries.within]
      exact openTable_mapTexts change
    · exact within_mapTexts change _ outer
  simp only [Document.add, Document.mapTexts]
  cases path.getLast? with
  | none => rfl
  | some name =>
      simp only [within name, Option.map_map]
      rfl

theorem add_assign_mapTexts (change : String → String → String) (path : List String)
    (value : Value) (inside : document.header ≠ []) :
    (document.mapTexts change).add (.assign path value) =
      (document.add (.assign path value)).map (Document.mapTexts change) := by
  simp only [Document.add, Document.mapTexts, within_mapTexts change _ inside, Option.map_map]
  rfl

/-- Such statements do the same to a document with other texts at its top. -/
theorem Inner.foldlM_mapTexts (inner : Inner statements document)
    (change : String → String → String) :
    statements.foldlM Document.add (document.mapTexts change) =
      (statements.foldlM Document.add document).map (Document.mapTexts change) := by
  induction inner with
  | nil document => rfl
  | @openTable path rest document _ inductionHypothesis =>
      rw [List.foldlM_cons, List.foldlM_cons, add_openTable_mapTexts]
      cases added : document.add (.openTable path) with
      | none => rfl
      | some after => exact inductionHypothesis after added
  | @assign path value rest document inside _ inductionHypothesis =>
      rw [List.foldlM_cons, List.foldlM_cons, add_assign_mapTexts change path value inside]
      cases added : document.add (.assign path value) with
      | none => rfl
      | some after => exact inductionHypothesis after added

/-- They also leave every value at the top of the document where it is. -/
theorem Inner.keeps {name : String} {value : Value} {last : Document}
    (inner : Inner statements document) (keeps : Entries.Keeps name value document.entries)
    (done : statements.foldlM Document.add document = some last) :
    Entries.Keeps name value last.entries := by
  induction inner with
  | nil document =>
      cases done
      exact keeps
  | @openTable path rest document _ inductionHypothesis =>
      rw [List.foldlM_cons] at done
      obtain ⟨after, added, done⟩ := Option.bind_eq_some_iff.mp done
      refine inductionHypothesis after added ?_ done
      rw [Document.add] at added
      split at added
      · cases added
      · obtain ⟨entries, opened, rfl⟩ := Option.map_eq_some_iff.mp added
        by_cases outer : path.dropLast = []
        · rw [outer, Entries.within] at opened
          exact keeps.openTable opened
        · exact keeps.within outer opened
  | @assign path value rest document inside _ inductionHypothesis =>
      rw [List.foldlM_cons] at done
      obtain ⟨after, added, done⟩ := Option.bind_eq_some_iff.mp done
      refine inductionHypothesis after added ?_ done
      obtain ⟨entries, assigned, rfl⟩ := Option.map_eq_some_iff.mp added
      exact keeps.within inside assigned

end Statements

section Values
variable (change : String → String → String)

theorem toValue_mapText (change : String → String) (node : Node) :
    (node.mapText change).toValue = node.toValue.mapText change := by
  cases node <;> rfl

theorem toValues_mapTexts (entries : Entries) :
    Entries.toValues (Entries.mapTexts change entries) =
      (Entries.toValues entries).map fun entry => (entry.1, entry.2.mapText (change entry.1)) := by
  induction entries with
  | nil => rfl
  | cons entry rest inductionHypothesis =>
      simp only [Entries.mapTexts, List.map_cons, Entries.toValues, toValue_mapText]
        at inductionHypothesis ⊢
      rw [inductionHypothesis]

theorem find_toValues (name : String) (entries : Entries) :
    OrderedMap.find name (Entries.toValues entries) =
      (Entries.find? name entries).map Node.toValue := by
  induction entries with
  | nil => rfl
  | cons entry rest inductionHypothesis =>
      rw [Entries.toValues, OrderedMap.find, inductionHypothesis, Entries.find?, Entries.find?,
        OrderedMap.find]
      split <;> rfl

theorem map_fst_toValues (entries : Entries) :
    (Entries.toValues entries).map Prod.fst = entries.map Prod.fst := by
  induction entries with
  | nil => rfl
  | cons entry rest inductionHypothesis =>
      rw [Entries.toValues, List.map_cons, inductionHypothesis, List.map_cons]

theorem Entries.Keeps.get? {name : String} {value : Value} {entries : Entries}
    (keeps : Entries.Keeps name value entries) :
    (OrderedMap.ofList (Entries.toValues entries)).get? name = some value := by
  have distinct : ((Entries.toValues entries).map Prod.fst).Nodup := by
    rw [map_fst_toValues]
    exact keeps.distinct
  refine (OrderedMap.get?_insertAll distinct .empty name).trans ?_
  rw [find_toValues, keeps.leaf]
  rfl

end Values

section Sheets
variable {sheet : Sheet}

/-- The lines of a sheet are the first entries of its document. -/
theorem ofStatements_statements (distinct : (sheet.lines.map Prod.fst).Nodup) :
    Document.ofStatements sheet.statements =
      (sheet.groups.flatMap SectionGroup.statements).foldlM Document.add
        ⟨lineNodes sheet.lines, []⟩ := by
  have lines : (sheet.lines.map Line.statement).foldlM Document.add {} =
      some ⟨lineNodes sheet.lines, []⟩ := by
    have names : (([] ++ lineNodes sheet.lines).map Prod.fst).Nodup := by
      rwa [List.nil_append, map_fst_lineNodes]
    exact Document.foldlM_add_lines focuses_nil names
  rw [Document.ofStatements, Sheet.statements, List.foldlM_append, lines]
  rfl

/-- If a sheet reads as a document at all, the document has the values of all its lines. -/
theorem get?_of_read_write {data : OrderedMap String Value} (sound : sheet.Sound)
    (distinct : (sheet.lines.map Prod.fst).Nodup)
    (done : read (String.ofList sheet.write) = some data) {line : Line}
    (member : line ∈ sheet.lines) : data.get? line.1 = some line.2.toValue := by
  rw [read, String.toList_ofList, readStatements_write sound, Option.bind_some] at done
  obtain ⟨document, made, rfl⟩ := Option.map_eq_some_iff.mp done
  rw [ofStatements_statements distinct] at made
  have nodup : ((lineNodes sheet.lines).map Prod.fst).Nodup := by rwa [map_fst_lineNodes]
  have keeps : Entries.Keeps line.1 line.2.toValue (lineNodes sheet.lines) :=
    ⟨nodup, OrderedMap.find_of_mem nodup (List.mem_map_of_mem member)⟩
  exact ((inner_groups sound.groups _).keeps keeps made).get?

end Sheets

end Toml

end ShellPrompt
