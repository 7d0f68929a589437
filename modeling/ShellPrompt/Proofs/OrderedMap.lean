import ShellPrompt.OrderedMap

/-!
How entries are found, added and replaced in a list of entries whose keys are known to be there or
not. A list without repeated keys is its own map.
-/

namespace ShellPrompt.OrderedMap

variable {κ ν μ : Type} [DecidableEq κ]

theorem find_eq_none_iff {key : κ} {entries : List (κ × ν)} :
    find key entries = none ↔ key ∉ entries.map Prod.fst := by
  induction entries with
  | nil => simp [find]
  | cons entry rest inductionHypothesis =>
      by_cases same : entry.1 = key
      · simp [find, same]
      · have differs : key ≠ entry.1 := fun equal => same equal.symm
        simp [find, same, differs, inductionHypothesis]

theorem find_append {key : κ} (first second : List (κ × ν)) :
    find key (first ++ second) = (find key first).or (find key second) := by
  induction first with
  | nil => rfl
  | cons entry rest inductionHypothesis =>
      by_cases same : entry.1 = key
      · simp [find, same]
      · simp [find, same, inductionHypothesis]

theorem find_map (key : κ) (change : κ → ν → μ) (entries : List (κ × ν)) :
    find key (entries.map fun entry => (entry.1, change entry.1 entry.2)) =
      (find key entries).map (change key) := by
  induction entries with
  | nil => rfl
  | cons entry rest inductionHypothesis =>
      by_cases same : entry.1 = key
      · simp [find, same]
      · simp [find, same, inductionHypothesis]

/-- The entry that stands behind entries of other keys. -/
theorem find_append_cons {key : κ} {before : List (κ × ν)} (absent : key ∉ before.map Prod.fst)
    (value : ν) (after : List (κ × ν)) :
    find key (before ++ (key, value) :: after) = some value := by
  rw [find_append, find_eq_none_iff.mpr absent, Option.none_or, find, if_pos rfl]

/-- In a list without repeated keys every entry is the one that its key finds. -/
theorem find_of_mem {key : κ} {value : ν} {entries : List (κ × ν)}
    (distinct : (entries.map Prod.fst).Nodup) (member : (key, value) ∈ entries) :
    find key entries = some value := by
  obtain ⟨before, after, rfl⟩ := List.append_of_mem member
  rw [List.map_append, List.map_cons, List.nodup_append] at distinct
  apply find_append_cons
  intro repeated
  exact distinct.2.2 key repeated key List.mem_cons_self rfl

theorem mem_of_find {key : κ} {value : ν} {entries : List (κ × ν)}
    (found : find key entries = some value) : (key, value) ∈ entries := by
  induction entries with
  | nil => cases found
  | cons entry rest inductionHypothesis =>
      by_cases same : entry.1 = key
      · rw [find, if_pos same] at found
        cases found
        rw [← same]
        exact List.mem_cons_self
      · rw [find, if_neg same] at found
        exact .tail _ (inductionHypothesis found)

theorem mem_keys_iff {map : OrderedMap κ ν} {key : κ} :
    key ∈ map.keys ↔ ∃ value, map.get? key = some value := by
  constructor
  · intro member
    cases found : map.get? key with
    | none => exact absurd member (find_eq_none_iff.mp found)
    | some value => exact ⟨value, rfl⟩
  · rintro ⟨value, found⟩
    exact List.mem_map_of_mem (mem_of_find found)

theorem put_of_not_mem {key : κ} {entries : List (κ × ν)} (absent : key ∉ entries.map Prod.fst)
    (value : ν) : put key value entries = entries ++ [(key, value)] := by
  induction entries with
  | nil => rfl
  | cons entry rest inductionHypothesis =>
      rw [List.map_cons, List.mem_cons, not_or] at absent
      have differs : entry.1 ≠ key := fun equal => absent.1 equal.symm
      rw [put, if_neg differs, inductionHypothesis absent.2, List.cons_append]

theorem put_append_cons {key : κ} {before : List (κ × ν)} (absent : key ∉ before.map Prod.fst)
    (old value : ν) (after : List (κ × ν)) :
    put key value (before ++ (key, old) :: after) = before ++ (key, value) :: after := by
  induction before with
  | nil => rw [List.nil_append, put, if_pos rfl, List.nil_append]
  | cons entry rest inductionHypothesis =>
      rw [List.map_cons, List.mem_cons, not_or] at absent
      have differs : entry.1 ≠ key := fun equal => absent.1 equal.symm
      rw [List.cons_append, put, if_neg differs, inductionHypothesis absent.2, List.cons_append]

theorem put_put (key : κ) (value : ν) (entries : List (κ × ν)) :
    put key value (put key value entries) = put key value entries := by
  induction entries with
  | nil => rw [put, put, if_pos rfl]
  | cons entry rest inductionHypothesis =>
      by_cases same : entry.1 = key
      · rw [put, if_pos same, put, if_pos rfl]
      · rw [put, if_neg same, put, if_neg same, inductionHypothesis]

theorem insert_insert (map : OrderedMap κ ν) (key : κ) (value : ν) :
    (map.insert key value).insert key value = map.insert key value :=
  ext (put_put key value map.entries)

theorem filter_put (key : κ) (value : ν) (entries : List (κ × ν)) :
    (put key value entries).filter (fun entry => decide (entry.1 ≠ key)) =
      entries.filter fun entry => decide (entry.1 ≠ key) := by
  induction entries with
  | nil => simp [put]
  | cons entry rest inductionHypothesis =>
      by_cases same : entry.1 = key
      · simp [put, same]
      · rw [put, if_neg same, List.filter_cons_of_pos (by simpa using same),
          List.filter_cons_of_pos (by simpa using same), inductionHypothesis]

/-- Writing a key leaves the other entries as they are, in their order. -/
theorem erase_insert (map : OrderedMap κ ν) (key : κ) (value : ν) :
    (map.insert key value).erase key = map.erase key :=
  ext (filter_put key value map.entries)

theorem entries_foldl_insert (pairs : List (κ × ν)) (map : OrderedMap κ ν)
    (distinct : ((map.entries ++ pairs).map Prod.fst).Nodup) :
    (pairs.foldl (fun map pair => map.insert pair.1 pair.2) map).entries =
      map.entries ++ pairs := by
  induction pairs generalizing map with
  | nil => simp
  | cons pair pairs inductionHypothesis =>
      have absent : pair.1 ∉ map.entries.map Prod.fst := by
        rw [List.map_append, List.nodup_append] at distinct
        intro member
        exact distinct.2.2 pair.1 member pair.1 (by simp) rfl
      have added : (map.insert pair.1 pair.2).entries = map.entries ++ [pair] :=
        put_of_not_mem absent pair.2
      have regrouped : map.entries ++ pair :: pairs =
          (map.insert pair.1 pair.2).entries ++ pairs := by
        rw [added, List.append_assoc, List.singleton_append]
      rw [regrouped] at distinct
      rw [List.foldl_cons, inductionHypothesis _ distinct, regrouped]

/-- Pairs without repeated keys are the entries of their map. -/
theorem entries_ofList {pairs : List (κ × ν)} (distinct : (pairs.map Prod.fst).Nodup) :
    (ofList pairs).entries = pairs := by
  rw [ofList, entries_foldl_insert pairs empty distinct]
  rfl

@[simp]
theorem ofList_entries (map : OrderedMap κ ν) : ofList map.entries = map :=
  ext (entries_ofList map.distinct)

/-- Maps with the same keys in the same order and the same values under them are the same. -/
theorem ext_get? {first second : OrderedMap κ ν} (keys : first.keys = second.keys)
    (values : ∀ key ∈ first.keys, first.get? key = second.get? key) : first = second := by
  rcases first with ⟨entries, distinct⟩
  rcases second with ⟨others, distinctOthers⟩
  apply ext
  change entries = others
  change entries.map Prod.fst = others.map Prod.fst at keys
  change ∀ key ∈ entries.map Prod.fst, find key entries = find key others at values
  apply List.ext_getElem
  · simpa using congrArg List.length keys
  · intro index inEntries inOthers
    have sameKey : entries[index].1 = others[index].1 := by
      have same := List.getElem_of_eq keys (by simpa using inEntries)
      simpa using same
    have found : find entries[index].1 entries = some entries[index].2 :=
      find_of_mem distinct (List.getElem_mem inEntries)
    have foundOther : find others[index].1 others = some others[index].2 :=
      find_of_mem distinctOthers (List.getElem_mem inOthers)
    rw [values _ (List.mem_map_of_mem (List.getElem_mem inEntries)), sameKey, foundOther] at found
    exact Prod.ext sameKey (Option.some.inj found).symm

/-- Writes pairs one after the other into a map. -/
def insertAll (map : OrderedMap κ ν) (pairs : List (κ × ν)) : OrderedMap κ ν :=
  pairs.foldl (fun map pair => map.insert pair.1 pair.2) map

theorem mem_put {key : κ} {value : ν} {entries : List (κ × ν)} {entry : κ × ν}
    (member : entry ∈ put key value entries) : entry = (key, value) ∨ entry ∈ entries := by
  induction entries with
  | nil => exact .inl (List.mem_singleton.mp member)
  | cons first rest inductionHypothesis =>
      rw [put] at member
      split at member
      · rcases List.mem_cons.mp member with same | member
        · exact .inl same
        · exact .inr (.tail _ member)
      · rcases List.mem_cons.mp member with same | member
        · exact .inr (same ▸ List.mem_cons_self)
        · exact (inductionHypothesis member).imp_right (.tail _)

theorem insertAll_cons (map : OrderedMap κ ν) (pair : κ × ν) (pairs : List (κ × ν)) :
    map.insertAll (pair :: pairs) = (map.insert pair.1 pair.2).insertAll pairs := rfl

theorem mem_insertAll {map : OrderedMap κ ν} {pairs : List (κ × ν)} {entry : κ × ν}
    (member : entry ∈ (map.insertAll pairs).entries) : entry ∈ map.entries ∨ entry ∈ pairs := by
  induction pairs generalizing map with
  | nil => exact .inl member
  | cons pair pairs inductionHypothesis =>
      rcases inductionHypothesis member with member | later
      · rcases mem_put member with rfl | old
        · exact .inr List.mem_cons_self
        · exact .inl old
      · exact .inr (.tail _ later)

theorem get?_insertAll_of_not_mem {key : κ} {pairs : List (κ × ν)}
    (absent : key ∉ pairs.map Prod.fst) (map : OrderedMap κ ν) :
    (map.insertAll pairs).get? key = map.get? key := by
  induction pairs generalizing map with
  | nil => rfl
  | cons pair pairs inductionHypothesis =>
      rw [List.map_cons, List.mem_cons, not_or] at absent
      have differs : pair.1 ≠ key := fun equal => absent.1 equal.symm
      rw [insertAll_cons, inductionHypothesis absent.2, get?_insert, if_neg differs]

/-- New values stand over the old ones. -/
theorem get?_insertAll {pairs : List (κ × ν)} (distinct : (pairs.map Prod.fst).Nodup)
    (map : OrderedMap κ ν) (key : κ) :
    (map.insertAll pairs).get? key = (find key pairs).or (map.get? key) := by
  induction pairs generalizing map with
  | nil => rfl
  | cons pair pairs inductionHypothesis =>
      obtain ⟨new, later⟩ := List.nodup_cons.mp distinct
      by_cases same : pair.1 = key
      · subst same
        rw [insertAll_cons, get?_insertAll_of_not_mem new, get?_insert, if_pos rfl, find,
          if_pos rfl, Option.some_or]
      · rw [insertAll_cons, inductionHypothesis later, get?_insert, if_neg same, find, if_neg same]

/-- Values that are changed before they are written come out changed. -/
theorem get?_insertAll_map (change : κ → ν → ν) (pairs : List (κ × ν))
    (map changed : OrderedMap κ ν)
    (same : ∀ key, changed.get? key = (map.get? key).map (change key)) (key : κ) :
    (changed.insertAll (pairs.map fun pair => (pair.1, change pair.1 pair.2))).get? key =
      ((map.insertAll pairs).get? key).map (change key) := by
  induction pairs generalizing map changed with
  | nil => exact same key
  | cons pair pairs inductionHypothesis =>
      rw [List.map_cons, insertAll_cons, insertAll_cons]
      apply inductionHypothesis
      intro other
      rw [get?_insert, get?_insert, same]
      split
      · rename_i equal
        rw [equal]
        rfl
      · rfl

/-- Old keys keep their places, and new ones come behind them. -/
theorem keys_insertAll (map : OrderedMap κ ν) (pairs : List (κ × ν)) :
    ∃ added, (map.insertAll pairs).keys = map.keys ++ added ∧
      ∀ key ∈ added, key ∈ pairs.map Prod.fst := by
  induction pairs generalizing map with
  | nil => exact ⟨[], (List.append_nil _).symm, fun _ member => (List.not_mem_nil member).elim⟩
  | cons pair pairs inductionHypothesis =>
      obtain ⟨added, keys, known⟩ := inductionHypothesis (map.insert pair.1 pair.2)
      rw [insertAll_cons, keys, keys_insert]
      split
      · exact ⟨added, rfl, fun key member => .tail _ (known key member)⟩
      · refine ⟨pair.1 :: added, by rw [List.append_assoc]; rfl, ?_⟩
        intro key member
        rcases List.mem_cons.mp member with rfl | member
        · exact List.mem_cons_self
        · exact .tail _ (known key member)

theorem keys_insertAll_of_nodup {pairs : List (κ × ν)} (distinct : (pairs.map Prod.fst).Nodup)
    (map : OrderedMap κ ν) :
    (map.insertAll pairs).keys =
      map.keys ++ (pairs.map Prod.fst).filter fun key => key ∉ map.keys := by
  induction pairs generalizing map with
  | nil => exact (List.append_nil _).symm
  | cons pair pairs inductionHypothesis =>
      obtain ⟨new, later⟩ := List.nodup_cons.mp distinct
      rw [insertAll_cons, inductionHypothesis later, keys_insert, List.map_cons]
      by_cases known : pair.1 ∈ map.keys
      · rw [if_pos known, List.filter_cons_of_neg (by simpa using known)]
      · rw [if_neg known, List.filter_cons_of_pos (by simpa using known), List.append_assoc,
          List.singleton_append]
        congr 2
        apply List.filter_congr
        intro key member
        have differs : key ≠ pair.1 := by
          rintro rfl
          exact new member
        simp [differs]

end ShellPrompt.OrderedMap
