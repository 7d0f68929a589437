/-!
Maps that remember the order in which their keys were first written. A key keeps its place when
its value is replaced, and a new key goes to the end.
-/

namespace ShellPrompt

/-- An association list in which no key occurs twice. -/
structure OrderedMap (κ ν : Type) where
  entries : List (κ × ν)
  distinct : (entries.map Prod.fst).Nodup
  deriving DecidableEq, Repr

namespace OrderedMap

variable {κ ν μ : Type}

@[ext]
theorem ext {first second : OrderedMap κ ν} (same : first.entries = second.entries) :
    first = second := by
  cases first
  cases second
  simp_all

def empty : OrderedMap κ ν := ⟨[], List.nodup_nil⟩

instance : Inhabited (OrderedMap κ ν) := ⟨empty⟩

def keys (map : OrderedMap κ ν) : List κ := map.entries.map Prod.fst

def isEmpty (map : OrderedMap κ ν) : Bool := map.entries.isEmpty

def size (map : OrderedMap κ ν) : Nat := map.entries.length

section Lookup
variable [DecidableEq κ]

def find (key : κ) : List (κ × ν) → Option ν
  | [] => none
  | entry :: rest => if entry.1 = key then some entry.2 else find key rest

def get? (map : OrderedMap κ ν) (key : κ) : Option ν := find key map.entries

def contains (map : OrderedMap κ ν) (key : κ) : Bool := decide (key ∈ map.keys)

/-- The entries with the value of `key` replaced, or with `key` added at the end. -/
def put (key : κ) (value : ν) : List (κ × ν) → List (κ × ν)
  | [] => [(key, value)]
  | entry :: rest =>
      if entry.1 = key then (key, value) :: rest else entry :: put key value rest

theorem map_fst_put (key : κ) (value : ν) (entries : List (κ × ν)) :
    (put key value entries).map Prod.fst =
      if key ∈ entries.map Prod.fst then entries.map Prod.fst
      else entries.map Prod.fst ++ [key] := by
  induction entries with
  | nil => simp [put]
  | cons entry rest inductionHypothesis =>
      by_cases same : entry.1 = key
      · simp [put, same]
      · have differs : ¬ key = entry.1 := fun h => same h.symm
        simp only [put, same, if_false, List.map_cons, inductionHypothesis, List.mem_cons,
          differs, false_or]
        split <;> simp

theorem nodup_put (key : κ) (value : ν) {entries : List (κ × ν)}
    (distinct : (entries.map Prod.fst).Nodup) :
    ((put key value entries).map Prod.fst).Nodup := by
  rw [map_fst_put]
  split
  · exact distinct
  · rename_i absent
    refine List.nodup_append.mpr ⟨distinct, by simp, ?_⟩
    intro written member added addedMember same
    rw [List.mem_singleton] at addedMember
    exact absent (addedMember ▸ same ▸ member)

def insert (map : OrderedMap κ ν) (key : κ) (value : ν) : OrderedMap κ ν :=
  ⟨put key value map.entries, nodup_put key value map.distinct⟩

def erase (map : OrderedMap κ ν) (key : κ) : OrderedMap κ ν :=
  ⟨map.entries.filter fun entry => decide (entry.1 ≠ key),
    map.distinct.sublist (List.Sublist.map _ List.filter_sublist)⟩

/-- Writes the pairs one after the other: the last value given for a key counts. -/
def ofList (pairs : List (κ × ν)) : OrderedMap κ ν :=
  pairs.foldl (fun map pair => map.insert pair.1 pair.2) empty

@[simp]
theorem get?_empty (key : κ) : (empty : OrderedMap κ ν).get? key = none := rfl

theorem find_put (key other : κ) (value : ν) (entries : List (κ × ν)) :
    find other (put key value entries) =
      if key = other then some value else find other entries := by
  induction entries with
  | nil => simp [put, find]
  | cons entry rest inductionHypothesis =>
      by_cases same : entry.1 = key
      · simp only [put, same, if_true, find]
        split <;> rfl
      · by_cases found : entry.1 = other
        · subst found
          have differs : ¬ key = entry.1 := fun h => same h.symm
          simp [put, same, find, differs]
        · simp [put, same, find, found, inductionHypothesis]

@[simp]
theorem get?_insert (map : OrderedMap κ ν) (key other : κ) (value : ν) :
    (map.insert key value).get? other = if key = other then some value else map.get? other :=
  find_put key other value map.entries

theorem keys_insert (map : OrderedMap κ ν) (key : κ) (value : ν) :
    (map.insert key value).keys =
      if key ∈ map.keys then map.keys else map.keys ++ [key] :=
  map_fst_put key value map.entries

end Lookup

def mapValues (change : ν → μ) (map : OrderedMap κ ν) : OrderedMap κ μ :=
  ⟨map.entries.map fun entry => (entry.1, change entry.2), by
    simpa [List.map_map, Function.comp_def] using map.distinct⟩

/-- Keeps the entries whose value passes the test, in their order. -/
def filterValues (keep : ν → Bool) (map : OrderedMap κ ν) : OrderedMap κ ν :=
  ⟨map.entries.filter fun entry => keep entry.2,
    map.distinct.sublist (List.Sublist.map _ List.filter_sublist)⟩

end OrderedMap

end ShellPrompt
