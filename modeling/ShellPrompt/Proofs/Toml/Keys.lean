import ShellPrompt.Proofs.Toml.Strings
import ShellPrompt.Toml.Sheet

/-!
Reading written keys: a key alone, the path of a header, and a key in front of its value.
-/

namespace ShellPrompt.Toml

/-- A written key starts with a character that is neither a blank nor a single quote; a double quote
stands in front of the keys that need quotes. -/
theorem writeKey_cons (key : List Char) :
    ∃ c tail, writeKey key = c :: tail ∧
      (isBareChar c = true ∨ c = '"' ∧ writeKey key = writeBasic key) := by
  by_cases bare : isBare key = true
  · rw [writeKey, if_pos bare]
    simp only [isBare, Bool.and_eq_true, Bool.not_eq_true', List.isEmpty_eq_false_iff] at bare
    obtain ⟨named, bareChars⟩ := bare
    obtain ⟨c, tail, rfl⟩ := List.exists_cons_of_ne_nil named
    exact ⟨c, tail, rfl, .inl (List.all_eq_true.mp bareChars c List.mem_cons_self)⟩
  · rw [writeKey, if_neg bare]
    exact ⟨'"', _, rfl, .inr ⟨rfl, rfl⟩⟩

/-- What a key is written in front of starts with none of these. -/
theorem isBareChar_ne {c : Char} (bare : isBareChar c = true) :
    isSpace c = false ∧ c ≠ '"' ∧ c ≠ '\x27' ∧ c ≠ '[' ∧ c ≠ '#' ∧ c ≠ '\n' ∧ c ≠ '\r' := by
  refine ⟨?_, ?_, ?_, ?_, ?_, ?_, ?_⟩
  · by_cases blank : isSpace c = true
    · simp only [isSpace, Bool.or_eq_true, beq_iff_eq] at blank
      rcases blank with rfl | rfl <;> cases bare
    · exact Bool.not_eq_true _ ▸ blank
  all_goals
    rintro rfl
    cases bare

/-- A written key reads back where it cannot go on. -/
theorem readKeyPart_writeKey_append (key : List Char) {c : Char} {rest : List Char}
    (ends : isBareChar c = false) :
    readKeyPart (writeKey key ++ c :: rest) = some (key, c :: rest) := by
  by_cases bare : isBare key = true
  · rw [writeKey, if_pos bare]
    simp only [isBare, Bool.and_eq_true, Bool.not_eq_true', List.isEmpty_eq_false_iff] at bare
    obtain ⟨named, bareChars⟩ := bare
    have taken : (key ++ c :: rest).takeWhile isBareChar = key := by
      rw [List.takeWhile_append_of_pos (List.all_eq_true.mp bareChars),
        List.takeWhile_cons_of_neg (by simp [ends]), List.append_nil]
    have left : (key ++ c :: rest).dropWhile isBareChar = c :: rest := by
      rw [List.dropWhile_append_of_pos (List.all_eq_true.mp bareChars),
        List.dropWhile_cons_of_neg (by simp [ends])]
    obtain ⟨first, tail, rfl⟩ := List.exists_cons_of_ne_nil named
    have firstBare := isBareChar_ne (List.all_eq_true.mp bareChars first List.mem_cons_self)
    unfold readKeyPart
    split
    · rename_i same
      exact absurd (List.cons.inj same).1 firstBare.2.1
    · rename_i same
      exact absurd (List.cons.inj same).1 firstBare.2.2.1
    · rw [taken, left, if_neg named]
  · rw [writeKey, if_neg bare]
    simp only [writeBasic, List.cons_append, List.append_assoc, List.nil_append]
    exact readBasic_flatMap_escapeChar key (c :: rest)

theorem dropWhile_isSpace_writeKey (key rest : List Char) :
    (writeKey key ++ rest).dropWhile isSpace = writeKey key ++ rest := by
  obtain ⟨c, tail, written, first⟩ := writeKey_cons key
  have solid : isSpace c = false := by
    rcases first with bare | ⟨rfl, _⟩
    · exact (isBareChar_ne bare).1
    · rfl
  rw [written, List.cons_append, List.dropWhile_cons_of_neg (by simp [solid])]

/-- The parts of a path with points between them. -/
def writePath (path : List String) : List Char :=
  List.intercalate ['.'] (path.map fun key => writeKey key.toList)

theorem readKey_append {key : String} {rest after : List Char} {c : Char}
    (ends : isBareChar c = false) (behind : (c :: rest).dropWhile isSpace = after)
    (last : ∀ tail, after ≠ '.' :: tail) :
    readKey (writeKey key.toList ++ c :: rest) = some ([key], after) := by
  rw [readKey, dropWhile_isSpace_writeKey]
  split
  · rename_i failed
    rw [readKeyPart_writeKey_append _ ends] at failed
    cases failed
  · rename_i read
    rw [readKeyPart_writeKey_append _ ends] at read
    cases read
    split
    · rename_i same
      exact absurd (behind.symm.trans same) (last _)
    · rw [behind, String.ofList_toList]

theorem readKey_point {key : String} {rest : List Char} :
    readKey (writeKey key.toList ++ '.' :: rest) =
      (readKey rest).map fun (parts, after) => (key :: parts, after) := by
  rw [readKey, dropWhile_isSpace_writeKey]
  split
  · rename_i failed
    rw [readKeyPart_writeKey_append _ rfl] at failed
    cases failed
  · rename_i read
    rw [readKeyPart_writeKey_append _ rfl] at read
    cases read
    split
    · rename_i same
      cases same
      rw [String.ofList_toList]
    · rename_i noPoint
      exact absurd rfl (noPoint rest)

/-- A written path reads back in front of a closing bracket. -/
theorem readKey_writePath {path : List String} (named : path ≠ []) (rest : List Char) :
    readKey (writePath path ++ ']' :: rest) = some (path, ']' :: rest) := by
  induction path with
  | nil => exact absurd rfl named
  | cons key path inductionHypothesis =>
      cases path with
      | nil =>
          simp only [writePath, List.map_cons, List.map_nil, List.intercalate_singleton]
          exact readKey_append rfl rfl (by simp)
      | cons next path =>
          have layout : writePath (key :: next :: path) ++ ']' :: rest =
              writeKey key.toList ++ '.' :: (writePath (next :: path) ++ ']' :: rest) := by
            simp [writePath, List.intercalate]
          rw [layout, readKey_point, inductionHypothesis (by simp), Option.map_some]

/-- A key reads back from its line up to the equals sign. -/
theorem readKey_writePair (key : String) (value : List Char) :
    readKey (writePair key value) = some ([key], '=' :: ' ' :: value) :=
  readKey_append rfl rfl (by simp)

theorem readKey_space (text : List Char) : readKey (' ' :: text) = readKey text := by
  have skipped : (' ' :: text).dropWhile isSpace = text.dropWhile isSpace := by
    rw [List.dropWhile_cons_of_pos rfl]
  rw [readKey, readKey, skipped]

end ShellPrompt.Toml
