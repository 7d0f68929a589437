import ShellPrompt.Proofs.Toml.Items

/-!
Where written texts end. The reader of a value stops behind a written string whatever stands there,
unless a quote turns an empty string into the opening of another form. The reader of a key stops in
front of the equals sign.
-/

namespace ShellPrompt.Toml

theorem append_of_closeTriple {quote : Char} {text inside after : List Char}
    (closed : closeTriple quote text = some (inside, after)) : inside ++ after = text := by
  unfold closeTriple at closed
  split at closed
  all_goals grind

theorem length_lt_of_readLongLiteral {text inside after : List Char}
    (read : readLongLiteral text = some (inside, after)) : after.length < text.length := by
  fun_induction readLongLiteral text generalizing inside with
  | case1 rest =>
      rw [← append_of_closeTriple read]
      simp only [List.length_cons, List.length_append]
      omega
  | case2 => cases read
  | case3 => cases read
  | case4 c rest _ _ inductionHypothesis =>
      obtain ⟨⟨_, _⟩, here, same⟩ := Option.map_eq_some_iff.mp read
      cases same
      have shorter := inductionHypothesis here
      simp only [List.length_cons]
      omega

theorem length_skipFirstBreak_le (text : List Char) :
    (skipFirstBreak text).length ≤ text.length := by
  unfold skipFirstBreak
  split
  · exact Nat.le_succ _
  · simp only [List.length_cons]
    omega
  · exact Nat.le_refl _

/-- Three quotes open a string over several lines, which ends further behind if it ends at all. -/
theorem readString_quotes (rest : List Char) :
    readString ('\x27' :: '\x27' :: '\x27' :: rest) ≠ some ([], '\x27' :: rest) := by
  intro read
  rw [readString] at read
  have shorter := length_lt_of_readLongLiteral read
  have skipped := length_skipFirstBreak_le rest
  simp only [List.length_cons] at shorter
  omega

/-- A written string reads back and leaves what stands behind it, in front of a line break, a comma,
a closing brace and of everything else but a quote behind the empty string. A written key, bare or
quoted, reads back as one key in front of its equals sign. -/
theorem readValue_writeString_and_readKey_writeKey (text key : String) (rest : List Char) :
    (readValue (writeString text.toList ++ rest) = some (.text text, rest) ↔
      ¬ (text = "" ∧ rest.head? = some '\x27')) ∧
    readKeyPart (writeKey key.toList ++ ' ' :: '=' :: ' ' :: rest) =
      some (key.toList, ' ' :: '=' :: ' ' :: rest) ∧
    readKey (writeKey key.toList ++ ' ' :: '=' :: ' ' :: rest) =
      some ([key], '=' :: ' ' :: rest) := by
  refine ⟨⟨?_, ?_⟩, readKeyPart_writeKey_append _ rfl, readKey_writePair key rest⟩
  · rintro read ⟨rfl, follow⟩
    obtain ⟨after, rfl⟩ := List.head?_eq_some_iff.mp follow
    obtain ⟨⟨inside, left⟩, quoted, same⟩ := Option.map_eq_some_iff.mp read
    simp only [Prod.mk.injEq, Value.text.injEq] at same
    obtain ⟨empty, rfl⟩ := same
    rw [String.ofList_eq_empty_iff] at empty
    subst empty
    exact readString_quotes after quoted
  · intro apart
    refine readValueWithin_writeString _ text fun empty follow => apart ⟨?_, follow⟩
    exact String.toList_eq_nil_iff.mp empty

end ShellPrompt.Toml
