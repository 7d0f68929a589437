/-!
Blank characters, and the words of a text: its longest runs of characters that are not blank.
-/

namespace ShellPrompt.Text

/-- The characters that separate words: the Unicode white space characters together with the four
information separators U+001C to U+001F. -/
def isBlank (c : Char) : Bool :=
  let n := c.toNat
  (9 ≤ n && n ≤ 13) || (28 ≤ n && n ≤ 32) || n == 0x85 || n == 0xA0 || n == 0x1680 ||
    (0x2000 ≤ n && n ≤ 0x200A) || n == 0x2028 || n == 0x2029 || n == 0x202F || n == 0x205F ||
    n == 0x3000

def growFirst (c : Char) : List (List Char) → List (List Char)
  | [] => [[c]]
  | word :: rest => (c :: word) :: rest

def startsWord : List Char → Bool
  | [] => false
  | c :: _ => !isBlank c

def words : List Char → List (List Char)
  | [] => []
  | c :: rest =>
      if isBlank c then words rest
      else if startsWord rest then growFirst c (words rest)
      else [c] :: words rest

def wordsOf (text : String) : List String := (words text.toList).map String.ofList

theorem words_append_blank (first rest : List Char) {c : Char} (blank : isBlank c = true) :
    words (first ++ c :: rest) = words first ++ words rest := by
  have open_eq : ∀ l : List Char, startsWord (l ++ c :: rest) = startsWord l := by
    intro l
    cases l <;> simp [startsWord, blank]
  induction first with
  | nil => simp [words, blank]
  | cons d first inductionHypothesis =>
      simp only [List.cons_append, words, open_eq, inductionHypothesis]
      split
      · rfl
      · split
        · rename_i starts
          cases first with
          | nil => simp [startsWord] at starts
          | cons e first =>
              have inside : isBlank e = false := by simpa [startsWord] using starts
              cases h : words (e :: first) with
              | nil =>
                  simp only [words, inside] at h
                  split at h
                  · simp at *
                  · split at h
                    · cases hw : words first <;> simp [growFirst, hw] at h
                    · simp at h
              | cons word others => simp [growFirst]
        · simp

def unwords (parts : List String) : String := " ".intercalate parts

end ShellPrompt.Text
