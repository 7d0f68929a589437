import ShellPrompt.Style.Parse

/-!
Styled blocks `[content](style)` of a text whose variables are replaced. A text splits into runs of
plain characters and blocks; the segments of a block's content take its style underneath. Blocks
that lie too deep are left as they are written.
-/

namespace ShellPrompt.Template

/-- The text up to the bracket that closes a block with `depth` brackets open inside it, and the
text behind that bracket. A character behind a backslash closes nothing. -/
def closeBracket (depth : Nat) : List Char → Option (List Char × List Char)
  | [] => none
  | ['\\'] => none
  | '\\' :: c :: rest =>
      (closeBracket depth rest).map fun (inner, after) => ('\\' :: c :: inner, after)
  | '[' :: rest =>
      (closeBracket (depth + 1) rest).map fun (inner, after) => ('[' :: inner, after)
  | ']' :: rest =>
      match depth with
      | 0 => some ([], rest)
      | depth + 1 => (closeBracket depth rest).map fun (inner, after) => (']' :: inner, after)
  | c :: rest => (closeBracket depth rest).map fun (inner, after) => (c :: inner, after)

/-- The text up to the next closing parenthesis without a backslash, and the text behind it. -/
def closeStyle : List Char → Option (List Char × List Char)
  | [] => none
  | ['\\'] => none
  | '\\' :: c :: rest => (closeStyle rest).map fun (inner, after) => ('\\' :: c :: inner, after)
  | ')' :: rest => some ([], rest)
  | c :: rest => (closeStyle rest).map fun (inner, after) => (c :: inner, after)

structure Block where
  content : List Char
  style : List Char
  after : List Char

def readBlock (text : List Char) : Option Block :=
  match closeBracket 0 text with
  | some (content, '(' :: rest) =>
      (closeStyle rest).map fun (style, after) => ⟨content, style, after⟩
  | _ => none

theorem eq_append_of_closeBracket {depth : Nat} {text inner after : List Char}
    (closed : closeBracket depth text = some (inner, after)) : text = inner ++ ']' :: after := by
  fun_induction closeBracket depth text generalizing inner with
  | case1 => simp at closed
  | case2 => simp at closed
  | case3 depth c rest inductionHypothesis =>
      obtain ⟨⟨first, last⟩, here, same⟩ := Option.map_eq_some_iff.mp closed
      simp only [Prod.mk.injEq] at same
      obtain ⟨rfl, rfl⟩ := same
      simp [inductionHypothesis here]
  | case4 depth rest inductionHypothesis =>
      obtain ⟨⟨first, last⟩, here, same⟩ := Option.map_eq_some_iff.mp closed
      simp only [Prod.mk.injEq] at same
      obtain ⟨rfl, rfl⟩ := same
      simp [inductionHypothesis here]
  | case5 rest =>
      simp only [Option.some.injEq, Prod.mk.injEq] at closed
      obtain ⟨rfl, rfl⟩ := closed
      rfl
  | case6 rest depth inductionHypothesis =>
      obtain ⟨⟨first, last⟩, here, same⟩ := Option.map_eq_some_iff.mp closed
      simp only [Prod.mk.injEq] at same
      obtain ⟨rfl, rfl⟩ := same
      simp [inductionHypothesis here]
  | case7 depth c rest _ _ _ _ inductionHypothesis =>
      obtain ⟨⟨first, last⟩, here, same⟩ := Option.map_eq_some_iff.mp closed
      simp only [Prod.mk.injEq] at same
      obtain ⟨rfl, rfl⟩ := same
      simp [inductionHypothesis here]

theorem eq_append_of_closeStyle {text inner after : List Char}
    (closed : closeStyle text = some (inner, after)) : text = inner ++ ')' :: after := by
  fun_induction closeStyle text generalizing inner with
  | case1 => simp at closed
  | case2 => simp at closed
  | case3 c rest inductionHypothesis =>
      obtain ⟨⟨first, last⟩, here, same⟩ := Option.map_eq_some_iff.mp closed
      simp only [Prod.mk.injEq] at same
      obtain ⟨rfl, rfl⟩ := same
      simp [inductionHypothesis here]
  | case4 rest =>
      simp only [Option.some.injEq, Prod.mk.injEq] at closed
      obtain ⟨rfl, rfl⟩ := closed
      rfl
  | case5 c rest _ _ _ inductionHypothesis =>
      obtain ⟨⟨first, last⟩, here, same⟩ := Option.map_eq_some_iff.mp closed
      simp only [Prod.mk.injEq] at same
      obtain ⟨rfl, rfl⟩ := same
      simp [inductionHypothesis here]

theorem eq_append_of_readBlock {text : List Char} {block : Block}
    (found : readBlock text = some block) :
    text = block.content ++ ']' :: '(' :: (block.style ++ ')' :: block.after) := by
  unfold readBlock at found
  split at found
  · rename_i content rest closed
    obtain ⟨⟨style, after⟩, styled, rfl⟩ := Option.map_eq_some_iff.mp found
    rw [eq_append_of_closeBracket closed, eq_append_of_closeStyle styled]
  · simp at found

/-- Adds a run of plain text in front of segments, unless it is empty. -/
def flush (run : List Char) (segments : List Segment) : List Segment :=
  if run = [] then segments else ⟨String.ofList run, {}⟩ :: segments

/-- The run of plain characters at the front of a text, without the backslashes of its escapes, and
the segments behind it. Blocks may lie `levels` deep; a text below that is one plain run. -/
def splitRun (theme : Option Theme) (levels : Nat) : List Char → List Char × List Segment
  | [] => ([], [])
  | ['\\'] => (['\\'], [])
  | '\\' :: c :: rest =>
      let (run, segments) := splitRun theme levels rest
      (c :: run, segments)
  | '[' :: rest =>
      match _found : readBlock rest with
      | some block =>
          let inner :=
            match levels with
            | 0 => flush block.content []
            | levels + 1 =>
                let (run, segments) := splitRun theme levels block.content
                flush run segments
          let (run, segments) := splitRun theme levels block.after
          ([], inner.map (Segment.onto (Style.parse theme (String.ofList block.style))) ++
            flush run segments)
      | none =>
          let (run, segments) := splitRun theme levels rest
          ('[' :: run, segments)
  | c :: rest =>
      let (run, segments) := splitRun theme levels rest
      (c :: run, segments)
termination_by text => text.length
decreasing_by
  all_goals first
    | (have shorter := congrArg List.length (eq_append_of_readBlock _found)
       simp only [List.length_append, List.length_cons] at shorter ⊢
       omega)
    | simp only [List.length_cons]; omega

def segments (theme : Option Theme) (levels : Nat) (text : List Char) : List Segment :=
  let (run, rest) := splitRun theme levels text
  flush run rest

end ShellPrompt.Template
