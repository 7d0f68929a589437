import ShellPrompt.Config.Format
import ShellPrompt.Proofs.Template.Token

/-!
How a written master format is read again. References come back as they are, and free texts that
stand side by side come back as one, if no text behind another piece could lengthen a name or turn
a dollar sign into a reference.
-/

namespace ShellPrompt.Config

open Template

section Escapes

theorem trailingEscapes_append (first second : List Char) :
    trailingEscapes (first ++ second) =
      if (second.reverse.takeWhile (· = '\\')).length = second.reverse.length then
        second.length + trailingEscapes first
      else trailingEscapes second := by
  unfold trailingEscapes
  rw [List.reverse_append, List.takeWhile_append]
  split
  · rw [List.length_append, List.length_reverse]
  · rfl

theorem trailingEscapes_of_all {text : List Char}
    (all : (text.reverse.takeWhile (· = '\\')).length = text.reverse.length) :
    trailingEscapes text = text.length := by
  rw [trailingEscapes, all, List.length_reverse]

/-- A text in front with no open escape at its end changes nothing about the end. -/
theorem closeEscape_append {first : List Char} (even : trailingEscapes first % 2 = 0)
    (second : List Char) : closeEscape (first ++ second) = first ++ closeEscape second := by
  have parity : trailingEscapes (first ++ second) % 2 = trailingEscapes second % 2 := by
    rw [trailingEscapes_append]
    split
    · rename_i all
      rw [trailingEscapes_of_all all]
      omega
    · rfl
  unfold closeEscape
  rw [parity]
  split
  · rw [List.append_assoc]
  · rfl

theorem trailingEscapes_closeEscape (text : List Char) :
    trailingEscapes (closeEscape text) % 2 = 0 := by
  unfold closeEscape
  split
  · have one : trailingEscapes (text ++ ['\\']) = 1 + trailingEscapes text := by
      rw [trailingEscapes_append]
      rfl
    omega
  · omega

theorem closeEscape_of_even {text : List Char} (even : trailingEscapes text % 2 = 0) :
    closeEscape text = text := by
  rw [closeEscape, if_neg (by omega)]

theorem trailingEscapes_escape (c : Char) : trailingEscapes ['\\', c] % 2 = 0 := by
  by_cases escape : c = '\\'
  · subst escape
    rfl
  · simp [trailingEscapes, escape]

theorem closeEscape_escape (c : Char) (text : List Char) :
    closeEscape ('\\' :: c :: text) = '\\' :: c :: closeEscape text :=
  closeEscape_append (trailingEscapes_escape c) text

theorem trailingEscapes_plain {c : Char} (plain : c ≠ '\\') : trailingEscapes [c] % 2 = 0 := by
  simp [trailingEscapes, plain]

theorem closeEscape_cons {c : Char} (plain : c ≠ '\\') (text : List Char) :
    closeEscape (c :: text) = c :: closeEscape text :=
  closeEscape_append (trailingEscapes_plain plain) text

theorem trailingEscapes_of_not_mem {text : List Char} (plain : '\\' ∉ text) :
    trailingEscapes text = 0 := by
  rw [trailingEscapes, List.length_eq_zero_iff, List.eq_nil_iff_forall_not_mem]
  intro c member
  have escape : c = '\\' := by
    simpa using List.all_eq_true.mp List.all_takeWhile c member
  have inText := List.mem_reverse.mp ((List.takeWhile_sublist _).subset member)
  exact plain (escape ▸ inText)

/-- A name in front of a text has no part in its end. -/
theorem closeEscape_eq_takeWhile_append (text : List Char) :
    closeEscape text =
      text.takeWhile isNameChar ++ closeEscape (text.dropWhile isNameChar) := by
  have noEscape : '\\' ∉ text.takeWhile isNameChar := by
    intro member
    cases List.all_eq_true.mp List.all_takeWhile _ member
  have even : trailingEscapes (text.takeWhile isNameChar) % 2 = 0 := by
    rw [trailingEscapes_of_not_mem noEscape]
  have whole := closeEscape_append even (text.dropWhile isNameChar)
  rwa [List.takeWhile_append_dropWhile] at whole

theorem closeEscape_cases (text : List Char) :
    closeEscape text = text ∨ closeEscape text = text ++ ['\\'] := by
  unfold closeEscape
  split
  · exact .inr rfl
  · exact .inl rfl

theorem closeEscape_cons_head (c : Char) (text : List Char) :
    ∃ rest, closeEscape (c :: text) = c :: rest := by
  rcases closeEscape_cases (c :: text) with same | longer
  · exact ⟨text, same⟩
  · exact ⟨text ++ ['\\'], longer⟩

theorem closeEscape_ne_nil {text : List Char} (filled : text ≠ []) : closeEscape text ≠ [] := by
  obtain ⟨c, more, rfl⟩ := List.exists_cons_of_ne_nil filled
  obtain ⟨rest, written⟩ := closeEscape_cons_head c more
  rw [written]
  exact List.cons_ne_nil c rest

theorem startsApart_closeEscape {text : List Char} (apart : StartsApart text) :
    StartsApart (closeEscape text) := by
  cases text with
  | nil => exact apart
  | cons c text =>
      obtain ⟨rest, written⟩ := closeEscape_cons_head c text
      rw [written]
      exact apart

end Escapes

/-- A text without references, and with no open escape at its end. -/
inductive FreeText : List Char → Prop where
  | nil : FreeText []
  | escape (c : Char) {text : List Char} : FreeText text → FreeText ('\\' :: c :: text)
  | dollar {text : List Char} : StartsApart text → FreeText text → FreeText ('$' :: text)
  | plain {c : Char} {text : List Char} :
      c ≠ '\\' → c ≠ '$' → FreeText text → FreeText (c :: text)

theorem growText_append (first second : List Char) (rest : List Piece) :
    growText first (growText second rest) = growText (first ++ second) rest := by
  unfold growText
  split
  · rename_i text after same
    split at same
    · cases same
      rw [List.append_assoc]
    · cases same
      rfl
  · rename_i noText
    split at noText
    · exact absurd rfl (noText _ _)
    · exact absurd rfl (noText _ _)

theorem pieces_plain {c : Char} (noEscape : c ≠ '\\') (noDollar : c ≠ '$') (rest : List Char) :
    pieces (c :: rest) = growText [c] (pieces rest) := by
  rw [pieces]
  · exact fun same => absurd same noEscape
  · exact fun _ _ same => absurd same noEscape
  · exact noDollar

/-- Free text is read as one piece, together with the free text behind it. -/
theorem pieces_append {text rest : List Char} (free : FreeText text) (filled : text ≠ [])
    (apart : StartsApart rest) : pieces (text ++ rest) = growText text (pieces rest) := by
  induction free with
  | nil => exact absurd rfl filled
  | @escape c text _ inductionHypothesis =>
      by_cases last : text = []
      · subst last
        rw [List.cons_append, List.cons_append, List.nil_append, pieces]
      · rw [List.cons_append, List.cons_append, pieces, inductionHypothesis last,
          growText_append]
        rfl
  | @dollar text apartText _ inductionHypothesis =>
      by_cases last : text = []
      · subst last
        rw [List.cons_append, List.nil_append, pieces, if_pos apart.takeWhile]
      · have noName : (text ++ rest).takeWhile isNameChar = [] := by
          obtain ⟨c, more, rfl⟩ := List.exists_cons_of_ne_nil last
          exact List.takeWhile_cons_of_neg (by simp [apartText c rfl])
        rw [List.cons_append, pieces, if_pos noName, inductionHypothesis last, growText_append]
        rfl
  | @plain c text noEscape noDollar _ inductionHypothesis =>
      have step := pieces_plain noEscape noDollar (text ++ rest)
      by_cases last : text = []
      · subst last
        exact step
      · rw [List.cons_append, step, inductionHypothesis last, growText_append]
        rfl

theorem pieces_reference {name : List Char} (filled : name ≠ [])
    (plain : ∀ c ∈ name, isNameChar c = true) {rest : List Char} (apart : StartsApart rest) :
    pieces ('$' :: (name ++ rest)) = .reference name :: pieces rest := by
  have taken : (name ++ rest).takeWhile isNameChar = name := by
    rw [List.takeWhile_append_of_pos plain, apart.takeWhile, List.append_nil]
  have dropped : (name ++ rest).dropWhile isNameChar = rest := by
    rw [List.dropWhile_append_of_pos plain, apart.dropWhile]
  rw [pieces, taken, if_neg filled, dropped]

/-- A piece as it is written in the end: free text with its escape closed. -/
def Piece.closed : Piece → List Char
  | .reference type => '$' :: type
  | .literal text => closeEscape text

/-- A piece that can be read: a reference to a name, or some free text. -/
def Piece.Sound : Piece → Prop
  | .reference name => name ≠ [] ∧ ∀ c ∈ name, isNameChar c = true
  | .literal text => text ≠ [] ∧ FreeText (closeEscape text)

/-- A piece that may stand behind another one. -/
def Piece.Follows : Piece → Prop
  | .reference _ => True
  | .literal text => StartsApart text

/-- Pieces that are told apart when they are written one after the other. -/
def Readable : List Piece → Prop
  | [] => True
  | piece :: rest => piece.Sound ∧ ∀ other ∈ rest, other.Sound ∧ other.Follows

theorem Readable.tail {piece : Piece} {rest : List Piece} (readable : Readable (piece :: rest)) :
    Readable rest := by
  cases rest with
  | nil => trivial
  | cons next rest =>
      have later := readable.2
      exact ⟨(later next List.mem_cons_self).1, fun other member => later other (.tail _ member)⟩

theorem readable_of_forall {all : List Piece}
    (each : ∀ piece ∈ all, piece.Sound ∧ piece.Follows) : Readable all := by
  cases all with
  | nil => trivial
  | cons piece rest =>
      exact ⟨(each piece List.mem_cons_self).1, fun other member => each other (.tail _ member)⟩

theorem Readable.sublist {some all : List Piece} (readable : Readable all)
    (part : some.Sublist all) : Readable some := by
  induction part with
  | slnil => trivial
  | cons piece _ inductionHypothesis => exact inductionHypothesis readable.tail
  | @cons_cons some all piece part _ =>
      exact ⟨readable.1, fun other member => readable.2 other (part.subset member)⟩

theorem Piece.Sound.startsApart {piece : Piece} (sound : piece.Sound) (follows : piece.Follows)
    (rest : List Char) : StartsApart (piece.closed ++ rest) := by
  cases piece with
  | reference name => exact startsApart_dollar _
  | literal text =>
      have filled : closeEscape text ≠ [] := closeEscape_ne_nil sound.1
      exact (startsApart_closeEscape follows).append filled rest

theorem Readable.startsApart {piece : Piece} {rest : List Piece}
    (readable : Readable (piece :: rest)) : StartsApart (rest.flatMap Piece.closed) := by
  cases rest with
  | nil => exact startsApart_nil
  | cons next rest =>
      obtain ⟨sound, follows⟩ := readable.2 next List.mem_cons_self
      rw [List.flatMap_cons]
      exact sound.startsApart follows _

/-- The pieces that written pieces are read as: texts side by side are one. -/
def reread : List Piece → List Piece
  | [] => []
  | .literal text :: rest => growText (closeEscape text) (reread rest)
  | .reference name :: rest => .reference name :: reread rest

theorem pieces_closed {all : List Piece} (readable : Readable all) :
    pieces (all.flatMap Piece.closed) = reread all := by
  induction all with
  | nil => rw [List.flatMap_nil, pieces, reread]
  | cons piece rest inductionHypothesis =>
      have later := inductionHypothesis readable.tail
      have apart := readable.startsApart
      cases piece with
      | reference name =>
          obtain ⟨filled, plain⟩ := readable.1
          rw [List.flatMap_cons, Piece.closed, List.cons_append,
            pieces_reference filled plain apart, later, reread]
      | literal text =>
          obtain ⟨filled, free⟩ := readable.1
          rw [List.flatMap_cons, Piece.closed, pieces_append free (closeEscape_ne_nil filled) apart,
            later, reread]

theorem Readable.cons {piece : Piece} {rest : List Piece} (sound : piece.Sound)
    (readable : Readable rest) (follows : ∀ next, rest.head? = some next → next.Follows) :
    Readable (piece :: rest) := by
  refine ⟨sound, fun other member => ?_⟩
  cases rest with
  | nil => cases member
  | cons next rest =>
      rcases List.mem_cons.mp member with rfl | member
      · exact ⟨readable.1, follows other rfl⟩
      · exact readable.2 other member

/-- More free text in front of pieces leaves them readable, if it makes up free text with the text
that it may meet there. -/
theorem readable_growText {text : List Char} {rest : List Piece} (readable : Readable rest)
    (filled : text ≠ []) (alone : FreeText (closeEscape text))
    (grown : ∀ next others, rest = .literal next :: others →
      FreeText (closeEscape (text ++ next))) :
    Readable (growText text rest) := by
  unfold growText
  split
  · rename_i next others
    refine ⟨⟨?_, grown next others rfl⟩, readable.2⟩
    intro empty
    exact filled (List.append_eq_nil_iff.mp empty).1
  · rename_i noText
    refine Readable.cons ⟨filled, alone⟩ readable ?_
    intro next first
    cases next with
    | reference name => trivial
    | literal next =>
        obtain ⟨others, same⟩ := List.head?_eq_some_iff.mp first
        exact absurd same (noText next others)

/-- Free text in front of pieces starts as the text does that they are the pieces of. -/
theorem head?_of_pieces {text next : List Char} {others : List Piece} {c : Char}
    (same : pieces text = .literal next :: others) (first : next.head? = some c) :
    text.head? = some c := by
  have written := written_pieces text
  rw [same, List.flatMap_cons, Piece.written] at written
  obtain ⟨more, rfl⟩ := List.head?_eq_some_iff.mp first
  rw [← written]
  rfl

theorem startsApart_literal {text next : List Char} {others : List Piece}
    (apart : StartsApart text) (same : pieces text = .literal next :: others) :
    StartsApart next :=
  fun c first => apart c (head?_of_pieces same first)

theorem freeText_dollar {text : List Char} (apart : StartsApart text)
    (free : FreeText (closeEscape text)) : FreeText (closeEscape ('$' :: text)) := by
  rw [closeEscape_cons (by decide)]
  exact .dollar (startsApart_closeEscape apart) free

/-- The pieces of any text can be told apart, and those that are left when some are taken away. -/
theorem readable_pieces (text : List Char) : Readable (pieces text) := by
  fun_induction pieces text with
  | case1 => trivial
  | case2 =>
      have free : FreeText (closeEscape ['\\']) := .escape '\\' .nil
      exact ⟨⟨List.cons_ne_nil _ _, free⟩, fun _ member => (List.not_mem_nil member).elim⟩
  | case3 c rest inductionHypothesis =>
      have alone : FreeText (closeEscape ['\\', c]) := by
        rw [closeEscape_escape]
        exact .escape c .nil
      refine readable_growText inductionHypothesis (List.cons_ne_nil _ _) alone ?_
      intro next others same
      rw [same] at inductionHypothesis
      rw [List.cons_append, List.singleton_append, closeEscape_escape]
      exact .escape c inductionHypothesis.1.2
  | case4 rest nameless inductionHypothesis =>
      have alone : FreeText (closeEscape ['$']) := .dollar startsApart_nil .nil
      refine readable_growText inductionHypothesis (List.cons_ne_nil _ _) alone ?_
      intro next others same
      rw [same] at inductionHypothesis
      exact freeText_dollar (startsApart_literal (startsApart_of_takeWhile nameless) same)
        inductionHypothesis.1.2
  | case5 rest named inductionHypothesis =>
      have plain : ∀ c ∈ rest.takeWhile isNameChar, isNameChar c = true :=
        List.all_eq_true.mp List.all_takeWhile
      refine Readable.cons ⟨named, plain⟩ inductionHypothesis ?_
      intro next first
      cases next with
      | reference name => trivial
      | literal next =>
          obtain ⟨others, same⟩ := List.head?_eq_some_iff.mp first
          exact startsApart_literal (startsApart_dropWhile rest) same
  | case6 c rest noEnd noEscape noDollar inductionHypothesis =>
      have plain := ne_backslash noEnd noEscape
      have alone : FreeText (closeEscape [c]) := by
        rw [closeEscape_cons plain]
        exact .plain plain noDollar .nil
      refine readable_growText inductionHypothesis (List.cons_ne_nil _ _) alone ?_
      intro next others same
      rw [same] at inductionHypothesis
      rw [List.singleton_append, closeEscape_cons plain]
      exact .plain plain noDollar inductionHypothesis.1.2

theorem written_reread (all : List Piece) :
    (reread all).flatMap Piece.written = all.flatMap Piece.closed := by
  induction all with
  | nil => rfl
  | cons piece rest inductionHypothesis =>
      cases piece with
      | reference name =>
          rw [reread, List.flatMap_cons, List.flatMap_cons, inductionHypothesis]
          rfl
      | literal text =>
          rw [reread, written_growText, List.flatMap_cons, inductionHypothesis]
          rfl

theorem closed_reread (all : List Piece) :
    ∀ piece ∈ reread all, piece.closed = piece.written := by
  induction all with
  | nil => exact fun _ member => (List.not_mem_nil member).elim
  | cons piece rest inductionHypothesis =>
      cases piece with
      | reference name =>
          intro other member
          rcases List.mem_cons.mp member with rfl | member
          · rfl
          · exact inductionHypothesis other member
      | literal text =>
          intro other member
          have even := trailingEscapes_closeEscape text
          rw [reread] at member
          unfold Config.growText at member
          split at member
          · rename_i after others same
            rcases List.mem_cons.mp member with rfl | member
            · have closed := inductionHypothesis (.literal after) (same ▸ List.mem_cons_self)
              exact (closeEscape_append even after).trans (congrArg _ closed)
            · exact inductionHypothesis other (same ▸ .tail _ member)
          · rcases List.mem_cons.mp member with rfl | member
            · exact closeEscape_of_even even
            · exact inductionHypothesis other member

/-- Writing the pieces again that written pieces are read as changes nothing. -/
theorem flatMap_closed_reread (all : List Piece) :
    (reread all).flatMap Piece.closed = all.flatMap Piece.closed := by
  rw [← written_reread all]
  rw [List.flatMap_def, List.map_congr_left (closed_reread all), ← List.flatMap_def]

end ShellPrompt.Config
