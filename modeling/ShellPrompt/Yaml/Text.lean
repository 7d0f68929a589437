import ShellPrompt.Text.Quoted

/-!
Line breaks in YAML texts, and the scalars in quotes. A line break inside a quoted scalar reads as
a blank, or as the line breaks that follow it, if there are any.

Left out are two things: how deeply the values of a text may lie in each other, and halves of
surrogate pairs. An escape for such a half is read as the replacement character.
-/

namespace ShellPrompt.Yaml

open ShellPrompt.Text

inductive Fault where
  | invalid
  /-- An escape gives the number of no character. -/
  | noCharacter (number : Nat)
  /-- A directive gives a number of too many digits. -/
  | long (fault : LongInteger)
  deriving DecidableEq, Repr

def ofOption {α : Type} (read : Option α) : Except Fault α :=
  match read with
  | some value => .ok value
  | none => .error .invalid

def isBreak (c : Char) : Bool :=
  c == '\n' || c == '\r' || c == '\x85' || c == '\u2028' || c == '\u2029'

def isBlank (c : Char) : Bool := c == ' ' || c == '\t'

/-- Whether a text is at its end or before a line break. -/
def atLineEnd : List Char → Bool
  | [] => true
  | c :: _ => isBreak c

/-- Whether a text is at its end, or before a blank or a line break. -/
def atGap : List Char → Bool
  | [] => true
  | c :: _ => isBlank c || isBreak c

/-- The line break at the front of a text, as it reads, and the text behind it. -/
def takeBreak : List Char → Option (Char × List Char)
  | '\r' :: '\n' :: rest => some ('\n', rest)
  | c :: rest =>
      if c = '\u2028' ∨ c = '\u2029' then some (c, rest)
      else if isBreak c then some ('\n', rest)
      else none
  | [] => none

theorem length_takeBreak_lt {text rest : List Char} {c : Char}
    (taken : takeBreak text = some (c, rest)) : rest.length < text.length := by
  unfold takeBreak at taken
  split at taken
  · simp only [Option.some.injEq, Prod.mk.injEq] at taken
    obtain ⟨_, rfl⟩ := taken
    simp only [List.length_cons]
    omega
  · repeat' split at taken
    all_goals first
      | (simp only [Option.some.injEq, Prod.mk.injEq] at taken
         obtain ⟨_, rfl⟩ := taken
         simp)
      | simp at taken
  · simp at taken

/-- Whether a text starts with the marker of a document's start or end. -/
def atMarker : List Char → Bool
  | '-' :: '-' :: '-' :: rest => atGap rest
  | '.' :: '.' :: '.' :: rest => atGap rest
  | _ => false

theorem length_dropBlank_le (text : List Char) : (text.dropWhile isBlank).length ≤ text.length :=
  (List.dropWhile_sublist _).length_le

/-- The line breaks behind a first one, with blanks between them, and the text behind these. No
document marker may stand behind a line break. -/
def furtherBreaks (text : List Char) : Except Fault (List Char × List Char) :=
  if atMarker text then .error .invalid
  else
    match _taken : takeBreak (text.dropWhile isBlank) with
    | none => .ok ([], text.dropWhile isBlank)
    | some (c, rest) => (furtherBreaks rest).map fun (breaks, rest) => (c :: breaks, rest)
termination_by text.length
decreasing_by
  have := length_takeBreak_lt _taken
  have := length_dropBlank_le text
  omega

theorem length_furtherBreaks_le {text breaks rest : List Char}
    (read : furtherBreaks text = .ok (breaks, rest)) : rest.length ≤ text.length := by
  fun_induction furtherBreaks text generalizing breaks with
  | case1 => simp at read
  | case2 text =>
      simp only [Except.ok.injEq, Prod.mk.injEq] at read
      obtain ⟨_, rfl⟩ := read
      exact length_dropBlank_le text
  | case3 text _ c after taken inductionHypothesis =>
      have := length_takeBreak_lt taken
      have := length_dropBlank_le text
      cases furthered : furtherBreaks after with
      | error fault => simp [furthered, Except.map] at read
      | ok result =>
          simp only [furthered, Except.map, Except.ok.injEq, Prod.mk.injEq] at read
          obtain ⟨_, rfl⟩ := read
          have := inductionHypothesis furthered
          omega

def foldBreaks (first : Char) (further : List Char) : List Char :=
  if first ≠ '\n' then first :: further else if further = [] then [' '] else further

def unescape? : Char → Option Char
  | '0' => some '\x00'
  | 'a' => some '\x07'
  | 'b' => some '\x08'
  | 't' => some '\t'
  | '\t' => some '\t'
  | 'n' => some '\n'
  | 'v' => some '\x0b'
  | 'f' => some '\x0c'
  | 'r' => some '\r'
  | 'e' => some '\x1b'
  | ' ' => some ' '
  | '"' => some '"'
  | '\\' => some '\\'
  | '/' => some '/'
  | 'N' => some '\x85'
  | '_' => some '\xa0'
  | 'L' => some '\u2028'
  | 'P' => some '\u2029'
  | _ => none

def escapeLength? : Char → Option Nat
  | 'x' => some 2
  | 'u' => some 4
  | 'U' => some 8
  | _ => none

/-- The character with a number. Half of a surrogate pair is the replacement character. -/
def character (number : Nat) : Except Fault Char :=
  match charAt? number with
  | some c => .ok c
  | none => if number < 0x110000 then .ok '\ufffd' else .error (.noCharacter number)

def readEscape : List Char → Except Fault (Char × List Char)
  | [] => .error .invalid
  | c :: rest =>
      match unescape? c with
      | some written => .ok (written, rest)
      | none =>
          match escapeLength? c with
          | none => .error .invalid
          | some length =>
              if rest.length < length then .error .invalid
              else
                match readHex? (rest.take length) with
                | none => .error .invalid
                | some number => (character number).map fun written => (written, rest.drop length)

theorem length_readEscape_lt {text rest : List Char} {c : Char}
    (read : readEscape text = .ok (c, rest)) : rest.length < text.length := by
  unfold readEscape at read
  repeat' split at read
  all_goals first
    | (simp at read; done)
    | (simp only [Except.ok.injEq, Prod.mk.injEq] at read
       obtain ⟨_, rfl⟩ := read
       simp)
    | (rename_i number _
       cases known : character number with
       | error fault => simp [known, Except.map] at read
       | ok c =>
           simp only [known, Except.map, Except.ok.injEq, Prod.mk.injEq] at read
           obtain ⟨_, rfl⟩ := read
           simp only [List.length_drop, List.length_cons]
           omega)

/-- Puts text in front of what a reader found. -/
def prepend (text : List Char) (read : Except Fault (List Char × List Char)) :
    Except Fault (List Char × List Char) :=
  read.map fun (more, rest) => (text ++ more, rest)

/-- The text inside quotes from behind the opening one, and the text behind the closing one. Within
double quotes a backslash begins an escape; within single quotes a doubled quote stands for one. -/
def readQuoted (double : Bool) (text : List Char) : Except Fault (List Char × List Char) :=
  match text with
  | [] => .error .invalid
  | '\x27' :: '\x27' :: rest =>
      if double then prepend ['\x27'] (readQuoted double ('\x27' :: rest))
      else prepend ['\x27'] (readQuoted double rest)
  | '\x27' :: rest =>
      if double then prepend ['\x27'] (readQuoted double rest) else .ok ([], rest)
  | '"' :: rest => if double then .ok ([], rest) else prepend ['"'] (readQuoted double rest)
  | '\\' :: rest =>
      if double then
        match _taken : takeBreak rest with
        | some (_, rest) =>
            match _further : furtherBreaks rest with
            | .error fault => .error fault
            | .ok (breaks, rest) => prepend breaks (readQuoted double rest)
        | none =>
            match _escape : readEscape rest with
            | .error fault => .error fault
            | .ok (c, rest) => prepend [c] (readQuoted double rest)
      else prepend ['\\'] (readQuoted double rest)
  | c :: rest =>
      if isBlank c || isBreak c then
        match _taken : takeBreak ((c :: rest).dropWhile isBlank) with
        | some (first, behind) =>
            match _further : furtherBreaks behind with
            | .error fault => .error fault
            | .ok (breaks, after) => prepend (foldBreaks first breaks) (readQuoted double after)
        | none => prepend [c] (readQuoted double rest)
      else prepend [c] (readQuoted double rest)
termination_by text.length
decreasing_by
  all_goals first
    | (have shorter := length_takeBreak_lt _taken
       have := length_furtherBreaks_le _further
       have := length_dropBlank_le (c :: rest)
       simp only [List.length_cons] at *
       omega)
    | (have shorter := length_takeBreak_lt _taken
       have := length_furtherBreaks_le _further
       simp only [List.length_cons]
       omega)
    | (have shorter := length_readEscape_lt _escape
       simp only [List.length_cons]
       omega)
    | (simp only [List.length_cons]; omega)

end ShellPrompt.Yaml
