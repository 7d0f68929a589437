import Mathlib.Data.List.Forall2
import ShellPrompt.Proofs.Terminal.Text

/-!
Which part of a text for a terminal belongs to which segment. Segments that stand one behind the
other give the texts of their parts one behind the other, and each span lies over the characters of
its own segment. Colours that cannot be read are left open where they stand; only the broken ones
keep the whole text from being made.
-/

namespace ShellPrompt.Terminal

/-- The colour that an attribute of a style is drawn in, if a terminal can show it. -/
def shownColor (written : Option String) : Option Color :=
  (Color.read written).toOption.join

/-- How a style is drawn. -/
def Look.shown (style : Style) : Look where
  color := shownColor style.foreground
  background := shownColor style.background
  bold := style.bold
  italic := style.italic
  underline := style.underline

/-- The attribute of a style, unless it is a colour that no terminal can show. -/
def readable (written : Option String) : Option String :=
  if (shownColor written).isSome then written else none

/-- The segment without the colours that no terminal can show. -/
def inReadableColors (segment : Segment) : Segment where
  text := segment.text
  style :=
    { segment.style with
      foreground := readable segment.style.foreground
      background := readable segment.style.background }

section Looks
variable {style : Style}

theorem read_readable (written : Option String) :
    Color.read (readable written) = .ok (shownColor written) := by
  unfold readable shownColor
  cases reading : Color.read written with
  | error fault => rfl
  | ok color =>
      cases color with
      | none => rfl
      | some color => exact reading

theorem ofStyle_inReadableColors (segment : Segment) :
    Look.ofStyle (inReadableColors segment).style = .ok (Look.shown segment.style) := by
  rw [Look.ofStyle, inReadableColors, read_readable, read_readable]
  rfl

theorem eq_shown_of_ofStyle {look : Look} (made : Look.ofStyle style = .ok look) :
    look = Look.shown style := by
  obtain ⟨color, foreground, made⟩ := bind_eq_ok_iff.mp made
  obtain ⟨behind, background, made⟩ := bind_eq_ok_iff.mp made
  cases made
  rw [Look.shown, shownColor, foreground, shownColor, background]
  rfl

theorem ofStyle_eq_shown (sound : ¬ BrokenStyle style) :
    Look.ofStyle style = .ok (Look.shown style) := by
  cases made : Look.ofStyle style with
  | error fault => exact absurd (exists_error_ofStyle_iff.mp ⟨fault, made⟩) sound
  | ok look => rw [eq_shown_of_ofStyle made]

end Looks

def Span.shift (distance : Nat) (span : Span) : Span :=
  { span with start := distance + span.start, stop := distance + span.stop }

/-- The characters that a terminal shows of a segment. -/
def shownChars (segment : Segment) : List Char :=
  segment.text.toList.filter fun c => !isDropped c

/-- Whether a segment is drawn in a way of its own. -/
def hasSpan (segment : Segment) : Bool :=
  segment.text != "" && !(Look.shown segment.style).isPlain

namespace StyledText

/-- Two texts one behind the other. The spans of the second one move with their characters. -/
def append (first second : StyledText) : StyledText where
  plain := first.plain ++ second.plain
  spans := first.spans ++ second.spans.map (Span.shift first.plain.length)

theorem append_empty (styled : StyledText) : styled.append {} = styled := by
  simp [append]

theorem append_assoc (first second third : StyledText) :
    (first.append second).append third = first.append (second.append third) := by
  simp [append, Span.shift, Function.comp_def, Nat.add_assoc]

theorem push_eq_append (styled : StyledText) (text : List Char) (look : Look) :
    styled.push text look = styled.append (push {} text look) := by
  unfold push append
  split <;> simp [Span.shift]

/-- Segments do the same to every text that they are put behind. -/
theorem foldlM_pushSegment (styled : StyledText) (segments : List Segment) :
    segments.foldlM pushSegment styled = (ofSegments segments).map styled.append := by
  induction segments generalizing styled with
  | nil =>
      rw [List.foldlM_nil]
      exact congrArg Except.ok styled.append_empty.symm
  | cons segment rest inductionHypothesis =>
      rw [ofSegments, List.foldlM_cons, List.foldlM_cons, pushSegment, pushSegment]
      cases Look.ofStyle segment.style with
      | error fault => rfl
      | ok look =>
          change rest.foldlM pushSegment (styled.push segment.text.toList look) =
            (rest.foldlM pushSegment (push {} segment.text.toList look)).map styled.append
          rw [push_eq_append styled, inductionHypothesis, inductionHypothesis]
          cases ofSegments rest with
          | error fault => rfl
          | ok others => exact congrArg Except.ok (append_assoc _ _ _)

/-- What a text is that segments make. It shows their characters, and it has a span for each of
them that is drawn in a way of its own. The spans stand in the order of the segments, none of them
reaches into the next one or beyond the text, and each lies over the characters of its segment. -/
structure LaidOut (segments : List Segment) (styled : StyledText) : Prop where
  plain : styled.plain = segments.flatMap shownChars
  ordered : styled.spans.Pairwise fun span next => span.stop ≤ next.start
  inside : ∀ span ∈ styled.spans, span.start ≤ span.stop ∧ span.stop ≤ styled.plain.length
  covers :
    List.Forall₂
      (fun span segment =>
        span.look = Look.shown segment.style ∧
          (styled.plain.take span.stop).drop span.start = shownChars segment)
      styled.spans (segments.filter hasSpan)

namespace LaidOut
variable {first second : List Segment} {front back : StyledText}

theorem empty : LaidOut [] {} where
  plain := rfl
  ordered := .nil
  inside := nofun
  covers := .nil

theorem append (laidFront : LaidOut first front) (laidBack : LaidOut second back) :
    LaidOut (first ++ second) (front.append back) where
  plain := by rw [StyledText.append, List.flatMap_append, laidFront.plain, laidBack.plain]
  ordered := by
    refine List.pairwise_append.mpr ⟨laidFront.ordered, ?_, ?_⟩
    · refine List.Pairwise.map _ ?_ laidBack.ordered
      intro span next before
      exact Nat.add_le_add_left before _
    · intro span member next moved
      obtain ⟨later, _, rfl⟩ := List.mem_map.mp moved
      exact Nat.le_trans (laidFront.inside span member).2 (Nat.le_add_right _ _)
  inside := by
    intro span member
    rw [StyledText.append, List.length_append]
    rcases List.mem_append.mp member with inFront | moved
    · obtain ⟨forward, within⟩ := laidFront.inside span inFront
      exact ⟨forward, Nat.le_add_right_of_le within⟩
    · obtain ⟨later, inBack, rfl⟩ := List.mem_map.mp moved
      obtain ⟨forward, within⟩ := laidBack.inside later inBack
      exact ⟨Nat.add_le_add_left forward _, Nat.add_le_add_left within _⟩
  covers := by
    rw [List.filter_append]
    apply List.rel_append
    · have bounded := (List.forall₂_and_left _ _).mpr ⟨laidFront.inside, laidFront.covers⟩
      refine bounded.imp ?_
      rintro span segment ⟨⟨_, within⟩, look, shown⟩
      refine ⟨look, ?_⟩
      rw [StyledText.append, List.take_append_of_le_length within, shown]
    · rw [List.forall₂_map_left_iff]
      refine laidBack.covers.imp ?_
      rintro span segment ⟨look, shown⟩
      refine ⟨look, ?_⟩
      simp only [StyledText.append, Span.shift]
      rw [List.take_length_add_append, List.drop_length_add_append, shown]

end LaidOut

/-- A segment adds its characters, and its span if it has one. -/
theorem laidOut_push (segment : Segment) :
    LaidOut [segment] (push {} segment.text.toList (Look.shown segment.style)) := by
  have plain : (push {} segment.text.toList (Look.shown segment.style)).plain =
      shownChars segment := List.nil_append _
  have undrawn : (segment.text.toList = [] ∨ (Look.shown segment.style).isPlain = true) ↔
      ¬ hasSpan segment = true := by
    simp [hasSpan, or_iff_not_imp_left]
  by_cases drawn : hasSpan segment = true
  · have spans : (push {} segment.text.toList (Look.shown segment.style)).spans =
        [⟨0, (shownChars segment).length, Look.shown segment.style⟩] :=
      if_neg fun none => undrawn.mp none drawn
    constructor
    · simpa using plain
    · rw [spans]
      exact List.pairwise_singleton _ _
    · simp [spans, plain]
    · rw [spans, plain, List.filter_cons_of_pos drawn]
      simp
  · have spans : (push {} segment.text.toList (Look.shown segment.style)).spans = [] :=
      if_pos (undrawn.mpr drawn)
    constructor
    · simpa using plain
    · rw [spans]
      exact .nil
    · rw [spans]
      exact nofun
    · rw [spans, List.filter_cons_of_neg drawn]
      exact .nil

theorem ofSegments_cons {segment : Segment} {look : Look}
    (made : Look.ofStyle segment.style = .ok look) (rest : List Segment) :
    ofSegments (segment :: rest) =
      (ofSegments rest).map (append (push {} segment.text.toList look)) := by
  rw [ofSegments, List.foldlM_cons, pushSegment, made]
  exact foldlM_pushSegment _ rest

/-- In readable colours, segments make a text whatever their colours were. -/
theorem exists_laidOut (segments : List Segment) :
    ∃ styled, ofSegments (segments.map inReadableColors) = .ok styled ∧
      LaidOut segments styled := by
  induction segments with
  | nil => exact ⟨{}, rfl, .empty⟩
  | cons segment rest inductionHypothesis =>
      obtain ⟨others, made, laid⟩ := inductionHypothesis
      refine ⟨_, ?_, (laidOut_push segment).append laid⟩
      rw [List.map_cons, ofSegments_cons (ofStyle_inReadableColors segment), made]
      rfl

/-- Colours that no terminal can show may as well be left out, unless they are broken. -/
theorem ofSegments_inReadableColors {segments : List Segment}
    (sound : ∀ segment ∈ segments, ¬ BrokenStyle segment.style) :
    ofSegments (segments.map inReadableColors) = ofSegments segments := by
  induction segments with
  | nil => rfl
  | cons segment rest inductionHypothesis =>
      obtain ⟨unbroken, soundRest⟩ := List.forall_mem_cons.mp sound
      rw [List.map_cons, ofSegments_cons (ofStyle_eq_shown unbroken),
        ofSegments_cons (ofStyle_inReadableColors segment), inductionHypothesis soundRest]
      rfl

/-- A text for a terminal is made part by part: the segments behind others are put behind their
text, spans and all. Colours that cannot be read change nothing about it, as if they were not there,
and the text shows and covers what its segments say; only a broken colour keeps it from being
made. -/
theorem ofSegments_append (first second : List Segment) :
    (ofSegments (first ++ second) = do
      let front ← ofSegments first
      let back ← ofSegments second
      return front.append back) ∧
    ((∃ fault, ofSegments first = .error fault) ↔ ∃ segment ∈ first, BrokenStyle segment.style) ∧
    ∃ styled, LaidOut first styled ∧ ofSegments (first.map inReadableColors) = .ok styled ∧
      (ofSegments first = .ok styled ↔ ∀ segment ∈ first, ¬ BrokenStyle segment.style) := by
  obtain ⟨styled, made, laid⟩ := exists_laidOut first
  refine ⟨?_, exists_error_ofSegments_iff, styled, laid, made, ?_, ?_⟩
  · rw [ofSegments, List.foldlM_append]
    refine bind_congr fun front => ?_
    rw [foldlM_pushSegment]
    cases ofSegments second with
    | error fault => rfl
    | ok back => rfl
  · intro done segment member broken
    obtain ⟨fault, failed⟩ := exists_error_ofSegments_iff.mpr ⟨segment, member, broken⟩
    rw [done] at failed
    cases failed
  · intro sound
    rw [← ofSegments_inReadableColors sound, made]

/-- A colour without its middle part is not left out: it keeps a text from being made that could be
made without it. -/
theorem exists_error_ofSegments_mixed :
    shownColor (some "rgb(1,,2)") = none ∧
      (∃ styled, ofSegments ([⟨"a", { foreground := some "rgb(1,,2)" }⟩].map inReadableColors) =
        .ok styled) ∧
      ∃ fault, ofSegments [⟨"a", { foreground := some "rgb(1,,2)" }⟩] = .error fault := by
  have lowered : trim (Text.lower "rgb(1,,2)").toList =
      "rgb(".toList ++ ['1'] ++ ',' :: [] ++ ',' :: ['2'] ++ [')'] := by
    decide +kernel
  have digits : [['1'], [], ['2']].all (List.all · Char.isDigit) = true := by decide
  have broken : BrokenMix (trim (Text.lower "rgb(1,,2)").toList) := by
    refine ⟨['1'], [], ['2'], lowered, ?_, [], .tail _ (.head _), rfl⟩
    intro part member c inside
    have digit := List.all_eq_true.mp (List.all_eq_true.mp digits part member) c inside
    rw [Text.isDecimal_of_isDigit digit, Bool.true_or]
  refine ⟨by decide +kernel, ?_, ?_⟩
  · obtain ⟨styled, made, _⟩ := exists_laidOut [⟨"a", { foreground := some "rgb(1,,2)" }⟩]
    exact ⟨styled, made⟩
  · exact exists_error_ofSegments_iff.mpr ⟨_, List.mem_cons_self, _, .inl rfl, broken⟩

end StyledText

end ShellPrompt.Terminal
