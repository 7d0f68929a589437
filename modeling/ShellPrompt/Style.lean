/-!
Styles of text, in which every attribute may be left open, and segments: runs of text with a style.
Styles lie over each other; the upper one decides wherever it says something. With the empty style
this is a monoid.
-/

namespace ShellPrompt

structure Style where
  foreground : Option String := none
  background : Option String := none
  bold : Option Bool := none
  italic : Option Bool := none
  underline : Option Bool := none
  deriving DecidableEq, Repr, Inhabited

namespace Style

def isEmpty (style : Style) : Bool :=
  style.foreground.isNone && style.background.isNone && style.bold.isNone && style.italic.isNone &&
    style.underline.isNone

/-- The attributes of `style`, and where it leaves one open, that of `base`. -/
def above (style base : Style) : Style where
  foreground := style.foreground.or base.foreground
  background := style.background.or base.background
  bold := style.bold.or base.bold
  italic := style.italic.or base.italic
  underline := style.underline.or base.underline

@[simp]
theorem above_empty (style : Style) : style.above {} = style := by
  simp [above]

@[simp]
theorem empty_above (style : Style) : Style.above {} style = style := by
  simp [above]

theorem above_assoc (first second third : Style) :
    (first.above second).above third = first.above (second.above third) := by
  simp [above, Option.or_assoc]

end Style

structure Segment where
  text : String
  style : Style := {}
  deriving DecidableEq, Repr, Inhabited

namespace Segment

/-- The segment with its style laid over another one. -/
def onto (base : Style) (segment : Segment) : Segment :=
  ⟨segment.text, segment.style.above base⟩

theorem onto_onto (outer inner : Style) (segment : Segment) :
    (segment.onto inner).onto outer = segment.onto (inner.above outer) := by
  rw [onto, onto, Style.above_assoc, onto]

def plain (segments : List Segment) : String := String.join (segments.map Segment.text)

end Segment

end ShellPrompt
