import ShellPrompt.Style
import ShellPrompt.Terminal.Color

/-!
Text for a terminal: the characters of a prompt's segments, and spans that say how to draw them. A
segment whose style says nothing that a terminal can show has no span.
-/

namespace ShellPrompt.Terminal

/-- The characters that a terminal text leaves out: bell, backspace, vertical tab, form feed and
carriage return. -/
def isDropped (c : Char) : Bool :=
  c == '\x07' || c == '\x08' || c == '\x0b' || c == '\x0c' || c == '\r'

structure Look where
  color : Option Color := none
  background : Option Color := none
  bold : Option Bool := none
  italic : Option Bool := none
  underline : Option Bool := none
  deriving DecidableEq, Repr

namespace Look

def isPlain (look : Look) : Bool :=
  look.color.isNone && look.background.isNone && look.bold.isNone && look.italic.isNone &&
    look.underline.isNone

def ofStyle (style : Style) : Except BrokenColor Look := do
  let color ← Color.read style.foreground
  let background ← Color.read style.background
  return { color, background, bold := style.bold, italic := style.italic,
           underline := style.underline }

end Look

structure Span where
  start : Nat
  stop : Nat
  look : Look
  deriving DecidableEq, Repr

structure StyledText where
  plain : List Char := []
  spans : List Span := []
  deriving DecidableEq, Repr

namespace StyledText

/-- The text with some more at its end, under a span if it is to be drawn in a way of its own. -/
def push (styled : StyledText) (text : List Char) (look : Look) : StyledText :=
  let plain := styled.plain ++ text.filter fun c => !isDropped c
  let spans :=
    if text = [] ∨ look.isPlain then styled.spans
    else styled.spans ++ [⟨styled.plain.length, plain.length, look⟩]
  { plain, spans }

def pushSegment (styled : StyledText) (segment : Segment) : Except BrokenColor StyledText := do
  let look ← Look.ofStyle segment.style
  return styled.push segment.text.toList look

def ofSegments (segments : List Segment) : Except BrokenColor StyledText :=
  segments.foldlM pushSegment {}

end StyledText

end ShellPrompt.Terminal
