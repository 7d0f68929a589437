import ShellPrompt.Proofs.Template.Token
import ShellPrompt.Template

/-!
Templates as trees. A layout is a sequence of literal texts, references to variables, styled blocks
and optional groups, where blocks and groups hold layouts themselves. It has a printed form, and a
meaning of its own: no printing or reading is needed to say what it comes to.
-/

namespace ShellPrompt.Template

def styleName : List Char := ['s', 't', 'y', 'l', 'e']

def isBracket (c : Char) : Bool := c == '(' || c == ')' || c == '[' || c == ']'

/-- What a block says about its style. -/
inductive BlockStyle where
  /-- The style of the surroundings, printed as the reference `$style`. -/
  | base
  | words (text : List Char)

namespace BlockStyle

def print : BlockStyle → List Char
  | .base => '$' :: styleName
  | .words text => text

def tokens : BlockStyle → List Token
  | .base => [.reference styleName]
  | .words text => text.map .plain

/-- The names that the style refers to. -/
def names : BlockStyle → List (List Char)
  | .base => [styleName]
  | .words _ => []

/-- The style string that is meant where the surroundings have the style `base`. -/
def value (base : List Char) : BlockStyle → List Char
  | .base => base
  | .words text => text

def WellFormed : BlockStyle → Prop
  | .base => True
  | .words text => ∀ c ∈ text, c ≠ '\\' ∧ c ≠ '$' ∧ isBracket c = false

end BlockStyle

inductive Layout where
  | empty
  | literal (text : List Char) (rest : Layout)
  | reference (name : List Char) (rest : Layout)
  | block (style : BlockStyle) (content rest : Layout)
  | group (content rest : Layout)

/-- A part of what a layout comes to: some text that stands in no block, or the segments of a
block. -/
inductive Part where
  | text (content : List Char)
  | block (segments : List Segment)

/-- Parts in front of a run of text and the segments behind it. Texts next to each other become one
run; a block ends the run in front of it, also when the block comes to nothing. -/
def prepend : List Part → List Char × List Segment → List Char × List Segment
  | [], following => following
  | .text content :: parts, following =>
      (content ++ (prepend parts following).1, (prepend parts following).2)
  | .block segments :: parts, following =>
      ([], segments ++ flush (prepend parts following).1 (prepend parts following).2)

/-- The segments that parts make up. Runs without any text are left out. -/
def collect (parts : List Part) : List Segment :=
  flush (prepend parts ([], [])).1 (prepend parts ([], [])).2

namespace Layout

/-- The printed form of a layout. Every character of a literal text has a backslash. -/
def print : Layout → List Char
  | empty => []
  | literal text rest => text.flatMap (fun c => ['\\', c]) ++ rest.print
  | reference name rest => '$' :: (name ++ rest.print)
  | block style content rest =>
      '[' :: (content.print ++ ']' :: '(' :: (style.print ++ ')' :: rest.print))
  | group content rest => '(' :: (content.print ++ ')' :: rest.print)

/-- The names that a layout refers to anywhere, also those of styles. -/
def names : Layout → List (List Char)
  | empty => []
  | literal _ rest => rest.names
  | reference name rest => name :: rest.names
  | block style content rest => content.names ++ (style.names ++ rest.names)
  | group content rest => content.names ++ rest.names

/-- How many blocks lie inside each other. -/
def nesting : Layout → Nat
  | empty => 0
  | literal _ rest => rest.nesting
  | reference _ rest => rest.nesting
  | block _ content rest => max (content.nesting + 1) rest.nesting
  | group content rest => max content.nesting rest.nesting

def WellFormed : Layout → Prop
  | empty => True
  | literal _ rest => rest.WellFormed
  | reference name rest =>
      (name ≠ [] ∧ (∀ c ∈ name, isNameChar c = true) ∧ name ≠ styleName) ∧ rest.WellFormed
  | block style content rest => style.WellFormed ∧ content.WellFormed ∧ rest.WellFormed
  | group content rest => content.WellFormed ∧ rest.WellFormed

/-- A group with this content is shown if it refers to nothing, or to some name that has a text. -/
def shown (bindings : Bindings) (content : Layout) : Bool :=
  content.names.isEmpty || content.names.any fun name => bindings.lookUp name != []

section Meaning
variable (bindings : Bindings) (base : List Char) (theme : Option Theme)

/-- What a layout comes to, item by item. The style of a block lies under those of its content. -/
def parts : Layout → List Part
  | empty => []
  | literal text rest => .text text :: rest.parts
  | reference name rest => .text (bindings.lookUp name) :: rest.parts
  | block style content rest =>
      .block ((collect content.parts).map
        (Segment.onto (Style.parse theme (String.ofList (style.value base))))) :: rest.parts
  | group content rest => (if content.shown bindings then content.parts else []) ++ rest.parts

/-- The segments that a layout stands for. -/
def evaluate (layout : Layout) : List Segment := collect (layout.parts bindings base theme)

end Meaning

end Layout

theorem prepend_append (first second : List Part) (following : List Char × List Segment) :
    prepend (first ++ second) following = prepend first (prepend second following) := by
  induction first with
  | nil => rfl
  | cons part parts inductionHypothesis =>
      cases part with
      | text content => rw [List.cons_append, prepend, prepend, inductionHypothesis]
      | block segments => rw [List.cons_append, prepend, prepend, inductionHypothesis]

end ShellPrompt.Template
