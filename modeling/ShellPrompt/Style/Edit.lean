import ShellPrompt.Text.Words

/-!
Editing style strings: exchanging the colour and switching modifiers on and off. All other words
keep their order. Edits follow each other; one that fails leaves the style string as it is.
-/

namespace ShellPrompt.Style

def modifiers : List String := ["bold", "dimmed", "italic", "underline", "inverted"]

def isModifier (word : String) : Bool := modifiers.contains word

def colorWords (text : String) : List String := (Text.wordsOf text).filter fun w => !isModifier w

def modifierWords (text : String) : List String := (Text.wordsOf text).filter isModifier

def setColor (text color : String) : String := Text.unwords (color :: modifierWords text)

structure UnknownModifier where
  name : String

def UnknownModifier.message (fault : UnknownModifier) : String :=
  "Unknown style modifier: " ++ fault.name

/-- Removes a modifier that is there, and adds one that is not. -/
def toggle (text modifier : String) : Except UnknownModifier String :=
  if isModifier modifier then
    let present := modifierWords text
    let kept :=
      if present.contains modifier then present.filter fun word => word != modifier
      else present ++ [modifier]
    .ok (Text.unwords (colorWords text ++ kept))
  else .error ⟨modifier⟩

inductive Edit where
  | recolor (color : String)
  | toggle (modifier : String)
  deriving DecidableEq, Repr

namespace Edit

def perform (text : String) : Edit → Except UnknownModifier String
  | .recolor color => .ok (setColor text color)
  | .toggle modifier => Style.toggle text modifier

def applyTo (text : String) (edit : Edit) : String :=
  match edit.perform text with
  | .ok edited => edited
  | .error _ => text

end Edit

/-- The style string after some edits. -/
def edited (text : String) (edits : List Edit) : String := edits.foldl Edit.applyTo text

end ShellPrompt.Style
