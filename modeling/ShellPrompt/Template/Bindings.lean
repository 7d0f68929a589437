import ShellPrompt.Template.Token
import ShellPrompt.Value

/-!
Bindings of template variables to values, and putting them in place of the references. Values that
are put in are not looked at again. An integer stands for its digits here however many these are;
the bindings of a preview are texts already.
-/

namespace ShellPrompt.Template

/-- Values of variables under `$name`, or under `name` alone. -/
abbrev Bindings := OrderedMap String Value

namespace Bindings

def bound? (bindings : Bindings) (key : String) : Option Value :=
  (bindings.get? key).filter fun value => match value with
    | .null => false
    | _ => true

/-- The text of a variable: that of the value under `$name`, else under `name`, else nothing. -/
def lookUp (bindings : Bindings) (name : List Char) : List Char :=
  match (bindings.bound? (String.ofList ('$' :: name))).or
      (bindings.bound? (String.ofList name)) with
  | some value => value.toText.toList
  | none => []

end Bindings

/-- The text of a token once its variable is replaced. The variable `style` stands for the style
of the surroundings. -/
def Token.substituted (bindings : Bindings) (style : List Char) : Token → List Char
  | .reference name =>
      if name = ['s', 't', 'y', 'l', 'e'] then style else bindings.lookUp name
  | token => token.text

def substituteTokens (bindings : Bindings) (style : List Char) (tokens : List Token) : List Char :=
  tokens.flatMap (Token.substituted bindings style)

def substitute (template : String) (bindings : Bindings) (style : String) : String :=
  String.ofList (substituteTokens bindings style.toList (scan template.toList))

end ShellPrompt.Template
