import ShellPrompt.Template.Block
import ShellPrompt.Template.Group

/-!
Rendering a template: its optional groups are resolved, its variables replaced, and the text that
results is split into styled segments. The first two steps work on the tokens of the template, so
that neither a group nor a value ever grows the name of a variable.
-/

namespace ShellPrompt.Template

/-- How deep blocks may lie inside each other. -/
def maxDepth : Nat := 10

def render (template : String) (bindings : Bindings) (style : String) (theme : Option Theme) :
    List Segment :=
  let tokens := resolveGroups bindings false (scan template.toList)
  segments theme maxDepth (substituteTokens bindings style.toList tokens)

end ShellPrompt.Template
