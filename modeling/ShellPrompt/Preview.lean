import ShellPrompt.Preview.Variables
import ShellPrompt.Registry
import ShellPrompt.Report
import ShellPrompt.Template

/-!
Previews: the segments that a module, or a whole prompt, shows in simulated surroundings. There is
no preview of a prompt that would show a value without a text.
-/

namespace ShellPrompt.Preview

/-- Why a module shows nothing. -/
inductive RenderFault where
  | unknown (fault : UnknownModule)
  | long (fault : LongInteger)

def renderModule (mod : Module) (registry : Registry) (theme : Option Theme) (context : Context) :
    Except RenderFault (List Segment) :=
  if mod.isText then do
    let layout ← mod.freeValue.write.mapError .long
    return Template.render layout .empty "" theme
  else do
    let definition ← (registry.require mod.type).mapError .unknown
    let values ← (valuesOf mod definition context).mapError .long
    let layout ← (effective mod definition "format" "").write.mapError .long
    let style ← (effective mod definition "style" "").write.mapError .long
    return Template.render layout (values.mapValues Value.text) style theme

/-- What one module of a prompt adds to it. A module that is switched off or has no place in the
surroundings adds nothing, and an unknown one a warning. -/
def renderPart (registry : Registry) (theme : Option Theme) (context : Context) (mod : Module) :
    Report LongInteger (List Segment) :=
  if mod.disabled || !isShown mod.type context then pure []
  else if mod.isLineBreak then pure [⟨"\n", {}⟩]
  else
    match renderModule mod registry theme context with
    | .ok segments => pure segments
    | .error (.unknown fault) => Report.noted [.unshownModule fault.type] []
    | .error (.long fault) => Report.fail fault

def renderPrompt (modules : List Module) (registry : Registry) (theme : Option Theme)
    (context : Context) : Report LongInteger (List Segment) :=
  match modules with
  | [] => pure []
  | mod :: rest => do
      let part ← renderPart registry theme context mod
      let others ← renderPrompt rest registry theme context
      pure (part ++ others)

end ShellPrompt.Preview
