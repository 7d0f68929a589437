import ShellPrompt.Config.Parse

/-!
Editing a configuration: its modules by their place in the list, and its settings. An edit that
speaks of a place where no module stands changes nothing.
-/

namespace ShellPrompt.Config

inductive Setting where
  | addNewline (value : Option Bool)
  | commandTimeout (value : Option Int)
  | scanTimeout (value : Option Int)
  | palette (value : Option String)
  | rightFormat (value : Option String)
  | continuationPrompt (value : Option String)
  | palettes (value : OrderedMap String Palette)

def Settings.change (settings : Settings) : Setting → Settings
  | .addNewline value => { settings with addNewline := value }
  | .commandTimeout value => { settings with commandTimeout := value }
  | .scanTimeout value => { settings with scanTimeout := value }
  | .palette value => { settings with palette := value }
  | .rightFormat value => { settings with rightFormat := value }
  | .continuationPrompt value => { settings with continuationPrompt := value }
  | .palettes value => { settings with palettes := value }

/-- An index from the front: a negative one counts from the end. -/
def fromFront (length : Nat) (index : Int) : Int :=
  if index < 0 then index + length else index

/-- The place that an index names in a list, if there is one. -/
def place? (length : Nat) (index : Int) : Option Nat :=
  let counted := fromFront length index
  if 0 ≤ counted ∧ counted < length then some counted.toNat else none

/-- The place that an item inserted at an index takes: an index beyond an end means that end. -/
def gap (length : Nat) (index : Int) : Nat := min (fromFront length index).toNat length

theorem place?_lt {length place : Nat} {index : Int} (found : place? length index = some place) :
    place < length := by
  simp only [place?] at found
  split at found
  · simp only [Option.some.injEq] at found
    omega
  · simp at found

theorem gap_le (length : Nat) (index : Int) : gap length index ≤ length := Nat.min_le_right ..

structure NoSuchPlace where
  index : Int

inductive Edit where
  | insert (index : Int) (mod : Module)
  | remove (index : Int)
  /-- Takes a module out, and inserts it into the modules that remain. -/
  | move (source target : Int)
  | disable (index : Int) (disabled : Bool)
  | setProperty (index : Int) (key : String) (value : Value)
  | unsetProperty (index : Int) (key : String)
  | change (setting : Setting)
  | embed (theme : Theme)

def insertAt (modules : List Module) (index : Int) (mod : Module) : List Module :=
  modules.insertIdx (gap modules.length index) mod

def takeOut (modules : List Module) (index : Int) : Except NoSuchPlace (Module × List Module) :=
  match place? modules.length index with
  | none => .error ⟨index⟩
  | some place =>
      match modules[place]? with
      | none => .error ⟨index⟩
      | some mod => .ok (mod, modules.eraseIdx place)

def modifyAt (modules : List Module) (index : Int) (change : Module → Module) :
    Except NoSuchPlace (List Module) :=
  match place? modules.length index with
  | none => .error ⟨index⟩
  | some place => .ok (modules.modify place change)

def Parsed.edit (parsed : Parsed) (edit : Edit) : Except NoSuchPlace Parsed :=
  let withModules := fun (modules : Except NoSuchPlace (List Module)) =>
    modules.map fun modules => { parsed with modules }
  match edit with
  | .insert index mod => withModules (.ok (insertAt parsed.modules index mod))
  | .remove index => withModules ((takeOut parsed.modules index).map Prod.snd)
  | .move source target =>
      withModules ((takeOut parsed.modules source).map fun (mod, rest) => insertAt rest target mod)
  | .disable index disabled =>
      withModules (modifyAt parsed.modules index fun mod => { mod with disabled })
  | .setProperty index key value =>
      withModules (modifyAt parsed.modules index fun mod => mod.setProperty key value)
  | .unsetProperty index key =>
      withModules (modifyAt parsed.modules index fun mod => mod.eraseProperty key)
  | .change setting => .ok { parsed with settings := parsed.settings.change setting }
  | .embed theme => .ok { parsed with settings := parsed.settings.embed theme }

end ShellPrompt.Config
