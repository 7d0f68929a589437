/-!
Reading the arguments of a command: options with a dash or two in front, and free arguments between
them. A long option may be cut short as long as it stays apart from the others, and short ones may
share a dash. Two dashes alone end the options.
-/

namespace ShellPrompt.CommandLine

/-- Why a command line is not run: it asks for help, or it makes no sense. -/
inductive Refusal where
  | help
  | usage
  deriving DecidableEq, Repr

inductive Effect (α : Type) where
  | help
  | alone (item : α)
  /-- Takes a value, which may be one that the option does not have. -/
  | valued (read : String → Option α)

structure Switch (α : Type) where
  names : List String
  effect : Effect α

inductive Item (α : Type) where
  | option (item : α)
  | free (text : String)
  | separator
  | stray

variable {α : Type}

/-- What follows the name of an option within its argument. -/
inductive Attached where
  | nothing
  | equals (text : List Char)
  | behind (text : List Char)

inductive Word (α : Type) where
  | free
  | option (effect : Effect α) (attached : Attached)
  | ambiguous
  | unknown

/-- The effects of the options with a name that passes a test. -/
def named (switches : List (Switch α)) (test : List Char → Bool) : List (Effect α) :=
  switches.flatMap fun switch =>
    (switch.names.filter fun name => test name.toList).map fun _ => switch.effect

/-- The part of a text before the first equals sign, and what is attached behind it. -/
def splitEquals (text : List Char) : List Char × Attached :=
  match text.dropWhile (· ≠ '=') with
  | [] => (text, .nothing)
  | _ :: rest => (text.takeWhile (· ≠ '='), .equals rest)

/-- Whether a text is a negative number: digits, or digits behind a point. -/
def isNegativeNumber : List Char → Bool
  | '-' :: rest =>
      let behind := rest.dropWhile Char.isDigit
      match behind with
      | [] => !rest.isEmpty
      | '.' :: fraction => !fraction.isEmpty && fraction.all Char.isDigit
      | _ => false
  | _ => false

/-- An option whose name is cut short, or shares its dash with what follows. -/
def classifyShortened (switches : List (Switch α)) (text : List Char) : Word α :=
  let shortened := match text with
    | '-' :: '-' :: _ =>
        let (name, attached) := splitEquals text
        (named switches fun known => name.isPrefixOf known).map fun effect => (effect, attached)
    | _ =>
        (named switches fun known => known == text.take 2).map fun effect =>
          (effect, .behind (text.drop 2))
  match shortened with
  | [(effect, attached)] => .option effect attached
  | _ :: _ :: _ => .ambiguous
  | [] => if isNegativeNumber text || text.contains ' ' then .free else .unknown

def classify (switches : List (Switch α)) (text : String) : Word α :=
  match text.toList with
  | '-' :: c :: rest =>
      let chars := '-' :: c :: rest
      match named switches fun known => known == chars with
      | effect :: _ => .option effect .nothing
      | [] =>
          let (name, attached) := splitEquals chars
          match named switches fun known => known == name with
          | effect :: _ => .option effect attached
          | [] => classifyShortened switches chars
  | _ => .free

inductive Request (α : Type) where
  | help
  | item (item : Item α)
  /-- An option whose value is the next argument. -/
  | wants (read : String → Option α)

def Effect.withValue (read : String → Option α) (text : List Char) :
    Except Refusal (List (Request α)) :=
  match read (String.ofList text) with
  | some item => .ok [.item (.option item)]
  | none => .error .usage

def Effect.alone? : Effect α → Option (Request α)
  | .help => some .help
  | .alone item => some (.item (.option item))
  | .valued _ => none

def shared (switches : List (Switch α)) (effect : Effect α) :
    List Char → Except Refusal (List (Request α))
  | [] =>
      match effect with
      | .valued read => .ok [.wants read]
      | .help => .ok [.help]
      | .alone item => .ok [.item (.option item)]
  | c :: rest =>
      match effect, effect.alone? with
      | .valued read, _ => Effect.withValue read (c :: rest)
      | _, none => .error .usage
      | _, some request =>
          if c = '-' then .error .usage
          else
            match named switches fun known => known == ['-', c] with
            | [] => .ok [request, .item .stray]
            | next :: _ =>
                match rest, next with
                | '=' :: text, .valued read =>
                    (Effect.withValue read text).map fun requests => request :: requests
                | '=' :: _, _ => .error .usage
                | rest, next => (shared switches next rest).map fun requests => request :: requests

def requests (switches : List (Switch α)) (effect : Effect α) :
    Attached → Except Refusal (List (Request α))
  | .nothing => shared switches effect []
  | .behind text => shared switches effect text
  | .equals text =>
      match effect with
      | .valued read => Effect.withValue read text
      | _ => .error .usage

def isValue (switches : List (Switch α)) (text : String) : Bool :=
  text != "--" &&
    match classify switches text with
    | .free => true
    | _ => false

/-- Carries out the requests of one argument; says whether the next argument belongs to them. -/
def settle (switches : List (Switch α)) (next : Option String) :
    List (Request α) → Except Refusal (List (Item α) × Bool)
  | [] => .ok ([], false)
  | .help :: _ => .error .help
  | .item item :: rest => do
      let (items, taken) ← settle switches next rest
      return (item :: items, taken)
  | .wants read :: _ =>
      match next.filter (isValue switches) with
      | none => .error .usage
      | some text =>
          match read text with
          | none => .error .usage
          | some item => .ok ([.option item], true)

/-- The items of an argument that is an option, and whether the next argument belongs to it. -/
def readOption (switches : List (Switch α)) (text : String) (next : Option String) :
    Except Refusal (Option (List (Item α) × Bool)) :=
  match classify switches text with
  | .free => .ok none
  | .unknown => .ok (some ([.stray], false))
  | .ambiguous => .error .usage
  | .option effect attached => do
      let found ← requests switches effect attached
      let settled ← settle switches next found
      return some settled

/-- The options at the front, and the arguments from the first free one on. -/
def readLeading (switches : List (Switch α)) :
    List String → Except Refusal (List (Item α) × List String)
  | [] => .ok ([], [])
  | text :: rest =>
      if text = "--" then .ok ([], rest)
      else
        match readOption switches text rest.head? with
        | .error refusal => .error refusal
        | .ok none => .ok ([], text :: rest)
        | .ok (some (items, taken)) =>
            (readLeading switches (if taken then rest.tail else rest)).map
              fun (others, left) => (items ++ others, left)
termination_by arguments => arguments.length
decreasing_by
  simp only [List.length_cons]
  split
  · have := List.length_tail (l := rest)
    omega
  · omega

def readAll (switches : List (Switch α)) : List String → Except Refusal (List (Item α))
  | [] => .ok []
  | text :: rest =>
      if text = "--" then .ok (.separator :: rest.map .free)
      else
        match readOption switches text rest.head? with
        | .error refusal => .error refusal
        | .ok none => (readAll switches rest).map fun others => .free text :: others
        | .ok (some (items, taken)) =>
            (readAll switches (if taken then rest.tail else rest)).map fun others => items ++ others
termination_by arguments => arguments.length
decreasing_by
  · simp
  · simp only [List.length_cons]
    split
    · have := List.length_tail (l := rest)
      omega
    · omega

end ShellPrompt.CommandLine
