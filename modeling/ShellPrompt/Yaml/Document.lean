import ShellPrompt.Value
import ShellPrompt.Yaml.Layout

/-!
The value that a YAML document holds: all its scalars are texts, and what is left out is the empty
text. A text holds at most one document, and none at all reads as null.
-/

namespace ShellPrompt.Yaml

/-- What is known while a document is read. -/
structure Reading where
  tokens : List Token
  handles : List (List Char) := [['!'], ['!', '!']]
  /-- The values of anchors; a value whose reading has not ended yet is missing. -/
  anchors : List (List Char × Option Value) := []
  /-- Whether all that is read so far makes up values: no list or map is a key, and no value is
  part of itself. -/
  sound : Bool := true

def faultAt : List Token → Fault
  | .broken fault :: _ => fault
  | _ => .invalid

namespace Reading

def behind (reading : Reading) (tokens : List Token) : Reading := { reading with tokens }

def expected {α : Type} (reading : Reading) : Except Fault α := .error (faultAt reading.tokens)

def bindAnchor (reading : Reading) (anchor : Option (List Char)) (value : Option Value) : Reading :=
  match anchor with
  | none => reading
  | some name => { reading with anchors := (name, value) :: reading.anchors }

/-- The anchor and the tag in front of a node, in either order. -/
def properties : List Token → Option (List Char) × Option (Option (List Char)) × List Token
  | .anchor name :: .tag handle :: rest => (some name, some handle, rest)
  | .anchor name :: rest => (some name, none, rest)
  | .tag handle :: .anchor name :: rest => (some name, some handle, rest)
  | .tag handle :: rest => (none, some handle, rest)
  | rest => (none, none, rest)

/-- Adds an entry to a map; the last value given for a key counts. -/
def addEntry (reading : Reading) (entries : List (String × Value)) (key value : Value) :
    List (String × Value) × Reading :=
  match key with
  | .text name => (OrderedMap.put name value entries, reading)
  | _ => (entries, { reading with sound := false })

def emptyText : Value := .text ""

mutual

/-- The node at the front of the tokens. `inBlock` says whether it may be a block, `bare` whether
a list may begin without an indentation of its own. All these readers take a bound on their steps;
four for each token are enough. -/
def readNode (inBlock bare : Bool) : Nat → Reading → Except Fault (Value × Reading)
  | 0, reading => reading.expected
  | steps + 1, reading =>
      match reading.tokens with
      | .alias name :: rest =>
          match OrderedMap.find name reading.anchors with
          | none => .error .invalid
          | some (some value) => .ok (value, reading.behind rest)
          | some none => .ok (emptyText, { reading.behind rest with sound := false })
      | tokens => do
          let (anchor, tag, rest) := properties tokens
          if let some (some handle) := tag then
            if !reading.handles.contains handle then throw .invalid
          if let some name := anchor then
            if (OrderedMap.find name reading.anchors).isSome then throw .invalid
          let inside := reading.bindAnchor anchor none
          let finish := fun (value : Value) (reading : Reading) =>
            (value, reading.bindAnchor anchor (some value))
          let finishList := fun (read : List Value × Reading) => finish (.list read.1) read.2
          let finishMap := fun (read : List (String × Value) × Reading) =>
            finish (.table read.1) read.2
          match rest with
          | .scalar text :: rest =>
              return finish (.text (String.ofList text)) (reading.behind rest)
          | .openList :: rest => finishList <$> readListed true steps (inside.behind rest)
          | .openMap :: rest => finishMap <$> readMapped true [] steps (inside.behind rest)
          | .dash :: _ =>
              if bare then finishList <$> readBare steps (inside.behind rest)
              else if anchor.isSome || tag.isSome then return finish emptyText (reading.behind rest)
              else throw .invalid
          | .blockSequence :: behind =>
              if inBlock then finishList <$> readItems steps (inside.behind behind)
              else if anchor.isSome || tag.isSome then return finish emptyText (reading.behind rest)
              else throw .invalid
          | .blockMapping :: behind =>
              if inBlock then finishMap <$> readEntries [] steps (inside.behind behind)
              else if anchor.isSome || tag.isSome then return finish emptyText (reading.behind rest)
              else throw .invalid
          | .broken fault :: _ => throw fault
          | _ =>
              if anchor.isSome || tag.isSome then return finish emptyText (reading.behind rest)
              else throw .invalid

def readItems : Nat → Reading → Except Fault (List Value × Reading)
  | 0, reading => reading.expected
  | steps + 1, reading =>
      match reading.tokens with
      | .dash :: rest => do
          let (item, reading) ←
            match rest with
            | .dash :: _ | .blockEnd :: _ => .ok (emptyText, reading.behind rest)
            | _ => readNode true false steps (reading.behind rest)
          let (items, reading) ← readItems steps reading
          return (item :: items, reading)
      | .blockEnd :: rest => .ok ([], reading.behind rest)
      | _ => reading.expected

/-- The items of a list that has no block of its own. -/
def readBare : Nat → Reading → Except Fault (List Value × Reading)
  | 0, reading => reading.expected
  | steps + 1, reading =>
      match reading.tokens with
      | .dash :: rest => do
          let (item, reading) ←
            match rest with
            | .dash :: _ | .key :: _ | .value :: _ | .blockEnd :: _ =>
                .ok (emptyText, reading.behind rest)
            | _ => readNode true false steps (reading.behind rest)
          let (items, reading) ← readBare steps reading
          return (item :: items, reading)
      | _ => .ok ([], reading)

/-- A key or a value of a block map, behind its mark. -/
def readPart (steps : Nat) (reading : Reading) : Except Fault (Value × Reading) :=
  match steps, reading.tokens with
  | _, .key :: _ => .ok (emptyText, reading)
  | _, .value :: _ => .ok (emptyText, reading)
  | _, .blockEnd :: _ => .ok (emptyText, reading)
  | 0, _ => reading.expected
  | steps + 1, _ => readNode true true steps reading

/-- The entries of a block map, up to the end of the block, added to those before them. -/
def readEntries (before : List (String × Value)) :
    Nat → Reading → Except Fault (List (String × Value) × Reading)
  | 0, reading => reading.expected
  | steps + 1, reading =>
      match reading.tokens with
      | .key :: rest => do
          let (key, reading) ← readPart steps (reading.behind rest)
          let (value, reading) ←
            match reading.tokens with
            | .value :: rest => readPart steps (reading.behind rest)
            | _ => .ok (emptyText, reading)
          let (entries, reading) := reading.addEntry before key value
          readEntries entries steps reading
      | .blockEnd :: rest => .ok (before, reading.behind rest)
      | _ => reading.expected

/-- A key or a value within brackets, behind its mark. -/
def readFlowPart (steps : Nat) (reading : Reading) : Except Fault (Value × Reading) :=
  match steps, reading.tokens with
  | _, .comma :: _ => .ok (emptyText, reading)
  | _, .closeList :: _ => .ok (emptyText, reading)
  | _, .closeMap :: _ => .ok (emptyText, reading)
  | 0, _ => reading.expected
  | steps + 1, _ => readNode false false steps reading

/-- An entry within brackets, behind the mark of its key. -/
def readFlowEntry : Nat → Reading → Except Fault (Value × Value × Reading)
  | 0, reading => reading.expected
  | steps + 1, reading => do
      let (key, reading) ←
        match reading.tokens with
        | .value :: _ => .ok (emptyText, reading)
        | _ => readFlowPart steps reading
      let (value, reading) ←
        match reading.tokens with
        | .value :: rest => readFlowPart steps (reading.behind rest)
        | _ => .ok (emptyText, reading)
      return (key, value, reading)

/-- The items of a list in brackets. An entry among them is a map of its own. -/
def readListed (first : Bool) : Nat → Reading → Except Fault (List Value × Reading)
  | 0, reading => reading.expected
  | steps + 1, reading =>
      match first, reading.tokens with
      | _, .closeList :: rest => .ok ([], reading.behind rest)
      | false, .comma :: .closeList :: rest => .ok ([], reading.behind rest)
      | false, .comma :: .key :: rest | true, .key :: rest => do
          let (key, value, reading) ← readFlowEntry steps (reading.behind rest)
          let (entries, reading) := reading.addEntry [] key value
          let (items, reading) ← readListed false steps reading
          return (.table entries :: items, reading)
      | false, .comma :: rest | true, rest => do
          let (item, reading) ← readNode false false steps (reading.behind rest)
          let (items, reading) ← readListed false steps reading
          return (item :: items, reading)
      | false, _ => reading.expected

/-- The entries of a map in brackets, added to those before them. A key may stand alone. -/
def readMapped (first : Bool) (before : List (String × Value)) :
    Nat → Reading → Except Fault (List (String × Value) × Reading)
  | 0, reading => reading.expected
  | steps + 1, reading =>
      match first, reading.tokens with
      | _, .closeMap :: rest => .ok (before, reading.behind rest)
      | false, .comma :: .closeMap :: rest => .ok (before, reading.behind rest)
      | false, .comma :: .key :: rest | true, .key :: rest => do
          let (key, value, reading) ← readFlowEntry steps (reading.behind rest)
          let (entries, reading) := reading.addEntry before key value
          readMapped false entries steps reading
      | false, .comma :: rest | true, rest => do
          let (key, reading) ← readNode false false steps (reading.behind rest)
          let (entries, reading) := reading.addEntry before key emptyText
          readMapped false entries steps reading
      | false, _ => reading.expected

end

end Reading

/-- The directives at the front of the tokens: the handles that they declare, whether they give a
version, and the tokens behind them. -/
def readDirectives (handles : List (List Char)) (versioned : Bool) :
    List Token → Except Fault (List (List Char) × List Token)
  | .directive (.version major) :: rest =>
      if versioned ∨ major ≠ 1 then .error .invalid else readDirectives handles true rest
  | .directive (.handle name) :: rest =>
      if handles.contains name then .error .invalid
      else readDirectives (name :: handles) versioned rest
  | .directive .other :: rest => readDirectives handles versioned rest
  | tokens => .ok (handles, tokens)

def skipEnds : List Token → List Token
  | .documentEnd :: rest => skipEnds rest
  | tokens => tokens

def readContent (handles : List (List Char)) (tokens : List Token) :
    Except Fault (Reading × Value) :=
  let reading : Reading := { tokens, handles := handles ++ [['!'], ['!', '!']] }
  match tokens with
  | .directive _ :: _ | .documentStart :: _ | .documentEnd :: _ | .finish :: _ =>
      .ok (reading, Reading.emptyText)
  | _ => (reading.readNode true false (4 * tokens.length + 4)).map fun (value, reading) =>
      (reading, value)

/-- Whether nothing but the ends of documents follows. -/
def readEnd (tokens : List Token) : Except Fault Unit :=
  match skipEnds tokens with
  | .finish :: _ => .ok ()
  | rest => do
      let (_, rest) ← readDirectives [] false rest
      throw (faultAt rest)

/-- A document behind its directives and its start. -/
def readDocument (handles : List (List Char)) (tokens : List Token) : Except Fault Value := do
  let (reading, value) ← readContent handles tokens
  readEnd reading.tokens
  if reading.sound then return value else throw .invalid

/-- A document that begins with directives or the marker of its start. -/
def readMarkedDocument (tokens : List Token) : Except Fault Value :=
  match skipEnds tokens with
  | .finish :: _ => .ok .null
  | rest => do
      match ← readDirectives [] false rest with
      | (handles, .documentStart :: rest) => readDocument handles rest
      | (_, rest) => throw (faultAt rest)

def read (text : String) : Except Fault Value :=
  match Token.ofText text.toList with
  | .finish :: rest => readMarkedDocument (.finish :: rest)
  | .directive directive :: rest => readMarkedDocument (.directive directive :: rest)
  | .documentStart :: rest => readMarkedDocument (.documentStart :: rest)
  | [] => .ok .null
  | .documentEnd :: _ => .error .invalid
  | tokens => readDocument [] tokens

end ShellPrompt.Yaml
