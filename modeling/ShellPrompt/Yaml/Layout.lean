import ShellPrompt.Yaml.Block
import ShellPrompt.Yaml.Plain

/-!
The tokens of a text in the order of its layout. Indentation opens and closes blocks, but not within
brackets. What might be the key of a map is remembered until a colon shows that it is one: it stays
on one line, and has at most 1024 characters.
-/

namespace ShellPrompt.Yaml

structure Cursor where
  rest : List Char
  index : Nat := 0
  line : Nat := 0
  column : Nat := 0

namespace Cursor

def step (cursor : Cursor) : Cursor :=
  match cursor.rest with
  | [] => cursor
  | c :: rest =>
      if isBreak c && !(c == '\r' && rest.head? == some '\n') then
        ⟨rest, cursor.index + 1, cursor.line + 1, 0⟩
      else
        ⟨rest, cursor.index + 1, cursor.line, cursor.column + if c = '\ufeff' then 0 else 1⟩

def advance : Nat → Cursor → Cursor
  | 0, cursor => cursor
  | n + 1, cursor => advance n cursor.step

def moveTo (cursor : Cursor) (rest : List Char) : Cursor :=
  cursor.advance (cursor.rest.length - rest.length)

end Cursor

/-- What may turn out to be the key of a map. -/
structure PossibleKey where
  position : Nat
  required : Bool
  index : Nat
  line : Nat
  column : Nat

def PossibleKey.isStale (cursor : Cursor) (key : PossibleKey) : Bool :=
  key.line != cursor.line || cursor.index - key.index > 1024

/-- The state of reading a text, token by token. -/
structure Scan where
  cursor : Cursor
  tokens : Array Token := #[]
  /-- The column of the innermost block, -1 outside of all. -/
  indent : Int := -1
  outerIndents : List Int := []
  /-- The possible key within the innermost brackets. -/
  key : Option PossibleKey := none
  /-- The possible keys around these brackets, one for each level. -/
  outerKeys : List (Option PossibleKey) := []
  keyAllowed : Bool := true

namespace Scan

def inFlow (scan : Scan) : Bool := !scan.outerKeys.isEmpty

def emit (scan : Scan) (token : Token) (rest : List Char) : Scan :=
  { scan with tokens := scan.tokens.push token, cursor := scan.cursor.moveTo rest }

/-- Forgets the keys that cannot be ones any more. -/
def dropStaleKeys (scan : Scan) : Except Fault Scan :=
  let stale := PossibleKey.isStale scan.cursor
  let missing := fun (key : Option PossibleKey) => key.any fun key => stale key && key.required
  let fresh := fun (key : Option PossibleKey) => key.filter fun key => !stale key
  if missing scan.key || scan.outerKeys.any missing then .error .invalid
  else .ok { scan with key := fresh scan.key, outerKeys := scan.outerKeys.map fresh }

/-- Forgets the possible key, which must not be required. -/
def forgetKey (scan : Scan) : Except Fault Scan :=
  if scan.key.any PossibleKey.required then .error .invalid else .ok { scan with key := none }

def saveKey (scan : Scan) : Except Fault Scan :=
  if scan.keyAllowed then
    scan.forgetKey.map fun scan =>
      { scan with
        key := some {
          position := scan.tokens.size
          required := !scan.inFlow && scan.indent == scan.cursor.column
          index := scan.cursor.index
          line := scan.cursor.line
          column := scan.cursor.column } }
  else .ok scan

/-- The innermost column up to a limit, the columns around it, and how many are left behind. -/
def closeLevels (limit indent : Int) : List Int → Int × List Int × Nat
  | [] => (indent, [], 0)
  | outer :: rest =>
      if limit < indent then
        let (indent, outerIndents, closed) := closeLevels limit outer rest
        (indent, outerIndents, closed + 1)
      else (indent, outer :: rest, 0)

def closeBlocks (scan : Scan) (column : Int) : Scan :=
  if scan.inFlow then scan
  else
    let (indent, outerIndents, closed) := closeLevels column scan.indent scan.outerIndents
    { scan with
      indent, outerIndents
      tokens := scan.tokens ++ Array.replicate closed Token.blockEnd }

/-- Begins a block at a column that is indented further than the innermost one. -/
def openBlock (scan : Scan) (column position : Nat) (token : Token) : Scan :=
  if scan.indent < column then
    { scan with
      indent := column
      outerIndents := scan.indent :: scan.outerIndents
      tokens := scan.tokens.extract 0 position ++ #[token] ++
        scan.tokens.extract position scan.tokens.size }
  else scan

/-- A mark that begins an entry of a block: nothing but a block may stand before it. -/
def blockMark (scan : Scan) (token block : Token) (rest : List Char) : Except Fault Scan := do
  if !scan.inFlow && !scan.keyAllowed then throw .invalid
  let scan := if scan.inFlow then scan
    else scan.openBlock scan.cursor.column scan.tokens.size block
  let scan ← scan.forgetKey
  return scan.emit token rest

def valueMark (scan : Scan) (rest : List Char) : Except Fault Scan :=
  match scan.key with
  | some key =>
      let tokens := scan.tokens.extract 0 key.position ++ #[Token.key] ++
        scan.tokens.extract key.position scan.tokens.size
      let scan := { scan with tokens, key := none, keyAllowed := false }
      let scan := if scan.inFlow then scan
        else scan.openBlock key.column key.position .blockMapping
      .ok (scan.emit .value rest)
  | none =>
      (scan.blockMark .value .blockMapping rest).map fun scan =>
        { scan with keyAllowed := !scan.inFlow }

/-- A marker, directive or end outside of all blocks. -/
def outermost (scan : Scan) (token : Token) (rest : List Char) : Except Fault Scan := do
  let scan ← (scan.closeBlocks (-1)).forgetKey
  return { scan.emit token rest with keyAllowed := false }

def openFlow (scan : Scan) (token : Token) (rest : List Char) : Except Fault Scan := do
  let scan ← scan.saveKey
  let scan := { scan with key := none, outerKeys := scan.key :: scan.outerKeys, keyAllowed := true }
  return scan.emit token rest

def closeFlow (scan : Scan) (token : Token) (rest : List Char) : Except Fault Scan := do
  let scan ← scan.forgetKey
  match scan.outerKeys with
  | [] => throw .invalid
  | key :: outerKeys => return { scan with key, outerKeys, keyAllowed := false }.emit token rest

def keyPart (scan : Scan) (read : Except Fault (Token × List Char)) : Except Fault Scan := do
  let scan ← scan.saveKey
  let (token, rest) ← read
  return { scan with keyAllowed := false }.emit token rest

def plain (scan : Scan) (text : List Char) : Except Fault Scan := do
  let scan ← scan.saveKey
  let (written, rest, broken) := readPlain scan.inFlow (scan.indent + 1) false text
  return { scan with keyAllowed := broken }.emit (.scalar written) rest

def block (scan : Scan) (folded : Bool) (text : List Char) : Except Fault Scan := do
  let scan ← scan.forgetKey
  let (written, rest) ← ofOption (readBlock folded scan.indent text)
  return { scan with keyAllowed := true }.emit (.scalar written) rest

/-- Whether a plain scalar can begin with a character. -/
def startsPlain (inFlow : Bool) (c : Char) (rest : List Char) : Bool :=
  !(isBlank c || isBreak c || "-?:,[]#&*!|>'\"%@".contains c || c == '\x7b' || c == '\x7d' ||
      c == '\x60') ||
    (!atGap rest && (c == '-' || (!inFlow && (c == '?' || c == ':'))))

/-- Whether a text starts with three times a character and a gap behind them. -/
def startsMarker (c : Char) : List Char → Bool
  | x :: y :: z :: rest => x == c && y == c && z == c && atGap rest
  | _ => false

def readToken (scan : Scan) (c : Char) (rest : List Char) : Except Fault Scan :=
  let text := c :: rest
  let atStart := scan.cursor.column == 0
  if c == '%' && atStart then do
    let (directive, behind) ← readDirective rest
    scan.outermost (.directive directive) behind
  else if atStart && startsMarker '-' text then scan.outermost .documentStart (rest.drop 2)
  else if atStart && startsMarker '.' text then scan.outermost .documentEnd (rest.drop 2)
  else if c == '[' then scan.openFlow .openList rest
  else if c == '\x7b' then scan.openFlow .openMap rest
  else if c == ']' then scan.closeFlow .closeList rest
  else if c == '\x7d' then scan.closeFlow .closeMap rest
  else if c == ',' then
    scan.forgetKey.map fun scan => { scan with keyAllowed := true }.emit .comma rest
  else if c == '-' && atGap rest then
    if scan.inFlow then
      scan.forgetKey.map fun scan => { scan with keyAllowed := true }.emit .dash rest
    else
      (scan.blockMark .dash .blockSequence rest).map fun scan => { scan with keyAllowed := true }
  else if c == '?' && (scan.inFlow || atGap rest) then
    (scan.blockMark .key .blockMapping rest).map fun scan =>
      { scan with keyAllowed := !scan.inFlow }
  else if c == ':' && (scan.inFlow || atGap rest) then scan.valueMark rest
  else if c == '*' then
    scan.keyPart ((ofOption (readAnchor rest)).map fun (name, rest) => (.alias name, rest))
  else if c == '&' then
    scan.keyPart ((ofOption (readAnchor rest)).map fun (name, rest) => (.anchor name, rest))
  else if c == '!' then
    scan.keyPart ((ofOption (readTag rest)).map fun (handle, rest) => (.tag handle, rest))
  else if c == '|' && !scan.inFlow then scan.block false rest
  else if c == '>' && !scan.inFlow then scan.block true rest
  else if c == '\x27' then
    scan.keyPart ((readQuoted false rest).map fun (written, rest) => (.scalar written, rest))
  else if c == '"' then
    scan.keyPart ((readQuoted true rest).map fun (written, rest) => (.scalar written, rest))
  else if startsPlain scan.inFlow c rest then scan.plain text
  else .error .invalid

/-- The text behind blanks, comments and line breaks, and whether a line break is among them. -/
def skipGap (inComment : Bool) : List Char → List Char × Bool
  | [] => ([], false)
  | c :: rest =>
      if isBreak c then ((skipGap false rest).1, true)
      else if inComment then skipGap true rest
      else if c = ' ' then skipGap false rest
      else if c = '#' then skipGap true rest
      else (c :: rest, false)

def next (scan : Scan) : Except Fault Scan := do
  let text := match scan.cursor.index, scan.cursor.rest with
    | 0, '\ufeff' :: rest => rest
    | _, text => text
  let (rest, broken) := skipGap false text
  let scan := { scan with
    cursor := scan.cursor.moveTo rest
    keyAllowed := scan.keyAllowed || (broken && !scan.inFlow) }
  let scan ← scan.dropStaleKeys
  let scan := scan.closeBlocks scan.cursor.column
  match rest with
  | [] => scan.outermost .finish []
  | c :: rest => scan.readToken c rest

/-- The tokens from here on, within a number of steps. -/
def run : Nat → Scan → Array Token
  | 0, scan => scan.tokens.push (.broken .invalid)
  | steps + 1, scan =>
      match scan.next with
      | .error fault => scan.tokens.push (.broken fault)
      | .ok following =>
          if following.tokens.back? = some Token.finish then following.tokens
          else run steps following

end Scan

/-- The characters that a document may hold as they are. -/
def isAllowed (c : Char) : Bool :=
  let n := c.toNat
  n == 9 || n == 10 || n == 13 || (0x20 ≤ n && n ≤ 0x7E) || n == 0x85 ||
    (0xA0 ≤ n && n ≤ 0xFFFD) || 0x10000 ≤ n

/-- The tokens of a text. Each takes up at least one character. -/
def Token.ofText (text : List Char) : List Token :=
  if text.all isAllowed then (Scan.run (text.length + 2) { cursor := { rest := text } }).toList
  else [.broken .invalid]

end ShellPrompt.Yaml
