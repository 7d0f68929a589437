import ShellPrompt.Yaml.Text

/-!
The tokens of a YAML text, and how those are read that are no scalars: anchors, aliases, tags and
directives. Of a tag only its handle counts, since all scalars are texts.
-/

namespace ShellPrompt.Yaml

open ShellPrompt.Text

inductive Directive where
  | version (major : Nat)
  | handle (name : List Char)
  | other
  deriving DecidableEq, Repr

inductive Token where
  | directive (directive : Directive)
  | documentStart
  | documentEnd
  | blockSequence
  | blockMapping
  | blockEnd
  | openList
  | closeList
  | openMap
  | closeMap
  | comma
  | dash
  | key
  | value
  | anchor (name : List Char)
  | alias (name : List Char)
  /-- A tag with its handle, if it has one. -/
  | tag (handle : Option (List Char))
  | scalar (text : List Char)
  | finish
  /-- What stands in the place of all further tokens of a text that breaks a rule. -/
  | broken (fault : Fault)
  deriving DecidableEq, Repr

def isWordChar (c : Char) : Bool := c.isAlphanum || c == '-' || c == '_'

/-- Whether a text is at its end or before one of some characters, or a line break. -/
def atOneOf (ends : List Char) : List Char → Bool
  | [] => true
  | c :: _ => isBreak c || ends.contains c

def skipSpaces (text : List Char) : List Char := text.dropWhile (· = ' ')

/-- A name of letters, digits, dashes and underscores at the front of a text. -/
def readName (text : List Char) : Option (List Char × List Char) :=
  if text.takeWhile isWordChar = [] then none
  else some (text.takeWhile isWordChar, text.dropWhile isWordChar)

/-- The name of an anchor or alias at the front of a text. -/
def readAnchor (text : List Char) : Option (List Char × List Char) :=
  (readName text).filter fun read =>
    atOneOf [' ', '\t', '?', ':', ',', ']', '\x7d', '%', '@', '\x60'] read.2

def readNatural (text : List Char) : Except Fault (Nat × List Char) :=
  let digits := text.takeWhile Char.isDigit
  if digits = [] then .error .invalid
  else if digits.length ≤ maxDigits then
    .ok (Nat.ofDigitChars 10 digits 0, text.dropWhile Char.isDigit)
  else .error (.long {})

def isAddressChar (c : Char) : Bool :=
  c.isAlphanum || "-;/?:@&=+$,_.!~*'()[]".contains c

/-- The characters that escaped bytes stand for, at the front of a text. -/
def readBytes : List Char → Option (List UInt8 × List Char)
  | '%' :: a :: b :: rest => do
      let byte ← readHex? [a, b]
      let (bytes, rest) ← readBytes rest
      some (byte.toUInt8 :: bytes, rest)
  | '%' :: _ => none
  | text => some ([], text)

def areText (bytes : List UInt8) : Bool := (String.fromUTF8? ⟨bytes.toArray⟩).isSome

/-- The text behind an address, which has at least one character. `started` says whether one has
been passed. -/
def skipAddressFrom (started : Bool) (text : List Char) : Option (List Char) :=
  match text with
  | [] => if started then some [] else none
  | '%' :: rest =>
      match readBytes ('%' :: rest) with
      | none => none
      | some (bytes, behind) =>
          if _shorter : behind.length ≤ rest.length ∧ areText bytes then
            skipAddressFrom true behind
          else none
  | c :: rest =>
      if isAddressChar c then skipAddressFrom true rest
      else if started then some (c :: rest) else none
termination_by text.length
decreasing_by
  all_goals
    simp only [List.length_cons]
    omega

def skipAddress (text : List Char) : Option (List Char) := skipAddressFrom false text

/-- The handle of a tag at the front of a text: a name between exclamation marks, or one or two of
these. -/
def readHandle : List Char → Option (List Char × List Char)
  | '!' :: ' ' :: rest => some (['!'], ' ' :: rest)
  | '!' :: rest =>
      match rest.dropWhile isWordChar with
      | '!' :: behind => some ('!' :: (rest.takeWhile isWordChar ++ ['!']), behind)
      | _ => none
  | _ => none

/-- A tag from behind its exclamation mark. -/
def readTag (text : List Char) : Option (Option (List Char) × List Char) := do
  let (handle, rest) ←
    match text with
    | '<' :: rest =>
        match ← skipAddress rest with
        | '>' :: rest => some (none, rest)
        | _ => none
    | _ =>
        if atGap text then some (none, text)
        else
          let word := text.takeWhile fun c => c != ' ' && !isBreak c
          if word.contains '!' then do
            let (handle, rest) ← readHandle ('!' :: text)
            some (some handle, ← skipAddress rest)
          else do
            some (some ['!'], ← skipAddress text)
  if atOneOf [' '] rest then some (handle, rest) else none

/-- The value of a directive that gives a version. -/
def readVersion (text : List Char) : Except Fault (Directive × List Char) := do
  let (major, rest) ← readNatural (skipSpaces text)
  match rest with
  | '.' :: rest =>
      let (_, rest) ← readNatural rest
      if atOneOf [' '] rest then .ok (.version major, rest) else .error .invalid
  | _ => .error .invalid

/-- The value of a directive that gives a tag handle an address. -/
def readTagDirective (text : List Char) : Option (Directive × List Char) := do
  let (handle, rest) ← readHandle (skipSpaces text)
  if rest.head? != some ' ' then none
  let rest ← skipAddress (skipSpaces rest)
  if atOneOf [' '] rest then some (.handle handle, rest) else none

/-- The text behind blanks, a comment, and the line break that has to follow them. -/
def skipLineEnd (text : List Char) : Option (List Char) :=
  let rest := skipSpaces text
  let rest := if rest.head? = some '#' then rest.dropWhile fun c => !isBreak c else rest
  if atLineEnd rest then some (((takeBreak rest).map Prod.snd).getD rest) else none

/-- A directive from behind its percent sign, with the line that it stands on. -/
def readDirective (text : List Char) : Except Fault (Directive × List Char) := do
  let (name, rest) ← ofOption (readName text)
  if !atOneOf [' '] rest then throw .invalid
  let (directive, rest) ←
    if name = "YAML".toList then readVersion rest
    else if name = "TAG".toList then ofOption (readTagDirective rest)
    else .ok (.other, rest.dropWhile fun c => !isBreak c)
  return (directive, ← ofOption (skipLineEnd rest))

end ShellPrompt.Yaml
