import ShellPrompt.Text.Quoted

/-!
Dates and times of day, alone or together, with or without the distance from universal time.
-/

namespace ShellPrompt

structure Date where
  year : Nat
  month : Nat
  day : Nat
  deriving DecidableEq, Repr

structure Clock where
  hour : Nat
  minute : Nat
  second : Nat
  microsecond : Nat
  deriving DecidableEq, Repr

inductive Offset where
  | universal
  | distance (west : Bool) (hours minutes : Nat)
  deriving DecidableEq, Repr

inductive Moment where
  | day (date : Date)
  | hour (clock : Clock)
  | instant (date : Date) (clock : Clock) (offset : Option Offset)
  deriving DecidableEq, Repr

namespace Date

def isLeap (year : Nat) : Bool := year % 4 == 0 && (year % 100 != 0 || year % 400 == 0)

def daysIn (year month : Nat) : Nat :=
  if month = 2 then if isLeap year then 29 else 28
  else if month = 4 ∨ month = 6 ∨ month = 9 ∨ month = 11 then 30
  else 31

/-- Whether the date is one of the calendar from year 1 to year 9999. -/
def isValid (date : Date) : Bool :=
  1 ≤ date.year && date.year ≤ 9999 && 1 ≤ date.month && date.month ≤ 12 && 1 ≤ date.day &&
    date.day ≤ daysIn date.year date.month

def toChars (date : Date) : List Char :=
  Text.paddedChars 4 date.year ++ '-' :: (Text.paddedChars 2 date.month ++
    '-' :: Text.paddedChars 2 date.day)

end Date

namespace Clock

def isValid (clock : Clock) : Bool :=
  clock.hour < 24 && clock.minute < 60 && clock.second < 60 && clock.microsecond < 1000000

def toChars (clock : Clock) : List Char :=
  let fraction :=
    if clock.microsecond = 0 then [] else '.' :: Text.paddedChars 6 clock.microsecond
  Text.paddedChars 2 clock.hour ++ ':' :: (Text.paddedChars 2 clock.minute ++
    ':' :: (Text.paddedChars 2 clock.second ++ fraction))

/-- The parts of a time, leaving out zero seconds and microseconds at the end. -/
def parts (clock : Clock) : List Nat :=
  [clock.hour, clock.minute] ++
    if clock.second = 0 ∧ clock.microsecond = 0 then []
    else if clock.microsecond = 0 then [clock.second]
    else [clock.second, clock.microsecond]

end Clock

namespace Offset

def signChars (west : Bool) (hours minutes : Nat) : List Char :=
  (if west then '-' else '+') :: (Text.paddedChars 2 hours ++ ':' :: Text.paddedChars 2 minutes)

def toChars : Offset → List Char
  | .universal => signChars false 0 0
  | .distance west hours minutes => signChars (west && hours + minutes != 0) hours minutes

/-- The distance as a span of days and seconds, the seconds never negative. -/
def spanText (west : Bool) (seconds : Nat) : String :=
  if seconds = 0 then "datetime.timedelta(0)"
  else if west then
    "datetime.timedelta(days=-1, seconds=" ++ toString (86400 - seconds) ++ ")"
  else "datetime.timedelta(seconds=" ++ toString seconds ++ ")"

def quoted : Offset → String
  | .universal => "datetime.timezone(" ++ spanText false 0 ++ ", 'UTC')"
  | .distance west hours minutes =>
      "datetime.timezone(" ++ spanText west (hours * 3600 + minutes * 60) ++ ", '" ++
        String.ofList (signChars west hours minutes) ++ "')"

end Offset

namespace Moment

def isValid : Moment → Bool
  | .day date => date.isValid
  | .hour clock => clock.isValid
  | .instant date clock _ => date.isValid && clock.isValid

/-- The plain text of a moment: date, blank, time, offset. -/
def toText : Moment → String
  | .day date => String.ofList date.toChars
  | .hour clock => String.ofList clock.toChars
  | .instant date clock offset =>
      String.ofList (date.toChars ++ ' ' :: (clock.toChars ++ (offset.map Offset.toChars).getD []))

def listed (parts : List Nat) : String := ", ".intercalate (parts.map toString)

/-- The text of a moment inside a list: the name of its kind and its parts. -/
def quoted : Moment → String
  | .day date => "datetime.date(" ++ listed [date.year, date.month, date.day] ++ ")"
  | .hour clock => "datetime.time(" ++ listed clock.parts ++ ")"
  | .instant date clock offset =>
      "datetime.datetime(" ++ listed ([date.year, date.month, date.day] ++ clock.parts) ++
        (offset.map fun offset => ", tzinfo=" ++ offset.quoted).getD "" ++ ")"

end Moment

end ShellPrompt
