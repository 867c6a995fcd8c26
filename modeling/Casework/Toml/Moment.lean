import Casework.Decimal.Layout

namespace Casework.Toml

/-- A date is a day of the proleptic Gregorian calendar. -/
structure Date where
  year : Nat
  month : Nat
  day : Nat
  deriving DecidableEq

/-- A time has a precision of one microsecond. -/
structure Time where
  hour : Nat
  minute : Nat
  second : Nat
  microsecond : Nat
  deriving DecidableEq

/-- A moment may have an offset from universal time in minutes. -/
structure Moment where
  date : Date
  time : Time
  offset : Option Int
  deriving DecidableEq

def padded (width number : Nat) : List Char :=
  let digits := Nat.toDigits 10 number
  List.replicate (width - digits.length) '0' ++ digits

namespace Date

def isLeapYear (year : Nat) : Bool := year % 4 = 0 && (year % 100 != 0 || year % 400 = 0)

def daysInMonth (year month : Nat) : Nat :=
  if month = 2 then if isLeapYear year then 29 else 28
  else if month = 4 ∨ month = 6 ∨ month = 9 ∨ month = 11 then 30
  else 31

/-- Years count from one. -/
def isValid (date : Date) : Bool :=
  1 ≤ date.year && 1 ≤ date.month && date.month ≤ 12 && 1 ≤ date.day &&
    date.day ≤ daysInMonth date.year date.month

def characters (date : Date) : List Char :=
  padded 4 date.year ++ '-' :: padded 2 date.month ++ '-' :: padded 2 date.day

def parts (date : Date) : List Nat := [date.year, date.month, date.day]

end Date

namespace Time

/-- Microseconds are written only when there are some. -/
def characters (time : Time) : List Char :=
  padded 2 time.hour ++ ':' :: padded 2 time.minute ++ ':' :: padded 2 time.second ++
    if time.microsecond = 0 then [] else '.' :: padded 6 time.microsecond

/-- Zero seconds are left out at the end. -/
def parts (time : Time) : List Nat :=
  [time.hour, time.minute] ++
    if time.microsecond ≠ 0 then [time.second, time.microsecond]
    else if time.second ≠ 0 then [time.second]
    else []

end Time

namespace Moment

def offsetCharacters (offset : Int) : List Char :=
  (if offset < 0 then '-' else '+') ::
    (padded 2 (offset.natAbs / 60) ++ ':' :: padded 2 (offset.natAbs % 60))

def characters (moment : Moment) : List Char :=
  moment.date.characters ++ ' ' :: moment.time.characters ++
    (moment.offset.map offsetCharacters).getD []

def joined (numbers : List Nat) : String := ", ".intercalate (numbers.map Nat.repr)

/-- A span of time is written in whole days and the seconds after them. -/
def spanLiteral (offset : Int) : String :=
  let days := offset / 1440
  let seconds := offset % 1440 * 60
  let dayPart := if days = 0 then [] else ["days=" ++ Decimal.integerText days]
  let secondPart := if seconds = 0 then [] else ["seconds=" ++ Decimal.integerText seconds]
  "datetime.timedelta(" ++ ", ".intercalate (dayPart ++ secondPart) ++ ")"

def zoneLiteral (offset : Int) : String :=
  if offset = 0 then "datetime.timezone.utc"
  else "datetime.timezone(" ++ spanLiteral offset ++ ")"

/-- This text shows the parts of a moment. -/
def literal (moment : Moment) : String :=
  "datetime.datetime(" ++ joined (moment.date.parts ++ moment.time.parts) ++
    ((moment.offset.map fun offset => ", tzinfo=" ++ zoneLiteral offset).getD "") ++ ")"

end Moment

def Date.literal (date : Date) : String := "datetime.date(" ++ Moment.joined date.parts ++ ")"

def Time.literal (time : Time) : String := "datetime.time(" ++ Moment.joined time.parts ++ ")"

/-- A reader finds something at the front of a text and leaves the rest. -/
abbrev Reader (Found : Type) := List Char → Option (Found × List Char)

/-- The number has exactly this many digits and lies in the range. -/
def readDigits (width least greatest : Nat) : Reader Nat := fun text =>
  let digits := text.take width
  let number := Nat.ofDigitChars 10 digits 0
  if digits.length = width ∧ digits.all Char.isDigit ∧ least ≤ number ∧ number ≤ greatest then
    some (number, text.drop width)
  else none

def readMark (mark : Char) : Reader Unit
  | first :: rest => if first = mark then some ((), rest) else none
  | [] => none

/-- Digits after the sixth are ignored, and a point without digits is left. -/
def readFraction : Reader Nat
  | '.' :: rest =>
    match rest.takeWhile Char.isDigit with
    | [] => some (0, '.' :: rest)
    | digits =>
      let kept := digits.take 6
      some (Nat.ofDigitChars 10 (kept ++ List.replicate (6 - kept.length) '0') 0,
        rest.drop digits.length)
  | rest => some (0, rest)

def readTime : Reader Time := fun text => do
  let (hour, text) ← readDigits 2 0 23 text
  let (_, text) ← readMark ':' text
  let (minute, text) ← readDigits 2 0 59 text
  let (_, text) ← readMark ':' text
  let (second, text) ← readDigits 2 0 59 text
  let (microsecond, text) ← readFraction text
  some (⟨hour, minute, second, microsecond⟩, text)

def readSignedOffset (negative : Bool) : Reader Int := fun text => do
  let (hours, text) ← readDigits 2 0 23 text
  let (_, text) ← readMark ':' text
  let (minutes, text) ← readDigits 2 0 59 text
  let offset : Int := hours * 60 + minutes
  some (if negative then -offset else offset, text)

/-- What is no offset is left. -/
def readOffset : Reader (Option Int) := fun text =>
  match text with
  | 'Z' :: rest | 'z' :: rest => some (some 0, rest)
  | '+' :: rest => some (((readSignedOffset false rest).map fun found =>
      (some found.1, found.2)).getD (none, text))
  | '-' :: rest => some (((readSignedOffset true rest).map fun found =>
      (some found.1, found.2)).getD (none, text))
  | _ => some (none, text)

/-- The days of a month are not compared with the calendar here. -/
def readDate : Reader Date := fun text => do
  let (year, text) ← readDigits 4 0 9999 text
  let (_, text) ← readMark '-' text
  let (month, text) ← readDigits 2 1 12 text
  let (_, text) ← readMark '-' text
  let (day, text) ← readDigits 2 1 31 text
  some (⟨year, month, day⟩, text)

def separatesTime (character : Char) : Bool :=
  character == 'T' || character == 't' || character == ' '

/-- A time may follow a date. -/
def readDateAndTime : Reader (Date × Option (Time × Option Int)) := fun text => do
  let (date, text) ← readDate text
  match text with
  | separator :: rest =>
    if separatesTime separator then
      match readTime rest with
      | some (time, rest) => do
        let (offset, rest) ← readOffset rest
        some ((date, some (time, offset)), rest)
      | none => some ((date, none), text)
    else some ((date, none), text)
  | [] => some ((date, none), text)

end Casework.Toml
