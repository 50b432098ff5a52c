/-!
# Instants as dates and times

An instant is a number of milliseconds since the start of 1970 in UTC. The calendar is the
Gregorian one in both directions, with a year zero. Years are counted from March inside a
cycle of 400 years, which has 146097 days, so that the leap day comes last.
-/

namespace DocUpdate

/-- A date of the Gregorian calendar. -/
structure CivilDate where
  year : Int
  month : Nat
  day : Nat
deriving DecidableEq

namespace CivilDate

/-- The date that many days after 1970-01-01. -/
def ofDays (days : Int) : CivilDate :=
  let z := days + 719468
  let era := Int.fdiv z 146097
  let dayOfEra := (z - era * 146097).toNat
  let yearOfEra :=
    (dayOfEra - dayOfEra / 1460 + dayOfEra / 36524 - dayOfEra / 146096) / 365
  let dayOfYear := dayOfEra - (365 * yearOfEra + yearOfEra / 4 - yearOfEra / 100)
  let shifted := (5 * dayOfYear + 2) / 153
  let day := dayOfYear - (153 * shifted + 2) / 5 + 1
  let month := if shifted < 10 then shifted + 3 else shifted - 9
  ⟨yearOfEra + era * 400 + (if month ≤ 2 then 1 else 0), month, day⟩

/-- How many days after 1970-01-01 a date is. -/
def toDays (date : CivilDate) : Int :=
  let year := if date.month ≤ 2 then date.year - 1 else date.year
  let era := Int.fdiv year 400
  let yearOfEra := (year - era * 400).toNat
  let shifted := if date.month > 2 then date.month - 3 else date.month + 9
  let dayOfYear := (153 * shifted + 2) / 5 + date.day - 1
  let dayOfEra := yearOfEra * 365 + yearOfEra / 4 - yearOfEra / 100 + dayOfYear
  era * 146097 + dayOfEra - 719468

def isLeapYear (year : Int) : Bool :=
  year % 4 == 0 && (year % 100 != 0 || year % 400 == 0)

def daysInMonth (year : Int) (month : Nat) : Nat :=
  if month = 2 then if isLeapYear year then 29 else 28
  else if month = 4 ∨ month = 6 ∨ month = 9 ∨ month = 11 then 30
  else 31

/-- The month and the day exist. -/
def isValid (date : CivilDate) : Bool :=
  1 ≤ date.month && date.month ≤ 12 && 1 ≤ date.day && date.day ≤ daysInMonth date.year date.month

end CivilDate

/-- A date with a time of day. -/
structure Moment where
  date : CivilDate
  hour : Nat
  minute : Nat
  second : Nat
  nanos : Nat
deriving DecidableEq

namespace Moment

def millisPerDay : Int := 86400000

/-- The last millisecond of the year 9999. -/
def lastMillis : Int := 253402300799999

/-- The first millisecond of the year -9999. -/
def firstMillis : Int := -377705116800000

/-- The last moment of the year 9999. -/
def last : Moment := ⟨⟨9999, 12, 31⟩, 23, 59, 59, 999999999⟩

/-- The moment of an instant, if its year has at most four digits. -/
def ofMillis? (millis : Int) : Option Moment :=
  if lastMillis < millis ∨ millis < firstMillis then none
  else
    let days := Int.fdiv millis millisPerDay
    let rest := (millis - days * millisPerDay).toNat
    some ⟨CivilDate.ofDays days, rest / 3600000, rest / 60000 % 60, rest / 1000 % 60,
      rest % 1000 * 1000000⟩

/-! ## Text -/

/-- A number filled up with zeros on the left. -/
def padded (width n : Nat) : String :=
  let ds := (Nat.repr n).toList
  String.ofList (List.replicate (width - ds.length) '0' ++ ds)

/-- Nanoseconds as places after the point, without trailing zeros. -/
def fraction (nanos : Nat) : String :=
  let ds := (padded 9 nanos).toList.reverse.dropWhile (· == '0')
  String.ofList ds.reverse

def yearText (year : Int) : String :=
  (if year < 0 then "-" else "") ++ padded 4 year.natAbs

def dateText (date : CivilDate) : String :=
  yearText date.year ++ "-" ++ padded 2 date.month ++ "-" ++ padded 2 date.day

private def minutesText (m : Moment) : String :=
  padded 2 m.minute ++ ":" ++ padded 2 m.second

/-- As messages show it: the hour is not filled up and the fraction has at least one place. -/
def display (m : Moment) : String :=
  let places := fraction m.nanos
  dateText m.date ++ " " ++ Nat.repr m.hour ++ ":" ++ minutesText m ++ "."
    ++ (if places = "" then "0" else places) ++ " +00:00:00"

/-- An instant as messages show it. Outside the years of four digits it is a number of
milliseconds. -/
def displayMillis (millis : Int) : String :=
  match ofMillis? millis with
  | some m => m.display
  | none => toString millis

/-- As data holds it: a zero fraction is left out. -/
def rfc3339 (m : Moment) : String :=
  let places := fraction m.nanos
  dateText m.date ++ "T" ++ padded 2 m.hour ++ ":" ++ minutesText m
    ++ (if places = "" then "" else "." ++ places) ++ "Z"

/-! ## Reading -/

/-- Exactly `n` decimal digits. -/
def digitsOf? (n : Nat) (cs : List Char) : Option (Nat × List Char) :=
  let ds := cs.take n
  if ds.length = n ∧ ds.all Char.isDigit then
    some (ds.foldl (fun acc c => 10 * acc + (c.toNat - '0'.toNat)) 0, cs.drop n)
  else none

/-- A given character. -/
def charOf? (c : Char) : List Char → Option (List Char)
  | d :: rest => if c = d then some rest else none
  | [] => none

/-- An optional fraction of a second, in nanoseconds. Further digits are dropped. -/
def fractionOf? : List Char → Option (Nat × List Char)
  | '.' :: rest => do
    let ds := rest.takeWhile Char.isDigit
    if ds.isEmpty then none
    else
      let nine := (ds ++ List.replicate 9 '0').take 9
      let (nanos, _) ← digitsOf? 9 nine
      some (nanos, rest.dropWhile Char.isDigit)
  | cs => some (0, cs)

/-- The offset from UTC in minutes, at the end of the text. -/
def offsetOf? : List Char → Option Int
  | ['Z'] | ['z'] => some 0
  | sign :: rest => do
    let (hours, rest) ← digitsOf? 2 rest
    let rest ← charOf? ':' rest
    let (minutes, rest) ← digitsOf? 2 rest
    if rest.isEmpty && hours < 24 && minutes < 60 then
      let offset : Int := hours * 60 + minutes
      if sign = '+' then some offset else if sign = '-' then some (-offset) else none
    else none
  | [] => none

/-- A second of 60 stands for the last nanosecond of a month in UTC. -/
def isLeapSecond (seconds : Int) : Bool :=
  let days := Int.fdiv seconds 86400
  seconds - days * 86400 == 86399 && (CivilDate.ofDays (days + 1)).day == 1

/-- The instant of a text such as `2020-01-02T03:04:05.678+02:00`. What is below a
millisecond is dropped toward 1970. -/
def millisOf? (text : String) : Option Int := do
  let (year, rest) ← digitsOf? 4 text.toList
  let (month, rest) ← digitsOf? 2 (← charOf? '-' rest)
  let (day, rest) ← digitsOf? 2 (← charOf? '-' rest)
  let separator ← rest.head?
  let (hour, rest) ← digitsOf? 2 (rest.drop 1)
  let (minute, rest) ← digitsOf? 2 (← charOf? ':' rest)
  let (second, rest) ← digitsOf? 2 (← charOf? ':' rest)
  let (nanos, rest) ← fractionOf? rest
  let offset ← offsetOf? rest
  let date : CivilDate := ⟨year, month, day⟩
  let leap := second == 60
  if date.isValid && hour < 24 && minute < 60 && second ≤ 60 && separator.toNat < 128 then
    let ofDay := hour * 3600 + minute * 60 + (if leap then 59 else second)
    let seconds := date.toDays * 86400 + ofDay - offset * 60
    let total := seconds * 1000000000 + (if leap then 999999999 else nanos)
    if leap && !isLeapSecond seconds then none else some (Int.tdiv total 1000000)
  else none

end Moment

end DocUpdate
