import QueryGate.Number.Fixed
import QueryGate.Text.CaseMap
import QueryGate.Value.Calendar
/-! Seconds since the start of 1970 as a date and time of day in universal time, and date patterns. -/

namespace QueryGate

/-- The date that lies so many days after the start of 1970. -/
def CalendarDate.ofDayNumber (days : Int) : CalendarDate :=
  -- years start in March here, so that a leap day is the last day of its year
  let z := days + 719468
  let era := z.fdiv 146097
  let dayOfEra := (z.fmod 146097).toNat
  let yearOfEra := (dayOfEra - dayOfEra / 1460 + dayOfEra / 36524 - dayOfEra / 146096) / 365
  let dayOfYear := dayOfEra - (365 * yearOfEra + yearOfEra / 4 - yearOfEra / 100)
  let monthIndex := (5 * dayOfYear + 2) / 153
  let month := if monthIndex < 10 then monthIndex + 3 else monthIndex - 9
  ⟨(yearOfEra + era * 400 + if month ≤ 2 then 1 else 0).toNat, month,
    dayOfYear - (153 * monthIndex + 2) / 5 + 1⟩

def isLeapYear (year : Nat) : Bool :=
  year % 4 = 0 && (year % 100 ≠ 0 || year % 400 = 0)

/-- The day of the year, counted from one. -/
def CalendarDate.yearDay (d : CalendarDate) : Nat :=
  let before := [0, 31, 59, 90, 120, 151, 181, 212, 243, 273, 304, 334].getD (d.month - 1) 0
  before + d.day + if isLeapYear d.year && 2 < d.month then 1 else 0

/-- A second of universal time. -/
structure Instant where
  seconds : Int

def Instant.date (t : Instant) : CalendarDate :=
  .ofDayNumber (t.seconds.fdiv 86400)

def Instant.ofDay (t : Instant) : Nat :=
  (t.seconds.fmod 86400).toNat

def Instant.hour (t : Instant) : Nat := t.ofDay / 3600

def Instant.minute (t : Instant) : Nat := t.ofDay / 60 % 60

def Instant.second (t : Instant) : Nat := t.ofDay % 60

/-- The day of the week, Sunday being zero. -/
def Instant.weekDay (t : Instant) : Nat :=
  ((t.seconds.fdiv 86400 + 4).fmod 7).toNat

def dayNames : List String :=
  ["Sunday", "Monday", "Tuesday", "Wednesday", "Thursday", "Friday", "Saturday"]

def monthNames : List String :=
  ["January", "February", "March", "April", "May", "June", "July", "August", "September",
   "October", "November", "December"]

def Instant.dayName (t : Instant) : List Char :=
  (dayNames.getD t.weekDay "").toList

def Instant.monthName (t : Instant) : List Char :=
  (monthNames.getD (t.date.month - 1) "").toList

/-- The hour on a face of twelve. -/
def Instant.faceHour (t : Instant) : Nat :=
  if t.hour % 12 = 0 then 12 else t.hour % 12

/-- Year and number of the week that starts on Monday and holds the year's first Thursday. -/
def Instant.week (t : Instant) : Nat × Nat :=
  let fromMonday := (t.weekDay + 6) % 7
  let thursday : Instant := ⟨t.seconds + ((3 : Int) - fromMonday) * 86400⟩
  (thursday.date.year, (thursday.date.yearDay - 1) / 7 + 1)

def numberChars (pad : Char) (width n : Nat) : List Char :=
  let digits := Nat.toDigits 10 n
  List.replicate (width - digits.length) pad ++ digits

def Instant.timeChars (t : Instant) : List Char :=
  clockChars t.hour t.minute t.second

/-- What a letter of a pattern stands for. -/
def Instant.field? (t : Instant) (letter : Char) : Option (List Char) :=
  let number (width n : Nat) := some (numberChars '0' width n)
  let spaced (width n : Nat) := some (numberChars ' ' width n)
  let d := t.date
  match letter with
  | 'Y' => number 0 d.year
  | 'C' => number 2 (d.year / 100)
  | 'y' => number 2 (d.year % 100)
  | 'm' => number 2 d.month
  | 'd' => number 2 d.day
  | 'e' => spaced 2 d.day
  | 'H' => number 2 t.hour
  | 'k' => spaced 2 t.hour
  | 'I' => number 2 t.faceHour
  | 'l' => spaced 2 t.faceHour
  | 'M' => number 2 t.minute
  | 'S' => number 2 t.second
  | 'j' => number 3 d.yearDay
  | 'u' => number 0 (if t.weekDay = 0 then 7 else t.weekDay)
  | 'w' => number 0 t.weekDay
  | 'U' => number 2 ((d.yearDay + 6 - t.weekDay) / 7)
  | 'W' => number 2 ((d.yearDay + 6 - (t.weekDay + 6) % 7) / 7)
  | 'V' => number 2 t.week.2
  | 'G' => number 0 t.week.1
  | 'g' => number 2 (t.week.1 % 100)
  | 's' => some (intText t.seconds).toList
  | 'a' => some (t.dayName.take 3)
  | 'A' => some t.dayName
  | 'b' | 'h' => some (t.monthName.take 3)
  | 'B' => some t.monthName
  | 'p' => some (if t.hour < 12 then ['A', 'M'] else ['P', 'M'])
  | 'P' => some (if t.hour < 12 then ['a', 'm'] else ['p', 'm'])
  | 'F' => some d.chars
  | 'T' | 'X' => some t.timeChars
  | 'R' => some (t.timeChars.take 5)
  | 'D' | 'x' =>
    some (paddedChars 2 d.month ++ '/' :: (paddedChars 2 d.day ++ '/' :: paddedChars 2 (d.year % 100)))
  | 'r' => some (clockChars t.faceHour t.minute t.second
      ++ ' ' :: (if t.hour < 12 then ['A', 'M'] else ['P', 'M']))
  | 'c' => some (t.dayName.take 3 ++ ' ' :: (t.monthName.take 3 ++ ' ' :: (numberChars ' ' 2 d.day
      ++ ' ' :: (t.timeChars ++ ' ' :: Nat.toDigits 10 d.year))))
  | 'z' => some "+0000".toList
  | 'Z' => some "UTC".toList
  | 'n' => some ['\n']
  | 't' => some ['\t']
  | '%' => some ['%']
  | _ => none

/-- Drops the zeros and blanks before a number, or writes blanks for them. -/
def repadded (blank : Bool) : List Char → List Char
  | [] => []
  | [c] => [c]
  | c :: rest =>
    if c = '0' || c = ' ' then (if blank then [' '] else []) ++ repadded blank rest else c :: rest

/-- A flag between the mark and the letter changes how the field is written. -/
def flaggedField (flag : Char) (field : List Char) : List Char :=
  match flag with
  | '-' => repadded false field
  | '_' => repadded true field
  | '^' => upperChars field
  | _ => field

/-- Fills the fields of a date pattern; what is no field stays. -/
def Instant.patternChars (t : Instant) : List Char → List Char
  | '%' :: letter :: rest =>
    if letter ∈ ['-', '_', '^', '0'] then
      match rest with
      | next :: after =>
        match t.field? next with
        | some field => flaggedField letter field ++ t.patternChars after
        | none => '%' :: letter :: t.patternChars (next :: after)
      | [] => ['%', letter]
    else
      match t.field? letter with
      | some field => field ++ t.patternChars rest
      | none => '%' :: letter :: t.patternChars rest
  | c :: rest => c :: t.patternChars rest
  | [] => []

/-- Date and time of day with a blank between them. -/
def Instant.chars (t : Instant) : List Char :=
  t.date.chars ++ ' ' :: t.timeChars

end QueryGate
