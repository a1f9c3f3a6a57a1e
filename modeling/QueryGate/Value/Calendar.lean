import QueryGate.Number.FloatText
import QueryGate.Number.Read
/-! Dates, times of day and moments in ISO 8601, and spans of time. -/

namespace QueryGate

/-- A number with zeros in front up to a width. -/
def paddedChars (width n : Nat) : List Char :=
  let digits := Nat.toDigits 10 n
  zeros (width - digits.length) ++ digits

structure CalendarDate where
  year : Nat
  month : Nat
  day : Nat
deriving DecidableEq, Repr

/-- A time of day. The offset from universal time is in seconds, when it is known. -/
structure ClockTime where
  hour : Nat
  minute : Nat
  second : Nat := 0
  micro : Nat := 0
  offset : Option Int := none
deriving DecidableEq, Repr

structure Moment where
  date : CalendarDate
  time : ClockTime
deriving DecidableEq, Repr

def CalendarDate.chars (d : CalendarDate) : List Char :=
  paddedChars 4 d.year ++ '-' :: (paddedChars 2 d.month ++ '-' :: paddedChars 2 d.day)

/-- Six fraction digits, or nothing for a whole second. -/
def fractionChars (micro : Nat) : List Char :=
  if micro = 0 then [] else '.' :: paddedChars 6 micro

def clockChars (hour minute second : Nat) : List Char :=
  paddedChars 2 hour ++ ':' :: (paddedChars 2 minute ++ ':' :: paddedChars 2 second)

/-- Hours and minutes of an offset, and its seconds if it has any. -/
def offsetChars (offset : Int) : List Char :=
  let size := offset.natAbs
  (if offset < 0 then '-' else '+') ::
    (if size % 60 = 0 then paddedChars 2 (size / 3600) ++ ':' :: paddedChars 2 (size / 60 % 60)
     else clockChars (size / 3600) (size / 60 % 60) (size % 60))

def ClockTime.chars (t : ClockTime) : List Char :=
  clockChars t.hour t.minute t.second ++ fractionChars t.micro
    ++ (t.offset.map offsetChars).getD []

def Moment.chars (separator : Char) (m : Moment) : List Char :=
  m.date.chars ++ separator :: m.time.chars

/-- A span of time; seconds and microseconds count forward from the day. -/
structure TimeSpan where
  days : Int
  seconds : Nat
  micros : Nat
deriving DecidableEq, Repr

/-- The span of a sum of days, seconds and microseconds, each of either sign. -/
def TimeSpan.of (days seconds micros : Int) : TimeSpan :=
  let wholeSeconds := seconds + micros.fdiv 1000000
  ⟨days + wholeSeconds.fdiv 86400, (wholeSeconds.fmod 86400).toNat, (micros.fmod 1000000).toNat⟩

def TimeSpan.text (s : TimeSpan) : String :=
  let dayPart :=
    if s.days = 0 then []
    else (intText s.days ++ (if s.days.natAbs = 1 then " day, " else " days, ")).toList
  String.ofList (dayPart ++ Nat.toDigits 10 (s.seconds / 3600) ++
    ':' :: (paddedChars 2 (s.seconds / 60 % 60) ++ ':' :: paddedChars 2 (s.seconds % 60))
    ++ fractionChars s.micros)

/-- The whole span in microseconds. -/
def TimeSpan.totalMicros (s : TimeSpan) : Int :=
  (s.days * 86400 + s.seconds) * 1000000 + s.micros

/-- A natural number of exactly `width` digits at the start of a text. -/
def readFixed (width : Nat) (cs : List Char) : Option (Nat × List Char) :=
  let digits := cs.take width
  if digits.length = width ∧ digits.all isAsciiDigit then some (natOfDigits digits, cs.drop width)
  else none

def afterChar? (c : Char) : List Char → Option (List Char)
  | d :: rest => if c = d then some rest else none
  | [] => none

def CalendarDate.readChars (cs : List Char) : Option (CalendarDate × List Char) := do
  let (year, cs) ← readFixed 4 cs
  let (month, cs) ← readFixed 2 (← afterChar? '-' cs)
  let (day, cs) ← readFixed 2 (← afterChar? '-' cs)
  pure (⟨year, month, day⟩, cs)

/-- Hours and minutes, then seconds and a fraction if they are given. -/
def readClock (cs : List Char) : Option (ClockTime × List Char) := do
  let (hour, cs) ← readFixed 2 cs
  match afterChar? ':' cs with
  | none => pure ({ hour, minute := 0 }, cs)
  | some cs =>
    let (minute, cs) ← readFixed 2 cs
    match afterChar? ':' cs with
    | none => pure ({ hour, minute }, cs)
    | some cs =>
      let (second, cs) ← readFixed 2 cs
      match afterChar? '.' cs with
      | none => pure ({ hour, minute, second }, cs)
      | some cs =>
        let digits := cs.takeWhile isAsciiDigit
        let micro := natOfDigits ((digits ++ zeros 6).take 6)
        pure ({ hour, minute, second, micro }, cs.drop digits.length)

def ClockTime.seconds (t : ClockTime) : Nat :=
  t.hour * 3600 + t.minute * 60 + t.second

def ClockTime.readChars (cs : List Char) : Option ClockTime := do
  let (time, rest) ← readClock cs
  match rest with
  | [] => pure time
  | ['Z'] => pure { time with offset := some 0 }
  | '+' :: more => do
    let (offset, rest) ← readClock more
    if rest.isEmpty then pure { time with offset := some offset.seconds } else none
  | '-' :: more => do
    let (offset, rest) ← readClock more
    if rest.isEmpty then pure { time with offset := some (-(offset.seconds : Int)) } else none
  | _ => none

def CalendarDate.read (s : String) : Option CalendarDate := do
  let (date, rest) ← CalendarDate.readChars s.toList
  if rest.isEmpty then pure date else none

def ClockTime.read (s : String) : Option ClockTime :=
  ClockTime.readChars s.toList

/-- A date, one character of any kind, and a time; a date alone is its midnight. -/
def Moment.read (s : String) : Option Moment := do
  let (date, rest) ← CalendarDate.readChars s.toList
  match rest with
  | [] => pure ⟨date, { hour := 0, minute := 0 }⟩
  | _ :: time => do pure ⟨date, ← ClockTime.readChars time⟩

end QueryGate
