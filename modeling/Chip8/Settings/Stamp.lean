/-!
# Days and times

A value of a document may be a day of the calendar or a time on such a day, told in hours, minutes,
seconds and millionths, perhaps with how far local time is ahead of universal time.  What is given
may be none: its parts are looked at in a fixed order, which decides what is said about several
parts that are out of range.
-/

namespace Chip8

/-- A time of day. -/
structure DayTime where
  /-- The hour. -/
  hour : Nat
  /-- The minute. -/
  minute : Nat
  /-- The second. -/
  second : Nat
  /-- The millionths of a second. -/
  micros : Nat
  /-- By how many seconds local time is ahead of universal time, if that is told. -/
  ahead : Option Int
deriving DecidableEq, Repr

/-- A day, or a time on it. -/
structure Stamp where
  /-- The year. -/
  year : Nat
  /-- The month, from one on. -/
  month : Nat
  /-- The day of the month, from one on. -/
  day : Nat
  /-- The time of the day, if it is told. -/
  time : Option DayTime
deriving DecidableEq, Repr

/-- The part of a day or time that is out of range. -/
inductive StampError where
  /-- How far local time is ahead, which has to be less than a day either way. -/
  | ahead (seconds : Int)
  /-- The year. -/
  | year (n : Nat)
  /-- The month. -/
  | month
  /-- The day. -/
  | day
  /-- The hour. -/
  | hour
  /-- The minute. -/
  | minute
  /-- The second. -/
  | second
deriving DecidableEq, Repr

/-- The number of seconds of a day. -/
def daySeconds : Int := 86400

namespace Stamp

/-- A number in decimal, with zeros in front up to a width. -/
def padded (width n : Nat) : String :=
  let digits := toString n
  String.ofList (List.replicate (width - digits.length) '0') ++ digits

/-- A span of seconds in the notation of a program: whole days and the seconds that are left. -/
def quotedSpan (seconds : Int) : String :=
  let days := Int.fdiv seconds daySeconds
  let left := Int.fmod seconds daySeconds
  let parts := (if days = 0 then [] else ["days=" ++ toString days]) ++
    (if left = 0 then [] else ["seconds=" ++ toString left])
  "datetime.timedelta(" ++ (if parts = [] then "0" else String.intercalate ", " parts) ++ ")"

/-- How far local time is ahead, as hours and minutes with a sign. -/
def aheadText (seconds : Int) : String :=
  let minutes := seconds.natAbs / 60
  (if seconds < 0 then "-" else "+") ++ padded 2 (minutes / 60) ++ ":" ++ padded 2 (minutes % 60)

/-- A time of day as it is written. -/
def timeText (t : DayTime) : String :=
  padded 2 t.hour ++ ":" ++ padded 2 t.minute ++ ":" ++ padded 2 t.second ++
    (if t.micros = 0 then "" else "." ++ padded 6 t.micros) ++
    (match t.ahead with
    | some seconds => aheadText seconds
    | none => "")

/-- A day or time as it is written. -/
def shown (s : Stamp) : String :=
  padded 4 s.year ++ "-" ++ padded 2 s.month ++ "-" ++ padded 2 s.day ++
    (match s.time with
    | some t => " " ++ timeText t
    | none => "")

/-- The parts of a time in the notation of a program, in which parts of zero at the end are left
out. -/
def quotedTime (t : DayTime) : List String :=
  let small :=
    if t.micros ≠ 0 then [t.second, t.micros] else if t.second ≠ 0 then [t.second] else []
  ([t.hour, t.minute] ++ small).map toString ++
    (match t.ahead with
    | some 0 => ["tzinfo=datetime.timezone.utc"]
    | some seconds => ["tzinfo=datetime.timezone(" ++ quotedSpan seconds ++ ")"]
    | none => [])

/-- The name of the type of a day or time. -/
def typeName (s : Stamp) : String := if s.time.isSome then "datetime" else "date"

/-- The name of the type with the family it belongs to. -/
def className (s : Stamp) : String := "datetime." ++ s.typeName

/-- A day or time in the notation of a program. -/
def quoted (s : Stamp) : String :=
  let parts := [s.year, s.month, s.day].map toString ++ (s.time.map quotedTime).getD []
  s.className ++ "(" ++ String.intercalate ", " parts ++ ")"

/-- How many levels of values lie inside a day or time in that notation: how far local time is ahead
is a value, and a span other than zero is one inside it. -/
def levels (s : Stamp) : Nat :=
  match s.time.bind DayTime.ahead with
  | some 0 => 1
  | some _ => 2
  | none => 0

/-- The number of days of a month. -/
def monthLength (year month : Nat) : Nat :=
  let isLeap := year % 4 = 0 && (year % 100 != 0 || year % 400 = 0)
  if month = 2 then if isLeap then 29 else 28
  else if month ∈ [4, 6, 9, 11] then 30
  else 31

/-- Refuses a day that the calendar does not have. -/
def checkDay (s : Stamp) : Except StampError Unit := do
  if s.year = 0 then throw (.year s.year)
  if s.month = 0 || 12 < s.month then throw .month
  if s.day = 0 || monthLength s.year s.month < s.day then throw .day

/-- Refuses a time that no day has. -/
def checkTime (t : DayTime) : Except StampError Unit := do
  if 23 < t.hour then throw .hour
  if 59 < t.minute then throw .minute
  if 59 < t.second then throw .second

/-- A day or time, if it is one. -/
def checked (s : Stamp) : Except StampError Stamp := do
  match s.time with
  | none => s.checkDay
  | some t =>
    match t.ahead with
    | some seconds =>
      if seconds ≤ -daySeconds || daySeconds ≤ seconds then throw (.ahead seconds)
    | none => pure ()
    s.checkDay
    checkTime t
  pure s

end Stamp

/-- What is said about a part that is out of range. -/
def StampError.message : StampError → String
  | ahead seconds =>
    "offset must be a timedelta strictly between -timedelta(hours=24) and timedelta(hours=24), " ++
      "not " ++ Stamp.quotedSpan seconds ++ "."
  | year n => "year " ++ toString n ++ " is out of range"
  | month => "month must be in 1..12"
  | day => "day is out of range for month"
  | hour => "hour must be in 0..23"
  | minute => "minute must be in 0..59"
  | second => "second must be in 0..59"

end Chip8
