import TelemetryAlerts.Number.Layout

/-!
# Moments

A calendar date and a time of day to the microsecond, with or without a distance from
universal time. Two moments can be compared only if both have such a distance or
neither has one.
-/

namespace TelemetryAlerts

/-- The number of microseconds in a second. -/
def microsPerSecond : Int := 1000000

/-- The number of microseconds in a minute. -/
def microsPerMinute : Int := 60 * microsPerSecond

/-- The number of microseconds in a day. -/
def microsPerDay : Int := 1440 * microsPerMinute

namespace Calendar

/-- Leap years have 366 days. -/
def isLeap (year : Nat) : Bool :=
  year % 4 == 0 && (year % 100 != 0 || year % 400 == 0)

/-- The length of a month. -/
def daysInMonth (year month : Nat) : Nat :=
  match month with
  | 2 => if isLeap year then 29 else 28
  | 4 | 6 | 9 | 11 => 30
  | _ => 31

/-- The number of days from the first day of year 1 to the first of a year. -/
def daysBeforeYear (year : Nat) : Nat :=
  let y := year - 1
  y * 365 + y / 4 - y / 100 + y / 400

/-- The number of days from the first day of a year to the first of a month. -/
def daysBeforeMonth (year month : Nat) : Nat :=
  ((List.range (month - 1)).map fun m => daysInMonth year (m + 1)).foldl (· + ·) 0

/-- The number of days from the first day of year 1 to a date. -/
def dayNumber (year month day : Nat) : Nat :=
  daysBeforeYear year + daysBeforeMonth year month + (day - 1)

/-- The year that holds a day, given as its number. -/
def yearOfDay (n : Nat) : Nat :=
  let guess := n / 365 + 1
  -- at most a handful of leap days separate the guess from the year
  let back := (List.range 30).find? fun k => daysBeforeYear (guess - k) ≤ n
  guess - back.getD 0

/-- The month of a day, given as its number within the year. -/
def monthOfDay (year n : Nat) : Nat :=
  (((List.range 12).filter fun m => daysBeforeMonth year (m + 1) ≤ n).length)

end Calendar

/-- Whether numbers name a date, a time of day and a distance of less than a day. -/
def isCivil (year month day hour minute second micro : Nat) (offset? : Option Int) : Bool :=
  1 ≤ year && year ≤ 9999 && 1 ≤ month && month ≤ 12 && 1 ≤ day &&
    day ≤ Calendar.daysInMonth year month && hour < 24 && minute < 60 && second < 60 &&
    micro < 1000000 && (offset?.all fun o => -1440 < o && o < 1440)

/-- A date and a time of day; `offset?` is the distance from universal time in minutes. -/
structure Moment where
  year : Nat
  month : Nat
  day : Nat
  hour : Nat
  minute : Nat
  second : Nat
  micro : Nat
  offset? : Option Int
  civil : isCivil year month day hour minute second micro offset? = true
deriving DecidableEq

namespace Moment

/-- The moment with the given numbers, if they name one. -/
def mk? (year month day hour minute second micro : Nat) (offset? : Option Int) : Option Moment :=
  if h : isCivil year month day hour minute second micro offset? = true then
    some ⟨year, month, day, hour, minute, second, micro, offset?, h⟩
  else none

/-- The first moment of 1970 in universal time. -/
def epoch : Moment :=
  ⟨1970, 1, 1, 0, 0, 0, 0, some 0, by decide⟩

instance : Inhabited Moment := ⟨epoch⟩

/-- Whether the distance from universal time is known. -/
def isAware (t : Moment) : Bool :=
  t.offset?.isSome

/-- Microseconds of the calendar fields since the start of year 1. -/
def wallMicros (t : Moment) : Int :=
  (Calendar.dayNumber t.year t.month t.day : Int) * microsPerDay +
    ((t.hour * 60 + t.minute : Nat) : Int) * microsPerMinute +
    (t.second : Int) * microsPerSecond + t.micro

/-- Microseconds since the start of year 1 in universal time; a moment without a
distance counts as it stands. -/
def instant (t : Moment) : Int :=
  t.wallMicros - t.offset?.getD 0 * microsPerMinute

/-- The moment that lies a number of microseconds after the start of year 1 on the clock
of a place, if its year is between 1 and 9999. -/
def ofWallMicros? (micros : Int) (offset? : Option Int) : Option Moment :=
  if micros < 0 then none
  else
    let n := micros.toNat
    let perDay := microsPerDay.toNat
    let days := n / perDay
    let year := Calendar.yearOfDay days
    let dayOfYear := days - Calendar.daysBeforeYear year
    let month := Calendar.monthOfDay year dayOfYear
    let day := dayOfYear - Calendar.daysBeforeMonth year month + 1
    let rest := n % perDay
    let seconds := rest / 1000000
    mk? year month day (seconds / 3600) (seconds / 60 % 60) (seconds % 60) (rest % 1000000) offset?

/-- The moment a number of microseconds later, on the same clock. -/
def add? (t : Moment) (micros : Int) : Option Moment :=
  ofWallMicros? (t.wallMicros + micros) t.offset?

/-- The moment that lies a number of microseconds after the epoch, in universal time. -/
def ofEpoch? (micros : Int) : Option Moment :=
  ofWallMicros? (epoch.wallMicros + micros) (some 0)

/-- The microseconds from one moment to another; `none` if just one of them knows its
distance from universal time. -/
def since? (later earlier : Moment) : Option Int :=
  if later.isAware = earlier.isAware then some (later.instant - earlier.instant) else none

/-- The date and time of day in a fixed-width form, with a mark between them. -/
def dateText (t : Moment) : List Char :=
  Number.padded 4 t.year ++ '-' :: Number.padded 2 t.month ++ '-' :: Number.padded 2 t.day

/-- The time of day to the second. -/
def timeText (t : Moment) : List Char :=
  Number.padded 2 t.hour ++ ':' :: Number.padded 2 t.minute ++ ':' :: Number.padded 2 t.second

/-- Six digits of a second, unless they are all zero. -/
def fractionText (t : Moment) : List Char :=
  if t.micro = 0 then [] else '.' :: Number.padded 6 t.micro

/-- A distance from universal time as hours and minutes. -/
def offsetText (minutes : Int) : List Char :=
  let n := minutes.natAbs
  (if minutes < 0 then '-' else '+') ::
    Number.padded 2 (n / 60) ++ ':' :: Number.padded 2 (n % 60)

/-- The moment as it is shown: the distance in figures, nothing if there is none. -/
def text (t : Moment) : String :=
  String.ofList (t.dateText ++ 'T' :: t.timeText ++ t.fractionText ++
    (t.offset?.map offsetText).getD [])

/-- The moment as it is stored: universal time is marked `Z`. -/
def storedText (t : Moment) : String :=
  let tail : List Char :=
    match t.offset? with
    | none => []
    | some 0 => ['Z']
    | some o => offsetText o
  String.ofList (t.dateText ++ 'T' :: t.timeText ++ t.fractionText ++ tail)

/-- The moment on its own clock, to the second. -/
def wallText (t : Moment) : String :=
  String.ofList (t.dateText ++ ' ' :: t.timeText)

end Moment

/-- Whether moments can all be compared with one another. -/
def comparable (ts : List Moment) : Bool :=
  ts.all Moment.isAware || ts.all fun t => !t.isAware

end TelemetryAlerts
