/-! Moments of the proleptic Gregorian calendar in universal time, to the nanosecond. A leap second
is kept as a fraction of more than one second behind second 59. -/

namespace LivePipeline

structure CivilDate where
  year : Int
  month : Nat
  day : Nat
  deriving DecidableEq

namespace CivilDate

def isLeapYear (year : Int) : Bool := year % 4 == 0 && (year % 100 != 0 || year % 400 == 0)

def daysInMonth (year : Int) (month : Nat) : Nat :=
  match month with
  | 2 => if isLeapYear year then 29 else 28
  | 4 | 6 | 9 | 11 => 30
  | _ => 31

/-- The years that dates may have. -/
def minYear : Int := -262143
def maxYear : Int := 262142

def isValid (date : CivilDate) : Bool :=
  minYear ≤ date.year && date.year ≤ maxYear && 1 ≤ date.month && date.month ≤ 12
    && 1 ≤ date.day && date.day ≤ daysInMonth date.year date.month

/-- Days since the first of January 1970. Years are counted from March, so that a leap day is the
last day of its year. -/
def toDays (date : CivilDate) : Int :=
  let year := if date.month ≤ 2 then date.year - 1 else date.year
  let era := Int.fdiv year 400
  let yearOfEra := year - era * 400
  let monthFromMarch : Int := Int.ofNat ((date.month + 9) % 12)
  let dayOfYear := (153 * monthFromMarch + 2) / 5 + Int.ofNat date.day - 1
  let dayOfEra := yearOfEra * 365 + yearOfEra / 4 - yearOfEra / 100 + dayOfYear
  era * 146097 + dayOfEra - 719468

/-- The date that lies the given number of days after the first of January 1970. -/
def ofDays (days : Int) : CivilDate :=
  let shifted := days + 719468
  let era := Int.fdiv shifted 146097
  let dayOfEra := shifted - era * 146097
  let yearOfEra := (dayOfEra - dayOfEra / 1460 + dayOfEra / 36524 - dayOfEra / 146096) / 365
  let dayOfYear := dayOfEra - (365 * yearOfEra + yearOfEra / 4 - yearOfEra / 100)
  let monthFromMarch := (5 * dayOfYear + 2) / 153
  let day := (dayOfYear - (153 * monthFromMarch + 2) / 5 + 1).toNat
  let month := if monthFromMarch < 10 then (monthFromMarch + 3).toNat else (monthFromMarch - 9).toNat
  let year := yearOfEra + era * 400
  ⟨if month ≤ 2 then year + 1 else year, month, day⟩

end CivilDate

/-- A moment: days since 1970, seconds of the day, and nanoseconds, of which a leap second has a
thousand million more. -/
structure Moment where
  day : Int
  second : Nat
  nano : Nat
  deriving DecidableEq

namespace Moment

def secondsPerDay : Int := 86400

def nanosPerSecond : Int := 1000000000

def date (moment : Moment) : CivilDate := CivilDate.ofDays moment.day

def hour (moment : Moment) : Nat := moment.second / 3600

def minute (moment : Moment) : Nat := moment.second / 60 % 60

/-- The second of the minute; a leap second counts as second 59. -/
def secondOfMinute (moment : Moment) : Nat := moment.second % 60

/-- The day of the week, counted from Sunday. -/
def weekday (moment : Moment) : Nat := ((moment.day + 4) % 7).toNat

/-- Milliseconds since the first of January 1970. -/
def milliseconds (moment : Moment) : Int :=
  (moment.day * secondsPerDay + Int.ofNat moment.second) * 1000 + Int.ofNat (moment.nano / 1000000)

/-- Puts a count of seconds since midnight into a day; `none` beyond the calendar's range. -/
def normalize? (day seconds : Int) (nano : Nat) : Option Moment :=
  let carried := Int.fdiv seconds secondsPerDay
  let result : Moment := ⟨day + carried, (seconds - carried * secondsPerDay).toNat, nano⟩
  let year := result.date.year
  if CivilDate.minYear ≤ year && year ≤ CivilDate.maxYear then some result else none

/-- The moment a number of milliseconds later. Leaving a leap second, the time goes on from the
second before it when moving forward and from the second after it when moving back. -/
def addMilliseconds? (moment : Moment) (amount : Int) : Option Moment :=
  let seconds := Int.tdiv amount 1000
  let nanos := Int.tmod amount 1000 * 1000000
  let isLeap := Int.ofNat moment.nano ≥ nanosPerSecond
  let ahead := seconds > 0 ∨ (nanos > 0 ∧ Int.ofNat moment.nano + nanos ≥ 2 * nanosPerSecond)
  if isLeap ∧ ¬ahead ∧ ¬seconds < 0 then
    some { moment with nano := (Int.ofNat moment.nano + nanos).toNat }
  else
    let start := if isLeap ∧ ¬ahead then Int.ofNat moment.second + 1 else Int.ofNat moment.second
    let fraction := (if isLeap then Int.ofNat moment.nano - nanosPerSecond else Int.ofNat moment.nano) + nanos
    let carry := Int.fdiv fraction nanosPerSecond
    normalize? moment.day (start + seconds + carry) (fraction - carry * nanosPerSecond).toNat

end Moment

end LivePipeline
