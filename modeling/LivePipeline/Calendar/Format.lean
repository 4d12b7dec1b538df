import LivePipeline.Calendar
import LivePipeline.Text.Blank
import LivePipeline.Number.Reading

/-! Dates as text. They are written with milliseconds in universal time, and read in three forms:
a full timestamp with an offset, a timestamp without one, and a date alone. -/

namespace LivePipeline.Moment

/-- Digits with zeros in front up to the given width. -/
def padded (width value : Nat) : String :=
  let digits := toString value
  String.ofList (List.replicate (width - digits.length) '0') ++ digits

/-- Four digits; years outside of them carry a sign. -/
def yearText (year : Int) : String :=
  if 0 ≤ year ∧ year ≤ 9999 then padded 4 year.toNat
  else (if year < 0 then "-" else "+") ++ padded 4 year.natAbs

/-- The moment with its milliseconds; a leap second is written as second 60. -/
def format (moment : Moment) : String :=
  let date := moment.date
  let leap := moment.nano / 1000000000
  yearText date.year ++ "-" ++ padded 2 date.month ++ "-" ++ padded 2 date.day
    ++ "T" ++ padded 2 moment.hour ++ ":" ++ padded 2 moment.minute ++ ":"
    ++ padded 2 (moment.secondOfMinute + leap) ++ "."
    ++ padded 3 (moment.nano % 1000000000 / 1000000) ++ "Z"

/-- Reads between `least` and `most` digits. -/
def digits? (least most : Nat) (text : List Char) : Option (Nat × List Char) :=
  let read := (text.take most).takeWhile Char.isDigit
  if read.length < least then none else some (Number.digitsValue read, text.drop read.length)

def literal? (c : Char) : List Char → Option (List Char)
  | first :: rest => if first == c then some rest else none
  | [] => none

/-- A fraction of a second: at least one digit, of which nine count. -/
def fraction? : List Char → Option (Nat × List Char)
  | '.' :: rest => do
    let (value, after) ← digits? 1 9 rest
    let count := rest.length - after.length
    return (value * Nat.pow 10 (9 - count), after.dropWhile Char.isDigit)
  | text => some (0, text)

/-- The offset of a time zone in seconds: a letter for none, or a sign, hours and minutes. -/
def offset? : List Char → Option (Int × List Char)
  | 'Z' :: rest | 'z' :: rest => some (0, rest)
  | sign :: rest => do
    guard (sign == '+' || sign == '-' || sign == '−')
    let (hours, rest) ← digits? 2 2 rest
    let rest ← literal? ':' rest
    let (minutes, rest) ← digits? 2 2 rest
    guard (minutes < 60)
    let seconds : Int := Int.ofNat (hours * 3600 + minutes * 60)
    guard (seconds < secondsPerDay)
    return (if sign == '+' then seconds else -seconds, rest)
  | [] => none

/-- A moment from its parts in local time; second 60 is the leap second behind second 59. -/
def ofParts? (date : CivilDate) (hour minute second nano : Nat) (offset : Int) : Option Moment :=
  if date.isValid && hour < 24 && minute < 60 && second ≤ 60 then
    let (second, nano) := if second == 60 then (59, nano + 1000000000) else (second, nano)
    normalize? date.toDays (Int.ofNat (hour * 3600 + minute * 60 + second) - offset) nano
  else none

/-- A timestamp with exactly four digits for the year, two for all else, and an offset. -/
def timestamp? (text : List Char) : Option Moment := do
  let (year, rest) ← digits? 4 4 text
  let (month, rest) ← digits? 2 2 (← literal? '-' rest)
  let (day, rest) ← digits? 2 2 (← literal? '-' rest)
  let rest ← (literal? 'T' rest).or ((literal? 't' rest).or (literal? ' ' rest))
  let (hour, rest) ← digits? 2 2 rest
  let (minute, rest) ← digits? 2 2 (← literal? ':' rest)
  let (second, rest) ← digits? 2 2 (← literal? ':' rest)
  let (nano, rest) ← fraction? rest
  let (offset, rest) ← offset? rest
  guard rest.isEmpty
  ofParts? ⟨Int.ofNat year, month, day⟩ hour minute second nano offset

/-- A field of one to two digits behind optional white space. -/
def field? (text : List Char) : Option (Nat × List Char) := digits? 1 2 (text.dropWhile Text.isBlank)

/-- A year: up to four digits, or a sign and any number of them. -/
def year? (text : List Char) : Option (Int × List Char) :=
  match text.dropWhile Text.isBlank with
  | '-' :: rest => (digits? 1 rest.length rest).map fun (value, rest) => (-Int.ofNat value, rest)
  | '+' :: rest => (digits? 1 rest.length rest).map fun (value, rest) => (Int.ofNat value, rest)
  | rest => (digits? 1 4 rest).map fun (value, rest) => (Int.ofNat value, rest)

def civil? (text : List Char) : Option (CivilDate × List Char) := do
  let (year, rest) ← year? text
  let (month, rest) ← field? (← literal? '-' rest)
  let (day, rest) ← field? (← literal? '-' rest)
  return (⟨year, month, day⟩, rest)

/-- A timestamp without an offset is meant in universal time. -/
def localTimestamp? (text : List Char) : Option Moment := do
  let (date, rest) ← civil? text
  let (hour, rest) ← field? (← literal? 'T' rest)
  let (minute, rest) ← field? (← literal? ':' rest)
  let (second, rest) ← field? (← literal? ':' rest)
  guard rest.isEmpty
  ofParts? date hour minute second 0 0

/-- A date alone means its midnight. -/
def midnight? (text : List Char) : Option Moment := do
  let (date, rest) ← civil? text
  guard rest.isEmpty
  ofParts? date 0 0 0 0 0

/-- Reads a date in the first form that fits. -/
def parse? (text : String) : Option Moment :=
  let chars := (Text.trim text).toList
  (timestamp? chars).or ((localTimestamp? chars).or (midnight? chars))

end LivePipeline.Moment
