import LivePipeline.Operation.Instance

/-! Operations on dates. -/

namespace LivePipeline.Operation

def createDate (moment : Moment) : Run Data := do
  let text ← (Data.text moment.format : Run Data)
  createInstance dateClass dateType [text] (.date moment)

def toDate : EagerHandler := fun _ _ data _ => do
  let moment ← parseDate (← expectText "toDate" data)
  createDate moment

def expectDate (name : String) (data : Data) : Attempt Moment := do
  match ← expectExternal name data with
  | .date moment => return moment
  | _ => throw (.unexpected name .date data)

/-- An operation that reads a number off a date. -/
def dateField (name : String) (read : Moment → Int) : EagerHandler := fun _ _ data _ => do
  Data.number (floatOfInt (read (← expectDate name data)))

def toISOString : EagerHandler := fun _ _ data _ => do
  Data.text (← expectDate "toISOString" data).format

/-- The largest shift in milliseconds. -/
def maxShift : Float := 8.64e15

/-- Shifts a date by days, rounded to milliseconds with a half going away from zero. -/
def addDays : EagerHandler := fun _ _ data arguments => do
  let argument ← first "addDays" arguments
  let moment ← expectDate "addDays" data
  let days ← expectNumber "addDays" argument
  let shift := (days * 86400000.0).round
  if !shift.isFinite || shift.abs > maxShift then throw (.dayCountOutOfRange "addDays")
  match moment.addMilliseconds? (integerPart shift) with
  | some shifted => createDate shifted
  | none => throw (.dateOutOfRange "addDays")

def dateFamily : List Builtin :=
  let alone := takes dateType []
  let field (name : String) (read : Moment → Int) : Builtin :=
    .eager name dateClass alone returnsNumber (dateField name read)
  [field "getTime" Moment.milliseconds,
  .eager "toISOString" dateClass alone returnsString toISOString,
  field "getFullYear" (·.date.year),
  field "getMonth" fun moment => Int.ofNat moment.date.month - 1,
  field "getDate" fun moment => Int.ofNat moment.date.day,
  field "getDay" fun moment => Int.ofNat moment.weekday,
  field "getHours" fun moment => Int.ofNat moment.hour,
  field "getMinutes" fun moment => Int.ofNat moment.minute,
  field "getSeconds" fun moment => Int.ofNat moment.secondOfMinute,
  .eager "addDays" dateClass (takes dateType [.named "days" .number]) (fun _ _ => dateType) addDays]

end LivePipeline.Operation
