import LivePipeline.Operation

/-! Operations on numbers. -/

namespace LivePipeline.Operation

def operands (name : String) (data : Data) (arguments : List Data) : Except Failure (Float × Float) := do
  let other ← first name arguments
  return (← expectNumber name data, ← expectNumber name other)

/-- An operation that computes a number from two. -/
def arithmetic (name : String) (compute : Float → Float → Float) : EagerHandler :=
  fun _ _ data arguments => do
    let (x, y) ← operands name data arguments
    Data.number (compute x y)

/-- An operation that compares two numbers. -/
def comparison (name : String) (compare : Float → Float → Bool) : EagerHandler :=
  fun _ _ data arguments => do
    let (x, y) ← operands name data arguments
    Data.boolean (compare x y)

/-- An operation that computes a number from one. -/
def transform (name : String) (compute : Float → Float) : EagerHandler := fun _ _ data _ => do
  Data.number (compute (← expectNumber name data))

def divide : EagerHandler := fun _ _ data arguments => do
  let (x, y) ← operands "divide" data arguments
  if y == 0 then throw .divisionByZero
  Data.number (x / y)

def modulo : EagerHandler := fun _ _ data arguments => do
  let (x, y) ← operands "mod" data arguments
  if y == 0 then throw .moduloByZero
  Data.number (remainder x y)

/-- The smaller number; a number wins over NaN. -/
def smaller (x y : Float) : Float := if x.isNaN then y else if y.isNaN then x else if y < x then y else x

/-- The larger number; a number wins over NaN. -/
def larger (x y : Float) : Float := if x.isNaN then y else if y.isNaN then x else if y > x then y else x

/-- The longest range that is built. -/
def maxRangeLength : Float := 1000000.0

/-- The numbers from `value` on in steps, as long as they stand before `stop`; `done` holds those
found so far in reverse, and `fuel` bounds their number. -/
def rangeFrom (step stop : Float) : Nat → Float → List Float → List Float
  | 0, _, done => done.reverse
  | fuel + 1, value, done =>
    if (step > 0 && value < stop) || (step < 0 && value > stop) then
      rangeFrom step stop fuel (value + step) (value :: done)
    else done.reverse

/-- The numbers from `start` toward `stop`, which is left out. -/
def range (start stop : Float) : List Float :=
  rangeFrom (if stop ≥ start then 1.0 else -1.0) stop ((integerPart (stop - start)).natAbs + 2) start []

def toRange : EagerHandler := fun _ _ data arguments => do
  let (start, stop) ← operands "toRange" data arguments
  if !start.isFinite || !stop.isFinite then throw (.unboundedRange "toRange")
  if (stop - start).abs > maxRangeLength then throw (.rangeTooLarge "toRange")
  let values ← (range start stop).mapM fun value => (Data.number value : Attempt Data)
  Data.array values .number

def toFixed : EagerHandler := fun _ _ data arguments => do
  let argument ← first "toFixed" arguments
  let value ← expectNumber "toFixed" data
  let digits ← expectInteger "toFixed" argument
  if digits < 0 || digits > 100 then throw (.digitsOutOfRange "toFixed")
  Data.text (Number.fixed value digits.toNat)

def numericFamily : List Builtin :=
  let other := takes .number [.named "value" .number]
  let alone := takes .number []
  [.eager "add" "number" other returnsNumber (arithmetic "add" (· + ·)),
  .eager "subtract" "number" other returnsNumber (arithmetic "subtract" (· - ·)),
  .eager "multiply" "number" other returnsNumber (arithmetic "multiply" (· * ·)),
  .eager "divide" "number" other returnsNumber divide,
  .eager "mod" "number" other returnsNumber modulo,
  .eager "power" "number" other returnsNumber (arithmetic "power" Float.pow),
  .eager "min" "number" other returnsNumber (arithmetic "min" smaller),
  .eager "max" "number" other returnsNumber (arithmetic "max" larger),
  .eager "abs" "number" alone returnsNumber (transform "abs" Float.abs),
  .eager "floor" "number" alone returnsNumber (transform "floor" Float.floor),
  .eager "ceil" "number" alone returnsNumber (transform "ceil" Float.ceil),
  .eager "round" "number" alone returnsNumber (transform "round" fun x => (x + 0.5).floor),
  .eager "lessThan" "number" other returnsBoolean (comparison "lessThan" (· < ·)),
  .eager "lessThanOrEqual" "number" other returnsBoolean (comparison "lessThanOrEqual" (· ≤ ·)),
  .eager "greaterThan" "number" other returnsBoolean (comparison "greaterThan" (· > ·)),
  .eager "greaterThanOrEqual" "number" other returnsBoolean (comparison "greaterThanOrEqual" (· ≥ ·)),
  .eager "toRange" "number" (takes .number [.named "end" .number]) (fun _ _ => .array .number) toRange,
  .eager "toFixed" "number" (takes .number [.named "digits" .number]) returnsString toFixed]

end LivePipeline.Operation
