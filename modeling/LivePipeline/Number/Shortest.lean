import LivePipeline.Number.Dyadic

/-! The shortest decimal that reads back as a given double: of all decimals with the fewest
digits that round to it, the nearest one. -/

namespace LivePipeline

/-- The number `digits · 10 ^ exponent`. -/
structure Decimal where
  digits : Nat
  exponent : Int

namespace Decimal

/-- How many decimal digits `n` has; zero has one. -/
def length (n : Nat) : Nat := (Nat.toDigits 10 n).length

/-- The place of the decimal point of `numerator / denominator`, counted from the first digit
that is not zero: `0.05` has place `-1`, `5` has place `1`. -/
def place (numerator denominator : Nat) : Int :=
  if numerator ≥ denominator then (length (numerator / denominator) : Nat)
  else 1 - ((length ((denominator - 1) / numerator) : Nat) : Int)

/-- Compares `digits · 10 ^ power` with `mantissa · 2 ^ exponent`. -/
def compareBinary (digits : Nat) (power : Int) (mantissa : Nat) (exponent : Int) : Ordering :=
  compare (digits * Nat.pow 10 power.toNat * Nat.pow 2 (-exponent).toNat)
    (mantissa * Nat.pow 2 exponent.toNat * Nat.pow 10 (-power).toNat)

/-- The reals that round to a positive double, scaled by four: the double is `middle · 2 ^ exponent`. -/
structure Span where
  low : Nat
  middle : Nat
  high : Nat
  exponent : Int
  closed : Bool

def Span.ofDyadic (d : Dyadic) : Span :=
  let gap := if d.mantissa = Nat.pow 2 52 ∧ d.exponent > -1074 then 1 else 2
  { low := 4 * d.mantissa - gap
    middle := 4 * d.mantissa
    high := 4 * d.mantissa + 2
    exponent := d.exponent - 2
    closed := d.mantissa % 2 == 0 }

def Span.contains (span : Span) (digits : Nat) (power : Int) : Bool :=
  match compareBinary digits power span.low span.exponent,
      compareBinary digits power span.high span.exponent with
  | .lt, _ | _, .gt => false
  | .eq, _ | _, .eq => span.closed
  | .gt, .lt => true

/-- The neighbour of the value on the grid of `10 ^ power` that reads back, the nearer of two. -/
def onGrid? (span : Span) (power : Int) : Option Decimal :=
  let scaled := span.middle * Nat.pow 2 span.exponent.toNat * Nat.pow 10 (-power).toNat
  let below := scaled / (Nat.pow 2 (-span.exponent).toNat * Nat.pow 10 power.toNat)
  match span.contains below power, span.contains (below + 1) power with
  | true, false => some ⟨below, power⟩
  | false, true => some ⟨below + 1, power⟩
  | false, false => none
  | true, true =>
    match compareBinary (2 * below + 1) power (2 * span.middle) span.exponent with
    | .lt => some ⟨below + 1, power⟩
    | .gt => some ⟨below, power⟩
    | .eq => some ⟨below + below % 2, power⟩

/-- Drops zeros at the end; `fuel` bounds how many. -/
def dropZeros : Nat → Decimal → Decimal
  | 0, d => d
  | fuel + 1, d =>
    if d.digits ≠ 0 ∧ d.digits % 10 = 0 then dropZeros fuel ⟨d.digits / 10, d.exponent + 1⟩ else d

/-- The fewest digits that read back as the magnitude of `d`. Seventeen always suffice. -/
def shortest (d : Dyadic) : Decimal :=
  if d.mantissa = 0 then ⟨0, 0⟩
  else
    let span := Span.ofDyadic d
    let (numerator, denominator) := d.ratio
    let point := place numerator denominator
    let found := (List.range 17).findSome? fun count => onGrid? span (point - ((count : Nat) : Int) - 1)
    dropZeros 20 (found.getD ⟨0, 0⟩)

end Decimal

end LivePipeline
