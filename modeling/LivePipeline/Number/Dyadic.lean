/-! A finite double is exactly a signed integer times a power of two. Everything that must be
exact about numbers (their digits, their remainders, reading them back) works on that form. -/

namespace LivePipeline

/-- The number `± mantissa · 2 ^ exponent`. -/
structure Dyadic where
  negative : Bool
  mantissa : Nat
  exponent : Int

namespace Dyadic

/-- The exact value of a finite double; `none` for infinities and for what is not a number. -/
def ofFloat? (x : Float) : Option Dyadic :=
  let bits : Nat := x.toBits.toNat
  let negative := bits / Nat.pow 2 63 == 1
  let biased : Nat := bits / Nat.pow 2 52 % Nat.pow 2 11
  let fraction : Nat := bits % Nat.pow 2 52
  if biased = Nat.pow 2 11 - 1 then none
  else if biased = 0 then some ⟨negative, fraction, -1074⟩
  else some ⟨negative, Nat.pow 2 52 + fraction, Int.ofNat biased - 1075⟩

/-- The magnitude as a fraction in natural numbers. -/
def ratio (d : Dyadic) : Nat × Nat :=
  (d.mantissa * Nat.pow 2 d.exponent.toNat, Nat.pow 2 (-d.exponent).toNat)

/-- The integer next to the value on the side of zero. -/
def truncate (d : Dyadic) : Int :=
  let (numerator, denominator) := d.ratio
  let magnitude := Int.ofNat (numerator / denominator)
  if d.negative then -magnitude else magnitude

end Dyadic

/-- The quotient rounded to the nearest integer, a half going to the even neighbour. -/
def roundedQuotient (numerator denominator : Nat) : Nat :=
  let quotient := numerator / denominator
  let remainder := numerator % denominator
  if 2 * remainder > denominator then quotient + 1
  else if 2 * remainder = denominator then quotient + quotient % 2
  else quotient

/-- The double nearest to a fraction, a half going to the even neighbour; magnitudes beyond the
largest double become infinite. -/
def nearestFloat (negative : Bool) (numerator denominator : Nat) : Float :=
  let sign := if negative then Nat.pow 2 63 else 0
  if numerator = 0 then Float.ofBits (UInt64.ofNat sign)
  else
    let guess : Int := ((Nat.log2 numerator : Nat) : Int) - (Nat.log2 denominator : Nat) - 52
    let reaches :=
      numerator * Nat.pow 2 (-(guess + 52)).toNat ≥ denominator * Nat.pow 2 (guess + 52).toNat
    let exponent := max (if reaches then guess else guess - 1) (-1074)
    let mantissa :=
      roundedQuotient (numerator * Nat.pow 2 (-exponent).toNat)
        (denominator * Nat.pow 2 exponent.toNat)
    let magnitude :=
      if mantissa < Nat.pow 2 52 then mantissa
      else
        min ((exponent + 1075).toNat * Nat.pow 2 52 + (mantissa - Nat.pow 2 52)) (2047 * Nat.pow 2 52)
    Float.ofBits (UInt64.ofNat (sign + magnitude))

/-- Whether a number has no fractional part; infinities and NaN have none to speak of. -/
def isIntegral (x : Float) : Bool := x.isFinite && x.floor == x

/-- The integer part of a finite number, `0` for any other. -/
def integerPart (x : Float) : Int :=
  match Dyadic.ofFloat? x with
  | some d => d.truncate
  | none => 0

/-- Drops the fractional part, keeping the sign of zero. -/
def truncated (x : Float) : Float := if x < 0 then x.ceil else x.floor

/-- The number with the sign of zero kept and the integer nearest to an integer's value. -/
def floatOfInt (n : Int) : Float := nearestFloat (n < 0) n.natAbs 1

/-- The exact remainder of a division that rounds toward zero; it has the sign of `x`. -/
def remainder (x y : Float) : Float :=
  match Dyadic.ofFloat? x, Dyadic.ofFloat? y with
  | some a, some b =>
    let exponent := min a.exponent b.exponent
    let dividend := a.mantissa * Nat.pow 2 (a.exponent - exponent).toNat
    let divisor := b.mantissa * Nat.pow 2 (b.exponent - exponent).toNat
    let rest := dividend % divisor
    if b.mantissa = 0 then 0.0 / 0.0
    else nearestFloat a.negative (rest * Nat.pow 2 exponent.toNat) (Nat.pow 2 (-exponent).toNat)
  | some _, none => if y.isNaN then y else x
  | none, _ => 0.0 / 0.0

end LivePipeline
