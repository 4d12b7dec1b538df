import LivePipeline.Number.Shortest

/-! The three ways numbers are written: as text for a reader, inside JSON text, and with a fixed
number of places. -/

namespace LivePipeline.Number

def zeros (count : Nat) : String := String.ofList (List.replicate count '0')

def signed (negative : Bool) (text : String) : String := if negative then "-" ++ text else text

/-- Digits with the decimal point at `place`, and no exponent. -/
def positional (digits : String) (place : Int) : String :=
  let count : Int := (digits.length : Nat)
  if place ≤ 0 then "0." ++ zeros (-place).toNat ++ digits
  else if place ≥ count then digits ++ zeros (place - count).toNat
  else
    String.ofList (digits.toList.take place.toNat) ++ "." ++ String.ofList (digits.toList.drop place.toNat)

/-- Integral numbers below `10^21` have no fraction, all others the fewest digits that read back;
an exponent is never used. -/
def display (x : Float) : String :=
  match Dyadic.ofFloat? x with
  | none => if x.isNaN then "NaN" else if x > 0 then "Infinity" else "-Infinity"
  | some d =>
    if isIntegral x && x.abs < 1e21 then toString d.truncate
    else
      let decimal := Decimal.shortest d
      let digits := toString decimal.digits
      signed d.negative (positional digits ((digits.length : Nat) + decimal.exponent))

/-- The fewest digits that read back: positional while the point stands at most four zeros before
or sixteen digits behind the first digit, with `.0` kept, and with an exponent elsewhere. -/
def jsonText (x : Float) : String :=
  match Dyadic.ofFloat? x with
  | none => "null"
  | some d =>
    let decimal := Decimal.shortest d
    let digits := toString decimal.digits
    let place : Int := (digits.length : Nat) + decimal.exponent
    signed d.negative <|
      if d.mantissa = 0 then "0.0"
      else if 0 ≤ decimal.exponent ∧ place ≤ 16 then positional digits place ++ ".0"
      else if -5 < place ∧ place ≤ 16 then positional digits place
      else
        let fraction := String.ofList (digits.toList.drop 1)
        String.ofList (digits.toList.take 1) ++ (if fraction.isEmpty then "" else "." ++ fraction)
          ++ "e" ++ toString (place - 1)

/-- The exact value rounded to `places` places, a half going to the even neighbour. The sign of a
negative number stays even when only zeros are left. -/
def fixed (x : Float) (places : Nat) : String :=
  match Dyadic.ofFloat? x with
  | none => if x.isNaN then "NaN" else if x > 0 then "inf" else "-inf"
  | some d =>
    let (numerator, denominator) := d.ratio
    let digits := toString (roundedQuotient (numerator * Nat.pow 10 places) denominator)
    let padded := zeros (places + 1 - digits.length) ++ digits
    let whole := padded.length - places
    signed d.negative <|
      String.ofList (padded.toList.take whole)
        ++ (if places = 0 then "" else "." ++ String.ofList (padded.toList.drop whole))

end LivePipeline.Number
