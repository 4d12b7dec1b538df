import LivePipeline.Number.Dyadic

/-! Reading decimal numbers: an optional sign, digits with at most one point among or around
them, and an optional power of ten, rounded to the nearest double. -/

namespace LivePipeline.Number

def digitsValue (digits : List Char) : Nat :=
  digits.foldl (fun value c => value * 10 + (c.toNat - '0'.toNat)) 0

/-- The double nearest to `digits · 10 ^ exponent`. Values far outside the range of doubles are
decided by the place of their first digit. -/
def ofDecimal (negative : Bool) (digits : List Char) (exponent : Int) : Float :=
  let significant := digits.dropWhile (· == '0')
  let place : Int := (significant.length : Nat) + exponent
  if significant.isEmpty ∨ place < -400 then nearestFloat negative 0 1
  else if place > 400 then nearestFloat negative (Nat.pow 10 400) 1
  else
    nearestFloat negative (digitsValue significant * Nat.pow 10 exponent.toNat)
      (Nat.pow 10 (-exponent).toNat)

/-- Splits an optional sign off; `true` stands for a minus. -/
def splitSign : List Char → Bool × List Char
  | '-' :: rest => (true, rest)
  | '+' :: rest => (false, rest)
  | text => (false, text)

/-- The power of ten at the end of a number: nothing, or a mark, an optional sign and digits. -/
def exponent? : List Char → Option Int
  | [] => some 0
  | mark :: rest =>
    let (negative, digits) := splitSign rest
    if (mark == 'e' || mark == 'E') && !digits.isEmpty && digits.all Char.isDigit then
      let value : Int := digitsValue digits
      some (if negative then -value else value)
    else none

/-- Reads an unsigned decimal: digits, a point and digits (one side may be empty), an exponent. -/
def unsigned? (negative : Bool) (text : List Char) : Option Float :=
  let whole := text.takeWhile Char.isDigit
  let afterWhole := text.dropWhile Char.isDigit
  let (fraction, rest) :=
    match afterWhole with
    | '.' :: tail => (tail.takeWhile Char.isDigit, tail.dropWhile Char.isDigit)
    | _ => ([], afterWhole)
  if whole.isEmpty && fraction.isEmpty then none
  else (exponent? rest).map fun power =>
    ofDecimal negative (whole ++ fraction) (power - (fraction.length : Nat))

/-- Reads a number as people write it, the words for infinity and NaN in any case included. -/
def read? (text : String) : Option Float :=
  let (negative, rest) := splitSign text.toList
  let word := String.ofList (rest.map Char.toLower)
  if word = "inf" || word = "infinity" then some (if negative then -1.0 / 0.0 else 1.0 / 0.0)
  else if word = "nan" then some (0.0 / 0.0)
  else unsigned? negative rest

end LivePipeline.Number
