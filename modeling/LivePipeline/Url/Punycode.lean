/-! Labels of names written in ASCII: the ASCII characters come first, and numbers in the digits `a`
to `z` and `0` to `9` say where the others are inserted. -/

namespace LivePipeline.Url.Punycode

/-! ## Numbers of variable length -/

/-- Divides a delta until it is small; every division counts one digit more. -/
def settle (delta steps : Nat) : Nat :=
  if delta > 455 then settle (delta / 35) (steps + 36)
  else steps + 36 * delta / (delta + 38)
termination_by delta

/-- Adaptation of the bias between two insertions. -/
def adapt (delta points : Nat) (first : Bool) : Nat :=
  let start := if first then delta / 700 else delta / 2
  settle (start + start / points) 0

def letterOf (digit : Nat) : Char :=
  if digit < 26 then Char.ofNat ('a'.toNat + digit) else Char.ofNat ('0'.toNat + digit - 26)

def digitOf? (letter : Char) : Option Nat :=
  if 'a' ≤ letter ∧ letter ≤ 'z' then some (letter.toNat - 'a'.toNat)
  else if letter.isDigit then some (letter.toNat - '0'.toNat + 26)
  else none

/-- A digit at `place` that is below this one closes the number. -/
def closingBound (place bias : Nat) : Nat := max 1 (min 26 (place - bias))

def variableLength (value place bias : Nat) : List Char :=
  let least := closingBound place bias
  if value < least then [letterOf value]
  else
    letterOf (least + (value - least) % (36 - least))
      :: variableLength ((value - least) / (36 - least)) (place + 36) bias
termination_by value
decreasing_by
  have positive : 1 ≤ closingBound place bias := Nat.le_max_left _ _
  exact Nat.lt_of_le_of_lt (Nat.div_le_self _ _) (by omega)

/-! ## Writing -/

structure Insertion where
  code : Nat
  delta : Nat
  bias : Nat
  handled : Nat
  first : Bool
  written : List Char

/-- Writes the insertions of all characters with the code `code`. -/
def insertCode (code : Nat) (label : List Char) (state : Insertion) : Insertion :=
  let raised := { state with
    delta := state.delta + (code - state.code) * (state.handled + 1), code := code }
  let after := label.foldl (fun s c =>
    if c.toNat < code then { s with delta := s.delta + 1 }
    else if c.toNat = code then
      { s with
        written := s.written ++ variableLength s.delta 36 s.bias
        bias := adapt s.delta (s.handled + 1) s.first
        delta := 0
        handled := s.handled + 1
        first := false }
    else s) raised
  { after with delta := after.delta + 1, code := code + 1 }

def distinctCodes (label : List Char) : List Nat :=
  ((label.map Char.toNat).filter (· ≥ 128)).mergeSort.eraseDups

/-- A label in ASCII. -/
def encode (label : List Char) : List Char :=
  let basic := label.filter (·.toNat < 128)
  let start : Insertion :=
    { code := 128, delta := 0, bias := 72, handled := basic.length, first := true
      written := if basic.isEmpty then [] else basic ++ ['-'] }
  ((distinctCodes label).foldl (fun s code => insertCode code label s) start).written

/-! ## Reading -/

/-- Numbers from here on are refused. -/
def limit : Nat := 0x100000000

/-- A label that has been read in part. The number that is being read grows from `start`, the place
behind the last insertion, to `value`; its next digit counts `weight` times. -/
structure Reading where
  text : List Char
  code : Nat := 128
  bias : Nat := 72
  start : Nat := 0
  value : Nat := 0
  weight : Nat := 1
  place : Nat := 36
  isOpen : Bool := false

/-- Inserts the character that a number stands for. -/
def Reading.insert? (reading : Reading) : Option Reading :=
  let points := reading.text.length + 1
  let code := reading.code + reading.value / points
  let index := reading.value % points
  if code.isValidChar then
    some {
      text := reading.text.take index ++ Char.ofNat code :: reading.text.drop index
      code := code
      bias := adapt (reading.value - reading.start) points (reading.start == 0)
      start := index + 1
      value := index + 1 }
  else none

/-- Reads one digit. -/
def Reading.step? (reading : Reading) (letter : Char) : Option Reading := do
  let digit ← digitOf? letter
  let value := reading.value + digit * reading.weight
  let bound := closingBound reading.place reading.bias
  if value ≥ limit then none
  else if digit < bound then Reading.insert? { reading with value := value }
  else
    let weight := reading.weight * (36 - bound)
    if weight ≥ limit then none
    else some { reading with
      value := value, weight := weight, place := reading.place + 36, isOpen := true }

/-- The text in front of the last hyphen, if anything is there, and the digits. -/
def splitDigits (label : List Char) : List Char × List Char :=
  let digits := (label.reverse.takeWhile (· != '-')).reverse
  let front := label.take (label.length - digits.length - 1)
  if front.isEmpty then ([], label) else (front, digits)

/-- The label that is written in ASCII. -/
def decode? (label : List Char) : Option (List Char) := do
  let (front, digits) := splitDigits label
  let reading ← digits.foldlM Reading.step? { text := front }
  if reading.isOpen then none else some reading.text

end LivePipeline.Url.Punycode
