import LivePipeline.Unicode.Combination

/-! The normal form of texts in which characters and marks are composed. A text is first taken apart,
then its marks are put in order, and then each mark is joined with the character in front of it as far
as there is one character for both. -/

namespace LivePipeline.Unicode

/-! ## Syllables of Hangul

They are composed by arithmetic: a leading consonant, a vowel, and a consonant at the end that may be
missing. -/

def firstSyllable : Nat := 0xAC00
def firstLeading : Nat := 0x1100
def firstVowel : Nat := 0x1161

/-- The place in front of the first consonant at the end. -/
def beforeTrailing : Nat := 0x11A7

def isSyllable (code : Nat) : Bool := firstSyllable ≤ code && code < firstSyllable + 19 * 21 * 28

def syllableParts (code : Nat) : List Nat :=
  let index := code - firstSyllable
  let parts := [firstLeading + index / 588, firstVowel + index / 28 % 21]
  if index % 28 = 0 then parts else parts ++ [beforeTrailing + index % 28]

def syllable? (first second : Nat) : Option Nat :=
  if firstLeading ≤ first && first < firstLeading + 19
      && firstVowel ≤ second && second < firstVowel + 21 then
    some (firstSyllable + ((first - firstLeading) * 21 + (second - firstVowel)) * 28)
  else if isSyllable first && (first - firstSyllable) % 28 == 0
      && beforeTrailing < second && second < beforeTrailing + 28 then
    some (first + (second - beforeTrailing))
  else none

/-! ## The three steps -/

/-- Takes a character apart in at most `depth` steps. -/
def takeApart : (depth : Nat) → (code : Nat) → List Nat
  | 0, code => [code]
  | depth + 1, code =>
    if isSyllable code then syllableParts code
    else match expansion? code with
      | some (first :: rest) => takeApart depth first ++ rest
      | _ => [code]

/-- No character has parts of parts more than four times over. -/
def decompose (codes : List Nat) : List Nat := codes.flatMap (takeApart 4)

/-- Puts a character in front of a text, behind the marks there that have a lower class. -/
def insertMark (code : Nat) : List Nat → List Nat
  | [] => [code]
  | next :: rest =>
    if 0 < combiningClass next && combiningClass next < combiningClass code then
      next :: insertMark code rest
    else code :: next :: rest

/-- Orders the marks on each character by their classes; marks of one class stay in order. -/
def orderMarks (codes : List Nat) : List Nat := codes.foldr insertMark []

def compose? (first second : Nat) : Option Nat :=
  match syllable? first second with
  | some code => some code
  | none => pair? first second

/-- Joins what follows with the character `base`. The marks on it that found no partner are
`waiting`, the last one in front; a mark is joined across them only if all have a lower class. -/
def composeOnto (base : Nat) (waiting : List Nat) : List Nat → List Nat
  | [] => base :: waiting.reverse
  | next :: rest =>
    let reaches := match waiting with
      | [] => true
      | last :: _ => combiningClass last < combiningClass next
    match if reaches then compose? base next else none with
    | some joined => composeOnto joined waiting rest
    | none =>
      if combiningClass next = 0 then base :: waiting.reverse ++ composeOnto next [] rest
      else composeOnto base (next :: waiting) rest

/-- Joins marks with the characters in front of them. Marks at the start stay as they are. -/
def compose : List Nat → List Nat
  | [] => []
  | code :: rest =>
    if combiningClass code = 0 then composeOnto code [] rest else code :: compose rest

/-- The composed normal form. -/
def normalize (text : List Char) : List Char :=
  (compose (orderMarks (decompose (text.map Char.toNat)))).map Char.ofNat

end LivePipeline.Unicode
