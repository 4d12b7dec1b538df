import LivePipeline.Pattern

/-! The size of the machines that run a pattern. A machine reads bytes, one state after the other;
every repetition is written out, so short patterns may need large machines. One machine reads the
text forwards and one backwards. -/

namespace LivePipeline.Pattern

/-! ## Characters as bytes -/

/-- Cuts a stretch of codes so that the bytes of its characters range independently of each other.
A level is one less than the number of characters that share their leading bytes. -/
def cutAtLevels (first last : Nat) : List Nat → List Stretch
  | [] => [⟨first, last⟩]
  | level :: levels =>
    let size := level + 1
    if first / size = last / size then [⟨first, last⟩]
    else
      let cutFront := first % size != 0
      let cutBack := last % size != level
      let front := if cutFront then [⟨first, first / size * size + level⟩] else []
      let back := if cutBack then [⟨last / size * size, last⟩] else []
      let first := if cutFront then (first / size + 1) * size else first
      let last := if cutBack then last / size * size - 1 else last
      front ++ (if first ≤ last then cutAtLevels first last levels else []) ++ back

/-- The stretches of codes that take one, two, three and four bytes each; the codes in the middle of
the third one are no characters. -/
def byteLengths : List Stretch := [⟨0, 0x7F⟩, ⟨0x80, 0x7FF⟩, ⟨0x800, 0xD7FF⟩, ⟨0xE000, 0xFFFF⟩, ⟨0x10000, 0x10FFFF⟩]

def bytesOf (code : Nat) : List Nat := (String.utf8EncodeChar (Char.ofNat code)).map (·.toNat)

/-- The ranges of bytes that make up the characters of a set. -/
def byteSequences (set : CharSet) : List (List Stretch) :=
  set.stretches.flatMap fun stretch =>
    byteLengths.flatMap fun length =>
      let first := max stretch.first length.first
      let last := min stretch.last length.last
      if last < first then []
      else if last < 128 then [[⟨first, last⟩]]
      else
        (cutAtLevels first last [0x3F, 0xFFF, 0x3FFFF]).map fun piece =>
          (bytesOf piece.first).zipWith (fun low high => ⟨low, high⟩) (bytesOf piece.last)

/-! ## States -/

/-- The bytes of a state, of one of its transitions, and of one of its alternatives. -/
def stateSize : Nat := 32
def transitionSize : Nat := 8
def alternativeSize : Nat := 4

/-- Neighbouring sequences with the same first range, put together: the ranges, and what follows. -/
def branchesOf (sequences : List (List Stretch)) : List (Stretch × List (List Stretch)) :=
  sequences.foldr (fun sequence branches =>
    match sequence, branches with
    | [], _ => branches
    | range :: rest, (other, tails) :: others =>
      if range == other then (other, rest :: tails) :: others else (range, [rest]) :: branches
    | range :: rest, [] => [(range, [rest])]) []

/-- What may follow the first bytes of the sequences, for every choice of at most `depth` bytes. -/
def continuations : Nat → List (List Stretch) → List (List (List Stretch))
  | 0, sequences => [sequences]
  | depth + 1, sequences =>
    sequences :: (branchesOf sequences).flatMap fun branch => continuations depth branch.2

/-- Forwards, states with the same continuations are one state. -/
def forwardSetSize (set : CharSet) : Nat :=
  let states := ((continuations 3 (byteSequences set)).filter (· != [[]])).eraseDups
  states.foldl (fun size state => size + stateSize + transitionSize * (branchesOf state).length) stateSize

/-- Backwards, each choice of leading bytes has its own state, and each sequence is an alternative. -/
def backwardSetSize (set : CharSet) : Nat :=
  let sequences := byteSequences set
  let states := (continuations 3 sequences).foldl (fun count state => count + (branchesOf state).length) 0
  stateSize * (states + 2) + alternativeSize * sequences.length

def setSize (backwards : Bool) (set : CharSet) : Nat :=
  match set.stretches with
  | [] => stateSize
  | [⟨first, last⟩] =>
    if first = last then stateSize * (bytesOf first).length
    else if set.isAscii then 2 * stateSize + transitionSize
    else if backwards then backwardSetSize set else forwardSetSize set
  | stretches =>
    if set.isAscii then 2 * stateSize + transitionSize * stretches.length
    else if backwards then backwardSetSize set else forwardSetSize set

/-- Whether the pattern takes no characters at all. -/
def isWidthless : Pattern → Bool
  | empty | anchor _ => true
  | one _ => false
  | captured pattern => pattern.isWidthless
  | sequence first second => first.isWidthless && second.isWidthless
  | either left right => left.isWidthless && right.isWidthless
  | repeated pattern _ most => pattern.isWidthless || most == some 0

/-- Whether every match takes a character. -/
def isWide : Pattern → Bool
  | empty | anchor _ => false
  | one set => !set.stretches.isEmpty
  | captured pattern => pattern.isWide
  | sequence first second => first.isWide || second.isWide
  | either left right => left.isWide && right.isWide
  | repeated pattern least _ => least != 0 && pattern.isWide

/-- The set of a pattern that takes exactly one character. -/
def oneOf? : Pattern → Option CharSet
  | one set => some set
  | either left right => do return (← left.oneOf?).union (← right.oneOf?)
  | _ => none

/-- The size of a choice and the number of its alternatives, without the states that join them. -/
def joined (size : Nat × Nat) : Nat :=
  if size.2 ≤ 1 then size.1 else size.1 + 2 * stateSize + alternativeSize * size.2

/-- The size of a machine without the states around it, and the number of alternatives that are not
joined yet. -/
def machineParts (backwards : Bool) : Pattern → Nat × Nat
  | empty => (stateSize, 1)
  | one set => (setSize backwards set, 1)
  | anchor _ => (stateSize, 1)
  | captured pattern =>
    (joined (machineParts backwards pattern) + (if backwards then 0 else 2 * stateSize), 1)
  | sequence first second =>
    let size (pattern : Pattern) (parts : Nat × Nat) : Nat :=
      match pattern with
      | empty => 0
      | _ => joined parts
    (size first (machineParts backwards first) + size second (machineParts backwards second), 1)
  | either left right =>
    let apart (pattern : Pattern) (parts : Nat × Nat) : Nat × Nat :=
      match pattern with
      | either _ _ => parts
      | _ => (joined parts, 1)
    match (either left right).oneOf? with
    | some set => (setSize backwards set, 1)
    | none =>
      let left := apart left (machineParts backwards left)
      let right := apart right (machineParts backwards right)
      (left.1 + right.1, left.2 + right.2)
  | repeated pattern least most =>
    let one := joined (machineParts backwards pattern)
    let choice := stateSize + 2 * alternativeSize
    let least := if pattern.isWidthless then min least 1 else least
    let most := if pattern.isWidthless then some (min (most.getD 1) 1) else most
    match most with
    | some most =>
      if most = 0 then (stateSize, 1)
      else if least = most then (one * least, 1)
      else
        let front := if least = 0 && most > 1 then stateSize else 0
        (front + one * most + (most - least) * choice + stateSize, 1)
    | none =>
      if least ≥ 1 then (one * least + choice, 1)
      else if pattern.isWide then (one + choice, 1)
      else (one + 2 * choice + stateSize, 1)

/-- The size of a machine that looks for the pattern anywhere in a text. -/
def machineSize (backwards : Bool) (pattern : Pattern) : Nat :=
  let search := 3 * stateSize + transitionSize + 2 * alternativeSize
  joined (pattern.machineParts backwards) + search + (if backwards then 1 else 3) * stateSize

/-- Larger machines are not built. -/
def machineLimit : Nat := 10485760

def isTooLarge (pattern : Pattern) : Bool :=
  pattern.machineSize false > machineLimit || pattern.machineSize true > machineLimit

end LivePipeline.Pattern
