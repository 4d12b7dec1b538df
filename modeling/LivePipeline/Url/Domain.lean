import LivePipeline.Unicode.Direction
import LivePipeline.Unicode.Joining
import LivePipeline.Unicode.Normalization
import LivePipeline.Url.DomainTable
import LivePipeline.Url.Punycode

/-! Names of servers. A name is mapped character by character, brought into its normal form and
divided into labels at the points; labels with characters beyond ASCII are written in ASCII. -/

namespace LivePipeline.Url

/-- Splits at every occurrence of a character. -/
def splitChar (mark : Char) (text : List Char) : List (List Char) :=
  text.foldr (fun c parts =>
    if c == mark then [] :: parts
    else match parts with
      | part :: rest => (c :: part) :: rest
      | [] => [[c]]) [[]]

def joinChar (mark : Char) : List (List Char) → List Char
  | [] => []
  | [part] => part
  | part :: rest => part ++ mark :: joinChar mark rest

namespace Domain

def isAscii (text : List Char) : Bool := text.all (·.toNat < 128)

/-- ASCII characters that no name has. -/
def isForbidden (c : Char) : Bool :=
  c.toNat ≤ 32 || c.toNat == 127
    || ['#', '/', ':', '<', '>', '?', '@', '[', '\\', ']', '^', '|', '%'].contains c

/-- What a character of a name becomes. -/
def mapChar? (c : Char) : Option (List Char) :=
  if allowed.contains c then some [c]
  else if ignored.contains c then some []
  else (replacement? c.toNat).map (·.map Char.ofNat)

/-- A name in its normal form. -/
def map? (name : List Char) : Option (List Char) :=
  (name.mapM mapChar?).map fun parts => Unicode.normalize parts.flatten

/-! ## Labels -/

/-- What labels start with that are written in ASCII though they have other characters. -/
def asciiMark : List Char := ['x', 'n', '-', '-']

/-- Labels of more characters are not read, or not written. -/
def longestRead : Nat := 2000
def longestWritten : Nat := 1000

/-- The characters of a label. A label that is written in ASCII must stand for one in normal form. -/
def label? (text : List Char) : Option (List Char) :=
  if text.take 4 == asciiMark then
    let digits := text.drop 4
    if !isAscii digits || digits.isEmpty || digits.getLast? == some '-'
        || digits.length > longestRead then none
    else
      match Punycode.decode? digits with
      | some label =>
        if label.all allowed.contains && Unicode.normalize label == label then some label else none
      | none => none
  else some text

def nonJoiner : Char := '\u200C'
def joiner : Char := '\u200D'

/-- The class of the marks that take away a vowel. -/
def vowelKiller : Nat := 9

/-- Whether the first character that takes part in joining is in a set. -/
def meets (set : CharSet) (text : List Char) : Bool :=
  match text.dropWhile Unicode.joinedThrough.contains with
  | c :: _ => set.contains c
  | [] => false

/-- The two invisible marks for joining stand where they change the shape of a letter. What is in
front comes in reverse. -/
def joinersFit (front : List Char) : List Char → Bool
  | [] => true
  | c :: rest =>
    (if c == nonJoiner || c == joiner then
      front.head?.any (Unicode.combiningClass ·.toNat == vowelKiller)
        || (c == nonJoiner && meets Unicode.joinsNext front && meets Unicode.joinsPrevious rest)
    else true) && joinersFit (c :: front) rest

def isLabel (label : List Char) : Bool :=
  !label.any isForbidden && !label.head?.any marks.contains && joinersFit [] label
    && (isAscii label || label.length ≤ longestWritten)

/-! ## Direction -/

/-- A name with a label from right to left, or with digits for such labels. -/
def runsBackward (labels : List (List Char)) : Bool :=
  labels.any fun label => label.any fun c =>
    Unicode.direction c == .right || Unicode.direction c == .arabicNumber

/-- The directions of a label without the marks at its end. -/
def directions (label : List Char) : List Unicode.Direction :=
  ((label.map Unicode.direction).reverse.dropWhile (· == .mark)).reverse

/-- In a name that has labels from right to left, each label has one direction from its first
character to its last, and only one kind of digits. -/
def keepsDirection (label : List Char) : Bool :=
  let found := directions label
  match (label.map Unicode.direction).head? with
  | none => true
  | some .left =>
    found.all (fun d => d == .left || d == .europeanNumber || d == .neutral || d == .mark)
      && found.getLast?.any (fun d => d == .left || d == .europeanNumber)
  | some .right =>
    found.all (fun d => d != .left && d != .other)
      && found.getLast?.any (fun d => d == .right || d == .europeanNumber || d == .arabicNumber)
      && !(found.contains .europeanNumber && found.contains .arabicNumber)
  | some _ => false

/-! ## Names -/

/-- A label in ASCII. -/
def asciiLabel (label : List Char) : List Char :=
  if isAscii label then label else asciiMark ++ Punycode.encode label

/-- A name in ASCII, or nothing if it cannot be the name of a server. -/
def toAscii? (name : List Char) : Option (List Char) := do
  let mapped ← map? name
  let labels ← (splitChar '.' mapped).mapM label?
  if labels.all isLabel && (!runsBackward labels || labels.all keepsDirection) then
    some (joinChar '.' (labels.map asciiLabel))
  else none

end Domain

end LivePipeline.Url
