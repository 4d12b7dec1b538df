import LivePipeline.Text.Hexadecimal

/-! Sets of characters as stretches of codes. The operations give back stretches in order, with a
gap between each two. -/

namespace LivePipeline

/-- The codes from `first` to `last`. -/
structure Stretch where
  first : Nat
  last : Nat
  deriving BEq, DecidableEq

def Stretch.covers (stretch : Stretch) (code : Nat) : Bool :=
  stretch.first ≤ code && code ≤ stretch.last

/-- The stretches of a table, each with the numbers that belong to it. A row holds the distance from
the end of the stretch in front, the number of codes behind the first one, and the numbers. A row of
one number is a single code. -/
def stretchRows (text : String) : List (Stretch × List Nat) :=
  let read (done : List (Stretch × List Nat) × Nat) (row : List Nat) :
      List (Stretch × List Nat) × Nat :=
    let first := done.2 + row.headD 0
    let last := first + (row.drop 1).headD 0
    ((⟨first, last⟩, row.drop 2) :: done.1, last)
  ((Text.tableRows text).foldl read ([], 0)).1.reverse

structure CharSet where
  stretches : List Stretch

namespace CharSet

/-- The last code there is. -/
def maxCode : Nat := 0x10FFFF

def covers (set : CharSet) (code : Nat) : Bool := set.stretches.any (·.covers code)

def contains (set : CharSet) (c : Char) : Bool := set.covers c.toNat

def none : CharSet := ⟨[]⟩

def any : CharSet := ⟨[⟨0, maxCode⟩]⟩

def range (first last : Nat) : CharSet := ⟨[⟨first, last⟩]⟩

def single (c : Char) : CharSet := range c.toNat c.toNat

/-- Joins stretches that touch or overlap; they come in the order of their first codes. -/
def joinTouching (current : Stretch) : List Stretch → List Stretch
  | [] => [current]
  | next :: rest =>
    if next.first ≤ current.last + 1 then
      joinTouching ⟨current.first, max current.last next.last⟩ rest
    else current :: joinTouching next rest

/-- The set that stretches in any order cover. -/
def ofStretches (stretches : List Stretch) : CharSet :=
  match stretches.mergeSort (fun a b => decide (a.first ≤ b.first)) with
  | [] => none
  | first :: rest => ⟨joinTouching first rest⟩

def ofCodes (codes : List Nat) : CharSet := ofStretches (codes.map fun code => ⟨code, code⟩)

def ofText (text : String) : CharSet := ofCodes (text.toList.map Char.toNat)

def union (left right : CharSet) : CharSet := ofStretches (left.stretches ++ right.stretches)

def unionAll (sets : List CharSet) : CharSet := ofStretches (sets.flatMap (·.stretches))

/-- The codes from `next` on that no stretch covers. -/
def gaps (next : Nat) : List Stretch → List Stretch
  | [] => if next ≤ maxCode then [⟨next, maxCode⟩] else []
  | stretch :: rest =>
    (if next < stretch.first then [⟨next, stretch.first - 1⟩] else []) ++ gaps (stretch.last + 1) rest

def complement (set : CharSet) : CharSet := ⟨gaps 0 set.stretches⟩

def intersection (left right : CharSet) : CharSet :=
  (left.complement.union right.complement).complement

def difference (left right : CharSet) : CharSet := left.intersection right.complement

def symmetricDifference (left right : CharSet) : CharSet :=
  (left.difference right).union (right.difference left)

/-- Whether the set has ASCII characters only. -/
def isAscii (set : CharSet) : Bool := set.stretches.all (·.last < 128)

/-- The set of the stretches of a table. -/
def ofTable (text : String) : CharSet := ⟨(stretchRows text).map (·.1)⟩

end CharSet

/-- A set of characters with its names, in the form of a table. -/
structure NamedSet where
  names : List String
  table : String

def NamedSet.set (named : NamedSet) : CharSet := .ofTable named.table

/-- The set with a name. -/
def namedSet? (sets : List NamedSet) (name : String) : Option CharSet :=
  (sets.find? (·.names.contains name)).map (·.set)

end LivePipeline
