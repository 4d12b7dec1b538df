/-! Occurrences of one text in another, leftmost first and without overlaps. -/

namespace LivePipeline.Text

/-- The parts before and after the first occurrence of `part`. -/
def cut? (part : List Char) : List Char → Option (List Char × List Char)
  | [] => if part.isEmpty then some ([], []) else none
  | c :: rest =>
    if part.isPrefixOf (c :: rest) then some ([], (c :: rest).drop part.length)
    else (cut? part rest).map fun (before, after) => (c :: before, after)

/-- The pieces between the occurrences of a separator. `skip` counts the characters of an
occurrence that are still to be passed over, `piece` holds the current piece in reverse. -/
def piecesFrom (separator : List Char) : List Char → Nat → List Char → List (List Char)
  | [], _, piece => [piece.reverse]
  | _ :: rest, skip + 1, piece => piecesFrom separator rest skip piece
  | c :: rest, 0, piece =>
    if separator.isPrefixOf (c :: rest) then
      piece.reverse :: piecesFrom separator rest (separator.length - 1) []
    else piecesFrom separator rest 0 (c :: piece)

/-- The pieces of a text between the occurrences of a separator that is not empty; an empty
separator stands between any two characters. -/
def split (text separator : String) : List String :=
  if separator.isEmpty then text.toList.map fun c => String.ofList [c]
  else (piecesFrom separator.toList text.toList 0 []).map String.ofList

def contains (text part : String) : Bool := (cut? part.toList text.toList).isSome

/-- How many characters stand before the first occurrence. -/
def indexOf? (text part : String) : Option Nat :=
  (cut? part.toList text.toList).map fun (before, _) => before.length

def startsWith (text part : String) : Bool := part.toList.isPrefixOf text.toList

def endsWith (text part : String) : Bool := part.toList.isSuffixOf text.toList

/-- Replaces the first occurrence. -/
def replaceFirst (text old new : String) : String :=
  match cut? old.toList text.toList with
  | some (before, after) => String.ofList before ++ new ++ String.ofList after
  | none => text

/-- Replaces every occurrence of a text that is not empty. -/
def replaceAll (text old new : String) : String :=
  if old.isEmpty then text else new.intercalate (split text old)

/-- The text `count` times in a row. -/
def replicate (text : String) (count : Nat) : String :=
  if text.isEmpty then "" else Nat.repeat (· ++ text) count ""

end LivePipeline.Text
