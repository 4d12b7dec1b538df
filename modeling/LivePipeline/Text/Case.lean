import LivePipeline.Text.CaseTable
import LivePipeline.Unicode.Binary

/-! Upper and lower case of whole texts. One character may become several, and the lower case of a
sigma depends on whether a word ends with it. -/

namespace LivePipeline.Text

/-- Characters that have a case. -/
def cased : CharSet := (namedSet? Unicode.binaryProperties "cased").getD .none

/-- Characters that are passed over when looking for a neighbour with a case. -/
def caseIgnorable : CharSet := (namedSet? Unicode.binaryProperties "caseignorable").getD .none

/-- The partners of a character by an expansion, else by a run, else the character itself. -/
def mapCase (expansions : List (Nat × List Nat)) (runs : List CaseRun) (c : Char) : List Char :=
  match expansions.find? fun (code, _) => code == c.toNat with
  | some (_, codes) => codes.map Char.ofNat
  | none =>
    match runs.find? (·.covers c.toNat) with
    | some run => [Char.ofNat (Int.ofNat c.toNat + run.shift).toNat]
    | none => [c]

def upperChar (c : Char) : List Char :=
  if c.toNat < 128 then [c.toUpper] else mapCase upperExpansions upperRuns c

def lowerChar (c : Char) : List Char :=
  if c.toNat < 128 then [c.toLower] else mapCase lowerExpansions lowerRuns c

def toUpper (text : String) : String := String.ofList (text.toList.flatMap upperChar)

/-- Whether the next character that is not passed over has a case. -/
def nextIsCased (text : List Char) : Bool :=
  (text.dropWhile caseIgnorable.contains).head?.any cased.contains

/-- Lower case from left to right; `before` holds what has been read, in reverse. A sigma behind a
letter and not in front of one takes its final form. -/
def lowerFrom (before : List Char) : List Char → List Char
  | [] => []
  | c :: rest =>
    let lowered :=
      if c == 'Σ' then [if nextIsCased before && !nextIsCased rest then 'ς' else 'σ'] else lowerChar c
    lowered ++ lowerFrom (c :: before) rest

def toLower (text : String) : String := String.ofList (lowerFrom [] text.toList)

end LivePipeline.Text
