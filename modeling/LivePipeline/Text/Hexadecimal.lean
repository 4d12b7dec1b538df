/-! Numbers in hexadecimal digits, and tables that are written with them. -/

namespace LivePipeline.Text

def hexValue? (c : Char) : Option Nat :=
  if c.isDigit then some (c.toNat - '0'.toNat)
  else if 'a' ≤ c ∧ c ≤ 'f' then some (c.toNat - 'a'.toNat + 10)
  else if 'A' ≤ c ∧ c ≤ 'F' then some (c.toNat - 'A'.toNat + 10)
  else none

/-- A table that has been read in part. The rows and the numbers of the last row are in reverse. -/
structure TableReading where
  rows : List (List Nat) := []
  row : List Nat := []
  number : Option Nat := none

def TableReading.endNumber (reading : TableReading) : TableReading :=
  match reading.number with
  | some number => { reading with row := number :: reading.row, number := none }
  | none => reading

def TableReading.endRow (reading : TableReading) : TableReading :=
  match reading.endNumber.row with
  | [] => { rows := reading.rows }
  | row => { rows := row.reverse :: reading.rows }

def TableReading.step (reading : TableReading) (c : Char) : TableReading :=
  match hexValue? c with
  | some digit => { reading with number := some (reading.number.getD 0 * 16 + digit) }
  | none => if c == '.' then reading.endNumber else reading.endRow

/-- The rows of a table. Blanks divide the rows, and points divide the numbers of a row. -/
def tableRows (text : String) : List (List Nat) :=
  (text.toList.foldl TableReading.step {}).endRow.rows.reverse

end LivePipeline.Text
