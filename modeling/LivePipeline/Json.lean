import LivePipeline.Table

/-! JSON values. Objects keep the order of their fields, and whole numbers are kept apart from
numbers with a fraction or an exponent. -/

namespace LivePipeline

inductive Json where
  | null
  | bool (value : Bool)
  | int (value : Int)
  | float (value : Float)
  | text (value : String)
  | array (items : List Json)
  | object (fields : List (String × Json))

namespace Json

/-- The value of a field of an object. -/
def get? : Json → String → Option Json
  | .object fields, key => Table.get? fields key
  | _, _ => none

def has (json : Json) (key : String) : Bool := (json.get? key).isSome

mutual

/-- Equality that ignores the order of fields. -/
def beq : Json → Json → Bool
  | .null, .null => true
  | .bool x, .bool y => x == y
  | .int x, .int y => x == y
  | .float x, .float y => x == y
  | .text x, .text y => x == y
  | .array xs, .array ys => beqItems xs ys
  | .object xs, .object ys => xs.length == ys.length && beqFields xs ys
  | _, _ => false

def beqItems : List Json → List Json → Bool
  | [], [] => true
  | x :: xs, y :: ys => beq x y && beqItems xs ys
  | _, _ => false

/-- Every field of the first list has an equal value in the second. -/
def beqFields : List (String × Json) → List (String × Json) → Bool
  | [], _ => true
  | (key, x) :: rest, ys => (Table.get? ys key).any (beq x) && beqFields rest ys

end

instance : BEq Json := ⟨beq⟩

end Json

end LivePipeline
