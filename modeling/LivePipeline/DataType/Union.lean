import LivePipeline.DataType.Compatibility

/-! Unions in canonical form: nested unions are flattened, of interchangeable members only the
first stays, and a single member needs no union. -/

namespace LivePipeline.DataType

mutual

/-- The members of a type, nested unions opened; any other type is its own member. -/
def flatten : DataType → List DataType
  | union members _ => flattenAll members
  | type => [type]

def flattenAll : List DataType → List DataType
  | [] => []
  | type :: rest => flatten type ++ flattenAll rest

end

/-- Appends a member unless an interchangeable one is there. -/
def addMember (members : List DataType) (type : DataType) : List DataType :=
  if members.any (interchangeable · type) then members else members ++ [type]

/-- The flattened types without interchangeable repetitions, in order. -/
def distinctMembers (types : List DataType) : List DataType :=
  (flattenAll types).foldl addMember []

/-- The union of `types`, with the given member active. A single member is no union unless
`force` asks for one; no member at all is the type without values. -/
def unionWith (force : Bool) (active : Option Nat) (types : List DataType) : DataType :=
  match distinctMembers types with
  | [] => never
  | [single] => if force then union [single] (some (min (active.getD 0) 0)) else single
  | members => union members (some (min (active.getD 0) (members.length - 1)))

/-- The union of `types`, the first member active. -/
def unionOf (types : List DataType) : DataType := unionWith false none types

/-- The type of the elements: of arrays and dictionaries the declared one, of tuples the union. -/
def element? (type : DataType) : Option DataType :=
  match type.dereference with
  | array element => some element
  | dictionary element => some element
  | tuple elements => some (unionOf elements)
  | _ => none

def elementOr (type : DataType) (fallback : DataType) : DataType := type.element?.getD fallback

end LivePipeline.DataType
