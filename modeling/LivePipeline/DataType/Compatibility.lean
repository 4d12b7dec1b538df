import LivePipeline.DataType

/-! Structural compatibility. References are seen through, the unknown type fits everything, and a
union fits whatever one of its members fits; two unions must cover each other. -/

namespace LivePipeline.DataType

mutual

/-- Whether a type has a shape, be it behind references or as a member of a union. The unknown type
has every shape. -/
def offers (shape : DataType → Bool) : DataType → Bool
  | unknown => true
  | reference target => offers shape target
  | union members _ => offersAny shape members
  | type => shape type

def offersAny (shape : DataType → Bool) : List DataType → Bool
  | [] => false
  | member :: rest => offers shape member || offersAny shape rest

end

mutual

/-- Whether a value of the first type can stand where the second is asked for. -/
def compatible : DataType → DataType → Bool
  | unknown, _ => true
  | reference target, b => compatible target b
  | union members _, b =>
    match b.dereference with
    | unknown => true
    | union others _ =>
      members.length == others.length && eachFits members others
        && others.all fun other => someFits members other
    | other => someFits members other
  | operation parameters result, b => b.offers fun
    | operation otherParameters otherResult =>
      compatible result otherResult && parametersFit parameters otherParameters
    | _ => false
  | array element, b => b.offers fun
    | array other => compatible element other
    | _ => false
  | dictionary element, b => b.offers fun
    | dictionary other => compatible element other
    | _ => false
  | tuple elements, b => b.offers fun
    | tuple others => eachFits elements others
    | _ => false
  | object properties required, b => b.offers fun
    | object others othersRequired =>
      othersRequired.all (fun key => (Table.get? others key).any (propertyFits properties key))
        && required.all (Table.has others)
    | _ => false
  | instanceOf className _, b => b.offers fun
    | instanceOf other _ => className == other
    | _ => false
  | never, b => b.offers fun other => other.kind == .never
  | undefined, b => b.offers fun other => other.kind == .undefined
  | string, b => b.offers fun other => other.kind == .string
  | number, b => b.offers fun other => other.kind == .number
  | boolean, b => b.offers fun other => other.kind == .boolean
  | condition _, b => b.offers fun other => other.kind == .condition
  | error _, b => b.offers fun other => other.kind == .error
termination_by structural a => a

/-- Every type of the first list fits some type of the second. -/
def eachFits : List DataType → List DataType → Bool
  | [], _ => true
  | type :: rest, others => others.any (compatible type) && eachFits rest others
termination_by structural a => a

/-- Some type of the list fits `b`. -/
def someFits : List DataType → DataType → Bool
  | [], _ => false
  | type :: rest, b => compatible type b || someFits rest b
termination_by structural a => a

/-- The property under `key` is there and fits `b`. -/
def propertyFits : List (String × DataType) → String → DataType → Bool
  | [], _, _ => false
  | (name, type) :: rest, key, b => if name = key then compatible type b else propertyFits rest key b
termination_by structural a => a

/-- Parameters fit position by position; what only one side has must be optional. -/
def parametersFit : List Parameter → List Parameter → Bool
  | [], others => others.all (·.isOptional)
  | ⟨_, _, isOptional⟩ :: rest, [] => isOptional && parametersFit rest []
  | ⟨_, type, _⟩ :: rest, other :: others => compatible type other.type && parametersFit rest others
termination_by structural a => a

end

/-- Compatibility in both directions. -/
def interchangeable (a b : DataType) : Bool := compatible a b && compatible b a

end LivePipeline.DataType
