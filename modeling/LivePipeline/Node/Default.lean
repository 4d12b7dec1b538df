import LivePipeline.Node.Build

/-! Default data of a type: empty texts, zeros, one element for a container whose element type is
known, and the required properties of an object. -/

namespace LivePipeline

/-- Which member of a union its default takes: the active one, else the first that is not the
undefined type, else the first. -/
def defaultMember (members : List DataType) (active : Option Nat) : Option Nat :=
  match active with
  | some index =>
    if index < members.length then some index
    else (members.findIdx? (·.kind != .undefined)).or (members.head?.map fun _ => 0)
  | none => (members.findIdx? (·.kind != .undefined)).or (members.head?.map fun _ => 0)

/-- A new statement that holds data of the type. -/
def Statement.holding (name : Option String) (isOptional : Bool) (type : DataType)
    (value : Fresh Value) : Fresh Statement := do
  let data ← Data.make type.dereference (← value)
  return ⟨← freshId, data, [], name, isOptional⟩

mutual

/-- The default value of a type; `full` also fills in properties that may be left out. -/
def DataType.defaultValue (full : Bool) : DataType → Fresh Value
  | .unknown | .never | .undefined => return .undefined
  | .string => return .text ""
  | .number => return .number 0.0
  | .boolean => return .boolean false
  | .array element => do
    match element.kind with
    | .unknown | .never => return .array []
    | _ => return .array [← Statement.holding none false element (element.defaultValue full)]
  | .tuple elements => do return .array (← defaultStatements full elements)
  | .object properties required => do return .record (← defaultEntries full required properties)
  | .dictionary element => do
    match element.kind with
    | .unknown | .never => return .record []
    | _ => return .record [("key", ← Statement.holding none false element (element.defaultValue full))]
  | .union members active => do
    match (defaultMember members active).bind ((memberDefaults full members)[·]?) with
    | some value => value
    | none => return .undefined
  | .operation parameters _ => do return .operation none (← defaultParameters full parameters) []
  | .condition result => do
    let test ← Statement.make (← Data.boolean false)
    let whenTrue ← Statement.holding none false result (result.defaultValue full)
    let whenFalse ← Statement.holding none false result (result.defaultValue full)
    return .condition test whenTrue whenFalse
  | .reference target => target.defaultValue full
  | .error kind => return .error kind.defaultReason
  | .instanceOf className arguments => do
    let arguments ← defaultParameters full arguments
    return .handle className arguments (← freshId)

def defaultStatements (full : Bool) : List DataType → Fresh (List Statement)
  | [] => return []
  | type :: rest => do
    let statement ← Statement.holding none false type (type.defaultValue full)
    return statement :: (← defaultStatements full rest)

def defaultEntries (full : Bool) (required : List String) :
    List (String × DataType) → Fresh (List (String × Statement))
  | [] => return []
  | (key, type) :: rest => do
    if full || required.contains key then
      let statement ← Statement.holding none false type (type.defaultValue full)
      return (key, statement) :: (← defaultEntries full required rest)
    else defaultEntries full required rest

def defaultParameters (full : Bool) : List Parameter → Fresh (List Statement)
  | [] => return []
  | ⟨name, type, isOptional⟩ :: rest => do
    let statement ← Statement.holding name isOptional type (type.defaultValue full)
    return statement :: (← defaultParameters full rest)

/-- The defaults of all members, none of them drawn yet. -/
def memberDefaults (full : Bool) : List DataType → List (Fresh Value)
  | [] => []
  | type :: rest => DataType.defaultValue full type :: memberDefaults full rest

end

/-- New default data of a type. -/
def DataType.defaultData (full : Bool) (type : DataType) : Fresh Data := do
  Data.make type.dereference (← type.defaultValue full)

/-- The default argument for a parameter. -/
def Parameter.defaultArgument (full : Bool) (parameter : Parameter) : Fresh Statement := do
  let statement ← Statement.make (← parameter.type.defaultData full)
  return { statement with isOptional := parameter.isOptional }

end LivePipeline
