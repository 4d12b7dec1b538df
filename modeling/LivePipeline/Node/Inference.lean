import LivePipeline.Node

/-! The structural type of a value. The children's types are given by the caller, who knows which
of them have been evaluated. -/

namespace LivePipeline

/-- What inference may look up: the type of a child statement and of a variable's data, and the
type asked for, which decides between tuples and arrays and between dictionaries and objects. -/
structure TypeHints where
  child : Statement → DataType
  named? : String → Option DataType
  expected : Option DataType

/-- Hints that know nothing but what statements declare. -/
def TypeHints.declared : TypeHints :=
  { child := Statement.resultType, named? := fun _ => none, expected := none }

namespace Value

def inferArray (hints : TypeHints) (items : List Statement) : DataType :=
  let types := items.map hints.child
  let expected := hints.expected.map DataType.dereference
  match expected with
  | some (.tuple _) => .tuple types
  | _ =>
    if types.isEmpty then .array ((expected.bind DataType.element?).getD .unknown)
    else .array (DataType.unionOf types)

def inferRecord (hints : TypeHints) (entries : Table Statement) : DataType :=
  let types := entries.map fun (key, statement) => (key, hints.child statement)
  match hints.expected.map DataType.dereference with
  | some (.dictionary element) =>
    if types.isEmpty then .dictionary element
    else .dictionary (DataType.unionOf (Table.values types))
  | _ => .object types ((entries.filter fun (_, statement) => !statement.isOptional).map (·.1))

/-- The type of a value as its children stand. -/
def inferType (hints : TypeHints) : Value → DataType
  | .undefined => .undefined
  | .text _ => .string
  | .number _ => .number
  | .boolean _ => .boolean
  | .array items => inferArray hints items
  | .record entries => inferRecord hints entries
  | .operation _ parameters body =>
    .operation (parameters.map fun p => ⟨p.name, hints.child p, p.isOptional⟩)
      ((body.getLast?.map hints.child).getD .unknown)
  | .condition _ whenTrue whenFalse =>
    .condition (DataType.unionOf [hints.child whenTrue, hints.child whenFalse])
  | .reference name _ => .reference (((hints.named? name).map DataType.dereference).getD .unknown)
  | .error _ =>
    match hints.expected.map DataType.dereference with
    | some (.error kind) => .error kind
    | _ => .error .customError
  | .handle className arguments _ =>
    .instanceOf className (arguments.map fun statement => Parameter.receiver (hints.child statement))

end Value

end LivePipeline
