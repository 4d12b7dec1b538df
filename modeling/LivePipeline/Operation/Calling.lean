import LivePipeline.Operation

/-! Operations on operations: calling them. -/

namespace LivePipeline.Operation

def callParameters (data : Data) : List Parameter :=
  match data.type.dereference with
  | type@(.operation parameters _) => .receiver type :: parameters
  | _ => [.receiver (.operation [] .unknown)]

/-- The result that an operation type declares. -/
def declaredResult (type : DataType) : DataType :=
  match type.dereference with
  | .operation _ result => result
  | _ => .unknown

def call : EagerHandler := fun caller scope data arguments => do
  let operation ← expectOperation "call" data
  caller scope operation arguments

def callingFamily : List Builtin :=
  [.eager "call" "operation" callParameters (fun data _ => declaredResult data.type) call]

end LivePipeline.Operation
