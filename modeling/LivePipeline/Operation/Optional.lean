import LivePipeline.Operation

/-! Operations on unions, which may hold nothing. -/

namespace LivePipeline.Operation

/-- The type without its undefined member. -/
def definedType (data : Data) : DataType :=
  match data.type.dereference with
  | .union members _ => DataType.unionOf (members.filter (·.kind != .undefined))
  | other => other

def fallbackParameters (data : Data) : List Parameter :=
  let receiver := match data.type.dereference with
    | type@(.union _ _) => type
    | _ => .union [] none
  [.receiver receiver, .named "fallback" (definedType data)]

/-- The receiver, or the fallback when it is undefined. -/
def orElse : EagerHandler := fun _ _ data arguments => do
  let fallback ← first "orElse" arguments
  match data.value with
  | .undefined => return fallback
  | value =>
    let type := match definedType data with
      | .never => data.type.dereference
      | type => type
    Data.make type value

def optionalFamily : List Builtin :=
  [.eager "orElse" "union" fallbackParameters (fun data _ => definedType data) orElse]

end LivePipeline.Operation
