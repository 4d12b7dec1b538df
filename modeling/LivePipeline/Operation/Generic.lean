import LivePipeline.Operation

/-! Operations on data of any type. -/

namespace LivePipeline.Operation

def isEqual : EagerHandler := fun _ _ data arguments => do
  let other ← first "isEqual" arguments
  Data.boolean (data.sameValue other)

def isTypeOf : EagerHandler := fun _ _ data arguments => do
  let other ← first "isTypeOf" arguments
  Data.boolean (data.isOfType other.type.dereference)

def toText : EagerHandler := fun _ _ data _ => Data.text data.display

def isUndefined : EagerHandler := fun _ _ data _ =>
  Data.boolean <| match data.value with
    | .undefined => true
    | _ => false

def genericFamily : List Builtin := [
  .eager "isEqual" "unknown" (takes .unknown [.named "other" .unknown]) returnsBoolean isEqual,
  .eager "isTypeOf" "unknown" (takes .unknown [.named "type" .unknown]) returnsBoolean isTypeOf,
  .eager "toString" "unknown" (takes .unknown []) returnsString toText,
  .eager "isUndefined" "unknown" (takes .unknown []) returnsBoolean isUndefined]

end LivePipeline.Operation
