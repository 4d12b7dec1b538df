import LivePipeline.Scope
import LivePipeline.DataType.Codec

/-! Options as JSON. Those that are left out have their default. -/

namespace LivePipeline.Options

def encode (options : Options) : Json :=
  .object [("signature_depth", .int options.signatureDepth),
    ("include_optional_properties", .bool options.includeOptionalProperties),
    ("max_call_depth", .int options.maxCallDepth)]

def decode? : Json → Option Options
  | .object fields => do
    let defaults : Options := {}
    let signatureDepth ← Json.defaulted? Json.count? defaults.signatureDepth fields "signature_depth"
    let includeOptionalProperties ← Json.defaulted? Json.bool? defaults.includeOptionalProperties fields
      "include_optional_properties"
    let maxCallDepth ← Json.defaulted? Json.count? defaults.maxCallDepth fields "max_call_depth"
    return { signatureDepth, includeOptionalProperties, maxCallDepth }
  | _ => none

end LivePipeline.Options
