import LivePipeline.Node.Plain

/-! Errors that evaluation itself finds. They become error data. -/

namespace LivePipeline

/-- A call that would nest deeper than the limit. -/
structure CallLimit where
  /-- The depth that the call would have had. -/
  depth : Nat
  limit : Nat

namespace CallLimit

def message (exceeded : CallLimit) : String :=
  "execution exceeded call depth limit (depth=" ++ toString exceeded.depth ++ ", limit="
    ++ toString exceeded.limit ++ ")"

/-- The limit with the names of its parts. -/
def describe (exceeded : CallLimit) : String :=
  "CallDepthExceeded \x7b depth: " ++ toString exceeded.depth ++ ", limit: "
    ++ toString exceeded.limit ++ " \x7d"

end CallLimit

inductive Fault where
  | notACall (found : Data)
  | unnamedCall
  | cannotChain (name receiver : String)
  | missingParameter (name : String) (index : Nat)
  | wrongParameter (name : String) (index : Nat) (expected found : String)
  | notAnOperation (found : Data)
  | tooDeep (exceeded : CallLimit)

namespace Fault

def kind : Fault → ErrorKind
  | tooDeep _ => .runtimeError
  | _ => .typeError

def message : Fault → String
  | notACall found => "`" ++ found.display ++ "` is not an operation call"
  | unnamedCall => "Operation call has no name"
  | cannotChain name receiver => "Operation `" ++ name ++ "` cannot be chained on `" ++ receiver ++ "`"
  | missingParameter name index =>
    "Parameter " ++ toString (index + 1) ++ " of `" ++ name ++ "` is required"
  | wrongParameter name index expected found =>
    "Parameter " ++ toString (index + 1) ++ " of `" ++ name ++ "` expects `" ++ expected ++ "`. Got `"
      ++ found ++ "` instead"
  | notAnOperation found => "`" ++ found.display ++ "` is not an operation"
  | tooDeep exceeded => exceeded.message

/-- The error as data. -/
def data (fault : Fault) : Fresh Data := Data.error fault.kind fault.message

end Fault

end LivePipeline
