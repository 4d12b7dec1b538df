import LivePipeline.Operation.Lookup
import LivePipeline.Scope.Check
import LivePipeline.Node.Default

/-! One operation call on data, and chains of them. The arguments come as pending statements, so
that nothing here depends on how statements are evaluated. -/

namespace LivePipeline

/-- The first required parameter that has no argument. -/
def missingParameter? (expected : List Parameter) (count : Nat) : Option Nat :=
  (expected.zipIdx.find? fun (parameter, index) => count ≤ index && !parameter.isOptional).map (·.2)

/-- Evaluates the arguments in order for their parameters. The first one that is an error or has
the wrong type ends it; arguments without a parameter are ignored. -/
def evaluateArguments (scope : Scope) (name : String) :
    List (Pending × Parameter) → Nat → ExceptT Data Run (List Data)
  | [], _ => return []
  | (argument, parameter) :: rest, index => do
    let value ← argument.evaluate (scope.child.expecting (some parameter.type))
    if value.isError then throw value
    if !value.type.compatible parameter.type then
      let fault := Fault.wrongParameter name index (scope.signature parameter.type)
        (scope.signature value.type)
      throw (← (fault.data : Run Data))
    return value :: (← evaluateArguments scope name rest (index + 1))

/-- A failed attempt gives error data. -/
def Attempt.settle (attempt : Attempt Data) : Run Data := do
  match ← attempt.run with
  | .ok data => return data
  | .error failure => Data.error .runtimeError failure.message

/-- The inputs of a call as text; calls with the same fingerprint may share a result. -/
def fingerprint (builtin : Builtin) (data : Data) (arguments : List Data) : String :=
  builtin.group ++ "." ++ builtin.name ++ ":" ++ data.plain.compact ++ ":"
    ++ (Json.array (arguments.map Data.plain)).compact

/-- Runs a cacheable operation, or reuses the result of the same inputs. Errors are not kept. -/
def runCached (key : String) (operationId : EntityId) (run : Run Data) : Run Data := do
  match (← Run.store).fingerprint? key with
  | some cached =>
    Run.updateStore (·.setCacheableResult operationId cached)
    return cached
  | none =>
    let result ← run
    if result.isError then return result
    Run.updateStore fun store =>
      (store.setFingerprint key result).setCacheableResult operationId result
    return result

/-- Runs an operation on evaluated arguments. -/
def runEager (caller : Caller) (scope : Scope) (callable : Callable) (operationId : EntityId)
    (data : Data) (arguments : List Data) : Run Data :=
  match callable with
  | .builtin builtin =>
    match builtin.handler with
    | .eager run =>
      let work := Attempt.settle (run caller scope data arguments)
      if builtin.cacheable then runCached (fingerprint builtin data arguments) operationId work else work
    | .lazy run => Attempt.settle (run scope data [])
  | .extension extension => do
    Run.observe (.extensionCall extension.name data arguments)
    match extension.handler data arguments with
    | .ok result => return result
    | .error reason => Data.error .runtimeError reason
  | .userDefined _ operation => caller scope operation (data :: arguments)

/-- Evaluates the arguments for display and gives default data of the result type; nothing is
run. -/
def skipCall (scope : Scope) (callable : Callable) (data : Data) (arguments : List Pending) :
    Run Data := do
  let values ← arguments.mapM fun argument => argument.evaluate scope.child
  let type := callable.resultType data (values.map (·.type))
  type.defaultData scope.options.includeOptionalProperties

/-- Calls an operation with arguments that are not evaluated yet. -/
def invoke (caller : Caller) (scope : Scope) (callable : Callable) (operationId : EntityId)
    (data : Data) (arguments : List Pending) : Run Data := do
  let expected := callable.expected data
  match missingParameter? expected arguments.length with
  | some index => (Fault.missingParameter callable.name index).data
  | none =>
    if scope.isSkipping then skipCall scope callable data arguments
    else
      match callable with
      | .builtin { handler := .lazy run, .. } => Attempt.settle (run scope data arguments)
      | _ =>
        match ← (evaluateArguments scope callable.name (arguments.zip expected) 0).run with
        | .ok values => runEager caller scope callable operationId data values
        | .error error => return error

/-- The result of a call on data. An error passes through unchanged. -/
def callResult (caller : Caller) (scope : Scope) (data operation : Data) (arguments : List Pending) :
    Run Data := do
  let skip := scope.skipBehind data none
  match skip with
  | some (.failed error) => return error
  | _ =>
    match operation.value with
    | .operation (some name) _ _ =>
      match scope.find? data name with
      | some callable => invoke caller (scope.withSkip skip) callable operation.id data arguments
      | none => (Fault.cannotChain name (scope.signature data.type)).data
    | .operation none _ _ => Fault.unnamedCall.data
    | _ => (Fault.notACall operation).data

/-- Makes a call and records its result under the call's identity. -/
def performCall (caller : Caller) (scope : Scope) (data operation : Data) (arguments : List Pending) :
    Run Data := do
  let result ← callResult caller scope data operation arguments
  Run.setResult operation.id result
  return result

/-- A link of a chain: from the data so far, in the scope of the call, to the call that was made
and its result. -/
abbrev Stage := Data → Scope → Run (Data × Data)

/-- Sends data through the stages. `receiver` is what a check is taken to be about: the statement's
own data for the first call, the data so far for the others. -/
def runStages (scope : Scope) (narrowing : Option Narrowing) (receiver current : Data) :
    List Stage → Run (Data × List Data)
  | [] => return (current, [])
  | stage :: rest => do
    let (operation, result) ← stage current (scope.child.withNarrowing narrowing)
    let next := scope.checkCall (← Run.store).result? receiver narrowing operation
    let (final, operations) ← runStages scope next result result rest
    return (final, operation :: operations)

/-- Sends data that came from `source` through a chain; also gives the calls that were made. -/
def runChain (scope : Scope) (source initial : Data) (stages : List Stage) : Run (Data × List Data) :=
  runStages scope none source initial stages

end LivePipeline
