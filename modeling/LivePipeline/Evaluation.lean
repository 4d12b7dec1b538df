import LivePipeline.Evaluation.Call

/-! Evaluation of statements. It follows the statements themselves; the bodies of operations that a
program calls are reached through a caller, and callers are built one for each remaining level of
call depth, so evaluation always ends. -/

namespace LivePipeline

/-- Whether each branch of a condition is run, and in which types it sees the variables: both
branches are evaluated, the dead one with everything skipped. -/
def evaluateCondition (scope : Scope) (test whenTrue whenFalse : Pending) : Run Data := do
  let narrowing := scope.checkStatement (← Run.store) test.statement
  let result ← test.evaluate scope.child
  if result.isError then return result
  let taken := result.bool? == some true
  let guarded := scope.withNarrowing narrowing
  let onTrue ← whenTrue.evaluate ((guarded.enter .narrowed).withSkip (scope.skipUnless taken))
  let onFalse ← whenFalse.evaluate ((guarded.enter .inverse).withSkip (scope.skipUnless !taken))
  return if taken then onTrue else onFalse

/-- The type that a container's type asks of a child, by position or by key. -/
def DataType.expectedChild (type : DataType) (index : Nat) (key : Option String) : Option DataType :=
  match type.dereference with
  | .array element => some element
  | .dictionary element => some element
  | .tuple elements => elements[index]?
  | .object properties _ => key.bind (Table.get? properties ·)
  | _ => none

/-- Evaluates a child of a container and puts its result in its place. -/
def evaluateChild (scope : Scope) (expected : Option DataType) (child : Pending) : Run Statement := do
  let result ← child.evaluate (scope.child.expecting expected)
  return { child.statement with data := result, operations := [] }

/-- A container of evaluated children, typed by them. -/
def rebuild (scope : Scope) (id : EntityId) (type : DataType) (value : Value) : Run Data := do
  return ⟨id, ← (scope.expecting (some type)).inferType value, value⟩

def evaluateArray (scope : Scope) (id : EntityId) (type : DataType) (items : List Pending) :
    Run Data := do
  let items ← items.zipIdx.mapM fun (item, index) =>
    evaluateChild scope (type.expectedChild index none) item
  rebuild scope id type (.array items)

def evaluateRecord (scope : Scope) (id : EntityId) (type : DataType)
    (entries : List (String × Pending)) : Run Data := do
  let entries ← entries.zipIdx.mapM fun ((key, entry), index) => do
    let statement ← evaluateChild scope (type.expectedChild index (some key)) entry
    return (key, statement)
  rebuild scope id type (.record entries)

/-- Evaluates statements in order and declares those with a name; errors do not stop it. Gives the
last result and the scope behind it. -/
def evaluateEach (last : Data) : List Pending → Scope → Run (Data × Scope)
  | [], scope => return (last, scope)
  | pending :: rest, scope => do
    let result ← pending.evaluate scope
    evaluateEach result rest (scope.publish pending.statement.name pending.statement.id result)

/-- Evaluates statements in order and declares those with a name, up to the first error. -/
def evaluateUntilError (last : Data) : List Pending → Scope → Run (Data × Scope)
  | [], scope => return (last, scope)
  | pending :: rest, scope => do
    let result ← pending.evaluate scope
    let scope := scope.publish pending.statement.name pending.statement.id result
    if result.isError then return (result, scope) else evaluateUntilError result rest scope

/-- Evaluates the parameters and the body of an operation, so that each has a result. -/
def previewBody (scope : Scope) (parameters body : List Pending) : Run Data := do
  let (_, scope) ← evaluateEach default parameters scope.child
  let last ← (Data.undefined : Run Data)
  return (← evaluateEach last body scope).1

/-- Binds parameters to values in order; those without a value take their declared default. -/
def bindParameters : List Pending → List Data → Scope → Run Scope
  | [], _, scope => return scope
  | parameter :: rest, value :: values, scope =>
    bindParameters rest values (scope.publish parameter.statement.name parameter.statement.id value)
  | parameter :: rest, [], scope => do
    let value ← parameter.evaluate scope
    bindParameters rest [] (scope.publish parameter.statement.name parameter.statement.id value)

/-- Evaluates statements up to the first error; undefined when there are none. -/
def runBody (body : List Pending) (scope : Scope) : Run (Data × Scope) := do
  let last ← (Data.undefined : Run Data)
  evaluateUntilError last body scope

/-- A handle is itself, once its object exists. -/
def evaluateHandle (data : Data) (className : String) (arguments : List Statement)
    (instanceId : EntityId) : Run Data :=
  Attempt.settle do
    let _ ← Operation.externalOf className arguments instanceId
    return data

mutual

/-- Evaluates a statement: its data, then its chain. The result is recorded under its identity. -/
def evaluateStatement (caller : Caller) : Statement → Scope → Run Data
  | ⟨id, data, operations, _, _⟩, scope => do
    let initial ← evaluateData caller data scope
    let (result, _) ← runChain scope data initial (stages caller operations)
    let result ← scope.resolve result
    Run.setResult id result
    return result
termination_by structural statement => statement

/-- Evaluates data: references are replaced, containers evaluated inside, operations previewed. -/
def evaluateData (caller : Caller) : Data → Scope → Run Data
  | ⟨id, type, value⟩, scope =>
    match value with
    | .reference name target => scope.resolve ⟨id, type, .reference name target⟩
    | .condition test whenTrue whenFalse =>
      evaluateCondition scope ⟨test, evaluateStatement caller test⟩
        ⟨whenTrue, evaluateStatement caller whenTrue⟩ ⟨whenFalse, evaluateStatement caller whenFalse⟩
    | .array items => evaluateArray scope id type (pendings caller items)
    | .record entries => evaluateRecord scope id type (pendingEntries caller entries)
    | .operation name parameters body => do
      let _ ← previewBody scope (pendings caller parameters) (pendings caller body)
      let value := .operation name parameters body
      return ⟨id, ← scope.inferType value, value⟩
    | .handle className arguments instanceId =>
      evaluateHandle ⟨id, type, .handle className arguments instanceId⟩ className arguments instanceId
    | value => return ⟨id, type, value⟩
termination_by structural data => data

/-- The stages of a chain of calls. -/
def stages (caller : Caller) : List Data → List Stage
  | [] => []
  | operation :: rest =>
    (fun current scope => do
      let result ← performCall caller scope current operation (pendingArguments caller operation)
      return (operation, result)) :: stages caller rest
termination_by structural operations => operations

/-- The arguments of a call, not evaluated yet. -/
def pendingArguments (caller : Caller) : Data → List Pending
  | ⟨_, _, .operation _ arguments _⟩ => pendings caller arguments
  | _ => []
termination_by structural operation => operation

def pendings (caller : Caller) : List Statement → List Pending
  | [] => []
  | statement :: rest => ⟨statement, evaluateStatement caller statement⟩ :: pendings caller rest
termination_by structural statements => statements

def pendingEntries (caller : Caller) : List (String × Statement) → List (String × Pending)
  | [] => []
  | (key, statement) :: rest =>
    (key, ⟨statement, evaluateStatement caller statement⟩) :: pendingEntries caller rest
termination_by structural entries => entries

end

/-- Calls operations with the given number of levels left. Without a level left nothing of the
operation is evaluated. -/
def callerWithin : Nat → Caller
  | 0, scope, _, _ =>
    (Fault.tooDeep ⟨scope.callDepth + 1, scope.options.maxCallDepth⟩).data
  | levels + 1, scope, operation, arguments =>
    match operation.value with
    | .operation _ parameters body => do
      let caller := callerWithin levels
      let inner := { scope.child with callDepth := scope.callDepth + 1 }
      let inner ← bindParameters (pendings caller parameters) arguments inner
      return (← runBody (pendings caller body) inner).1
    | _ => (Fault.notAnOperation operation).data

namespace Scope

/-- The caller for the levels that this scope has left. -/
def caller (scope : Scope) : Caller := callerWithin (scope.options.maxCallDepth - scope.callDepth)

def evaluate (scope : Scope) (statement : Statement) : Run Data :=
  evaluateStatement scope.caller statement scope

def evaluateNode (scope : Scope) (data : Data) : Run Data := evaluateData scope.caller data scope

/-- Evaluates statements up to the first error; also gives the scope with what they declare. -/
def evaluateAll (scope : Scope) (statements : List Statement) : Run (Data × Scope) :=
  runBody (pendings scope.caller statements) scope

/-- Makes one call on data. -/
def perform (scope : Scope) (data operation : Data) : Run Data :=
  performCall scope.caller scope data operation (pendingArguments scope.caller operation)

/-- Calls an operation value with positional arguments. -/
def call (scope : Scope) (operation : Data) (arguments : List Data) : Run Data :=
  scope.caller scope operation arguments

/-- Evaluates everything inside of an operation value. -/
def preview (scope : Scope) (operation : Data) : Run Data :=
  match operation.value with
  | .operation _ parameters body =>
    previewBody scope (pendings scope.caller parameters) (pendings scope.caller body)
  | _ => Data.undefined

/-- The type of a statement's result: that of its recorded result, or the declared one. -/
def resultType (scope : Scope) (statement : Statement) : Run DataType :=
  return (scope.hints (← Run.store)).child statement

end Scope

/-- A call was asked for that the receiver does not offer. -/
structure UnavailableOperation where
  name : String
  receiver : String

def UnavailableOperation.message (error : UnavailableOperation) : String :=
  "operation `" ++ error.name ++ "` is not available on `" ++ error.receiver ++ "`"

/-- A new call with default arguments for its required parameters. It is made once, and typed by
the result. -/
def Scope.createCall (scope : Scope) (data : Data) (name : String) :
    Run (Except UnavailableOperation Data) := do
  match scope.find? data name with
  | none => return .error ⟨name, scope.signature data.type⟩
  | some callable =>
    let expected := callable.expected data
    let full := scope.options.includeOptionalProperties
    let arguments ← (expected.filter (!·.isOptional)).mapM fun parameter =>
      (parameter.defaultArgument full : Run Statement)
    let declared := callable.resultType data (arguments.map Statement.resultType)
    let call ← (Data.make (.operation expected declared) (.operation (some name) arguments []) : Run Data)
    let result ← scope.perform data call
    return .ok (if result.isError then call else { call with type := .operation expected result.type })

end LivePipeline
