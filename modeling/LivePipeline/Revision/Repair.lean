import LivePipeline.Evaluation

/-! Repair of single nodes: references follow the statement they name, and calls get the arguments
that their operation takes for the receiver at hand. -/

namespace LivePipeline

/-- A statement together with the work that brings it up to date in a scope. -/
structure Revisable where
  statement : Statement
  revise : Scope → Run (Statement × Data)

/-- The variable that a reference means: the one its statement declares, so that renamed variables
are followed, or else the one of its name. -/
def Scope.referent? (scope : Scope) (name : String) (id : EntityId) : Option (String × Variable) :=
  let byId := if id.isEmpty then none else scope.variableById? id
  byId.or ((scope.variableNamed? name).map fun found => (name, found))

/-- Points a reference to its variable as that is now; other data is kept. -/
def Scope.rebind (scope : Scope) (data : Data) : Data :=
  match data.value with
  | .reference name id =>
    match scope.referent? name id with
    | some (name, found) =>
      ⟨data.id, .reference found.data.type.dereference, .reference name found.id⟩
    | none => data
  | _ => data

/-- A call is typed by the result that it gave last, unless that is an error. -/
def withExecutedType (operation : Data) : Run Data := do
  match operation.type, (← Run.store).result? operation.id with
  | .operation parameters _, some result =>
    return if result.isError then operation
      else { operation with type := .operation parameters result.type }
  | _, _ => return operation

/-- Brings an argument up to date. Arguments of lazy operations are only rebound, because running
them is up to the operation. -/
def reviseArgument (scope : Scope) (isLazy : Bool) (parameter : Parameter) (argument : Revisable) :
    Run (Statement × DataType) := do
  if isLazy then
    let statement := argument.statement
    let rebound := { statement with data := scope.rebind statement.data }
    return (rebound, rebound.resultType)
  else
    let (statement, result) ← argument.revise (scope.child.expecting (some parameter.type))
    return (statement, result.type)

/-- An argument for each parameter: those of the wrong type are replaced by defaults, missing ones
are added, and superfluous ones dropped. -/
def repairArguments (scope : Scope) (isLazy : Bool) :
    List Parameter → List Revisable → Run (List Statement)
  | [], _ => return []
  | parameter :: parameters, argument :: arguments => do
    let (statement, type) ← reviseArgument scope isLazy parameter argument
    let statement ←
      if type.isError || type.compatible parameter.type then pure statement
      else do
        let fallback ← (parameter.defaultArgument scope.options.includeOptionalProperties : Run Statement)
        pure { fallback with id := statement.id }
    return statement :: (← repairArguments scope isLazy parameters arguments)
  | parameter :: parameters, [] => do
    if parameter.isOptional then repairArguments scope isLazy parameters []
    else
      let added ← (parameter.defaultArgument scope.options.includeOptionalProperties : Run Statement)
      return added :: (← repairArguments scope isLazy parameters [])

/-- Makes a call fit its receiver. Behind an error, and when there is no such operation, the call
stays as it is. -/
def repairCall (scope : Scope) (data operation : Data) (arguments : List Revisable) : Run Data := do
  match operation.value, scope.skipBehind data none with
  | _, some (.failed _) => return operation
  | .operation (some name) _ body, _ =>
    match scope.find? data name with
    | none => return operation
    | some callable =>
      let expected := callable.expected data
      let arguments ← repairArguments scope callable.isLazy expected arguments
      let type := if scope.isSkipping then operation.type else
        .operation expected (callable.resultType data (arguments.map Statement.resultType))
      return ⟨operation.id, type, .operation (some name) arguments body⟩
  | _, _ => return operation

end LivePipeline
