import LivePipeline.Proofs.Shapes

/-! Evaluation that is watched where it could be deceived about the shape of a value. A value gets another type in three
places. Behind a check the variables have the types that the check leaves of theirs; a choice joins the types
of its branches; and a fallback that is not needed takes the undefined type out of the type of the value. Where this
gives a value a type that need not admit it, a watched run does something else in its place. -/

namespace LivePipeline

/-- Code is run in the scope, and some variable has a type that does not admit its value. -/
def Scope.isDeceived (scope : Scope) : Bool :=
  !scope.isSkipping && scope.bindings.any fun (_, found) => !found.data.type.admits found.data.value

def Callable.isBuiltin : Callable → Bool
  | .builtin _ => true
  | .extension _ | .userDefined _ _ => false

/-- The call runs the built-in operation of this name. -/
def Scope.runsBuiltin (scope : Scope) (data operation : Data) (name : String) : Bool :=
  !scope.isSkipping && !data.isError && match operation.value with
    | .operation (some called) _ _ => called == name && (scope.find? data name).any Callable.isBuiltin
    | _ => false

/-- A value that is there, under a type that does not say what it is. -/
def Data.isVague (data : Data) : Bool :=
  match data.value with
  | .undefined => false
  | _ => !data.type.dereference.isExplicit

section

variable (instead : Scope → Run Data)

/-- The argument is left to `instead` where nothing is run, and where it comes to a type that does not say what the value is. -/
def Pending.watched (pending : Pending) : Pending where
  statement := pending.statement
  evaluate scope :=
    if scope.isSkipping then instead scope
    else do
      let result ← pending.evaluate scope
      if result.isError || result.type.isExplicit then return result else instead scope

/-- The arguments of a call. That which a choice selects is watched. -/
def Scope.watchArguments (scope : Scope) (data operation : Data) (arguments : List Pending) : List Pending :=
  match data.bool? with
  | some condition =>
    if scope.runsBuiltin data operation "thenElse" then arguments.modify (if condition then 0 else 1) (Pending.watched instead)
    else arguments
  | none => arguments

/-- Makes a call, unless it is for a fallback of a value whose type does not say what it is. -/
def watchCall (caller : Caller) (scope : Scope) (data operation : Data) (arguments : List Pending) : Run Data :=
  if scope.runsBuiltin data operation "orElse" && data.isVague then instead scope
  else performCall caller scope data operation (scope.watchArguments instead data operation arguments)

mutual

/-- Evaluates a statement, unless the scope deceives it. -/
def watchStatement (caller : Caller) : Statement → Scope → Run Data
  | ⟨id, data, operations, _, _⟩, scope =>
    if scope.isDeceived then instead scope
    else do
      let initial ← watchData caller data scope
      let (result, _) ← runChain scope data initial (watchStages caller operations)
      let result ← scope.resolve result
      Run.setResult id result
      return result
termination_by structural statement => statement

def watchData (caller : Caller) : Data → Scope → Run Data
  | ⟨id, type, value⟩, scope =>
    match value with
    | .reference name target => scope.resolve ⟨id, type, .reference name target⟩
    | .condition test whenTrue whenFalse =>
      evaluateCondition scope ⟨test, watchStatement caller test⟩
        ⟨whenTrue, watchStatement caller whenTrue⟩ ⟨whenFalse, watchStatement caller whenFalse⟩
    | .array items => evaluateArray scope id type (watchAll caller items)
    | .record entries => evaluateRecord scope id type (watchEntries caller entries)
    | .operation name parameters body => do
      let _ ← previewBody scope (watchAll caller parameters) (watchAll caller body)
      let value := .operation name parameters body
      return ⟨id, ← scope.inferType value, value⟩
    | .handle className arguments instanceId =>
      evaluateHandle ⟨id, type, .handle className arguments instanceId⟩ className arguments instanceId
    | value => return ⟨id, type, value⟩
termination_by structural data => data

def watchStages (caller : Caller) : List Data → List Stage
  | [] => []
  | operation :: rest =>
    (fun current scope => do
      let result ← watchCall instead caller scope current operation (watchArguments caller operation)
      return (operation, result)) :: watchStages caller rest
termination_by structural operations => operations

def watchArguments (caller : Caller) : Data → List Pending
  | ⟨_, _, .operation _ arguments _⟩ => watchAll caller arguments
  | _ => []
termination_by structural operation => operation

def watchAll (caller : Caller) : List Statement → List Pending
  | [] => []
  | statement :: rest => ⟨statement, watchStatement caller statement⟩ :: watchAll caller rest
termination_by structural statements => statements

def watchEntries (caller : Caller) : List (String × Statement) → List (String × Pending)
  | [] => []
  | (key, statement) :: rest => (key, ⟨statement, watchStatement caller statement⟩) :: watchEntries caller rest
termination_by structural entries => entries

end

/-- Calls operations with the given number of levels left, and watches their bodies. -/
def watchingCaller : Nat → Caller
  | 0 => callerWithin 0
  | levels + 1 => fun scope operation arguments =>
    match operation.value with
    | .operation _ parameters body => do
      let caller := watchingCaller levels
      let inner := { scope.child with callDepth := scope.callDepth + 1 }
      let inner ← bindParameters (watchAll instead caller parameters) arguments inner
      return (← runBody (watchAll instead caller body) inner).1
    | _ => (Fault.notAnOperation operation).data

/-- Evaluates statements up to the first error, and watches them. -/
def Scope.evaluateWatched (scope : Scope) (statements : List Statement) : Run (Data × Scope) :=
  runBody (watchAll instead (watchingCaller instead (scope.options.maxCallDepth - scope.callDepth)) statements) scope

end

/-- In this world it makes no difference what is done in place of what could deceive the statements about a shape: they
come to no such place. Code is run only behind checks that leave each variable a type which admits its value. The
branch that a choice selects is run, and it comes to an error or to a type that says what the value is; so does
the type of a value that needs no fallback. -/
def Scope.Undeceived (scope : Scope) (statements : List Statement) (world : World) : Prop :=
  ∀ instead, scope.evaluateWatched instead statements world = scope.evaluateAll statements world

section

variable {instead : Scope → Run Data} {caller : Caller}

theorem watchAll_eq_map (statements : List Statement) :
    watchAll instead caller statements = statements.map fun statement => ⟨statement, watchStatement instead caller statement⟩ := by
  induction statements with
  | nil => rfl
  | cons statement rest ih => rw [watchAll, ih, List.map_cons]

theorem watchEntries_eq_map (entries : List (String × Statement)) :
    watchEntries instead caller entries
      = entries.map fun entry => (entry.1, ⟨entry.2, watchStatement instead caller entry.2⟩) := by
  induction entries with
  | nil => rfl
  | cons entry rest ih => rw [watchEntries, ih, List.map_cons]

end

end LivePipeline
