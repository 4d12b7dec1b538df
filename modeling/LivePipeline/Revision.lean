import LivePipeline.Revision.Repair
import LivePipeline.Node.Edit

/-! Bringing a program up to date after an edit. Statements are walked in order: each is rebuilt,
its calls are repaired while they are made, and its result is published to those behind it. -/

namespace LivePipeline

/-- Brings statements up to date in order; each sees what those before it declare. -/
def reviseEach : List Revisable → Scope → Run (List Statement × Scope)
  | [], scope => return ([], scope)
  | revisable :: rest, scope => do
    let (statement, result) ← revisable.revise scope
    let (statements, final) ← reviseEach rest (scope.publish statement.name statement.id result)
    return (statement :: statements, final)

/-- Brings the parts of a condition up to date. Both branches are live while the test is an error. -/
def reviseCondition (scope : Scope) (test whenTrue whenFalse : Revisable) : Run Value := do
  let narrowing := scope.checkStatement (← Run.store) test.statement
  let (test, result) ← test.revise scope.child
  let taken := result.bool? == some true
  let guarded := scope.withNarrowing narrowing
  let skipUnless (live : Bool) := scope.skipUnless (live || result.isError)
  let (whenTrue, _) ← whenTrue.revise ((guarded.enter .narrowed).withSkip (skipUnless taken))
  let (whenFalse, _) ← whenFalse.revise ((guarded.enter .inverse).withSkip (skipUnless !taken))
  return .condition test whenTrue whenFalse

/-- An operation whose parameters and body are brought up to date; its type follows from both. -/
def reviseOperation (scope : Scope) (id : EntityId) (name : Option String)
    (parameters : List Revisable) (reviseBody : Scope → Run (List Statement)) : Run Data := do
  let (parameters, inner) ← reviseEach parameters scope.child
  let body ← reviseBody inner
  let value := .operation name parameters body
  return ⟨id, ← inner.inferType value, value⟩

mutual

/-- Rebuilds a statement and evaluates it; also gives the result. -/
def reviseStatement : Statement → Scope → Run (Statement × Data)
  | ⟨id, data, operations, name, isOptional⟩, scope => do
    let data ← reviseData data scope
    let initial ← scope.evaluateNode data
    let (result, operations) ← runChain scope data initial (repairedStages operations)
    let operations ← if scope.isSkipping then pure operations else operations.mapM withExecutedType
    let result ← scope.resolve result
    Run.setResult id result
    return (⟨id, data, operations, name, isOptional⟩, result)
termination_by structural statement => statement

/-- Brings data up to date without evaluating what it stands for. -/
def reviseData : Data → Scope → Run Data
  | ⟨id, type, value⟩, scope =>
    match value with
    | .reference name target => return scope.rebind ⟨id, type, .reference name target⟩
    | .array items => do
      let items ← (revisables items).mapM fun item => return (← item.revise scope.child).1
      return ⟨id, type, .array items⟩
    | .record entries => do
      let entries ← (revisableEntries entries).mapM fun (key, entry) =>
        return (key, (← entry.revise scope.child).1)
      return ⟨id, type, .record entries⟩
    | .condition test whenTrue whenFalse => do
      let value ← reviseCondition scope ⟨test, reviseStatement test⟩
        ⟨whenTrue, reviseStatement whenTrue⟩ ⟨whenFalse, reviseStatement whenFalse⟩
      return ⟨id, type, value⟩
    | .operation name parameters body =>
      reviseOperation scope id name (revisables parameters) fun inner => do
        return (← reviseEach (revisables body) inner).1
    | value => return ⟨id, type, value⟩
termination_by structural data => data

/-- The stages of a chain in which each call is repaired before it is made. -/
def repairedStages : List Data → List Stage
  | [] => []
  | operation :: rest =>
    (fun current scope => do
      let repaired ← repairCall scope current operation (revisableArguments operation)
      return (repaired, ← scope.perform current repaired)) :: repairedStages rest
termination_by structural operations => operations

def revisableArguments : Data → List Revisable
  | ⟨_, _, .operation _ arguments _⟩ => revisables arguments
  | _ => []
termination_by structural operation => operation

def revisables : List Statement → List Revisable
  | [] => []
  | statement :: rest => ⟨statement, reviseStatement statement⟩ :: revisables rest
termination_by structural statements => statements

def revisableEntries : List (String × Statement) → List (String × Revisable)
  | [] => []
  | (key, statement) :: rest =>
    (key, ⟨statement, reviseStatement statement⟩) :: revisableEntries rest
termination_by structural entries => entries

end

/-- Declares what statements before an edit result in. A recorded result is taken as it is. -/
def Scope.carry (scope : Scope) : List Statement → Run Scope
  | [] => return scope
  | statement :: rest => do
    let result ← match (← Run.store).result? statement.id with
      | some result => pure result
      | none => scope.evaluate statement
    (scope.publish statement.name statement.id result).carry rest

namespace Edit

/-- Splits a program before the first statement that the edit concerns, and applies the edit to
that statement. An edit that concerns no statement splits nothing off. -/
def split (edit : Edit) (statements : List Statement) : List Statement × List Statement :=
  let start := (statements.findIdx? (·.containsId edit.changed.id)).getD 0
  let (before, behind) := statements.splitAt start
  (before, edit.list (behind.take 1) ++ behind.drop 1)

end Edit

namespace Scope

/-- Brings statements up to date. Those before an edit are carried over as they are. -/
def revise (scope : Scope) (statements : List Statement) (edit : Option Edit) :
    Run (List Statement) := do
  let (before, behind) := match edit with
    | some edit => edit.split statements
    | none => ([], statements)
  let inner ← scope.child.carry before
  let (revised, _) ← reviseEach (revisables behind) inner
  return before ++ revised

/-- Brings an operation up to date; the edit concerns its body. Other data is kept. -/
def reviseOperation (scope : Scope) (operation : Data) (edit : Option Edit) : Run Data :=
  match operation.value with
  | .operation name parameters body =>
    LivePipeline.reviseOperation scope operation.id name (revisables parameters) fun inner =>
      inner.revise body edit
  | _ => return operation

end Scope

end LivePipeline
