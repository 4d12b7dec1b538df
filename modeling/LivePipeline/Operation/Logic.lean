import LivePipeline.Operation
import LivePipeline.Evaluation.Fault

/-! Operations on booleans. The connectives and the choice evaluate their arguments inside of the
branch that the receiver's check selects, and what cannot be reached is not run. -/

namespace LivePipeline.Operation

/-- Evaluates argument `index` of a lazy operation in a branch. When a type is asked for, a result
of another type is an error. -/
def branchArgument (name : String) (scope : Scope) (data : Data) (index : Nat) (argument : Pending)
    (branch : Branch) (expected : Option DataType) : Run Data := do
  let skip := scope.skipBehind data (some (name, index))
  let value ← argument.evaluate (((scope.enter branch).withSkip skip).expecting expected)
  match expected with
  | some type =>
    if skip.isNone && !value.isError && !value.type.compatible type then
      (Fault.wrongParameter name index (scope.signature type) (scope.signature value.type)).data
    else return value
  | none => return value

/-- A connective: the receiver decides alone when it equals `decisive`, else the argument does. -/
def connective (name : String) (decisive : Bool) (branch : Branch) : LazyHandler :=
  fun scope data arguments => do
    match arguments with
    | [] => throw (.missingBranches name 1)
    | argument :: _ =>
      let left ← expectBool name data
      let right ← branchArgument name scope data 0 argument branch (some .boolean)
      if left == decisive then Data.boolean decisive
      else if right.isError then return right
      else Data.boolean (← expectBool name right)

def negate : EagerHandler := fun _ _ data _ => do
  Data.boolean (!(← expectBool "not" data))

/-- The type of a choice: the union of both branches, with the chosen one active. -/
def choiceType (onTrue onFalse chosen : DataType) : DataType :=
  match DataType.unionOf [onTrue, onFalse] with
  | .union members _ => .union members ((members.findIdx? (chosen.interchangeable ·)).or (some 0))
  | other => other

def choose : LazyHandler := fun scope data arguments => do
  match arguments with
  | whenTrue :: whenFalse :: _ =>
    let condition ← expectBool "thenElse" data
    let onTrue ← branchArgument "thenElse" scope data 0 whenTrue .narrowed none
    let onFalse ← branchArgument "thenElse" scope data 1 whenFalse .inverse none
    let chosen := if condition then onTrue else onFalse
    if chosen.isError then return chosen
    Data.make (choiceType onTrue.type onFalse.type chosen.type) chosen.value
  | _ => throw (.missingBranches "thenElse" 2)

def logicFamily : List Builtin :=
  let other := takes .boolean [.named "value" .boolean]
  [.lazy "and" "boolean" other returnsBoolean (connective "and" false .narrowed),
  .lazy "or" "boolean" other returnsBoolean (connective "or" true .inverse),
  .eager "not" "boolean" (takes .boolean []) returnsBoolean negate,
  .lazy "thenElse" "boolean" (takes .boolean [.named "true" .unknown, .named "false" .unknown])
    (fun _ arguments => DataType.unionOf arguments) choose]

end LivePipeline.Operation
