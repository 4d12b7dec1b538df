import LivePipeline.Scope

/-! What a chain of calls establishes about the variables it checks. A type test or a comparison
narrows the variable it is applied to; negation and the two connectives combine what is known. -/

namespace LivePipeline

/-- The type of a variable, or the fallback when there is none of that name. -/
def Scope.variableType (scope : Scope) (name : String) (fallback : DataType) : DataType :=
  match scope.variableNamed? name with
  | some found => found.data.type.dereference
  | none => fallback.dereference

/-- What a type test or a comparison of `receiver` with data of type `target` establishes. Only an
undefined value can be ruled out by a comparison that fails. -/
def Scope.checkOf (scope : Scope) (receiver : Data) (isTypeTest : Bool) (target : DataType) :
    Option Narrowing :=
  receiver.reference?.map fun (name, _) =>
    let known := scope.variableType name receiver.type
    { narrowed := [(name, known.narrow target)]
      inverse :=
        if isTypeTest || target.kind == .undefined then [(name, known.exclude target)] else [] }

mutual

/-- What is known after one more call. `results` holds the results of calls made before. -/
def Scope.checkCall (scope : Scope) (results : EntityId → Option Data) (receiver : Data)
    (current : Option Narrowing) : Data → Option Narrowing
  | ⟨_, _, .operation (some name) parameters _⟩ =>
    match name with
    | "isTypeOf" => parameters.head?.bind fun argument =>
      scope.checkOf receiver true argument.resultType
    | "isEqual" => parameters.head?.bind fun argument =>
      scope.checkOf receiver false argument.resultType
    | "not" => current.map Narrowing.swap
    | "and" => (checkFirst scope results parameters).map fun right =>
      (current.getD {}).both (right.getD {})
    | "or" => (checkFirst scope results parameters).map fun right =>
      (current.getD {}).either (right.getD {})
    | _ => none
  | _ => none
termination_by structural operation => operation

/-- What the first argument establishes; `none` when there is no argument. -/
def checkFirst (scope : Scope) (results : EntityId → Option Data) :
    List Statement → Option (Option Narrowing)
  | [] => none
  | ⟨_, data, operations, _, _⟩ :: _ => some (checkChain scope results data none operations)
termination_by structural arguments => arguments

/-- What is known behind a chain of calls. Calls after the first are applied to results. -/
def checkChain (scope : Scope) (results : EntityId → Option Data) (receiver : Data)
    (current : Option Narrowing) : List Data → Option Narrowing
  | [] => current
  | operation :: rest =>
    checkChain scope results ((results operation.id).getD default)
      (scope.checkCall results receiver current operation) rest
termination_by structural operations => operations

end

/-- What a whole statement establishes. -/
def Scope.checkStatement (scope : Scope) (store : Store) (statement : Statement) : Option Narrowing :=
  checkChain scope store.result? statement.data none statement.operations

end LivePipeline
