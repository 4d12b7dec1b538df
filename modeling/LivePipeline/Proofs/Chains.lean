import LivePipeline.Evaluation

/-! Runs of a chain of calls, one stage after the other. -/

namespace LivePipeline

theorem Run.bind_eq {run : Run α} {value : α} {world middle : World} (first : run world = (value, middle))
    {next : α → Run β} : (run >>= next) world = next value middle := by
  change next (run world).1 (run world).2 = _
  rw [first]

theorem Run.store_bind (next : Store → Run α) (world : World) : (Run.store >>= next) world = next world.store world := rfl

/-- A chain is its first stage and, behind it, the others. -/
theorem runStages_cons {scope : Scope} {narrowing : Option Narrowing} {receiver current operation result : Data}
    {stage : Stage} {world next : World}
    (first : stage current (scope.child.withNarrowing narrowing) world = ((operation, result), next)) (rest : List Stage) :
    runStages scope narrowing receiver current (stage :: rest) world
      = let behind := runStages scope (scope.checkCall next.store.result? receiver narrowing operation) result result rest next
        ((behind.1.1, operation :: behind.1.2), behind.2) := by
  exact Run.bind_eq first

/-! ## Checks -/

/-- The identity of a call, and the operation it names. -/
def Data.callFrame (operation : Data) : EntityId × Option String :=
  (operation.id, match operation.value with
    | .operation name _ _ => name
    | _ => none)

/-- The operations that can establish something about a variable. -/
def Operation.checkNames : List String := ["isTypeOf", "isEqual", "not", "and", "or"]

/-- Whether the last call of the statement is a check. -/
def Statement.endsInCheck (statement : Statement) : Bool :=
  statement.operations.getLast?.any fun call => call.callFrame.2.any (Operation.checkNames.contains ·)

theorem Scope.checkCall_eq_none {scope : Scope} {operation : Data}
    (other : operation.callFrame.2.any (Operation.checkNames.contains ·) = false) (results : EntityId → Option Data) (receiver : Data)
    (current : Option Narrowing) : scope.checkCall results receiver current operation = none := by
  obtain ⟨id, type, value⟩ := operation
  cases value with
  | operation name arguments body =>
    cases name with
    | none => rfl
    | some name =>
      unfold Scope.checkCall
      split <;> first | rfl | (exfalso; simp_all [Data.callFrame, Operation.checkNames])
  | _ => rfl

/-- Only the last call counts for what is known behind a chain. -/
theorem checkChain_eq_none {scope : Scope} {operations : List Data}
    (others : operations.getLast?.any (fun call => call.callFrame.2.any (Operation.checkNames.contains ·)) = false)
    (results : EntityId → Option Data) (receiver : Data) (current : Option Narrowing) (blank : operations = [] → current = none) :
    checkChain scope results receiver current operations = none := by
  induction operations generalizing receiver current with
  | nil => exact blank rfl
  | cons operation rest ih =>
    rw [checkChain]
    cases rest with
    | nil => exact Scope.checkCall_eq_none (by simpa using others) _ _ _
    | cons next rest => exact ih (by simpa using others) _ _ (by simp)

theorem Scope.checkStatement_eq_none {scope : Scope} {statement : Statement} (others : statement.endsInCheck = false) (store : Store) :
    scope.checkStatement store statement = none :=
  checkChain_eq_none others _ _ _ fun _ => rfl

end LivePipeline
