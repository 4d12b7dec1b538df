import LivePipeline.Proofs.Chains
import LivePipeline.Proofs.Correspondence

/-! Errors are sticky. Once a chain of calls has come to an error, the calls behind it are not made:
each passes the error on and records it as its own result, and nothing else happens. -/

namespace LivePipeline

/-- What data comes to when it is sent through a chain of calls. -/
def Scope.fold (scope : Scope) (data : Data) (operations : List Data) : Run Data := do
  let initial ← scope.evaluateNode data
  return (← runChain scope data initial (stages scope.caller operations)).1

/-- A statement is the fold of its data through its calls, of which the result is recorded. -/
theorem Scope.evaluate_eq_fold (scope : Scope) (statement : Statement) :
    scope.evaluate statement = (do
      let folded ← scope.fold statement.data statement.operations
      let result ← scope.resolve folded
      Run.setResult statement.id result
      return result) := by
  obtain ⟨id, data, operations, name, isOptional⟩ := statement
  rfl

/-! ## Recording one result for many calls -/

/-- Records the same data for each of the calls. -/
def Store.recordAll (data : Data) (store : Store) (operations : List Data) : Store :=
  operations.foldl (fun store operation => store.setResult operation.id data) store

namespace Store

variable (data : Data) (store : Store)

@[simp] theorem recordAll_cons (operation : Data) (rest : List Data) :
    store.recordAll data (operation :: rest) = (store.setResult operation.id data).recordAll data rest := rfl

@[simp] theorem recordAll_fingerprints (operations : List Data) :
    (store.recordAll data operations).fingerprints = store.fingerprints := by
  induction operations generalizing store with
  | nil => rfl
  | cons operation rest ih => exact ih (store.setResult operation.id data)

@[simp] theorem recordAll_instances (operations : List Data) :
    (store.recordAll data operations).instances = store.instances := by
  induction operations generalizing store with
  | nil => rfl
  | cons operation rest ih => exact ih (store.setResult operation.id data)

/-- Each of the calls has the data as its result, whichever of them was recorded last. -/
theorem recordAll_result?_of_mem {operations : List Data} {operation : Data} (among : operation ∈ operations) :
    (store.recordAll data operations).result? operation.id = some data := by
  have recorded (id : EntityId) : (store.recordAll data operations).result? id
      = if id ∈ operations.map Data.id then some data else store.result? id := by
    clear among
    induction operations generalizing store with
    | nil => rfl
    | cons first rest ih =>
      rw [recordAll_cons, ih, setResult, result?_record]
      by_cases behind : id ∈ rest.map Data.id <;> simp [behind]
  rw [recorded, if_pos (List.mem_map_of_mem among)]

/-- The entry of a node that is none of the calls stays, also in whether it is cacheable. -/
theorem recordAll_entry_of_absent {operations : List Data} {id : EntityId}
    (absent : ∀ operation ∈ operations, operation.id ≠ id) :
    Table.get? (store.recordAll data operations).results id = Table.get? store.results id := by
  induction operations generalizing store with
  | nil => rfl
  | cons operation rest ih =>
    rw [List.forall_mem_cons] at absent
    have kept : Table.get? (store.setResult operation.id data).results id = Table.get? store.results id :=
      Table.get?_insert_of_ne _ _ absent.1.symm
    exact (ih (store.setResult operation.id data) absent.2).trans kept

end Store

/-! ## Calls on an error -/

theorem Scope.skipBehind_of_isError {scope : Scope} (live : scope.isSkipping = false) {error : Data}
    (fails : error.isError) (branch : Option (String × Nat)) : scope.skipBehind error branch = some (.failed error) := by
  have unskipped : scope.skip = none := by simpa [isSkipping] using live
  simp [skipBehind, unskipped, fails]

/-- A call on an error is not made: whatever it names, and whatever its arguments are, it records
the error as its result. -/
theorem performCall_of_isError (caller : Caller) (scope : Scope) (live : scope.isSkipping = false) {error : Data}
    (fails : error.isError) (operation : Data) (arguments : List Pending) :
    performCall caller scope error operation arguments = (do
      Run.setResult operation.id error
      return error) := by
  have passed : callResult caller scope error operation arguments = pure error := by
    simp only [callResult, scope.skipBehind_of_isError live fails]
  rw [performCall, passed, pure_bind]

/-- Chains of calls on an error. By induction on the calls: each hands the same error to the next,
whatever has been narrowed meanwhile. -/
theorem runStages_of_isError (caller : Caller) {scope : Scope} (live : scope.isSkipping = false) {error : Data}
    (fails : error.isError) (operations : List Data) (narrowing : Option Narrowing) (receiver : Data) (world : World) :
    runStages scope narrowing receiver error (stages caller operations) world
      = ((error, operations), { world with store := world.store.recordAll error operations }) := by
  induction operations generalizing narrowing receiver world with
  | nil => rfl
  | cons operation rest ih =>
    have passed : (do
        let result ← performCall caller (scope.child.withNarrowing narrowing) error operation
          (pendingArguments caller operation)
        return (operation, result)) world
        = ((operation, error), { world with store := world.store.setResult operation.id error }) := by
      rw [performCall_of_isError caller (scope.child.withNarrowing narrowing) live fails]
      rfl
    refine (runStages_cons passed (stages caller rest)).trans ?_
    rw [ih]
    rfl

/-- A chain that is an error at some point is that error at its end. By induction on the calls up to
that point. -/
theorem runStages_append_of_isError (caller : Caller) {scope : Scope} (live : scope.isSkipping = false)
    (before behind : List Data) (narrowing : Option Narrowing) (receiver current : Data) {world after : World}
    {error : Data} {made : List Data}
    (runs : runStages scope narrowing receiver current (stages caller before) world = ((error, made), after))
    (fails : error.isError) :
    runStages scope narrowing receiver current (stages caller (before ++ behind)) world
      = ((error, made ++ behind), { after with store := after.store.recordAll error behind }) := by
  induction before generalizing narrowing receiver current world made with
  | nil =>
    cases runs
    exact runStages_of_isError caller live fails behind narrowing receiver after
  | cons operation rest ih =>
    obtain ⟨⟨result, middle⟩, calls⟩ : ∃ outcome, performCall caller (scope.child.withNarrowing narrowing) current
      operation (pendingArguments caller operation) world = outcome := ⟨_, rfl⟩
    have first : (do
        let result ← performCall caller (scope.child.withNarrowing narrowing) current operation
          (pendingArguments caller operation)
        return (operation, result)) world = ((operation, result), middle) := Run.bind_eq calls
    obtain ⟨⟨⟨final, others⟩, last⟩, continues⟩ : ∃ outcome,
      runStages scope (scope.checkCall middle.store.result? receiver narrowing operation) result result
        (stages caller rest) middle = outcome := ⟨_, rfl⟩
    have whole := (runStages_cons first (stages caller rest)).symm.trans runs
    rw [continues] at whole
    cases whole
    refine (runStages_cons first (stages caller (rest ++ behind))).trans ?_
    rw [ih _ _ _ continues]
    rfl

/-! ## Folds -/

/-- An error that the first calls of a statement come to is what all of them come to, and those
behind only record it: no identity is drawn, nothing is called outside, nothing is kept for reuse, no
object is made, and no other node gets a result. -/
theorem fold_passes_error_on (scope : Scope) (live : scope.isSkipping = false) (statement : Statement)
    (before behind : List Data) (split : statement.operations = before ++ behind) (world after : World) (error : Data)
    (folds : scope.fold statement.data before world = (error, after)) (fails : error.isError) :
    ∃ store, scope.fold statement.data statement.operations world = (error, { after with store := store })
      ∧ (∀ operation ∈ behind, store.result? operation.id = some error)
      ∧ (∀ id, (∀ operation ∈ behind, operation.id ≠ id) →
        Table.get? store.results id = Table.get? after.store.results id)
      ∧ store.fingerprints = after.store.fingerprints ∧ store.instances = after.store.instances := by
  refine ⟨after.store.recordAll error behind, ?_, fun operation among => ?_, fun id absent => ?_, ?_, ?_⟩
  · obtain ⟨⟨initial, middle⟩, starts⟩ : ∃ outcome, scope.evaluateNode statement.data world = outcome := ⟨_, rfl⟩
    obtain ⟨⟨⟨final, made⟩, last⟩, runs⟩ : ∃ outcome,
      runChain scope statement.data initial (stages scope.caller before) middle = outcome := ⟨_, rfl⟩
    have ends : scope.fold statement.data before world = (final, last) :=
      (Run.bind_eq starts).trans (Run.bind_eq runs)
    obtain ⟨rfl, rfl⟩ := Prod.mk.inj (ends.symm.trans folds)
    have continued := runStages_append_of_isError scope.caller live before behind none statement.data initial runs fails
    rw [split]
    exact (Run.bind_eq starts).trans (Run.bind_eq continued)
  · exact after.store.recordAll_result?_of_mem error among
  · exact after.store.recordAll_entry_of_absent error absent
  · exact after.store.recordAll_fingerprints error behind
  · exact after.store.recordAll_instances error behind

/-- A text whose second call names nothing, and a third call that would need an argument. -/
theorem fold_passes_unknown_call_on :
    let call (id name : String) (arguments : List Statement) : Data :=
      ⟨id, .unknown, .operation (some name) arguments []⟩
    let argument (id : String) : Statement := ⟨id, ⟨"word", .string, .text "b"⟩, [], none, false⟩
    let before := [call "first" "concat" [argument "given"], call "second" "nowhere" []]
    let behind := [call "third" "concat" [argument "unused"]]
    let statement : Statement := ⟨"statement", ⟨"text", .string, .text "a"⟩, before ++ behind, none, false⟩
    let scope : Scope := {}
    let error : Data :=
      ⟨EntityId.drawn 1, .error .typeError, .error "Operation `nowhere` cannot be chained on `string`"⟩
    scope.isSkipping = false ∧ (scope.fold statement.data before {}).1 = error ∧ error.isError
      ∧ (scope.fold statement.data statement.operations {}).1 = error := by
  intro call argument before behind statement scope error
  have fails : (scope.fold statement.data before {}).1 = error := by rfl
  obtain ⟨store, passed, _⟩ := fold_passes_error_on scope rfl statement before behind rfl {} _ error
    (Prod.ext fails rfl) rfl
  exact ⟨rfl, fails, rfl, congrArg Prod.fst passed⟩

end LivePipeline
