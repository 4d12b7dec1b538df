import LivePipeline.Proofs.Agreement
import LivePipeline.Proofs.NormalForm.Evaluation
import LivePipeline.Proofs.StaleResults

/-! The two ways to choose between statements agree: the condition, which evaluation knows itself, and the operation
`thenElse` behind a chain. Both come down to the same run of the two branches. They start it in worlds that differ in one
result, that of the tested statement, and evaluation is blind to such a result as long as it is no reference. -/

namespace LivePipeline

/-! ## Chains -/

/-- What a statement's chain comes to. Evaluation then replaces a reference by the variable's data. -/
def Scope.chain (scope : Scope) (statement : Statement) : Run Data := do
  let initial ← scope.evaluateNode statement.data
  let (final, _) ← runChain scope statement.data initial (stages scope.caller statement.operations)
  return final

/-- Replaces a reference, and records the outcome. -/
def Scope.conclude (scope : Scope) (id : EntityId) (final : Data) : Run Data := do
  let result ← scope.resolve final
  Run.setResult id result
  return result

theorem Scope.evaluate_eq (scope : Scope) (statement : Statement) :
    scope.evaluate statement = scope.chain statement >>= scope.conclude statement.id := by
  obtain ⟨id, data, operations, name, isOptional⟩ := statement
  rfl

/-- A chain that is continued by one more call: the call is made on what the chain comes to, and nothing is narrowed there
when the chain ends with no check. -/
theorem runStages_continued (caller : Caller) (scope : Scope) {operations : List Data} (call : Data)
    (others : operations.getLast?.any (fun call => call.callFrame.2.any (Operation.checkNames.contains ·)) = false)
    {narrowing : Option Narrowing} (blank : operations = [] → narrowing = none) (receiver current : Data) (world : World) :
    let before := runStages scope narrowing receiver current (stages caller operations) world
    let after := runStages scope narrowing receiver current (stages caller (operations ++ [call])) world
    (after.1.1, after.2) = performCall caller scope.child before.1.1 call (pendingArguments caller call) before.2 := by
  induction operations generalizing narrowing receiver current world with
  | nil =>
    cases blank rfl
    rfl
  | cons operation rest ih =>
    obtain ⟨⟨result, next⟩, performs⟩ : ∃ outcome, performCall caller (scope.child.withNarrowing narrowing) current operation
      (pendingArguments caller operation) world = outcome := ⟨_, rfl⟩
    have made : (do
        let result ← performCall caller (scope.child.withNarrowing narrowing) current operation
          (pendingArguments caller operation)
        return (operation, result)) world = ((operation, result), next) := Run.bind_eq performs
    dsimp only
    rw [List.cons_append, stages, stages, runStages_cons made, runStages_cons made]
    cases rest with
    | nil =>
      have checked : scope.checkCall next.store.result? receiver narrowing operation = none :=
        Scope.checkCall_eq_none (by simpa using others) _ _ _
      exact ih rfl (fun _ => checked) result result next
    | cons second rest => exact ih (by simpa using others) (by simp) result result next

theorem Scope.chain_continued (scope : Scope) {statement : Statement} (others : statement.endsInCheck = false) (call : Data)
    (world : World) :
    let before := scope.chain statement world
    scope.chain { statement with operations := statement.operations ++ [call] } world
      = scope.child.perform before.1 call before.2 := by
  have continued := runStages_continued scope.caller scope call others (fun _ => rfl) statement.data
    (scope.evaluateNode statement.data world).1 (scope.evaluateNode statement.data world).2
  exact continued

/-! ## Branches -/

/-- Both branches, the one that is not taken with everything skipped. -/
def Scope.branches (scope : Scope) (taken : Bool) (whenTrue whenFalse : Statement) : Run (Data × Data) := do
  let onTrue ← evaluateStatement scope.caller whenTrue (scope.child.withSkip (scope.skipUnless taken))
  let onFalse ← evaluateStatement scope.caller whenFalse (scope.child.withSkip (scope.skipUnless !taken))
  return (onTrue, onFalse)

/-- The outcome of the branch that is taken. -/
def chosenOf (taken : Bool) (outcomes : Data × Data) : Data := if taken then outcomes.1 else outcomes.2

section

variable {scope : Scope} {taken : Bool}

/-- The test of a condition is evaluated like any statement, and establishes nothing when it ends with no check. -/
theorem evaluate_condition {test : Statement} (others : test.endsInCheck = false) (whenTrue whenFalse : Statement)
    {world after : World} {result : Data} (tests : scope.evaluate test world = (result, after)) (id own : EntityId)
    (type : DataType) (name : Option String) (isOptional : Bool) :
    scope.evaluate ⟨id, ⟨own, type, .condition test whenTrue whenFalse⟩, [], name, isOptional⟩ world
      = (do
          if result.isError then scope.conclude id result
          else
            let taken := result.bool? == some true
            scope.conclude id (chosenOf taken (← scope.branches taken whenTrue whenFalse))) after := by
  have tested : evaluateStatement scope.caller test scope.child world = (result, after) := by
    rw [evaluateStatement_child]
    exact tests
  have conditioned : scope.evaluate ⟨id, ⟨own, type, .condition test whenTrue whenFalse⟩, [], name, isOptional⟩
      = evaluateCondition scope ⟨test, evaluateStatement scope.caller test⟩
        ⟨whenTrue, evaluateStatement scope.caller whenTrue⟩ ⟨whenFalse, evaluateStatement scope.caller whenFalse⟩
        >>= scope.conclude id := rfl
  rw [conditioned, evaluateCondition, bind_assoc, Run.store_bind, Scope.checkStatement_eq_none others, bind_assoc,
    Run.bind_eq tested]
  by_cases failed : result.isError = true
  · rw [if_pos failed, if_pos failed]
    rfl
  · rw [if_neg failed, if_neg failed]
    rfl

/-- The operation `thenElse`. -/
def choice : Builtin :=
  .lazy "thenElse" "boolean" (Operation.takes .boolean [.named "true" .unknown, .named "false" .unknown])
    (fun _ arguments => DataType.unionOf arguments) Operation.choose

theorem builtins_choice : builtins.filter (·.name == "thenElse") = [choice] := rfl

/-- No operation of the program or of the host is named like the choice. -/
def Scope.LeavesChoice (scope : Scope) : Prop :=
  ∀ callable ∈ scope.userOperations ++ scope.extensions.map .extension, callable.name ≠ "thenElse"

theorem Scope.LeavesChoice.find? (leaves : scope.LeavesChoice) {data : Data} (boolean : data.type.dereference = .boolean) :
    scope.find? data "thenElse" = some (.builtin choice) := by
  have others : (scope.userOperations ++ scope.extensions.map Callable.extension).find? (fun callable =>
      callable.name == "thenElse" && data.supports (callable.parameters data)) = none := by
    rw [List.find?_eq_none]
    intro callable among
    simp [leaves callable among]
  have supported : data.supports (choice.parameters data) = true := by
    change data.supports (Parameter.receiver .boolean :: _) = true
    rw [Data.supports, boolean]
    rfl
  rw [Scope.find?, callables, List.find?_append, others, Option.none_or, List.find?_map]
  have fits : builtins.find? (fun builtin => builtin.name == "thenElse" && data.supports (builtin.parameters data))
      = some choice := by
    have filtered : (builtins.filter (·.name == "thenElse")).find? (fun builtin => data.supports (builtin.parameters data))
        = some choice := by
      rw [builtins_choice, List.find?_singleton, if_pos supported]
    rw [List.find?_filter] at filtered
    simpa only [Bool.decide_and, Bool.decide_eq_true] using filtered
  exact congrArg (Option.map Callable.builtin) fits

/-- A chosen result is typed anew, unless it is an error. -/
def retypeChosen (taken : Bool) (outcomes : Data × Data) : Run Data :=
  if (chosenOf taken outcomes).isError then return chosenOf taken outcomes
  else
    Data.make (Operation.choiceType outcomes.1.type outcomes.2.type (chosenOf taken outcomes).type)
      (chosenOf taken outcomes).value

theorem retypeChosen_retypes (taken : Bool) (outcomes : Data × Data) (world : World) :
    let made := retypeChosen taken outcomes world
    let outcome := chosenOf taken outcomes
    (made.1 = outcome ∨ outcome.isError = false ∧ made.1.value = outcome.value) ∧ made.2.events = world.events := by
  unfold retypeChosen
  split
  · exact ⟨.inl rfl, rfl⟩
  · next sound => exact ⟨.inr ⟨Bool.eq_false_of_not_eq_true sound, rfl⟩, rfl⟩

/-- An argument is evaluated like a branch of a condition. -/
theorem branchArgument_choice (live : scope.skip = none) {data : Data} (sound : data.isError = false)
    (decides : data.bool? = some taken) (argument : Pending) :
    Operation.branchArgument "thenElse" (scope.child.withSkip none) data 0 argument .narrowed none
        = argument.evaluate (scope.child.withSkip (scope.skipUnless taken))
      ∧ Operation.branchArgument "thenElse" (scope.child.withSkip none) data 1 argument .inverse none
        = argument.evaluate (scope.child.withSkip (scope.skipUnless !taken)) := by
  have skips (index : Nat) (reached : Bool) (branch : index = 0 ∧ reached = taken ∨ index = 1 ∧ reached = !taken) :
      (scope.child.withSkip none).skipBehind data (some ("thenElse", index)) = scope.skipUnless reached := by
    obtain ⟨rfl, same⟩ | ⟨rfl, same⟩ := branch <;> cases taken <;> cases same <;>
      simp [Scope.skipBehind, Scope.skipUnless, Scope.withSkip, Scope.child, sound, decides, live]
  constructor
  · rw [Operation.branchArgument, skips 0 taken (.inl ⟨rfl, rfl⟩)]
    rfl
  · rw [Operation.branchArgument, skips 1 (!taken) (.inr ⟨rfl, rfl⟩)]
    rfl

/-- The call of `thenElse` on a boolean runs the branches. -/
theorem callResult_choice (live : scope.skip = none) (leaves : scope.LeavesChoice) (id : EntityId) (type : DataType)
    (whenTrue whenFalse : Statement) (body : List Statement) {data : Data} (sound : data.isError = false)
    (boolean : data.type.dereference = .boolean) (decides : data.bool? = some taken) :
    let call : Data := ⟨id, type, .operation (some "thenElse") [whenTrue, whenFalse] body⟩
    callResult scope.caller scope.child data call (pendingArguments scope.caller call)
      = scope.branches taken whenTrue whenFalse >>= retypeChosen taken := by
  intro call
  have unskipped : scope.child.skipBehind data none = none := by
    simp [Scope.skipBehind, Scope.child, live, sound]
  have found : scope.child.find? data "thenElse" = some (.builtin choice) := leaves.find? boolean
  have invoked : callResult scope.caller scope.child data call (pendingArguments scope.caller call)
      = Attempt.settle (Operation.choose (scope.child.withSkip none) data (pendings scope.caller [whenTrue, whenFalse])) := by
    rw [callResult, unskipped]
    simp only [call, found]
    rfl
  have read : Operation.expectBool "thenElse" data = .ok taken := by rw [Operation.expectBool, Operation.expect, decides]
  rw [invoked]
  simp only [pendings, Operation.choose, read, (branchArgument_choice live sound decides _).1,
    (branchArgument_choice live sound decides _).2]
  -- Behind the branches nothing fails any more.
  have settled (onTrue onFalse : Data) : Attempt.settle (if (chosenOf taken (onTrue, onFalse)).isError then
        pure (chosenOf taken (onTrue, onFalse))
      else
        liftM (Data.make (Operation.choiceType onTrue.type onFalse.type (chosenOf taken (onTrue, onFalse)).type)
          (chosenOf taken (onTrue, onFalse)).value)) = retypeChosen taken (onTrue, onFalse) := by
    rw [retypeChosen]
    split <;> rfl
  simp only [Scope.branches, bind_assoc, pure_bind, ← settled]
  rfl

/-- The world in which the node has the result. -/
def World.recording (world : World) (id : EntityId) (data : Data) : World := { world with store := world.store.setResult id data }

theorem perform_choice (live : scope.skip = none) (leaves : scope.LeavesChoice) (id : EntityId) (type : DataType)
    {whenTrue whenFalse : Statement} (body : List Statement) {data : Data} (sound : data.isError = false)
    (boolean : data.type.dereference = .boolean) (decides : data.bool? = some taken) {world after : World}
    {outcomes : Data × Data} (runs : scope.branches taken whenTrue whenFalse world = (outcomes, after)) :
    let made := retypeChosen taken outcomes after
    scope.child.perform data ⟨id, type, .operation (some "thenElse") [whenTrue, whenFalse] body⟩ world
      = (made.1, made.2.recording id made.1) := by
  have called : callResult scope.caller scope.child data ⟨id, type, .operation (some "thenElse") [whenTrue, whenFalse] body⟩
      (pendings scope.caller [whenTrue, whenFalse]) world = retypeChosen taken outcomes after := by
    refine (congrFun (callResult_choice live leaves id type whenTrue whenFalse body sound boolean decides) world).trans ?_
    exact Run.bind_eq runs
  exact Run.bind_eq called

/-- A call on an error passes it on. -/
theorem perform_failed (live : scope.skip = none) {data : Data} (failed : data.isError = true) (call : Data) (world : World) :
    scope.child.perform data call world = (data, world.recording call.id data) := by
  have skips : scope.child.skipBehind data none = some (.failed data) := by
    simp [Scope.skipBehind, Scope.child, live, failed]
  rw [Scope.perform, performCall, callResult, skips]
  rfl

/-! ## A result that does not matter -/

theorem Table.get?_filter_ne (table : Table α) (key other : String) :
    Table.get? (table.filter (·.1 ≠ key)) other = if other = key then none else Table.get? table other := by
  induction table with
  | nil => simp [get?]
  | cons entry rest ih =>
    obtain ⟨name, value⟩ := entry
    by_cases removed : name = key
    · subst removed
      rw [List.filter_cons_of_neg (by simp), ih]
      split
      · rfl
      · next differs => rw [get?, if_neg (Ne.symm differs)]
    · rw [List.filter_cons_of_pos (by simpa using removed), get?, get?, ih]
      split
      · next same => rw [if_neg fun this => removed (same.trans this)]
      · rfl

theorem branches_blind {stale : EntityId → Option Data} (plain : ∀ id data, stale id = some data → data.reference? = none)
    (scope : Scope) (taken : Bool) (whenTrue whenFalse : Statement) :
    Run.AlwaysBlind stale (scope.branches taken whenTrue whenFalse) := by
  have statements := (blind_steps plain (callerWithin_blind plain _ : scope.caller.Blind stale)).ofStatement
  exact .bind ((statements whenTrue).always _) fun _ => .bind ((statements whenFalse).always _) fun _ => .pure _

/-- Whether a result that is no reference is recorded for a node before the branches are run, or one that was there before
stays, does not matter to them. -/
theorem branches_recorded (scope : Scope) (taken : Bool) (whenTrue whenFalse : Statement) (world : World) (id : EntityId)
    {data : Data} (firm : data.reference? = none)
    (old : ∀ found, world.store.result? id = some found → found.reference? = none) :
    let one := scope.branches taken whenTrue whenFalse (world.recording id data)
    let two := scope.branches taken whenTrue whenFalse world
    one.1 = two.1 ∧ one.2.forgetful = two.2.forgetful := by
  -- Both worlds lie over the one in which the node has no result.
  let bare : World := { world with store := { world.store with results := world.store.results.filter (·.1 ≠ id) } }
  have lacks (other : EntityId) : bare.store.result? other = if other = id then none else world.store.result? other := by
    rw [Store.result?, Table.get?_filter_ne]
    split <;> rfl
  have blind {stale : EntityId → Option Data} (plain : ∀ id data, stale id = some data → data.reference? = none) {other : World}
      (overlaid : Overlaid stale bare other) :=
    branches_blind plain scope taken whenTrue whenFalse ∅ bare other overlaid (by simp)
  have recorded : Overlaid (fun other => if other = id then some data else none) bare (world.recording id data) := by
    refine ⟨rfl, rfl, rfl, rfl, fun other => ?_⟩
    rw [lacks]
    refine (Store.result?_record _ false id other _).trans ?_
    split <;> simp
  have kept : Overlaid (fun other => if other = id then world.store.result? id else none) bare world := by
    refine ⟨rfl, rfl, rfl, rfl, fun other => ?_⟩
    rw [lacks]
    split
    · next same => rw [same, Option.none_or]
    · rw [Option.or_none]
  obtain ⟨same, overlaid, -⟩ := blind (by
    intro other found given
    split at given
    · cases given; exact firm
    · cases given) recorded
  obtain ⟨same', overlaid', -⟩ := blind (by
    intro other found given
    split at given
    · exact old found given
    · cases given) kept
  exact ⟨same.trans same'.symm, overlaid.forgetful_eq.trans overlaid'.forgetful_eq.symm⟩

end

/-! ## Agreement -/

/-- The statement's chain comes to no reference, and none is remembered for the statement when it ends. -/
structure Scope.Settles (scope : Scope) (statement : Statement) (world : World) : Prop where
  firm : (scope.chain statement world).1.reference? = none
  stored : ∀ data, (scope.chain statement world).2.store.result? statement.id = some data → data.reference? = none

/-- A chain settles where everything that it can get at is in normal form. -/
theorem Scope.Settles.of_normal {scope : Scope} (normal : scope.Normal) (statement : Statement) {world : World}
    (fingerprints : ∀ key data, world.store.fingerprint? key = some data → data.Normal)
    (instances : ∀ id external, world.store.instance? id = some external → external.Normal)
    (stored : ∀ data, world.store.result? statement.id = some data → data.reference? = none) :
    scope.Settles statement world := by
  have firm {data : Data} (known : data.Normal) : data.reference? = none := by
    obtain ⟨_, _, value⟩ := data
    cases value with
    | reference name target => exact known.elim
    | _ => rfl
  have provides := normal.provides world.store.result?
  have calls : scope.caller.Upholds (.normal world.store.result?) := callerWithin_normal _ _
  have upholds : Run.Upholds (.normal world.store.result?) (scope.chain statement) Data.Normal := by
    refine .bind ((calls.node statement.data).evaluate scope provides) fun initial start => ?_
    refine .bind (runStages_upholds (fun _ => True) provides (stages_uphold calls fun operation _ => ⟨trivial, calls.node operation⟩)
      none statement.data start) fun outcome known => .pure known.1
  obtain ⟨after, known⟩ := upholds world ⟨fun _ _ => .inr, fingerprints, instances⟩
  refine ⟨firm known, fun data found => ?_⟩
  obtain new | old := after.results _ data found
  · exact firm new
  · exact stored data old

/-- The same value, the same error if it is one, and the same calls that left the program. -/
structure Agree (one two : Data × World) : Prop where
  value : two.1.value = one.1.value
  error : two.1.error? = one.1.error?
  events : two.2.events = one.2.events

/-- Data that was typed anew, and is no error, concludes alike. -/
theorem Scope.conclude_agree (scope : Scope) {final retyped : Data}
    (same : retyped = final ∨ final.isError = false ∧ retyped.value = final.value) (id id' : EntityId) {world world' : World}
    (events : world'.events = world.events) : Agree (scope.conclude id final world) (scope.conclude id' retyped world') := by
  obtain ⟨own, type, value⟩ := final
  obtain ⟨own', type', value'⟩ := retyped
  have values : value' = value := by
    obtain same | ⟨-, same⟩ := same
    · cases same; rfl
    · exact same
  subst values
  cases value' with
  | reference name target =>
    simp only [conclude, resolve]
    cases scope.variableNamed? name with
    | some found => exact ⟨rfl, rfl, events⟩
    | none => exact ⟨rfl, rfl, events⟩
  | error reason =>
    obtain same | ⟨sound, -⟩ := same
    · cases same
      exact ⟨rfl, rfl, events⟩
    · cases sound
  | _ => exact ⟨rfl, rfl, events⟩

/-- A condition and the operation `thenElse` behind the tested statement agree. -/
theorem condition_agrees_with_choice (scope : Scope) (live : scope.skip = none) (leaves : scope.LeavesChoice) (world : World)
    (test whenTrue whenFalse : Statement) (others : test.endsInCheck = false) (settles : scope.Settles test world)
    (decides : let result := (scope.evaluate test world).1
      result.isError = true ∨ result.type.dereference = .boolean ∧ result.bool?.isSome)
    (id own callId : EntityId) (type callType : DataType) (name : Option String) (isOptional : Bool) (body : List Statement) :
    let condition : Statement := ⟨id, ⟨own, type, .condition test whenTrue whenFalse⟩, [], name, isOptional⟩
    let call : Data := ⟨callId, callType, .operation (some "thenElse") [whenTrue, whenFalse] body⟩
    let chosen : Statement := { test with operations := test.operations ++ [call] }
    Agree (scope.evaluate condition world) (scope.evaluate chosen world) := by
  intro condition call chosen
  obtain ⟨⟨result, after⟩, chained⟩ : ∃ outcome, scope.chain test world = outcome := ⟨_, rfl⟩
  obtain ⟨firm, stored⟩ := settles
  rw [chained] at firm stored
  have tested : scope.evaluate test world = (result, after.recording test.id result) := by
    rw [scope.evaluate_eq, Run.bind_eq chained, Scope.conclude, scope.resolve_eq firm]
    rfl
  rw [tested] at decides
  -- The other side is the chain, continued by one call.
  have continued : scope.evaluate chosen world = (scope.child.perform result call >>= scope.conclude test.id) after := by
    have chain := scope.chain_continued others call world
    rw [chained] at chain
    rw [scope.evaluate_eq]
    exact Run.bind_eq chain
  rw [evaluate_condition others whenTrue whenFalse tested, continued]
  by_cases failed : result.isError = true
  · rw [if_pos failed, Run.bind_eq (perform_failed live failed call after)]
    exact scope.conclude_agree (.inl rfl) id test.id rfl
  · obtain ⟨boolean, known⟩ := decides.resolve_left failed
    obtain ⟨taken, decides⟩ := Option.isSome_iff_exists.mp known
    have sound := Bool.eq_false_of_not_eq_true failed
    have answer : (result.bool? == some true) = taken := by
      rw [decides]
      cases taken <;> rfl
    obtain ⟨⟨outcomes, second⟩, runs⟩ : ∃ outcome, scope.branches taken whenTrue whenFalse after = outcome := ⟨_, rfl⟩
    obtain ⟨⟨recorded, first⟩, runs'⟩ : ∃ outcome,
      scope.branches taken whenTrue whenFalse (after.recording test.id result) = outcome := ⟨_, rfl⟩
    obtain ⟨same, forgetful⟩ := branches_recorded scope taken whenTrue whenFalse after test.id firm stored
    rw [runs, runs'] at same forgetful
    cases same
    obtain ⟨retypes, events⟩ := retypeChosen_retypes taken outcomes second
    rw [if_neg failed, answer, Run.bind_eq (perform_choice live leaves callId callType body sound boolean decides runs)]
    rw [Run.bind_eq runs']
    exact scope.conclude_agree retypes id test.id (events.trans (congrArg World.events forgetful).symm)

/-- A text with a known beginning is greeted, by the condition and by `thenElse`. -/
theorem condition_agrees_with_choice_greeting :
    let word (id text : String) : Statement := ⟨id, ⟨id ++ "Data", .string, .text text⟩, [], none, false⟩
    let call (id name : String) (arguments : List Statement) : Data := ⟨id, .unknown, .operation (some name) arguments []⟩
    let test : Statement := ⟨"test", ⟨"use", .reference .string, .reference "name" "declared"⟩,
      [call "check" "startsWith" [word "start" "A"]], none, false⟩
    let greeting : Statement := { word "greeting" "Hello " with operations := [call "join" "concat" [word "mark" "!"]] }
    let condition : Statement := ⟨"condition", ⟨"choice", .unknown, .condition test greeting (word "other" "?")⟩, [], none, false⟩
    let chosen : Statement := { test with operations := test.operations ++ [call "choose" "thenElse" [greeting, word "other" "?"]] }
    let scope : Scope := { bindings := [("name", ⟨"declared", ⟨"data", .string, .text "Ann"⟩⟩)] }
    Agree (scope.evaluate condition {}) (scope.evaluate chosen {}) ∧ (scope.evaluate condition {}).1.text? = some "Hello !" := by
  intro word call test greeting condition chosen scope
  have leaves : scope.LeavesChoice := by
    intro callable among
    cases among
  have normal : scope.Normal := ⟨by simp [scope, Value.Normal], by simp [scope], by simp [scope]⟩
  have settles : scope.Settles test {} := by
    refine .of_normal normal test (fun key data found => ?_) (fun id external found => ?_) fun data found => ?_
    all_goals cases found
  refine ⟨condition_agrees_with_choice scope rfl leaves {} test greeting (word "other" "?") rfl settles (.inr ⟨rfl, rfl⟩)
    "condition" "choice" "choose" .unknown .unknown none false [], rfl⟩

/-- They differ where a reference is left over. An object that holds a reference hands it out as it is: as the result of the
test it is replaced by the variable before the condition looks at it, while `thenElse` gets the reference itself. -/
theorem choice_stops_at_reference :
    let word (id text : String) : Statement := ⟨id, ⟨id ++ "Data", .string, .text text⟩, [], none, false⟩
    let call (id name : String) (arguments : List Statement) : Data := ⟨id, .unknown, .operation (some name) arguments []⟩
    let entry : Statement := ⟨"entry", ⟨"use", .reference .boolean, .reference "y" "declaredY"⟩, [], none, false⟩
    let object : Data := ⟨"object", .object [("flag", .boolean)] ["flag"], .record [("flag", entry)]⟩
    let scope : Scope :=
      { bindings := [("y", ⟨"declaredY", ⟨"truth", .boolean, .boolean true⟩⟩), ("x", ⟨"declaredX", object⟩)] }
    let test : Statement := ⟨"test", ⟨"receiver", .reference object.type, .reference "x" "declaredX"⟩,
      [call "look" "get" [word "key" "flag"]], none, false⟩
    let condition : Statement := ⟨"condition", ⟨"choice", .unknown, .condition test (word "p" "yes") (word "q" "no")⟩, [], none, false⟩
    let chosen : Statement := { test with operations := test.operations ++ [call "choose" "thenElse" [word "p" "yes", word "q" "no"]] }
    (∀ entry ∈ scope.bindings, entry.2.data.reference? = none) ∧ scope.LeavesChoice ∧ (scope.evaluate test {}).1.bool? = some true
      ∧ (scope.evaluate condition {}).1.text? = some "yes"
      ∧ (scope.evaluate chosen {}).1.error?
        = some (.runtimeError, "`thenElse` expects boolean argument. Got `\"<reference y>\"` instead") := by
  refine ⟨?_, ?_, rfl, rfl, ?_⟩
  · simp [Data.reference?]
  · intro callable among
    cases among
  · rfl

/-- A reference may also be left over from an earlier run, where a call with the identity of the tested statement passed on a
reference to an error. A check inside of the branch that comes behind such a call is taken for a check of that variable,
unless the test of a condition has put its own result there. -/
theorem choice_reads_earlier_reference :
    let word (id text : String) : Statement := ⟨id, ⟨id ++ "Data", .string, .text text⟩, [], none, false⟩
    let truth (id : String) : Statement := ⟨id, ⟨id ++ "Data", .boolean, .boolean true⟩, [], none, false⟩
    let call (id name : String) (arguments : List Statement) : Data := ⟨id, .unknown, .operation (some name) arguments []⟩
    let scope : Scope := { bindings := [("v", ⟨"declared", ⟨"letter", .string, .text "a"⟩⟩)] }
    let left : Data := ⟨"left", .reference (.error .customError), .reference "v" "declared"⟩
    let earlier : World := (({ scope with skip := some (.failed left) }).perform (truth "any").data (call "test" "not" []) {}).2
    let checked : Statement :=
      { word "checked" "a" with operations := [call "test" "isEqual" [word "same" "a"], call "type" "isTypeOf" [truth "sample"]] }
    let shouted : Statement := ⟨"shouted", ⟨"use", .reference .string, .reference "v" "declared"⟩,
      [call "join" "concat" [word "mark" "!"]], none, false⟩
    let inner : Statement := ⟨"inner", ⟨"choice", .unknown, .condition checked shouted (word "q" "no")⟩, [], none, false⟩
    let test := truth "test"
    let condition : Statement := ⟨"condition", ⟨"choice", .unknown, .condition test inner (word "q" "no")⟩, [], none, false⟩
    let chosen : Statement := { test with operations := [call "choose" "thenElse" [inner, word "q" "no"]] }
    (scope.evaluate condition earlier).1.text? = some "a!"
      ∧ (scope.evaluate chosen earlier).1.error? = some (.typeError, "Operation `concat` cannot be chained on `never`") := by
  refine ⟨?_, ?_⟩ <;> rfl

end LivePipeline
