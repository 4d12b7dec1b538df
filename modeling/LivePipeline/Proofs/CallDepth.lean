import LivePipeline.Proofs.Levels
import LivePipeline.Proofs.Correspondence.Evaluation
import LivePipeline.Proofs.Correspondence.Revision

/-! Evaluation and revision end because calls nest no deeper than the limit. The equations of the
language say how a statement is evaluated by evaluating the statements inside of it and the bodies
of the operations it calls. What they make of a statement depends only on smaller statements at the
same depth and on statements one level deeper, so they have exactly one solution up to the limit. -/

namespace LivePipeline

/-- The scope of an operation that is called here: one level deeper. -/
def Scope.deeper (scope : Scope) : Scope := { scope.child with callDepth := scope.callDepth + 1 }

/-- Evaluates statements. -/
abbrev Evaluator := Statement → Scope → Run Data

namespace Evaluator

variable (evaluate : Evaluator)

def pend (statement : Statement) : Pending := ⟨statement, evaluate statement⟩

def pendEntry (entry : String × Statement) : String × Pending := (entry.1, evaluate.pend entry.2)

/-- The arguments of a call. -/
def arguments (operation : Data) : List Pending :=
  match operation.value with
  | .operation _ arguments _ => arguments.map evaluate.pend
  | _ => []

/-- The value of data, given how the statements inside are evaluated. -/
def node : Data → Scope → Run Data
  | ⟨id, type, value⟩, scope =>
    match value with
    | .reference name target => scope.resolve ⟨id, type, .reference name target⟩
    | .condition test whenTrue whenFalse =>
      evaluateCondition scope (evaluate.pend test) (evaluate.pend whenTrue) (evaluate.pend whenFalse)
    | .array items => evaluateArray scope id type (items.map evaluate.pend)
    | .record entries => evaluateRecord scope id type (entries.map evaluate.pendEntry)
    | .operation name parameters body => do
      let _ ← previewBody scope (parameters.map evaluate.pend) (body.map evaluate.pend)
      let value := .operation name parameters body
      return ⟨id, ← scope.inferType value, value⟩
    | .handle className arguments instanceId =>
      evaluateHandle ⟨id, type, .handle className arguments instanceId⟩ className arguments instanceId
    | value => return ⟨id, type, value⟩

/-- A stage of a chain, given how operations are called. -/
def stage (caller : Caller) (operation : Data) : Stage := fun current scope => do
  let result ← performCall caller scope current operation (evaluate.arguments operation)
  return (operation, result)

/-- The value of a statement, given how the statements inside are evaluated and operations called. -/
def within (caller : Caller) : Evaluator
  | ⟨id, data, operations, _, _⟩, scope => do
    let initial ← evaluate.node data scope
    let (result, _) ← runChain scope data initial (operations.map (evaluate.stage caller))
    let result ← scope.resolve result
    Run.setResult id result
    return result

/-- Calls an operation: its parameters and its body are evaluated one level deeper. At the limit the
call is refused. -/
def call : Caller := fun scope operation arguments =>
  if scope.options.maxCallDepth ≤ scope.callDepth then
    (Fault.tooDeep ⟨scope.callDepth + 1, scope.options.maxCallDepth⟩).data
  else
    match operation.value with
    | .operation _ parameters body => do
      let inner ← bindParameters (parameters.map evaluate.pend) arguments scope.deeper
      return (← runBody (body.map evaluate.pend) inner).1
    | _ => (Fault.notAnOperation operation).data

/-- The equations of evaluation: what a statement comes to when all statements that are evaluated
on the way are evaluated by `evaluate`. -/
def unfold : Evaluator := evaluate.within evaluate.call

/-- Evaluates statements up to the first error; also gives the scope with what they declare. -/
def all (scope : Scope) (statements : List Statement) : Run (Data × Scope) :=
  runBody (statements.map evaluate.pend) scope

end Evaluator

/-! ## What evaluation depends on -/

/-- Evaluation may go on from one statement to another: to a smaller one at the same depth, or to any
one level deeper while the limit is not reached. -/
def Reaches (next current : Statement × Scope) : Prop :=
  next.2.options = current.2.options ∧
    (next.2.callDepth = current.2.callDepth ∧ sizeOf next.1 < sizeOf current.1
      ∨ next.2.callDepth = current.2.callDepth + 1 ∧ current.2.callDepth < current.2.options.maxCallDepth)

/-- Calls nest no deeper than the limit of the scope. -/
def Scope.WithinLimit (scope : Scope) : Prop := scope.callDepth ≤ scope.options.maxCallDepth

theorem Scope.WithinLimit.onLevel {scope inner : Scope} (within : scope.WithinLimit) (level : scope.Level inner) :
    inner.WithinLimit := by
  rw [WithinLimit, level.1, level.2]
  exact within

theorem Scope.withinLimit_of_deeper {scope inner : Scope} (options : inner.options = scope.options)
    (deeper : inner.callDepth = scope.callDepth + 1) (below : scope.callDepth < scope.options.maxCallDepth) : inner.WithinLimit := by
  rw [WithinLimit, options, deeper]
  exact below

/-- Nothing above the limit is reached from below. -/
theorem Reaches.withinLimit {next current : Statement × Scope} (reaches : Reaches next current) (within : current.2.WithinLimit) :
    next.2.WithinLimit := by
  obtain ⟨options, ⟨same, -⟩ | ⟨deeper, below⟩⟩ := reaches
  · exact within.onLevel ⟨same, options⟩
  · exact Scope.withinLimit_of_deeper options deeper below

/-- The levels of calls that a scope has left. -/
def Scope.levelsLeft (scope : Scope) : Nat := scope.options.maxCallDepth - scope.callDepth

/-- The levels that are left decrease, or else the statement does. -/
theorem reaches_wellFounded : WellFounded Reaches := by
  refine Subrelation.wf (r := InvImage (Prod.Lex (· < ·) (· < ·)) fun site : Statement × Scope => (site.2.levelsLeft, sizeOf site.1))
    ?_ (InvImage.wf _ (WellFounded.prod_lex Nat.lt_wfRel.wf Nat.lt_wfRel.wf))
  rintro ⟨next, inner⟩ ⟨current, scope⟩ ⟨options, ⟨same, smaller⟩ | ⟨deeper, left⟩⟩
  · have levels : inner.levelsLeft = scope.levelsLeft := by rw [Scope.levelsLeft, Scope.levelsLeft, show inner.options = _ from options, show inner.callDepth = _ from same]
    simp only [InvImage, levels]
    exact .right _ smaller
  · refine .left _ _ ?_
    simp only at options deeper left
    simp only [Scope.levelsLeft, options]
    omega

/-- The statements directly inside of a value. -/
def Value.inside : Value → List Statement
  | .array items => items
  | .record entries => entries.map (·.2)
  | .condition test whenTrue whenFalse => [test, whenTrue, whenFalse]
  | .operation _ parameters body => parameters ++ body
  | _ => []

/-- The statements directly inside of a statement: those of its data and the arguments of its calls. -/
def Statement.inside (statement : Statement) : List Statement :=
  statement.data.value.inside ++ statement.operations.flatMap (·.value.inside)

theorem Value.sizeOf_inside {value : Value} {part : Statement} (among : part ∈ value.inside) : sizeOf part < sizeOf value := by
  cases value with
  | array items =>
    have : sizeOf part < sizeOf items := List.sizeOf_lt_of_mem among
    rw [array.sizeOf_spec]
    omega
  | record entries =>
    obtain ⟨entry, member, rfl⟩ := List.mem_map.mp among
    have := List.sizeOf_lt_of_mem member
    have : sizeOf entry.2 < sizeOf entry := by
      cases entry
      simp only [Prod.mk.sizeOf_spec]
      omega
    rw [record.sizeOf_spec]
    omega
  | condition test whenTrue whenFalse =>
    simp only [inside, List.mem_cons, List.not_mem_nil, or_false] at among
    rw [condition.sizeOf_spec]
    rcases among with rfl | rfl | rfl <;> omega
  | operation name parameters body =>
    rw [operation.sizeOf_spec]
    rcases List.mem_append.mp among with member | member
    all_goals
      have := List.sizeOf_lt_of_mem member
      omega
  | _ => cases among

theorem Statement.sizeOf_inside {statement part : Statement} (among : part ∈ statement.inside) :
    sizeOf part < sizeOf statement := by
  obtain ⟨id, ⟨dataId, type, value⟩, operations, name, isOptional⟩ := statement
  rcases List.mem_append.mp among with member | member
  · have := Value.sizeOf_inside member
    simp only [mk.sizeOf_spec, Data.mk.sizeOf_spec] at this ⊢
    omega
  · obtain ⟨⟨operationId, operationType, call⟩, made, argument⟩ := List.mem_flatMap.mp member
    have := Value.sizeOf_inside argument
    have := List.sizeOf_lt_of_mem made
    simp only [mk.sizeOf_spec, Data.mk.sizeOf_spec] at *
    omega

namespace Evaluator

variable {left right : Evaluator} {scope : Scope}

/-- The evaluators do the same with the statements on the level of the scope. -/
def Agree (left right : Evaluator) (scope : Scope) (statements : List Statement) : Prop :=
  ∀ statement ∈ statements, ∀ inner, scope.Level inner → left statement inner = right statement inner

theorem Agree.twin {statements : List Statement} (agree : left.Agree right scope statements) {statement : Statement}
    (among : statement ∈ statements) : (left.pend statement).Twin scope (right.pend statement) :=
  ⟨rfl, agree statement among⟩

theorem Agree.twins {statements : List Statement} (agree : left.Agree right scope statements) :
    Twins scope (statements.map left.pend) (statements.map right.pend) :=
  Twins.map agree

theorem Agree.mono {statements part : List Statement} (agree : left.Agree right scope statements) (among : part ⊆ statements) :
    left.Agree right scope part :=
  fun statement member => agree statement (among member)

theorem arguments_twins {operation : Data} (agree : left.Agree right scope operation.value.inside) :
    Twins scope (left.arguments operation) (right.arguments operation) := by
  unfold arguments
  split
  · next value =>
    rw [value] at agree
    exact (agree.mono (List.subset_append_left _ _)).twins
  · exact .nil

theorem node_congr {data : Data} (agree : left.Agree right scope data.value.inside) : left.node data scope = right.node data scope := by
  obtain ⟨id, type, value⟩ := data
  have here := Scope.Level.refl scope
  cases value with
  | array items => exact evaluateArray_twins agree.twins here id type
  | record entries =>
    refine evaluateRecord_twins ?_ here id type
    rw [EntryTwins, List.forall₂_map_left_iff, List.forall₂_map_right_iff, List.forall₂_same]
    exact fun entry member => ⟨rfl, agree.twin (List.mem_map_of_mem member)⟩
  | condition test whenTrue whenFalse =>
    exact evaluateCondition_twins (agree.twin (by simp [Value.inside])) (agree.twin (by simp [Value.inside]))
      (agree.twin (by simp [Value.inside])) here
  | operation name parameters body =>
    rw [node, node]
    rw [previewBody_twins (agree.mono (List.subset_append_left _ _)).twins (agree.mono (List.subset_append_right _ _)).twins here]
  | _ => rfl

theorem within_congr {caller caller' : Caller} (callers : caller.Twin scope caller') {statement : Statement}
    (agree : left.Agree right scope statement.inside) : left.within caller statement scope = right.within caller' statement scope := by
  obtain ⟨id, data, operations, name, isOptional⟩ := statement
  have own : left.node data scope = right.node data scope := node_congr (agree.mono (List.subset_append_left _ _))
  have chain (initial : Data) : runChain scope data initial (operations.map (left.stage caller))
      = runChain scope data initial (operations.map (right.stage caller')) := by
    refine runStages_twins ?_ (.refl scope) none data initial
    rw [List.forall₂_map_left_iff, List.forall₂_map_right_iff, List.forall₂_same]
    intro operation member current inner level
    have inside : left.Agree right scope operation.value.inside :=
      agree.mono fun part among => List.mem_append_right _ (List.mem_flatMap.mpr ⟨operation, member, among⟩)
    rw [stage, stage, performCall_twins callers (arguments_twins inside) level]
  rw [within, within, own]
  simp only [chain]

/-- One level deeper the scope of a call has the level of any other one there. -/
theorem call_congr (agree : scope.callDepth < scope.options.maxCallDepth → ∀ inner, inner.options = scope.options →
      inner.callDepth = scope.callDepth + 1 → ∀ statement, left statement inner = right statement inner) :
    left.call scope = right.call scope := by
  funext operation arguments
  rw [call, call]
  split
  · rfl
  · next below =>
    rw [not_le] at below
    split
    · next name parameters body value =>
      have deeper (statements : List Statement) :
          Twins scope.deeper (statements.map left.pend) (statements.map right.pend) :=
        Twins.map fun statement _ inner level => agree below inner level.2 level.1 statement
      refine bindParameters_bind_twins (deeper parameters) (.refl _) (fun bound level => ?_) arguments
      rw [runBody_twins (deeper body) level]
    · rfl

end Evaluator

/-- What a statement comes to depends only on what evaluation may go on to. -/
theorem Evaluator.unfold_congr {left right : Evaluator} {statement : Statement} {scope : Scope}
    (agree : ∀ next inner, Reaches (next, inner) (statement, scope) → left next inner = right next inner) :
    left.unfold statement scope = right.unfold statement scope := by
  refine within_congr (fun inner level => call_congr fun below deeper options depth next => ?_) fun part among inner level => ?_
  · refine agree next deeper ⟨options.trans level.2, .inr ⟨?_, ?_⟩⟩
    · rw [depth, level.1]
    · rw [level.1, level.2] at below
      exact below
  · exact agree part inner ⟨level.2, .inl ⟨level.1, Statement.sizeOf_inside among⟩⟩

/-! ## The solution -/

/-- Evaluation as it runs. -/
def evaluator : Evaluator := fun statement scope => scope.evaluate statement

theorem evaluateData_eq_node (caller : Caller) (data : Data) (scope : Scope) :
    evaluateData caller data scope = Evaluator.node (evaluateStatement caller) data scope := by
  obtain ⟨id, type, value⟩ := data
  cases value with
  | array items =>
    rw [evaluateData, pendings_eq_map]
    rfl
  | record entries =>
    rw [evaluateData, pendingEntries_eq_map]
    rfl
  | operation name parameters body =>
    rw [evaluateData, pendings_eq_map, pendings_eq_map]
    rfl
  | _ => rfl

theorem pendingArguments_eq (caller : Caller) (operation : Data) :
    pendingArguments caller operation = Evaluator.arguments (evaluateStatement caller) operation := by
  obtain ⟨id, type, value⟩ := operation
  cases value with
  | operation name arguments body => exact pendings_eq_map caller arguments
  | _ => rfl

theorem stages_eq_map (caller : Caller) (operations : List Data) :
    stages caller operations = operations.map (Evaluator.stage (evaluateStatement caller) caller) := by
  induction operations with
  | nil => rfl
  | cons operation rest ih =>
    rw [stages, ih, pendingArguments_eq]
    rfl

theorem evaluateStatement_eq_within (caller : Caller) :
    evaluateStatement caller = Evaluator.within (evaluateStatement caller) caller := by
  funext statement scope
  obtain ⟨id, data, operations, name, isOptional⟩ := statement
  rw [evaluateStatement, evaluateData_eq_node, stages_eq_map]
  rfl

/-- On the level of a scope, evaluation is that with the levels which the scope has left. -/
theorem evaluator_agree (scope : Scope) (statements : List Statement) :
    Evaluator.Agree (evaluateStatement scope.caller) evaluator scope statements := by
  intro statement _ inner level
  rw [evaluator, Scope.evaluate, level.caller]

/-- A caller with some levels left is the call of the equations: it evaluates one level deeper. -/
theorem caller_eq_call (scope : Scope) : scope.caller scope = evaluator.call scope := by
  funext operation arguments
  rw [Scope.caller, Evaluator.call]
  split
  · next full => rw [Nat.sub_eq_zero_of_le full, callerWithin]
  · next below =>
    obtain ⟨levels, left⟩ : ∃ levels, scope.options.maxCallDepth - scope.callDepth = levels + 1 :=
      Nat.exists_eq_succ_of_ne_zero (by omega)
    have deeper : scope.deeper.caller = callerWithin levels := by
      rw [Scope.caller]
      exact congrArg callerWithin (by simp only [Scope.deeper, Scope.child]; omega)
    have same (statements : List Statement) :
        Twins scope.deeper (pendings (callerWithin levels) statements) (statements.map evaluator.pend) := by
      rw [← deeper, pendings_eq_map]
      exact (evaluator_agree _ statements).twins
    rw [left]
    obtain ⟨id, type, value⟩ := operation
    cases value with
    | operation name parameters body =>
      refine bindParameters_bind_twins (same parameters) (.refl _) (fun bound level => ?_) arguments
      rw [runBody_twins (same body) level]
    | _ => rfl

theorem caller_twin (scope : Scope) : scope.caller.Twin scope evaluator.call := by
  intro inner level
  rw [← level.caller, caller_eq_call]

/-- Evaluation solves its equations. -/
theorem evaluator_unfold (statement : Statement) (scope : Scope) : evaluator statement scope = evaluator.unfold statement scope := by
  rw [evaluator, Scope.evaluate, evaluateStatement_eq_within]
  exact Evaluator.within_congr (caller_twin scope) (evaluator_agree scope _)

namespace Evaluator

/-- The evaluator follows the equations wherever calls nest no deeper than the limit. -/
def Solves (evaluate : Evaluator) : Prop :=
  ∀ statement scope, scope.WithinLimit → evaluate statement scope = evaluate.unfold statement scope

/-- There is no other solution. -/
theorem Solves.eq_evaluator {evaluate : Evaluator} (solves : evaluate.Solves) (statement : Statement) (scope : Scope)
    (within : scope.WithinLimit) : evaluate statement scope = evaluator statement scope := by
  have all (site : Statement × Scope) : site.2.WithinLimit →
      evaluate site.1 site.2 = evaluator site.1 site.2 := by
    induction site using reaches_wellFounded.induction with
    | _ site ih =>
      intro within
      rw [solves site.1 site.2 within, evaluator_unfold]
      exact unfold_congr fun next inner reaches => ih (next, inner) reaches (reaches.withinLimit within)
  exact all (statement, scope) within

end Evaluator

/-! ## Revision -/

theorem evaluateNode_eq (scope : Scope) (data : Data) : scope.evaluateNode data = evaluator.node data scope := by
  rw [Scope.evaluateNode, evaluateData_eq_node]
  exact Evaluator.node_congr (evaluator_agree scope _)

theorem perform_eq (scope : Scope) (data operation : Data) :
    scope.perform data operation = performCall evaluator.call scope data operation (evaluator.arguments operation) := by
  rw [Scope.perform, pendingArguments_eq]
  exact performCall_twins (caller_twin scope) (Evaluator.arguments_twins (evaluator_agree scope _)) (.refl scope) data operation

/-- Brings statements up to date and evaluates them. -/
abbrev Reviser := Statement → Scope → Run (Statement × Data)

namespace Reviser

variable (revise : Reviser)

def pend (statement : Statement) : Revisable := ⟨statement, revise statement⟩

def pendEntry (entry : String × Statement) : String × Revisable := (entry.1, revise.pend entry.2)

def arguments (operation : Data) : List Revisable :=
  match operation.value with
  | .operation _ arguments _ => arguments.map revise.pend
  | _ => []

/-- Brings data up to date, given how the statements inside are. -/
def node : Data → Scope → Run Data
  | ⟨id, type, value⟩, scope =>
    match value with
    | .reference name target => return scope.rebind ⟨id, type, .reference name target⟩
    | .array items => do
      let items ← (items.map revise.pend).mapM fun item => return (← item.revise scope.child).1
      return ⟨id, type, .array items⟩
    | .record entries => do
      let entries ← (entries.map revise.pendEntry).mapM fun (key, entry) => return (key, (← entry.revise scope.child).1)
      return ⟨id, type, .record entries⟩
    | .condition test whenTrue whenFalse => do
      let value ← reviseCondition scope (revise.pend test) (revise.pend whenTrue) (revise.pend whenFalse)
      return ⟨id, type, value⟩
    | .operation name parameters body =>
      reviseOperation scope id name (parameters.map revise.pend) fun inner => do
        return (← reviseEach (body.map revise.pend) inner).1
    | value => return ⟨id, type, value⟩

/-- A stage of a chain: the call is repaired and made. -/
def stage (evaluate : Evaluator) (operation : Data) : Stage := fun current scope => do
  let repaired ← repairCall scope current operation (revise.arguments operation)
  return (repaired, ← performCall evaluate.call scope current repaired (evaluate.arguments repaired))

/-- The equations of revision: how a statement is brought up to date when the statements inside of it
are brought up to date by `revise`, and all that is evaluated on the way is evaluated by `evaluate`. -/
def unfold (evaluate : Evaluator) : Reviser
  | ⟨id, data, operations, name, isOptional⟩, scope => do
    let data ← revise.node data scope
    let initial ← evaluate.node data scope
    let (result, operations) ← runChain scope data initial (operations.map (revise.stage evaluate))
    let operations ← if scope.isSkipping then pure operations else operations.mapM withExecutedType
    let result ← scope.resolve result
    Run.setResult id result
    return (⟨id, data, operations, name, isOptional⟩, result)

variable {revise} {left right : Reviser} {scope : Scope}

/-- The revisers do the same with the statements on the level of the scope. -/
def Agree (left right : Reviser) (scope : Scope) (statements : List Statement) : Prop :=
  ∀ statement ∈ statements, ∀ inner, scope.Level inner → left statement inner = right statement inner

theorem Agree.twin {statements : List Statement} (agree : left.Agree right scope statements) {statement : Statement}
    (among : statement ∈ statements) : (left.pend statement).Twin scope (right.pend statement) :=
  ⟨rfl, agree statement among⟩

theorem Agree.twins {statements : List Statement} (agree : left.Agree right scope statements) :
    RevisableTwins scope (statements.map left.pend) (statements.map right.pend) :=
  RevisableTwins.map agree

theorem Agree.mono {statements part : List Statement} (agree : left.Agree right scope statements) (among : part ⊆ statements) :
    left.Agree right scope part :=
  fun statement member => agree statement (among member)

theorem arguments_twins {operation : Data} (agree : left.Agree right scope operation.value.inside) :
    RevisableTwins scope (left.arguments operation) (right.arguments operation) := by
  unfold arguments
  split
  · next value =>
    rw [value] at agree
    exact (agree.mono (List.subset_append_left _ _)).twins
  · exact .nil

theorem node_congr {data : Data} (agree : left.Agree right scope data.value.inside) : left.node data scope = right.node data scope := by
  obtain ⟨id, type, value⟩ := data
  have here := Scope.Level.refl scope
  cases value with
  | array items =>
    have twins : RevisableTwins scope (items.map left.pend) (items.map right.pend) := agree.twins
    rw [node, node, reviseItems_twins twins here.child]
  | record entries =>
    rw [node, node, reviseEntries_twins _ here.child]
    rw [List.forall₂_map_left_iff, List.forall₂_map_right_iff, List.forall₂_same]
    exact fun entry member => ⟨rfl, agree.twin (List.mem_map_of_mem member)⟩
  | condition test whenTrue whenFalse =>
    rw [node, node, reviseCondition_twins (agree.twin (by simp [Value.inside])) (agree.twin (by simp [Value.inside]))
      (agree.twin (by simp [Value.inside])) here]
  | operation name parameters body =>
    exact reviseOperation_twins (agree.mono (List.subset_append_left _ _)).twins
      (agree.mono (List.subset_append_right _ _)).twins here id name
  | _ => rfl

/-- The evaluators do the same on all levels down from the scope. -/
def Alike (scope : Scope) (evaluate evaluate' : Evaluator) : Prop :=
  ∀ statement inner, inner.options = scope.options → inner.WithinLimit →
    evaluate statement inner = evaluate' statement inner

theorem unfold_congr {evaluate evaluate' : Evaluator} (evaluators : Alike scope evaluate evaluate')
    (below : scope.WithinLimit) {statement : Statement}
    (agree : left.Agree right scope statement.inside) :
    left.unfold evaluate statement scope = right.unfold evaluate' statement scope := by
  obtain ⟨id, data, operations, name, isOptional⟩ := statement
  have evaluates (statements : List Statement) : evaluate.Agree evaluate' scope statements := by
    exact fun statement _ inner level => evaluators statement inner level.2 (below.onLevel level)
  have callers : evaluate.call.Twin scope evaluate'.call := by
    exact fun inner level => Evaluator.call_congr fun left deeper options depth statement =>
      evaluators statement deeper (options.trans level.2) (Scope.withinLimit_of_deeper options depth left)
  have chain (source initial : Data) : runChain scope source initial (operations.map (left.stage evaluate))
      = runChain scope source initial (operations.map (right.stage evaluate')) := by
    refine runStages_twins ?_ (.refl scope) none source initial
    rw [List.forall₂_map_left_iff, List.forall₂_map_right_iff, List.forall₂_same]
    intro operation member current inner level
    have inside : left.Agree right scope operation.value.inside :=
      agree.mono fun part among => List.mem_append_right _ (List.mem_flatMap.mpr ⟨operation, member, among⟩)
    rw [stage, stage, repairCall_twins (arguments_twins inside) level]
    refine bind_congr fun repaired => ?_
    rw [performCall_twins callers (Evaluator.arguments_twins (evaluates _)) level]
  rw [unfold, unfold, node_congr (agree.mono (List.subset_append_left _ _))]
  refine bind_congr fun revised => ?_
  rw [Evaluator.node_congr (evaluates _)]
  simp only [chain]

end Reviser

/-- Revision as it runs. -/
def reviser : Reviser := reviseStatement

theorem reviseData_eq_node (data : Data) (scope : Scope) : reviseData data scope = reviser.node data scope := by
  obtain ⟨id, type, value⟩ := data
  cases value with
  | array items =>
    rw [reviseData, revisables_eq_map]
    rfl
  | record entries =>
    rw [reviseData, revisableEntries_eq_map]
    rfl
  | operation name parameters body =>
    rw [reviseData, revisables_eq_map, revisables_eq_map]
    rfl
  | _ => rfl

theorem repairedStages_eq_map (operations : List Data) :
    repairedStages operations = operations.map (reviser.stage evaluator) := by
  induction operations with
  | nil => rfl
  | cons operation rest ih =>
    rw [repairedStages, ih, List.map_cons]
    refine congrArg (· :: _) ?_
    funext current scope
    have arguments : revisableArguments operation = reviser.arguments operation := by
      obtain ⟨id, type, value⟩ := operation
      cases value with
      | operation name arguments body => exact revisables_eq_map arguments
      | _ => rfl
    rw [arguments, Reviser.stage]
    simp only [perform_eq]

/-- Revision solves its equations. -/
theorem reviser_unfold (statement : Statement) (scope : Scope) :
    reviser statement scope = reviser.unfold evaluator statement scope := by
  obtain ⟨id, data, operations, name, isOptional⟩ := statement
  rw [reviser, reviseStatement, reviseData_eq_node, repairedStages_eq_map]
  simp only [evaluateNode_eq]
  rfl

/-- The reviser follows the equations wherever calls nest no deeper than the limit. -/
def Reviser.Solves (revise : Reviser) (evaluate : Evaluator) : Prop :=
  ∀ statement scope, scope.WithinLimit →
    revise statement scope = revise.unfold evaluate statement scope

/-- There is no other solution. -/
theorem Reviser.Solves.eq_reviser {evaluate : Evaluator} (evaluates : evaluate.Solves) {revise : Reviser}
    (solves : revise.Solves evaluate) (statement : Statement) (scope : Scope)
    (within : scope.WithinLimit) : revise statement scope = reviser statement scope := by
  have all (site : Statement × Scope) : site.2.WithinLimit →
      revise site.1 site.2 = reviser site.1 site.2 := by
    induction site using reaches_wellFounded.induction with
    | _ site ih =>
      intro within
      rw [solves site.1 site.2 within, reviser_unfold]
      refine unfold_congr (fun statement inner _ below => evaluates.eq_evaluator statement inner below) within ?_
      intro part among inner level
      exact ih (part, inner) ⟨level.2, .inl ⟨level.1, Statement.sizeOf_inside among⟩⟩ (within.onLevel level)
  exact all (statement, scope) within

/-! ## Lists of statements -/

/-- Declares what statements before an edit result in. A recorded result is taken as it is. -/
def Evaluator.carry (evaluate : Evaluator) (scope : Scope) : List Statement → Run Scope
  | [] => return scope
  | statement :: rest => do
    let result ← match (← Run.store).result? statement.id with
      | some result => pure result
      | none => evaluate statement scope
    evaluate.carry (scope.publish statement.name statement.id result) rest

/-- Brings statements up to date; those before an edit are carried over as they are. -/
def Reviser.all (revise : Reviser) (evaluate : Evaluator) (scope : Scope) (statements : List Statement) (edit : Option Edit) :
    Run (List Statement) := do
  let (before, behind) := match edit with
    | some edit => edit.split statements
    | none => ([], statements)
  let inner ← evaluate.carry scope.child before
  let (revised, _) ← reviseEach (behind.map revise.pend) inner
  return before ++ revised

theorem Evaluator.Solves.all_eq {evaluate : Evaluator} (solves : evaluate.Solves) {scope : Scope}
    (within : scope.WithinLimit) (statements : List Statement) :
    evaluate.all scope statements = scope.evaluateAll statements := by
  have agree : evaluate.Agree (evaluateStatement scope.caller) scope statements := by
    intro statement among inner level
    rw [evaluator_agree scope statements statement among inner level]
    exact solves.eq_evaluator statement inner (within.onLevel level)
  rw [Scope.evaluateAll, pendings_eq_map]
  exact runBody_twins agree.twins (.refl scope)

/-- What follows the carried statements stands on the level of the scope. -/
theorem Evaluator.Solves.carry_bind {evaluate : Evaluator} (solves : evaluate.Solves) {scope inner : Scope}
    (within : scope.WithinLimit) (level : scope.Level inner) {next next' : Scope → Run α}
    (agree : ∀ behind, scope.Level behind → next behind = next' behind) (statements : List Statement) :
    (evaluate.carry inner statements >>= next) = inner.carry statements >>= next' := by
  induction statements generalizing inner with
  | nil => exact agree inner level
  | cons statement rest ih =>
    have same : evaluate statement inner = inner.evaluate statement :=
      solves.eq_evaluator statement inner (within.onLevel level)
    rw [carry, Scope.carry, same]
    simp only [bind_assoc]
    refine bind_congr fun store => ?_
    cases store.result? statement.id with
    | some result => exact ih (level.publish _ _ _)
    | none =>
      simp only [bind_assoc]
      exact bind_congr fun result => ih (level.publish _ _ _)

theorem Reviser.Solves.all_eq {evaluate : Evaluator} (evaluates : evaluate.Solves) {revise : Reviser}
    (solves : revise.Solves evaluate) {scope : Scope} (within : scope.WithinLimit)
    (statements : List Statement) (edit : Option Edit) : revise.all evaluate scope statements edit = scope.revise statements edit := by
  unfold all Scope.revise
  dsimp only
  have level : scope.Level scope.child := .child (.refl scope)
  refine evaluates.carry_bind within level (fun inner level => ?_) _
  rw [revisables_eq_map]
  refine reviseEach_bind_twins (RevisableTwins.map fun statement _ third deeper => ?_) level fun _ _ _ => rfl
  exact solves.eq_reviser evaluates statement third (within.onLevel deeper)

/-! ## The limit -/

/-- A call at the limit is refused before anything of the operation is looked at. -/
theorem Evaluator.call_at_limit (evaluate : Evaluator) {scope : Scope} (full : scope.callDepth = scope.options.maxCallDepth)
    (operation : Data) (arguments : List Data) :
    evaluate.call scope operation arguments
      = (Fault.tooDeep ⟨scope.options.maxCallDepth + 1, scope.options.maxCallDepth⟩).data := by
  rw [call, if_pos full.ge, full]

theorem call_at_limit {scope : Scope} (full : scope.callDepth = scope.options.maxCallDepth) (operation : Data)
    (arguments : List Data) : scope.call operation arguments
      = (Fault.tooDeep ⟨scope.options.maxCallDepth + 1, scope.options.maxCallDepth⟩).data := by
  rw [Scope.call, caller_eq_call]
  exact evaluator.call_at_limit full operation arguments

/-- Evaluation and revision end under the limit of call depth. They go on only to a smaller statement at the
same depth or one level deeper below the limit, which cannot go on forever and never leads above the limit;
and what a statement comes to depends on nothing else. So the equations of both have one solution
for every scope within the limit, and that is what runs. A call at the limit is an error that only draws
its identity: whatever evaluates statements, it is not asked for any of the operation's. -/
theorem evaluation_ends_within_limit :
    WellFounded Reaches ∧
    (∀ next current, Reaches next current → current.2.WithinLimit → next.2.WithinLimit) ∧
    (∀ (left right : Evaluator) (statement : Statement) (scope : Scope),
      (∀ next inner, Reaches (next, inner) (statement, scope) → left next inner = right next inner) →
        left.unfold statement scope = right.unfold statement scope) ∧
    (∀ (evaluate : Evaluator) (left right : Reviser) (statement : Statement) (scope : Scope), scope.WithinLimit →
      (∀ next inner, Reaches (next, inner) (statement, scope) → left next inner = right next inner) →
        left.unfold evaluate statement scope = right.unfold evaluate statement scope) ∧
    evaluator.Solves ∧ reviser.Solves evaluator ∧
    (∀ (evaluate : Evaluator) (revise : Reviser), evaluate.Solves → revise.Solves evaluate →
      ∀ (scope : Scope), scope.WithinLimit → ∀ (statements : List Statement) (edit : Option Edit),
        evaluate.all scope statements = scope.evaluateAll statements
          ∧ revise.all evaluate scope statements edit = scope.revise statements edit) ∧
    (∀ (evaluate : Evaluator) (scope : Scope) (operation : Data) (arguments : List Data) (world : World),
      scope.callDepth = scope.options.maxCallDepth →
        evaluate.call scope operation arguments = scope.call operation arguments
          ∧ (scope.call operation arguments world).1.error?
            = some (.runtimeError, CallLimit.message ⟨scope.options.maxCallDepth + 1, scope.options.maxCallDepth⟩)
          ∧ (scope.call operation arguments world).2 = { world with nextId := world.nextId + 1 }) := by
  refine ⟨reaches_wellFounded, fun _ _ => Reaches.withinLimit, fun left right statement scope agree => Evaluator.unfold_congr agree,
    ?_, fun statement scope _ => evaluator_unfold statement scope, fun statement scope _ => reviser_unfold statement scope, ?_, ?_⟩
  · intro evaluate left right statement scope within agree
    refine Reviser.unfold_congr (fun _ _ _ _ => rfl) within fun part among inner level => ?_
    exact agree part inner ⟨level.2, .inl ⟨level.1, Statement.sizeOf_inside among⟩⟩
  · intro evaluate revise evaluates revises scope within statements edit
    exact ⟨evaluates.all_eq within statements, revises.all_eq evaluates within statements edit⟩
  · intro evaluate scope operation arguments world full
    rw [evaluate.call_at_limit full, call_at_limit full]
    exact ⟨rfl, rfl, rfl⟩

/-- An operation that calls itself under the name `again`. -/
def callingItself : Data :=
  let again : Data := ⟨"again", .reference (.operation [] .unknown), .reference "again" ""⟩
  ⟨"operation", .operation [] .unknown,
    .operation (some "again") [] [⟨"body", again, [⟨"call", .operation [] .unknown, .operation (some "call") [] []⟩], none, false⟩]⟩

theorem callingItself_ends_within_limit :
    let scope : Scope := { bindings := [("again", ⟨"declaration", callingItself⟩)], options := { maxCallDepth := 1 } }
    let full : Scope := { scope with callDepth := 1 }
    let program : List Statement := [⟨"program", callingItself, [], none, false⟩]
    evaluator.Solves ∧ reviser.Solves evaluator ∧ scope.WithinLimit ∧ full.callDepth = full.options.maxCallDepth
      ∧ evaluator.all scope program = scope.evaluateAll program
      ∧ reviser.all evaluator scope program none = scope.revise program none
      ∧ (full.call callingItself [] {}).1.error?
        = some (.runtimeError, "execution exceeded call depth limit (depth=2, limit=1)") := by
  intro scope full program
  obtain ⟨-, -, -, -, evaluates, revises, lists, limit⟩ := evaluation_ends_within_limit
  have within : scope.WithinLimit := Nat.zero_le 1
  have both := lists evaluator reviser evaluates revises scope within program none
  have message : CallLimit.message ⟨2, 1⟩ = "execution exceeded call depth limit (depth=2, limit=1)" := by decide
  exact ⟨evaluates, revises, within, rfl, both.1, both.2, message ▸ (limit evaluator full callingItself [] {} rfl).2.1⟩

end LivePipeline
