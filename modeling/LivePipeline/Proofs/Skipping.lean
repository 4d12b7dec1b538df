import Mathlib.Data.List.Forall2
import LivePipeline.Proofs.Chains

/-! Evaluation where nothing may run. A skipped call looks at what an operation declares and never
at how it works, so evaluation in a skipping scope is the outline of the program: a second
evaluator, whose calls only have the name, the parameters and the result type of an operation. -/

namespace LivePipeline

/-- What an operation declares. -/
structure Profile where
  name : String
  parameters : Data → List Parameter
  result : Data → List DataType → DataType

def Callable.profile (callable : Callable) : Profile :=
  ⟨callable.name, callable.parameters, callable.resultType⟩

namespace Scope

/-- The declaration that a call names on the given receiver. -/
def profile? (scope : Scope) (data : Data) (name : String) : Option Profile :=
  (scope.callables.map Callable.profile).find? fun profile =>
    profile.name == name && data.supports (profile.parameters data)

/-- The scope with all that can act on the outside taken out: extensions only fail, and there is
no transport. -/
def inert (scope : Scope) : Scope :=
  { scope with
    extensions := scope.extensions.map fun extension => { extension with handler := fun _ _ => .error "" }
    transport := none }

end Scope

/-! ## The outline of a program -/

/-- A call of which only the arguments are evaluated; the result is the default of its type. -/
def outlineCall (scope : Scope) (data operation : Data) (arguments : List Pending) : Run Data :=
  match scope.skip with
  | some (.failed error) => return error
  | _ =>
    match operation.value with
    | .operation (some name) _ _ =>
      match scope.profile? data name with
      | some profile =>
        match missingParameter? ((profile.parameters data).drop 1) arguments.length with
        | some index => (Fault.missingParameter profile.name index).data
        | none => do
          let values ← arguments.mapM fun argument => argument.evaluate scope.child
          (profile.result data (values.map (·.type))).defaultData scope.options.includeOptionalProperties
      | none => (Fault.cannotChain name (scope.signature data.type)).data
    | .operation none _ _ => Fault.unnamedCall.data
    | _ => (Fault.notACall operation).data

mutual

def outlineStatement : Statement → Scope → Run Data
  | ⟨id, data, operations, _, _⟩, scope => do
    let initial ← outlineData data scope
    let (result, _) ← runChain scope data initial (outlineStages operations)
    let result ← scope.resolve result
    Run.setResult id result
    return result
termination_by structural statement => statement

def outlineData : Data → Scope → Run Data
  | ⟨id, type, value⟩, scope =>
    match value with
    | .reference name target => scope.resolve ⟨id, type, .reference name target⟩
    | .condition test whenTrue whenFalse =>
      evaluateCondition scope ⟨test, outlineStatement test⟩
        ⟨whenTrue, outlineStatement whenTrue⟩ ⟨whenFalse, outlineStatement whenFalse⟩
    | .array items => evaluateArray scope id type (outlines items)
    | .record entries => evaluateRecord scope id type (outlineEntries entries)
    | .operation name parameters body => do
      let _ ← previewBody scope (outlines parameters) (outlines body)
      let value := .operation name parameters body
      return ⟨id, ← scope.inferType value, value⟩
    | .handle className arguments instanceId =>
      evaluateHandle ⟨id, type, .handle className arguments instanceId⟩ className arguments instanceId
    | value => return ⟨id, type, value⟩
termination_by structural data => data

def outlineStages : List Data → List Stage
  | [] => []
  | operation :: rest =>
    (fun current scope => do
      let result ← outlineCall scope current operation (outlineArguments operation)
      Run.setResult operation.id result
      return (operation, result)) :: outlineStages rest
termination_by structural operations => operations

def outlineArguments : Data → List Pending
  | ⟨_, _, .operation _ arguments _⟩ => outlines arguments
  | _ => []
termination_by structural operation => operation

def outlines : List Statement → List Pending
  | [] => []
  | statement :: rest => ⟨statement, outlineStatement statement⟩ :: outlines rest
termination_by structural statements => statements

def outlineEntries : List (String × Statement) → List (String × Pending)
  | [] => []
  | (key, statement) :: rest => (key, ⟨statement, outlineStatement statement⟩) :: outlineEntries rest
termination_by structural entries => entries

end

/-! ## Inert scopes -/

namespace Scope

variable (scope : Scope)

@[simp] theorem inert_child : scope.inert.child = scope.child.inert := rfl

@[simp] theorem inert_expecting (type : Option DataType) :
    scope.inert.expecting type = (scope.expecting type).inert := rfl

@[simp] theorem inert_withNarrowing (narrowing : Option Narrowing) :
    scope.inert.withNarrowing narrowing = (scope.withNarrowing narrowing).inert := rfl

@[simp] theorem inert_withSkip (skip : Option Skip) :
    scope.inert.withSkip skip = (scope.withSkip skip).inert := rfl

@[simp] theorem inert_publish (name : Option String) (id : EntityId) (data : Data) :
    scope.inert.publish name id data = (scope.publish name id data).inert := by
  cases name <;> rfl

@[simp] theorem inert_enter (branch : Branch) : scope.inert.enter branch = (scope.enter branch).inert := by
  simp only [enter]
  cases branch <;> cases narrowing : scope.narrowing <;> simp [inert, narrowing, child]

@[simp] theorem inert_skip : scope.inert.skip = scope.skip := rfl

@[simp] theorem inert_skipUnless (live : Bool) : scope.inert.skipUnless live = scope.skipUnless live := rfl

@[simp] theorem inert_options : scope.inert.options = scope.options := rfl

@[simp] theorem inert_inferType (value : Value) : scope.inert.inferType value = scope.inferType value := rfl

@[simp] theorem inert_resolve (data : Data) : scope.inert.resolve data = scope.resolve data := rfl

@[simp] theorem inert_signature (type : DataType) : scope.inert.signature type = scope.signature type := rfl

theorem map_profile_find? (data : Data) (name : String) :
    (scope.find? data name).map Callable.profile = scope.profile? data name := by
  rw [profile?, List.find?_map]
  rfl

@[simp] theorem inert_profile? (data : Data) (name : String) :
    scope.inert.profile? data name = scope.profile? data name := by
  have same : scope.inert.callables.map Callable.profile = scope.callables.map Callable.profile := by
    simp only [callables, List.map_append, List.map_map]
    congr 1
    simp only [inert, userOperations, List.map_map, List.append_cancel_left_eq, List.map_inj_left]
    intro extension _
    rfl
  rw [profile?, same, profile?]

@[simp] theorem isSkipping_child : scope.child.isSkipping = scope.isSkipping := rfl

@[simp] theorem isSkipping_expecting (type : Option DataType) :
    (scope.expecting type).isSkipping = scope.isSkipping := rfl

@[simp] theorem isSkipping_withNarrowing (narrowing : Option Narrowing) :
    (scope.withNarrowing narrowing).isSkipping = scope.isSkipping := rfl

@[simp] theorem isSkipping_publish (name : Option String) (id : EntityId) (data : Data) :
    (scope.publish name id data).isSkipping = scope.isSkipping := by
  cases name <;> rfl

/-- A branch of a skipped condition is skipped, be it the live or the dead one. -/
theorem isSkipping_branch (inner : Scope) (live : Bool) (skipping : scope.isSkipping) :
    (inner.withSkip (scope.skipUnless live)).isSkipping := by
  cases live
  · simp [isSkipping, withSkip, skipUnless]
  · simpa [isSkipping, withSkip, skipUnless] using skipping

end Scope

mutual

/-- What a chain establishes depends on the variables alone. -/
theorem checkCall_inert (scope : Scope) (results : EntityId → Option Data) (receiver : Data)
    (current : Option Narrowing) : ∀ operation,
    scope.inert.checkCall results receiver current operation = scope.checkCall results receiver current operation
  | ⟨_, _, .operation (some _) parameters _⟩ => by
    simp only [Scope.checkCall, checkFirst_inert scope results parameters]
    rfl
  | ⟨_, _, .operation none _ _⟩ | ⟨_, _, .undefined⟩ | ⟨_, _, .text _⟩ | ⟨_, _, .number _⟩
  | ⟨_, _, .boolean _⟩ | ⟨_, _, .array _⟩ | ⟨_, _, .record _⟩ | ⟨_, _, .condition _ _ _⟩
  | ⟨_, _, .reference _ _⟩ | ⟨_, _, .error _⟩ | ⟨_, _, .handle _ _ _⟩ => rfl
termination_by structural operation => operation

theorem checkFirst_inert (scope : Scope) (results : EntityId → Option Data) : ∀ arguments,
    checkFirst scope.inert results arguments = checkFirst scope results arguments
  | [] => rfl
  | ⟨_, data, operations, _, _⟩ :: _ => by
    simp only [checkFirst, checkChain_inert scope results data none operations]
termination_by structural arguments => arguments

theorem checkChain_inert (scope : Scope) (results : EntityId → Option Data) (receiver : Data)
    (current : Option Narrowing) : ∀ operations,
    checkChain scope.inert results receiver current operations = checkChain scope results receiver current operations
  | [] => rfl
  | operation :: rest => by
    simp only [checkChain, checkCall_inert scope results receiver current operation,
      checkChain_inert scope results _ _ rest]
termination_by structural operations => operations

end

/-! ## Skipped evaluation is the outline -/

/-- Two pending statements that cannot be told apart where everything is skipped. -/
structure Pending.Outlined (pending outline : Pending) : Prop where
  statement : pending.statement = outline.statement
  evaluate : ∀ scope : Scope, scope.isSkipping →
    pending.evaluate scope = outline.evaluate scope.inert

section

variable {scope : Scope} (skipping : scope.isSkipping)
include skipping

theorem evaluateCondition_outlined {test whenTrue whenFalse test' whenTrue' whenFalse' : Pending}
    (tests : test.Outlined test') (trues : whenTrue.Outlined whenTrue') (falses : whenFalse.Outlined whenFalse') :
    evaluateCondition scope test whenTrue whenFalse
      = evaluateCondition scope.inert test' whenTrue' whenFalse' := by
  have branch (inner : Scope) (live : Bool) := scope.isSkipping_branch inner live skipping
  simp only [evaluateCondition, Scope.checkStatement, checkChain_inert, tests.statement, Scope.inert_child,
    Scope.inert_withNarrowing, Scope.inert_enter, Scope.inert_skipUnless, Scope.inert_withSkip,
    tests.evaluate scope.child skipping, trues.evaluate _ (branch _ _), falses.evaluate _ (branch _ _)]

theorem evaluateChild_outlined (expected : Option DataType) {child child' : Pending}
    (children : child.Outlined child') :
    evaluateChild scope expected child = evaluateChild scope.inert expected child' := by
  simp only [evaluateChild, children.statement, Scope.inert_child, Scope.inert_expecting,
    children.evaluate (scope.child.expecting expected) skipping]

theorem evaluateItems_outlined (type : DataType) {items items' : List Pending}
    (all : List.Forall₂ Pending.Outlined items items') (start : Nat) :
    (items.zipIdx start).mapM (fun (item, index) => evaluateChild scope (type.expectedChild index none) item)
      = (items'.zipIdx start).mapM fun (item, index) =>
        evaluateChild scope.inert (type.expectedChild index none) item := by
  induction all generalizing start with
  | nil => rfl
  | cons head _ ih => simp only [List.zipIdx_cons, List.mapM_cons, ih, evaluateChild_outlined skipping _ head]

theorem evaluateArray_outlined (id : EntityId) (type : DataType) {items items' : List Pending}
    (all : List.Forall₂ Pending.Outlined items items') :
    evaluateArray scope id type items = evaluateArray scope.inert id type items' := by
  rw [evaluateArray, evaluateItems_outlined skipping type all]
  rfl

theorem evaluateEntries_outlined (type : DataType) {entries entries' : List (String × Pending)}
    (all : List.Forall₂ (fun entry entry' => entry.1 = entry'.1 ∧ entry.2.Outlined entry'.2) entries entries')
    (start : Nat) :
    (entries.zipIdx start).mapM (fun ((key, entry), index) => do
        let statement ← evaluateChild scope (type.expectedChild index (some key)) entry
        return (key, statement))
      = (entries'.zipIdx start).mapM fun ((key, entry), index) => do
        let statement ← evaluateChild scope.inert (type.expectedChild index (some key)) entry
        return (key, statement) := by
  induction all generalizing start with
  | nil => rfl
  | cons head _ ih =>
    simp only [List.zipIdx_cons, List.mapM_cons, ih, head.1, evaluateChild_outlined skipping _ head.2]

theorem evaluateRecord_outlined (id : EntityId) (type : DataType)
    {entries entries' : List (String × Pending)}
    (all : List.Forall₂ (fun entry entry' => entry.1 = entry'.1 ∧ entry.2.Outlined entry'.2) entries entries') :
    evaluateRecord scope id type entries = evaluateRecord scope.inert id type entries' := by
  rw [evaluateRecord, evaluateEntries_outlined skipping type all]
  rfl

end

/-- The scopes behind the two walks differ in what was taken out, and in nothing else. -/
theorem evaluateEach_outlined {all all' : List Pending} (same : List.Forall₂ Pending.Outlined all all') :
    ∀ (last : Data) (scope : Scope), scope.isSkipping →
      evaluateEach last all' scope.inert
        = (fun (result, behind) => (result, behind.inert)) <$> evaluateEach last all scope := by
  induction same with
  | nil => intro last scope _; rfl
  | cons head _ ih =>
    intro last scope skipping
    simp only [evaluateEach, map_bind, ← head.evaluate scope skipping, ← head.statement,
      Scope.inert_publish, ih _ _ ((scope.isSkipping_publish ..).trans skipping)]

theorem isSkipping_evaluateEach (all : List Pending) : ∀ (last : Data) (scope : Scope) (world : World),
    (evaluateEach last all scope world).1.2.isSkipping = scope.isSkipping := by
  induction all with
  | nil => intro last scope world; rfl
  | cons pending rest ih =>
    intro last scope world
    exact (ih _ _ _).trans (scope.isSkipping_publish ..)

theorem previewBody_outlined {scope : Scope} (skipping : scope.isSkipping)
    {parameters parameters' body body' : List Pending}
    (first : List.Forall₂ Pending.Outlined parameters parameters') (second : List.Forall₂ Pending.Outlined body body') :
    previewBody scope parameters body = previewBody scope.inert parameters' body' := by
  funext world
  -- The body is walked in the scope that the parameters leave, which still skips.
  have inner := (isSkipping_evaluateEach parameters default scope.child world).trans skipping
  have outer := congrFun (evaluateEach_outlined first default scope.child skipping) world
  simp only [Functor.map, StateT.map] at outer
  rcases walked : evaluateEach default parameters scope.child world with ⟨⟨last, behind⟩, after⟩
  rw [walked] at inner outer
  have whole (last : Data) := evaluateEach_outlined second last behind inner
  refine (Run.bind_eq walked).trans (.trans ?_ (Run.bind_eq outer).symm)
  simp only [whole]
  rfl

/-- A skipped call never reaches the operation that it names. -/
theorem callResult_outlined (caller : Caller) {scope : Scope} (skipping : scope.isSkipping) (data operation : Data)
    {arguments arguments' : List Pending} (all : List.Forall₂ Pending.Outlined arguments arguments') :
    callResult caller scope data operation arguments = outlineCall scope.inert data operation arguments' := by
  obtain ⟨skip, given⟩ := Option.isSome_iff_exists.mp skipping
  have same : scope.withSkip (some skip) = scope := by rw [← given]; rfl
  have values : (arguments.mapM fun argument => argument.evaluate scope.child)
      = arguments'.mapM fun argument => argument.evaluate scope.child.inert := by
    induction all with
    | nil => rfl
    | cons head _ ih => simp only [List.mapM_cons, ih, head.evaluate scope.child skipping]
  simp only [callResult, outlineCall, Scope.skipBehind, given, Scope.inert_skip, Scope.inert_profile?,
    Scope.inert_child, Scope.inert_options, Scope.inert_signature, same]
  cases skip with
  | failed error => rfl
  | unreachable =>
    obtain ⟨id, type, value⟩ := operation
    cases value with
    | operation name _ _ =>
      cases name with
      | none => rfl
      | some name =>
        simp only [← scope.map_profile_find? data name]
        cases scope.find? data name with
        | none => rfl
        | some callable =>
          cases missing : missingParameter? (List.drop 1 (callable.parameters data)) arguments'.length <;>
            simp only [invoke, skipCall, skipping, values, all.length_eq, Option.map_some, Callable.profile,
              Callable.expected, if_true, missing]
    | _ => rfl

/-- The same for a link of a chain. -/
def Stage.Outlined (stage outline : Stage) : Prop :=
  ∀ (current : Data) (scope : Scope), scope.isSkipping → stage current scope = outline current scope.inert

theorem runStages_outlined {scope : Scope} (skipping : scope.isSkipping) {stages outlines : List Stage}
    (all : List.Forall₂ Stage.Outlined stages outlines) :
    ∀ (narrowing : Option Narrowing) (receiver current : Data),
      runStages scope narrowing receiver current stages = runStages scope.inert narrowing receiver current outlines := by
  induction all with
  | nil => intros; rfl
  | cons head _ ih =>
    intro narrowing receiver current
    simp only [runStages, Scope.inert_child, Scope.inert_withNarrowing, checkCall_inert, ih,
      head current (scope.child.withNarrowing narrowing) skipping]

mutual

theorem evaluateStatement_outlined (caller : Caller) : ∀ (statement : Statement) (scope : Scope),
    scope.isSkipping → evaluateStatement caller statement scope = outlineStatement statement scope.inert
  | ⟨_, data, operations, _, _⟩, scope, skipping => by
    simp only [evaluateStatement, outlineStatement, runChain, Scope.inert_resolve,
      evaluateData_outlined caller data scope skipping,
      runStages_outlined skipping (stages_outlined caller operations)]
termination_by structural statement => statement

theorem evaluateData_outlined (caller : Caller) : ∀ (data : Data) (scope : Scope),
    scope.isSkipping → evaluateData caller data scope = outlineData data scope.inert
  | ⟨id, type, value⟩, scope, skipping => by
    match value with
    | .reference name target => rfl
    | .condition test whenTrue whenFalse =>
      exact evaluateCondition_outlined skipping ⟨rfl, evaluateStatement_outlined caller test⟩
        ⟨rfl, evaluateStatement_outlined caller whenTrue⟩ ⟨rfl, evaluateStatement_outlined caller whenFalse⟩
    | .array items => exact evaluateArray_outlined skipping id type (pendings_outlined caller items)
    | .record entries => exact evaluateRecord_outlined skipping id type (pendingEntries_outlined caller entries)
    | .operation name parameters body =>
      simp only [evaluateData, outlineData, Scope.inert_inferType,
        previewBody_outlined skipping (pendings_outlined caller parameters) (pendings_outlined caller body)]
    | .handle className arguments instanceId => rfl
    | .undefined | .text _ | .number _ | .boolean _ | .error _ => rfl
termination_by structural data => data

theorem stages_outlined (caller : Caller) : ∀ operations : List Data,
    List.Forall₂ Stage.Outlined (stages caller operations) (outlineStages operations)
  | [] => .nil
  | operation :: rest => by
    refine .cons ?_ (stages_outlined caller rest)
    intro current scope skipping
    simp only [performCall, bind_assoc, pure_bind,
      callResult_outlined caller skipping current operation (pendingArguments_outlined caller operation)]
termination_by structural operations => operations

theorem pendingArguments_outlined (caller : Caller) : ∀ operation : Data,
    List.Forall₂ Pending.Outlined (pendingArguments caller operation) (outlineArguments operation)
  | ⟨_, _, .operation _ arguments _⟩ => pendings_outlined caller arguments
  | ⟨_, _, .undefined⟩ | ⟨_, _, .text _⟩ | ⟨_, _, .number _⟩ | ⟨_, _, .boolean _⟩ | ⟨_, _, .array _⟩
  | ⟨_, _, .record _⟩ | ⟨_, _, .condition _ _ _⟩ | ⟨_, _, .reference _ _⟩ | ⟨_, _, .error _⟩
  | ⟨_, _, .handle _ _ _⟩ => .nil
termination_by structural operation => operation

theorem pendings_outlined (caller : Caller) : ∀ statements : List Statement,
    List.Forall₂ Pending.Outlined (pendings caller statements) (outlines statements)
  | [] => .nil
  | statement :: rest =>
    .cons ⟨rfl, evaluateStatement_outlined caller statement⟩ (pendings_outlined caller rest)
termination_by structural statements => statements

theorem pendingEntries_outlined (caller : Caller) : ∀ entries : List (String × Statement),
    List.Forall₂ (fun entry entry' => entry.1 = entry'.1 ∧ entry.2.Outlined entry'.2)
      (pendingEntries caller entries) (outlineEntries entries)
  | [] => .nil
  | (_, statement) :: rest =>
    .cons ⟨rfl, rfl, evaluateStatement_outlined caller statement⟩ (pendingEntries_outlined caller rest)
termination_by structural entries => entries

end

/-! ## The outline leaves no trace outside -/

/-- A run that neither calls out nor adds to what may be reused later. -/
structure Quiet (run : Run α) : Prop where
  events : ∀ world, (run world).2.events = world.events
  fingerprints : ∀ world, (run world).2.store.fingerprints = world.store.fingerprints

namespace Quiet

theorem pure (value : α) : Quiet (Pure.pure value : Run α) := ⟨fun _ => rfl, fun _ => rfl⟩

theorem bind {run : Run α} {next : α → Run β} (first : Quiet run) (second : ∀ value, Quiet (next value)) :
    Quiet (run >>= next) where
  events world := ((second (run world).1).events (run world).2).trans (first.events world)
  fingerprints world := ((second (run world).1).fingerprints (run world).2).trans (first.fingerprints world)

theorem draw (build : Fresh α) : Quiet (Run.draw build) := ⟨fun _ => rfl, fun _ => rfl⟩

theorem store : Quiet Run.store := ⟨fun _ => rfl, fun _ => rfl⟩

theorem setResult (id : EntityId) (data : Data) : Quiet (Run.setResult id data) := ⟨fun _ => rfl, fun _ => rfl⟩

theorem setInstance (id : EntityId) (external : External) :
    Quiet (Run.updateStore (·.setInstance id external)) := ⟨fun _ => rfl, fun _ => rfl⟩

theorem inferType (scope : Scope) (value : Value) : Quiet (scope.inferType value) := ⟨fun _ => rfl, fun _ => rfl⟩

theorem resolve (scope : Scope) (data : Data) : Quiet (scope.resolve data) := by
  unfold Scope.resolve
  split
  · split
    · exact pure _
    · exact draw _
  · exact pure _

theorem mapM {run : α → Run β} : ∀ {items : List α}, (∀ item ∈ items, Quiet (run item)) → Quiet (items.mapM run)
  | [], _ => pure _
  | item :: rest, all => by
    rw [List.mapM_cons]
    refine bind (all item (by simp)) fun value => bind (mapM fun other member => all other (by simp [member])) fun _ => ?_
    exact pure _

theorem tryBind {attempt : Attempt α} {next : α → Attempt β} (first : Quiet attempt.run)
    (second : ∀ value, Quiet (next value).run) : Quiet (attempt >>= next).run := by
  change Quiet (attempt.run >>= ExceptT.bindCont next)
  refine bind first fun result => ?_
  cases result with
  | ok value => exact second value
  | error failure => exact pure _

theorem externalOf (className : String) (arguments : List Statement) (instanceId : EntityId) :
    Quiet (Operation.externalOf className arguments instanceId).run := by
  refine tryBind (bind store fun before => pure _) fun before => ?_
  cases before.instance? instanceId with
  | some external => exact pure _
  | none =>
    refine tryBind ?_ fun external => tryBind (bind (setInstance instanceId external) fun _ => pure _) fun _ => pure _
    cases Operation.materialize className arguments <;> exact pure _

theorem evaluateHandle (data : Data) (className : String) (arguments : List Statement) (instanceId : EntityId) :
    Quiet (evaluateHandle data className arguments instanceId) := by
  refine bind (tryBind (externalOf className arguments instanceId) fun _ => pure _) fun settled => ?_
  cases settled
  · exact draw _
  · exact pure _

end Quiet

/-- Pending work that is quiet wherever it is evaluated. -/
def Pending.Quiet (pending : Pending) : Prop := ∀ scope, LivePipeline.Quiet (pending.evaluate scope)

namespace Quiet

theorem evaluateCondition (scope : Scope) {test whenTrue whenFalse : Pending} (tests : test.Quiet)
    (trues : whenTrue.Quiet) (falses : whenFalse.Quiet) :
    Quiet (evaluateCondition scope test whenTrue whenFalse) := by
  refine bind store fun before => bind (tests _) fun result => ?_
  split
  · exact pure _
  · exact bind (trues _) fun _ => bind (falses _) fun _ => pure _

theorem evaluateChild (scope : Scope) (expected : Option DataType) {child : Pending} (quiet : child.Quiet) :
    Quiet (evaluateChild scope expected child) :=
  bind (quiet _) fun _ => pure _

theorem rebuild (scope : Scope) (id : EntityId) (type : DataType) (value : Value) :
    Quiet (rebuild scope id type value) :=
  bind (inferType _ _) fun _ => pure _

theorem evaluateArray (scope : Scope) (id : EntityId) (type : DataType) {items : List Pending}
    (all : ∀ item ∈ items, item.Quiet) : Quiet (evaluateArray scope id type items) := by
  refine bind (mapM ?_) fun _ => rebuild ..
  intro (item, index) member
  exact evaluateChild scope _ (all item (List.fst_mem_of_mem_zipIdx member))

theorem evaluateRecord (scope : Scope) (id : EntityId) (type : DataType) {entries : List (String × Pending)}
    (all : ∀ entry ∈ entries, entry.2.Quiet) : Quiet (evaluateRecord scope id type entries) := by
  refine bind (mapM ?_) fun _ => rebuild ..
  intro (entry, index) member
  exact bind (evaluateChild scope _ (all entry (List.fst_mem_of_mem_zipIdx member))) fun _ => pure _

theorem evaluateEach : ∀ {statements : List Pending}, (∀ pending ∈ statements, pending.Quiet) →
    ∀ (last : Data) (scope : Scope), Quiet (evaluateEach last statements scope)
  | [], _, _, _ => pure _
  | pending :: rest, all, _, scope => by
    refine bind (all pending (by simp) scope) fun result => ?_
    exact evaluateEach (fun other member => all other (by simp [member])) _ _

theorem previewBody (scope : Scope) {parameters body : List Pending} (first : ∀ pending ∈ parameters, pending.Quiet)
    (second : ∀ pending ∈ body, pending.Quiet) : Quiet (previewBody scope parameters body) := by
  refine bind (evaluateEach first _ _) fun _ => bind (draw _) fun _ => ?_
  exact bind (evaluateEach second _ _) fun _ => pure _

theorem outlineCall (scope : Scope) (data operation : Data) {arguments : List Pending}
    (all : ∀ argument ∈ arguments, argument.Quiet) : Quiet (outlineCall scope data operation arguments) := by
  unfold LivePipeline.outlineCall
  split
  · exact pure _
  · split
    · split
      · split
        · exact draw _
        · exact bind (mapM fun argument member => all argument member _) fun _ => draw _
      · exact draw _
    · exact draw _
    · exact draw _

theorem runStages (scope : Scope) : ∀ {stages : List Stage},
    (∀ stage ∈ stages, ∀ current inner, Quiet (stage current inner)) →
    ∀ (narrowing : Option Narrowing) (receiver current : Data),
      Quiet (runStages scope narrowing receiver current stages)
  | [], _, _, _, _ => pure _
  | stage :: rest, all, _, _, _ => by
    refine bind (all stage (by simp) _ _) fun _ => bind store fun _ => ?_
    exact bind (runStages scope (fun other member => all other (by simp [member])) _ _ _) fun _ => pure _

end Quiet

mutual

theorem outlineStatement_quiet : ∀ (statement : Statement) (scope : Scope), Quiet (outlineStatement statement scope)
  | ⟨id, data, operations, _, _⟩, scope => by
    refine .bind (outlineData_quiet data scope) fun initial => ?_
    refine .bind (.runStages scope (outlineStages_quiet operations) _ _ _) fun chained => ?_
    exact .bind (.resolve _ _) fun result => .bind (.setResult _ _) fun _ => .pure _
termination_by structural statement => statement

theorem outlineData_quiet : ∀ (data : Data) (scope : Scope), Quiet (outlineData data scope)
  | ⟨id, type, value⟩, scope => by
    match value with
    | .reference name target => exact .resolve scope ⟨id, type, .reference name target⟩
    | .condition test whenTrue whenFalse =>
      exact .evaluateCondition scope (outlineStatement_quiet test) (outlineStatement_quiet whenTrue)
        (outlineStatement_quiet whenFalse)
    | .array items => exact .evaluateArray scope id type (outlines_quiet items)
    | .record entries => exact .evaluateRecord scope id type (outlineEntries_quiet entries)
    | .operation name parameters body =>
      refine .bind (.previewBody scope (outlines_quiet parameters) (outlines_quiet body)) fun _ => ?_
      exact .bind (.inferType _ _) fun _ => .pure _
    | .handle className arguments instanceId => exact .evaluateHandle ..
    | .undefined | .text _ | .number _ | .boolean _ | .error _ => exact .pure _
termination_by structural data => data

theorem outlineStages_quiet : ∀ (operations : List Data), ∀ stage ∈ outlineStages operations,
    ∀ current scope, Quiet (stage current scope)
  | [] => by simp [outlineStages]
  | operation :: rest => by
    intro stage member current scope
    rcases List.mem_cons.mp member with rfl | later
    · refine .bind (.outlineCall scope current operation (outlineArguments_quiet operation)) fun result => ?_
      exact .bind (.setResult _ _) fun _ => .pure _
    · exact outlineStages_quiet rest stage later current scope
termination_by structural operations => operations

theorem outlineArguments_quiet : ∀ operation : Data, ∀ argument ∈ outlineArguments operation, argument.Quiet
  | ⟨_, _, .operation _ arguments _⟩ => outlines_quiet arguments
  | ⟨_, _, .undefined⟩ | ⟨_, _, .text _⟩ | ⟨_, _, .number _⟩ | ⟨_, _, .boolean _⟩ | ⟨_, _, .array _⟩
  | ⟨_, _, .record _⟩ | ⟨_, _, .condition _ _ _⟩ | ⟨_, _, .reference _ _⟩ | ⟨_, _, .error _⟩
  | ⟨_, _, .handle _ _ _⟩ => by simp [outlineArguments]
termination_by structural operation => operation

theorem outlines_quiet : ∀ statements : List Statement, ∀ pending ∈ outlines statements, pending.Quiet
  | [] => by simp [outlines]
  | statement :: rest => by
    intro pending member
    rcases List.mem_cons.mp member with rfl | later
    · exact outlineStatement_quiet statement
    · exact outlines_quiet rest pending later
termination_by structural statements => statements

theorem outlineEntries_quiet : ∀ entries : List (String × Statement), ∀ entry ∈ outlineEntries entries, entry.2.Quiet
  | [] => by simp [outlineEntries]
  | (_, statement) :: rest => by
    intro entry member
    rcases List.mem_cons.mp member with rfl | later
    · exact outlineStatement_quiet statement
    · exact outlineEntries_quiet rest entry later
termination_by structural entries => entries

end

/-- In a skipping scope a statement runs nothing. Its evaluation is the outline of the statement,
which knows no handler, no transport and no way to call an operation of the program; so scopes that
differ in the handlers of their extensions and in the transport cannot be told apart, nothing is
called outside, and nothing is kept for reuse. -/
theorem evaluate_eq_outline_of_skipping (scope other : Scope) (statement : Statement) (world : World)
    (skipping : scope.isSkipping) (surface : other.inert = scope.inert) :
    scope.evaluate statement world = outlineStatement statement scope.inert world
      ∧ other.evaluate statement world = scope.evaluate statement world
      ∧ (scope.evaluate statement world).2.events = world.events
      ∧ (scope.evaluate statement world).2.store.fingerprints = world.store.fingerprints := by
  have outline : scope.evaluate statement = outlineStatement statement scope.inert :=
    evaluateStatement_outlined scope.caller statement scope skipping
  have otherSkipping : other.isSkipping := by
    have skips : other.inert.isSkipping := by rw [surface]; exact skipping
    exact skips
  have otherOutline : other.evaluate statement = outlineStatement statement scope.inert := by
    rw [← surface]
    exact evaluateStatement_outlined other.caller statement other otherSkipping
  have quiet := outlineStatement_quiet statement scope.inert
  rw [outline, otherOutline]
  exact ⟨rfl, rfl, quiet.events world, quiet.fingerprints world⟩

/-- A list whose only element would ring a bell, once behind a working bell and once behind none. -/
theorem evaluate_skipped_bell :
    let bell (handler : Data → List Data → Except String Data) : Extension :=
      ⟨"ring", [.receiver .unknown], .number, handler⟩
    let scope : Scope := { skip := some .unreachable, extensions := [bell fun data _ => .ok data] }
    let other : Scope :=
      { scope with extensions := [bell fun _ _ => .error "no bell"], transport := some fun _ => .error "" }
    let ring : Data := ⟨"call", .unknown, .operation (some "ring") [] []⟩
    let element : Statement := ⟨"element", ⟨"one", .boolean, .boolean true⟩, [ring], none, false⟩
    let statement : Statement := ⟨"list", ⟨"items", .unknown, .array [element]⟩, [], none, false⟩
    scope.isSkipping ∧ other.inert = scope.inert
      ∧ other.evaluate statement {} = scope.evaluate statement {}
      ∧ (scope.evaluate statement {}).2.events = [] := by
  intro bell scope other ring element statement
  have skipped := evaluate_eq_outline_of_skipping scope other statement {} rfl rfl
  exact ⟨rfl, rfl, skipped.2.1, skipped.2.2.1⟩

end LivePipeline
