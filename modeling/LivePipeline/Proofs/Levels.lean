import Mathlib.Data.List.Forall2
import LivePipeline.Revision
import LivePipeline.Proofs.Effects

/-! Evaluation and revision end because calls nest no deeper than the limit. What a statement comes to
depends only on the parts of the statement at the same depth, and on bodies of operations one level
deeper while the limit is not reached. So the equations of the language, in which every call evaluates
the body of its operation by the same equations again, have exactly one solution. -/

namespace LivePipeline

/-! ## Scopes of the same level -/

/-- The scopes stand at the same depth under the same limit. -/
def Scope.Level (scope other : Scope) : Prop := other.callDepth = scope.callDepth ∧ other.options = scope.options

namespace Scope.Level

variable {scope other : Scope}

theorem refl (scope : Scope) : scope.Level scope := ⟨rfl, rfl⟩

theorem trans {third : Scope} (first : scope.Level other) (second : other.Level third) : scope.Level third :=
  ⟨second.1.trans first.1, second.2.trans first.2⟩

@[simp] theorem child (level : scope.Level other) : scope.Level other.child := level

@[simp] theorem expecting (level : scope.Level other) (type : Option DataType) : scope.Level (other.expecting type) := level

@[simp] theorem withNarrowing (level : scope.Level other) (narrowing : Option Narrowing) :
    scope.Level (other.withNarrowing narrowing) := level

@[simp] theorem withSkip (level : scope.Level other) (skip : Option Skip) : scope.Level (other.withSkip skip) := level

@[simp] theorem publish (level : scope.Level other) (name : Option String) (id : EntityId) (data : Data) :
    scope.Level (other.publish name id data) := by
  cases name <;> exact level

@[simp] theorem enter (level : scope.Level other) (branch : Branch) : scope.Level (other.enter branch) := by
  unfold Scope.enter
  split <;> exact level

theorem caller (level : scope.Level other) : other.caller = scope.caller := by
  rw [Scope.caller, Scope.caller, level.1, level.2]

end Scope.Level

/-! ## Work that agrees on a level -/

/-- The same statement, evaluated alike on the level of the scope. -/
structure Pending.Twin (scope : Scope) (left right : Pending) : Prop where
  statement : left.statement = right.statement
  evaluate : ∀ inner, scope.Level inner → left.evaluate inner = right.evaluate inner

/-- The callers do the same on the level of the scope. -/
def Caller.Twin (scope : Scope) (left right : Caller) : Prop := ∀ inner, scope.Level inner → left inner = right inner

/-- The pending statements agree one by one. -/
abbrev Twins (scope : Scope) : List Pending → List Pending → Prop := List.Forall₂ (Pending.Twin scope)

section

variable {scope inner : Scope}

/-- What agrees on a level agrees on the level of every scope there. -/
theorem Twins.widen {left right : List Pending} (twins : Twins scope left right) (level : scope.Level inner) : Twins inner left right :=
  twins.imp fun _ _ twin => ⟨twin.statement, fun third next => twin.evaluate third (level.trans next)⟩

theorem Twins.map {statements : List Statement} {left right : Statement → Scope → Run Data}
    (each : ∀ statement ∈ statements, ∀ inner, scope.Level inner → left statement inner = right statement inner) :
    Twins scope (statements.map fun statement => ⟨statement, left statement⟩)
      (statements.map fun statement => ⟨statement, right statement⟩) := by
  induction statements with
  | nil => exact .nil
  | cons statement rest ih =>
    rw [List.forall_mem_cons] at each
    exact .cons ⟨rfl, each.1⟩ (ih each.2)

/-- The scope behind the statements stays on the level, so what follows may depend on it. -/
theorem evaluateEach_bind_twins {next next' : Data × Scope → Run α} {left right : List Pending} (twins : Twins scope left right)
    (level : scope.Level inner) (agree : ∀ last behind, scope.Level behind → next (last, behind) = next' (last, behind))
    (last : Data) : (evaluateEach last left inner >>= next) = evaluateEach last right inner >>= next' := by
  induction twins generalizing inner last with
  | nil => exact agree last inner level
  | cons head _ ih =>
    rw [evaluateEach, evaluateEach, bind_assoc, bind_assoc, head.evaluate inner level, head.statement]
    exact bind_congr fun result => ih (level.publish _ _ _) result

theorem evaluateUntilError_twins {left right : List Pending} (twins : Twins scope left right) (level : scope.Level inner)
    (last : Data) : evaluateUntilError last left inner = evaluateUntilError last right inner := by
  induction twins generalizing inner last with
  | nil => rfl
  | cons head _ ih =>
    rw [evaluateUntilError, evaluateUntilError, head.evaluate inner level, head.statement]
    refine bind_congr fun result => ?_
    dsimp only
    split
    · rfl
    · exact ih (level.publish _ _ _) result

theorem runBody_twins {left right : List Pending} (twins : Twins scope left right) (level : scope.Level inner) :
    runBody left inner = runBody right inner :=
  bind_congr fun last => evaluateUntilError_twins twins level last

theorem previewBody_twins {parameters parameters' body body' : List Pending} (first : Twins scope parameters parameters')
    (second : Twins scope body body') (level : scope.Level inner) :
    previewBody inner parameters body = previewBody inner parameters' body' :=
  evaluateEach_bind_twins first level.child (fun _ _ behind => bind_congr fun last =>
    evaluateEach_bind_twins second behind (fun _ _ _ => rfl) last) default

theorem bindParameters_bind_twins {next next' : Scope → Run α} {left right : List Pending} (twins : Twins scope left right)
    (level : scope.Level inner) (agree : ∀ bound, scope.Level bound → next bound = next' bound) (arguments : List Data) :
    (bindParameters left arguments inner >>= next) = bindParameters right arguments inner >>= next' := by
  induction twins generalizing inner arguments with
  | nil => cases arguments <;> exact agree inner level
  | cons head _ ih =>
    cases arguments with
    | nil =>
      rw [bindParameters, bindParameters, bind_assoc, bind_assoc, head.evaluate inner level, head.statement]
      exact bind_congr fun value => ih (level.publish _ _ _) []
    | cons value values =>
      rw [bindParameters, bindParameters, head.statement]
      exact ih (level.publish _ _ _) values

theorem evaluateCondition_twins {test test' onTrue onTrue' onFalse onFalse' : Pending} (tests : test.Twin scope test')
    (trues : onTrue.Twin scope onTrue') (falses : onFalse.Twin scope onFalse') (level : scope.Level inner) :
    evaluateCondition inner test onTrue onFalse = evaluateCondition inner test' onTrue' onFalse' := by
  simp only [evaluateCondition, tests.statement, tests.evaluate _ level.child,
    trues.evaluate _ (((level.withNarrowing _).enter .narrowed).withSkip _),
    falses.evaluate _ (((level.withNarrowing _).enter .inverse).withSkip _)]

theorem evaluateArguments_twins {left right : List Pending} (twins : Twins scope left right) (level : scope.Level inner)
    (name : String) (expected : List Parameter) (index : Nat) :
    evaluateArguments inner name (left.zip expected) index = evaluateArguments inner name (right.zip expected) index := by
  induction twins generalizing expected index with
  | nil => rfl
  | cons head _ ih =>
    cases expected with
    | nil => rfl
    | cons parameter expected =>
      simp only [List.zip_cons_cons, evaluateArguments, head.evaluate _ (level.child.expecting _), ih]

theorem mapM_twins {left right : List Pending} (twins : Twins scope left right) (level : scope.Level inner) :
    left.mapM (fun argument => argument.evaluate inner) = right.mapM fun argument => argument.evaluate inner := by
  induction twins with
  | nil => rfl
  | cons head _ ih => rw [List.mapM_cons, List.mapM_cons, head.evaluate inner level, ih]

theorem skipCall_twins {left right : List Pending} (twins : Twins scope left right) (level : scope.Level inner)
    (callable : Callable) (data : Data) : skipCall inner callable data left = skipCall inner callable data right := by
  rw [skipCall, skipCall, mapM_twins twins level.child]

theorem evaluateChild_twins {left right : Pending} (twin : left.Twin scope right) (level : scope.Level inner)
    (expected : Option DataType) : evaluateChild inner expected left = evaluateChild inner expected right := by
  rw [evaluateChild, evaluateChild, twin.evaluate _ (level.child.expecting expected), twin.statement]

theorem evaluateArray_twins {left right : List Pending} (twins : Twins scope left right) (level : scope.Level inner)
    (id : EntityId) (type : DataType) : evaluateArray inner id type left = evaluateArray inner id type right := by
  have items : ∀ start, (left.zipIdx start).mapM (fun entry => evaluateChild inner (type.expectedChild entry.2 none) entry.1)
      = (right.zipIdx start).mapM fun entry => evaluateChild inner (type.expectedChild entry.2 none) entry.1 := by
    induction twins with
    | nil => intro start; rfl
    | cons head _ ih =>
      intro start
      simp only [List.zipIdx_cons, List.mapM_cons, evaluateChild_twins head level, ih]
  exact congrArg (· >>= _) (items 0)

/-- The pending entries agree one by one. -/
abbrev EntryTwins (scope : Scope) : List (String × Pending) → List (String × Pending) → Prop :=
  List.Forall₂ fun left right => left.1 = right.1 ∧ left.2.Twin scope right.2

theorem evaluateRecord_twins {left right : List (String × Pending)} (twins : EntryTwins scope left right)
    (level : scope.Level inner) (id : EntityId) (type : DataType) :
    evaluateRecord inner id type left = evaluateRecord inner id type right := by
  have entries : ∀ start, (left.zipIdx start).mapM (fun entry => do
        let statement ← evaluateChild inner (type.expectedChild entry.2 (some entry.1.1)) entry.1.2
        return (entry.1.1, statement))
      = (right.zipIdx start).mapM fun entry => do
        let statement ← evaluateChild inner (type.expectedChild entry.2 (some entry.1.1)) entry.1.2
        return (entry.1.1, statement) := by
    induction twins with
    | nil => intro start; rfl
    | cons head _ ih =>
      intro start
      simp only [List.zipIdx_cons, List.mapM_cons, evaluateChild_twins head.2 level, head.1, ih]
  exact congrArg (· >>= _) (entries 0)

/-! ## Handlers -/

/-- An eager operation calls the program in its own scope only. -/
def EagerHandler.Local (handler : EagerHandler) : Prop :=
  ∀ caller caller' : Caller, ∀ scope data arguments, caller scope = caller' scope →
    handler caller scope data arguments = handler caller' scope data arguments

/-- A lazy operation evaluates its arguments on the level of its scope only. -/
def LazyHandler.Local (handler : LazyHandler) : Prop :=
  ∀ scope data left right, Twins scope left right → handler scope data left = handler scope data right

def Handler.Local : Handler → Prop
  | .eager run => EagerHandler.Local run
  | .lazy run => LazyHandler.Local run

theorem branchArgument_twins {left right : Pending} (twin : left.Twin scope right) (name : String) (data : Data) (index : Nat)
    (branch : Branch) (expected : Option DataType) :
    Operation.branchArgument name scope data index left branch expected
      = Operation.branchArgument name scope data index right branch expected := by
  rw [Operation.branchArgument, Operation.branchArgument,
    twin.evaluate _ ((((Scope.Level.refl scope).enter branch).withSkip _).expecting expected)]

theorem connective_local (name : String) (decisive : Bool) (branch : Branch) :
    LazyHandler.Local (Operation.connective name decisive branch) := by
  intro scope data left right twins
  cases twins with
  | nil => rfl
  | cons head _ => simp only [Operation.connective, branchArgument_twins head]

theorem choose_local : LazyHandler.Local Operation.choose := by
  intro scope data left right twins
  cases twins with
  | nil => rfl
  | cons first rest =>
    cases rest with
    | nil => rfl
    | cons second _ => simp only [Operation.choose, branchArgument_twins first, branchArgument_twins second]

namespace Operation

variable {caller caller' : Caller} {scope : Scope}

theorem callEach_local (same : caller scope = caller' scope) (operation : Data) (items : List Statement) :
    callEach caller scope operation items = callEach caller' scope operation items := by
  rw [callEach, callEach, same]

theorem answered_local (same : caller scope = caller' scope) (name : String) (data : Data) (arguments : List Data) :
    answered name caller scope data arguments = answered name caller' scope data arguments := by
  simp only [answered, callEach_local same]

theorem compareBy_local (same : caller scope = caller' scope) (comparator : Data) :
    compareBy caller scope comparator = compareBy caller' scope comparator := by
  funext a b
  rw [compareBy, compareBy, same]

theorem reduceFrom_local (same : caller scope = caller' scope) (operation : Data) (items : List (Statement × Nat))
    (accumulator : Data) : reduceFrom caller scope operation items accumulator = reduceFrom caller' scope operation items accumulator := by
  induction items generalizing accumulator with
  | nil => rfl
  | cons item rest ih => simp only [reduceFrom, same, ih]

theorem mapSequence_local : EagerHandler.Local mapSequence := by
  intro caller caller' scope data arguments same
  simp only [mapSequence, callEach_local same]

theorem filterSequence_local : EagerHandler.Local filterSequence := by
  intro caller caller' scope data arguments same
  simp only [filterSequence, answered_local same]

theorem findElement_local : EagerHandler.Local findElement := by
  intro caller caller' scope data arguments same
  simp only [findElement, answered_local same]

theorem someElement_local : EagerHandler.Local someElement := by
  intro caller caller' scope data arguments same
  simp only [someElement, callEach_local same]

theorem everyElement_local : EagerHandler.Local everyElement := by
  intro caller caller' scope data arguments same
  simp only [everyElement, callEach_local same]

theorem sortSequence_local : EagerHandler.Local sortSequence := by
  intro caller caller' scope data arguments same
  simp only [sortSequence, compareBy_local same]

theorem reduceSequence_local : EagerHandler.Local reduceSequence := by
  intro caller caller' scope data arguments same
  simp only [reduceSequence, reduceFrom_local same]

theorem call_local : EagerHandler.Local call := by
  intro caller caller' scope data arguments same
  simp only [call, same]

end Operation

/-- An operation that makes no call of the program. -/
theorem EagerHandler.Local.ofConstant {handler : EagerHandler} (constant : ∀ caller caller', handler caller = handler caller') :
    handler.Local := fun caller caller' scope data arguments _ => by rw [constant caller caller']

open Operation in
theorem sequenceFamily_local : ∀ builtin ∈ sequenceFamily, builtin.handler.Local := by
  simp only [sequenceFamily, List.forall_mem_cons, List.not_mem_nil, false_implies, implies_true, and_true]
  exact ⟨.ofConstant fun _ _ => rfl, .ofConstant fun _ _ => rfl, .ofConstant fun _ _ => rfl, .ofConstant fun _ _ => rfl,
    .ofConstant fun _ _ => rfl, .ofConstant fun _ _ => rfl, .ofConstant fun _ _ => rfl, .ofConstant fun _ _ => rfl,
    .ofConstant fun _ _ => rfl, mapSequence_local, filterSequence_local, findElement_local, someElement_local,
    everyElement_local, sortSequence_local, reduceSequence_local⟩

end

/-- Families whose operations never call the program. -/
theorem constantFamilies_local : ∀ family ∈ [Operation.genericFamily, Operation.textualFamily, Operation.numericFamily,
    Operation.recordFamily, Operation.dictionaryFamily, Operation.optionalFamily, Operation.dateFamily,
    Operation.locatorFamily, Operation.httpFamily, Operation.promiseFamily], ∀ builtin ∈ family, builtin.handler.Local := by
  simp only [Operation.genericFamily, Operation.textualFamily, Operation.numericFamily, Operation.recordFamily,
    Operation.dictionaryFamily, Operation.optionalFamily, Operation.dateFamily, Operation.locatorFamily,
    Operation.httpFamily, Operation.promiseFamily, List.forall_mem_cons, List.not_mem_nil, false_implies, implies_true, and_true]
  and_intros <;> exact EagerHandler.Local.ofConstant fun _ _ => rfl

theorem logicFamily_local : ∀ builtin ∈ Operation.logicFamily, builtin.handler.Local := by
  simp only [Operation.logicFamily, List.forall_mem_cons, List.not_mem_nil, false_implies, implies_true, and_true]
  exact ⟨connective_local _ _ _, connective_local _ _ _, EagerHandler.Local.ofConstant fun _ _ => rfl, choose_local⟩

theorem callingFamily_local : ∀ builtin ∈ Operation.callingFamily, builtin.handler.Local := by
  simp only [Operation.callingFamily, List.forall_mem_cons, List.not_mem_nil, false_implies, implies_true, and_true]
  exact Operation.call_local

theorem builtins_local : ∀ builtin ∈ builtins, builtin.handler.Local := by
  have constant := constantFamilies_local
  simp only [List.forall_mem_cons, List.not_mem_nil, false_implies, implies_true, and_true] at constant
  obtain ⟨generic, textual, numeric, record, dictionary, optional, date, locator, http, promise⟩ := constant
  simp only [builtins, List.forall_mem_append]
  exact ⟨⟨⟨⟨⟨⟨⟨⟨⟨⟨⟨⟨generic, textual⟩, numeric⟩, logicFamily_local⟩, sequenceFamily_local⟩, record⟩, dictionary⟩, optional⟩,
    callingFamily_local⟩, date⟩, locator⟩, http⟩, promise⟩

/-! ## Calls -/

section

variable {scope inner : Scope} {caller caller' : Caller}

theorem runEager_local (same : caller scope = caller' scope) {callable : Callable}
    (known : ∀ builtin, callable = .builtin builtin → builtin ∈ builtins) (id : EntityId) (data : Data) (arguments : List Data) :
    runEager caller scope callable id data arguments = runEager caller' scope callable id data arguments := by
  cases callable with
  | builtin builtin =>
    have confined := builtins_local builtin (known builtin rfl)
    rw [runEager, runEager]
    split
    · next run eager =>
      rw [eager] at confined
      rw [confined caller caller' scope data arguments same]
    · rfl
  | extension extension => rfl
  | userDefined name operation => rw [runEager, runEager, same]

theorem invoke_local (same : caller scope = caller' scope) {callable : Callable}
    (known : ∀ builtin, callable = .builtin builtin → builtin ∈ builtins) {left right : List Pending} (twins : Twins scope left right)
    (id : EntityId) (data : Data) : invoke caller scope callable id data left = invoke caller' scope callable id data right := by
  unfold invoke
  dsimp only
  rw [twins.length_eq, skipCall_twins twins (.refl scope)]
  split
  · rfl
  · split
    · rfl
    · split
      · have confined := builtins_local _ (known _ rfl)
        exact congrArg Attempt.settle (confined scope data left right twins)
      · rw [evaluateArguments_twins twins (.refl scope)]
        refine bind_congr fun outcome => ?_
        cases outcome with
        | ok values => exact runEager_local same known id data values
        | error error => rfl

theorem callResult_twins (callers : caller.Twin scope caller') {left right : List Pending} (twins : Twins scope left right)
    (level : scope.Level inner) (data operation : Data) :
    callResult caller inner data operation left = callResult caller' inner data operation right := by
  unfold callResult
  dsimp only
  split
  · rfl
  · split
    · split
      · next callable found =>
        refine invoke_local (callers _ (level.withSkip _)) ?_ (twins.widen (level.withSkip _)) _ _
        rintro builtin rfl
        exact Scope.builtin_mem_of_find? found
      · rfl
    · rfl
    · rfl

theorem performCall_twins (callers : caller.Twin scope caller') {left right : List Pending} (twins : Twins scope left right)
    (level : scope.Level inner) (data operation : Data) :
    performCall caller inner data operation left = performCall caller' inner data operation right := by
  rw [performCall, performCall, callResult_twins callers twins level]

/-- Stages that agree on the level give chains that agree. -/
theorem runStages_twins {left right : List Stage}
    (twins : List.Forall₂ (fun stage stage' => ∀ current inner, scope.Level inner → stage current inner = stage' current inner) left right)
    (level : scope.Level inner) (narrowing : Option Narrowing) (receiver current : Data) :
    runStages inner narrowing receiver current left = runStages inner narrowing receiver current right := by
  induction twins generalizing narrowing receiver current with
  | nil => rfl
  | cons head _ ih => simp only [runStages, head current _ (level.child.withNarrowing narrowing), ih]

end

/-! ## Revision -/

/-- The same statement, brought up to date alike on the level of the scope. -/
structure Revisable.Twin (scope : Scope) (left right : Revisable) : Prop where
  statement : left.statement = right.statement
  revise : ∀ inner, scope.Level inner → left.revise inner = right.revise inner

abbrev RevisableTwins (scope : Scope) : List Revisable → List Revisable → Prop := List.Forall₂ (Revisable.Twin scope)

section

variable {scope inner : Scope}

theorem RevisableTwins.map {statements : List Statement} {left right : Statement → Scope → Run (Statement × Data)}
    (each : ∀ statement ∈ statements, ∀ inner, scope.Level inner → left statement inner = right statement inner) :
    RevisableTwins scope (statements.map fun statement => ⟨statement, left statement⟩)
      (statements.map fun statement => ⟨statement, right statement⟩) := by
  rw [RevisableTwins, List.forall₂_map_left_iff, List.forall₂_map_right_iff, List.forall₂_same]
  exact fun statement member => ⟨rfl, each statement member⟩

theorem reviseEach_bind_twins {next next' : List Statement × Scope → Run α} {left right : List Revisable}
    (twins : RevisableTwins scope left right) (level : scope.Level inner)
    (agree : ∀ statements behind, scope.Level behind → next (statements, behind) = next' (statements, behind)) :
    (reviseEach left inner >>= next) = reviseEach right inner >>= next' := by
  induction twins generalizing inner next next' with
  | nil => exact agree [] inner level
  | cons head _ ih =>
    simp only [reviseEach, bind_assoc, pure_bind, head.revise inner level]
    exact bind_congr fun outcome => ih (level.publish _ _ _) fun statements behind final => agree _ behind final

theorem reviseCondition_twins {test test' onTrue onTrue' onFalse onFalse' : Revisable} (tests : test.Twin scope test')
    (trues : onTrue.Twin scope onTrue') (falses : onFalse.Twin scope onFalse') (level : scope.Level inner) :
    reviseCondition inner test onTrue onFalse = reviseCondition inner test' onTrue' onFalse' := by
  simp only [reviseCondition, tests.statement, tests.revise _ level.child,
    trues.revise _ (((level.withNarrowing _).enter .narrowed).withSkip _),
    falses.revise _ (((level.withNarrowing _).enter .inverse).withSkip _)]

theorem reviseOperation_twins {parameters parameters' body body' : List Revisable}
    (first : RevisableTwins scope parameters parameters') (second : RevisableTwins scope body body') (level : scope.Level inner)
    (id : EntityId) (name : Option String) :
    reviseOperation inner id name parameters (fun inner => do return (← reviseEach body inner).1)
      = reviseOperation inner id name parameters' fun inner => do return (← reviseEach body' inner).1 := by
  refine reviseEach_bind_twins first level.child fun parameters behind final => ?_
  simp only [bind_assoc, pure_bind]
  exact reviseEach_bind_twins second final fun _ _ _ => rfl

theorem reviseItems_twins {left right : List Revisable} (twins : RevisableTwins scope left right) (level : scope.Level inner) :
    left.mapM (fun item => return (← item.revise inner).1) = right.mapM fun item => return (← item.revise inner).1 := by
  induction twins with
  | nil => rfl
  | cons head _ ih => rw [List.mapM_cons, List.mapM_cons, head.revise inner level, ih]

theorem reviseEntries_twins {left right : List (String × Revisable)}
    (twins : List.Forall₂ (fun left right => left.1 = right.1 ∧ left.2.Twin scope right.2) left right) (level : scope.Level inner) :
    left.mapM (fun (key, entry) => return (key, (← entry.revise inner).1))
      = right.mapM fun (key, entry) => return (key, (← entry.revise inner).1) := by
  induction twins with
  | nil => rfl
  | cons head _ ih => simp only [List.mapM_cons, head.1, head.2.revise inner level, ih]

theorem reviseArgument_twins {left right : Revisable} (twin : left.Twin scope right) (level : scope.Level inner) (isLazy : Bool)
    (parameter : Parameter) : reviseArgument inner isLazy parameter left = reviseArgument inner isLazy parameter right := by
  rw [reviseArgument, reviseArgument, twin.statement, twin.revise _ (level.child.expecting _)]

theorem repairArguments_twins {left right : List Revisable} (twins : RevisableTwins scope left right) (level : scope.Level inner)
    (isLazy : Bool) (parameters : List Parameter) :
    repairArguments inner isLazy parameters left = repairArguments inner isLazy parameters right := by
  induction twins generalizing parameters with
  | nil => rfl
  | cons head _ ih =>
    cases parameters with
    | nil => rfl
    | cons parameter parameters => simp only [repairArguments, reviseArgument_twins head level, ih]

theorem repairCall_twins {left right : List Revisable} (twins : RevisableTwins scope left right) (level : scope.Level inner)
    (data operation : Data) : repairCall inner data operation left = repairCall inner data operation right := by
  unfold repairCall
  split
  · rfl
  · split
    · rfl
    · dsimp only
      rw [repairArguments_twins twins level]
  · rfl

end

end LivePipeline
