import LivePipeline.Proofs.Correspondence.Evaluation
import LivePipeline.Proofs.Standards.Builtins

/-! Evaluation keeps to a standard. In a scope whose data is good, nodes for which results may be recorded are
evaluated to good data, whether calls are run or skipped. What is left to each standard is which operation values may be
opened when they are called. -/

namespace LivePipeline

/-! ## Sequences of statements -/

/-- A failed attempt gives error data. -/
theorem Attempt.Obeys.settle {way : Discipline} {attempt : Attempt Data} (obeys : Attempt.Obeys way attempt way.data) :
    Run.Ensures way.world (Attempt.settle attempt) way.data := by
  refine .bind obeys fun outcome met => ?_
  cases outcome with
  | ok data => exact .pure met
  | error failure => exact .draw (.admitted rfl rfl)

/-- An operation that a call names is one of the program, of the host, or a built-in one. -/
theorem Scope.origin_of_find? {scope : Scope} {data : Data} {name : String} {callable : Callable}
    (found : scope.find? data name = some callable) :
    (∃ entry ∈ scope.bindings, .userDefined entry.1 entry.2.data = callable)
      ∨ (∃ extension ∈ scope.extensions, .extension extension = callable)
      ∨ ∃ builtin ∈ builtins, .builtin builtin = callable := by
  have among := List.mem_of_find?_eq_some found
  simp only [callables, userOperations, List.mem_append, List.mem_filterMap, List.mem_map, List.mem_reverse, or_assoc] at among
  refine among.imp_left ?_
  rintro ⟨entry, member, given⟩
  split at given
  · exact ⟨entry, member, Option.some.inj given⟩
  · cases given

section

open Run (Upholds Secures)

variable {std : Standard} {caller : Caller} {scope : Scope}

/-! ## Calls -/

theorem Attempt.Upholds.settle {attempt : Attempt Data} (upholds : Attempt.Upholds std attempt std.data) :
    Run.Upholds std (Attempt.settle attempt) std.data := (@Attempt.Obeys.settle std.discipline attempt upholds).upholds

theorem evaluateArguments_secures (provides : scope.Provides std) (name : String) {arguments : List (Pending × Parameter)}
    (each : ∀ argument ∈ arguments, argument.1.Upholds std) (index : Nat) :
    Secures std (evaluateArguments scope name arguments index) std.data fun values => ∀ value ∈ values, std.data value :=
  evaluateArguments_assures (fun _ _ => (@Run.Ensures.draw std.discipline _ _ _ (.leaf _ rfl)).upholds) name
    (fun argument among _ => each argument among _ (provides.child.expecting _)) index

theorem runCached_upholds (key : String) {operationId : EntityId} (own : std.code operationId) {run : Run Data}
    (upholds : Upholds std run std.data) : Upholds std (runCached key operationId run) std.data :=
  runCached_ensures key (fun _ _ => std.remembered) (fun _ _ kept known => std.records true kept own known)
    (fun _ _ kept known => std.remembers key kept known) upholds

/-- What a call can name keeps to the standard. -/
def Callable.Upholds (std : Standard) : Callable → Prop
  | .builtin known => known.handler.Upholds
  | .extension known => known.Provides std
  | .userDefined _ operation => std.data operation

theorem Scope.find?_upholds (provides : scope.Provides std) {data : Data} {name : String} {callable : Callable}
    (found : scope.find? data name = some callable) : callable.Upholds std := by
  rcases Scope.origin_of_find? found with ⟨entry, among, rfl⟩ | ⟨extension, among, rfl⟩ | ⟨known, among, rfl⟩
  · exact provides.bound entry among
  · exact provides.extensions extension among
  · exact builtins_uphold known among

theorem runEager_upholds (calls : caller.Upholds std) (provides : scope.Provides std) {callable : Callable}
    (upholds : callable.Upholds std) {operationId : EntityId} (own : std.code operationId) {data : Data} (receiver : std.data data) {arguments : List Data}
    (all : ∀ argument ∈ arguments, std.data argument) :
    Upholds std (runEager caller scope callable operationId data arguments) std.data := by
  cases callable with
  | builtin builtin =>
    change Handler.Upholds builtin.handler at upholds
    rw [runEager]
    cases handler : builtin.handler with
    | eager run =>
      rw [handler] at upholds
      have work := (upholds std caller scope data arguments calls provides receiver all).settle
      dsimp only
      split
      · exact runCached_upholds _ own work
      · exact work
    | lazy run =>
      rw [handler] at upholds
      exact (upholds std scope data [] provides receiver (by simp)).settle
  | extension extension =>
    refine .bind (.observe _) fun _ _ => ?_
    cases given : extension.handler data arguments with
    | ok result => exact .pure (upholds data arguments result receiver all given)
    | error reason => exact .draw (.leaf _ rfl)
  | userDefined name operation =>
    exact calls scope operation (data :: arguments) provides upholds (List.forall_mem_cons.mpr ⟨receiver, all⟩)

theorem skipCall_upholds (provides : scope.Provides std) (callable : Callable) (data : Data) {arguments : List Pending}
    (each : ∀ argument ∈ arguments, argument.Upholds std) :
    Upholds std (skipCall scope callable data arguments) std.data :=
  .bind (.mapM fun argument among => each argument among _ provides.child) fun _ _ => .draw (.defaultData _ _)

theorem invoke_upholds (calls : caller.Upholds std) (provides : scope.Provides std) {callable : Callable}
    (upholds : callable.Upholds std) {operationId : EntityId} (own : std.code operationId) {data : Data} (receiver : std.data data) {arguments : List Pending}
    (each : ∀ argument ∈ arguments, argument.Upholds std) :
    Upholds std (invoke caller scope callable operationId data arguments) std.data := by
  unfold invoke
  dsimp only
  split
  · exact .draw (.leaf _ rfl)
  · split
    · exact skipCall_upholds provides callable data each
    · split
      · exact (upholds std scope data arguments provides receiver each).settle
      · have evaluated : Secures std (evaluateArguments scope callable.name (arguments.zip (callable.expected data)) 0)
            std.data fun values => ∀ value ∈ values, std.data value := by
          refine evaluateArguments_secures provides callable.name (fun entry among => ?_) 0
          exact each entry.1 (List.of_mem_zip among).1
        refine .bind evaluated fun outcome met => ?_
        cases outcome with
        | ok values => exact runEager_upholds calls provides upholds own receiver met
        | error error => exact .pure met

theorem performCall_upholds (calls : caller.Upholds std) (provides : scope.Provides std) {data : Data} (receiver : std.data data)
    {operation : Data} (own : std.code operation.id) {arguments : List Pending} (each : ∀ argument ∈ arguments, argument.Upholds std) :
    Upholds std (performCall caller scope data operation arguments) std.data := by
  have failed := provides.skipBehind receiver none
  have made : Upholds std (callResult caller scope data operation arguments) std.data := by
    unfold callResult
    dsimp only
    split
    · next error given => exact .pure (failed error given)
    · split
      · split
        · next found =>
          exact invoke_upholds calls (provides.withSkip failed) (Scope.find?_upholds provides found) own receiver each
        · exact .draw (.leaf _ rfl)
      · exact .draw (.leaf _ rfl)
      · exact .draw (.leaf _ rfl)
  refine .bind made fun result known => ?_
  exact .bind (.update fun _ kept => std.records false kept own known) fun _ _ => .pure known

theorem runStages_upholds (link : Data → Prop) (provides : scope.Provides std) {stages : List Stage}
    (each : ∀ stage ∈ stages, ∀ current scope, std.data current → scope.Provides std →
      Upholds std (stage current scope) fun made => link made.1 ∧ std.data made.2)
    (narrowing : Option Narrowing) (receiver : Data) {current : Data} (start : std.data current) :
    Upholds std (runStages scope narrowing receiver current stages)
      fun outcome => std.data outcome.1 ∧ ∀ operation ∈ outcome.2, link operation :=
  runStages_ensures link
    (fun stage among narrowing current start => each stage among current _ start (provides.child.withNarrowing narrowing))
    narrowing receiver start

/-! ## Nodes -/

theorem evaluateCondition_upholds (provides : scope.Provides std) {test whenTrue whenFalse : Pending}
    (tests : test.Upholds std) (trues : whenTrue.Upholds std) (falses : whenFalse.Upholds std) :
    Upholds std (evaluateCondition scope test whenTrue whenFalse) std.data := by
  refine .look fun world _ => .bind (tests _ provides.child) fun result known => ?_
  have inside (branch : Branch) (live : Bool) :=
    ((provides.withNarrowing (scope.checkStatement world.store test.statement)).enter branch).withSkip (provides.skipUnless live)
  dsimp only
  split
  · exact .pure known
  · refine .bind (trues _ (inside _ _)) fun onTrue first => .bind (falses _ (inside _ _)) fun onFalse second => .pure ?_
    split
    · exact first
    · exact second

/-- A child takes its result for its data and has no calls left. -/
theorem evaluateChild_upholds (provides : scope.Provides std) (expected : Option DataType) {child : Pending}
    (upholds : child.Upholds std) : Upholds std (evaluateChild scope expected child) std.child :=
  .bind (upholds _ (provides.child.expecting expected)) fun _ known =>
    .pure (std.bare _ _ _ known)

theorem inferType_upholds (scope : Scope) (value : Value) : Upholds std (scope.inferType value) fun _ => True :=
  .look fun _ _ => .pure trivial

theorem rebuild_upholds (scope : Scope) (id : EntityId) (type : DataType) {value : Value} (good : ∀ type, std.data ⟨id, type, value⟩) :
    Upholds std (rebuild scope id type value) std.data := .bind (inferType_upholds _ _) fun type _ => .pure (good type)

theorem evaluateArray_upholds (provides : scope.Provides std) (id : EntityId) (type : DataType) {items : List Pending}
    (each : ∀ item ∈ items, item.Upholds std) : Upholds std (evaluateArray scope id type items) std.data := by
  refine .bind (.mapM fun entry among => ?_) fun statements all => rebuild_upholds _ id type fun _ => std.array.mpr all
  exact evaluateChild_upholds provides _ (each entry.1 (List.fst_mem_of_mem_zipIdx among))

theorem evaluateRecord_upholds (provides : scope.Provides std) (id : EntityId) (type : DataType)
    {entries : List (String × Pending)} (each : ∀ entry ∈ entries, entry.2.Upholds std) :
    Upholds std (evaluateRecord scope id type entries) std.data := by
  refine .bind (.mapM fun entry among => ?_) fun statements all => rebuild_upholds _ id type fun _ => std.record.mpr all
  exact .bind (evaluateChild_upholds provides _ (each entry.1 (List.fst_mem_of_mem_zipIdx among))) fun _ made => .pure made

theorem Scope.Provides.publishes : Publishes (Scope.Provides std) std.data := fun _ _ _ _ provides new => provides.publish _ _ new

theorem undefined_upholds : Upholds std (Run.draw Data.undefined) std.data := .draw (.leaf _ rfl)

theorem previewBody_upholds (provides : scope.Provides std) {parameters body : List Pending}
    (first : ∀ pending ∈ parameters, pending.Upholds std) (second : ∀ pending ∈ body, pending.Upholds std) :
    Upholds std (previewBody scope parameters body) std.data :=
  previewBody_ensures Scope.Provides.publishes undefined_upholds first second (std.leaf _ _ rfl) provides.child

theorem bindParameters_upholds {parameters : List Pending} (each : ∀ parameter ∈ parameters, parameter.Upholds std)
    {values : List Data} (all : ∀ value ∈ values, std.data value) (provides : scope.Provides std) :
    Upholds std (bindParameters parameters values scope) (Scope.Provides std) :=
  bindParameters_ensures Scope.Provides.publishes each all provides

theorem runBody_upholds {body : List Pending} (each : ∀ pending ∈ body, pending.Upholds std) (provides : scope.Provides std) :
    Upholds std (runBody body scope) fun outcome => std.data outcome.1 ∧ outcome.2.Provides std :=
  runBody_ensures Scope.Provides.publishes undefined_upholds each provides

theorem evaluateHandle_upholds (id : EntityId) (type : DataType) (className : String) (arguments : List Statement)
    (instanceId : EntityId) :
    Upholds std (evaluateHandle ⟨id, type, .handle className arguments instanceId⟩ className arguments instanceId)
      std.data :=
  Attempt.Upholds.settle (.bind (@Operation.externalOf_obeys std.discipline _ _ _) fun _ _ => .pure (std.leaf _ _ rfl))

/-! ## Statements -/

theorem Data.id_of_admits (data : Data) (admits : std.Admits data.mentions) : std.code data.id := by
  rw [Data.mentions_eta] at admits
  exact admits data.id List.mem_cons_self

/-- Evaluation of data, and of the arguments when it is a call. -/
structure Data.Upholds (std : Standard) (caller : Caller) (data : Data) : Prop where
  evaluate : ∀ scope, scope.Provides std → Run.Upholds std (evaluateData caller data scope) std.data
  arguments : ∀ argument ∈ pendingArguments caller data, argument.Upholds std

def Statement.Upholds (std : Standard) (caller : Caller) (statement : Statement) : Prop :=
  Pending.Upholds std ⟨statement, evaluateStatement caller statement⟩

theorem pendings_uphold {statements : List Statement} (all : ∀ statement ∈ statements, statement.Upholds std caller) :
    ∀ pending ∈ pendings caller statements, pending.Upholds std := by
  rw [pendings_eq_map, List.forall_mem_map]
  exact all

/-- Data that is no call has no arguments. -/
theorem Data.Upholds.ofValue {data : Data}
    (evaluate : ∀ scope, scope.Provides std → Run.Upholds std (evaluateData caller data scope) std.data)
    (none : pendingArguments caller data = []) : data.Upholds std caller where
  evaluate := evaluate
  arguments := by rw [none]; simp

theorem stages_uphold (calls : caller.Upholds std) {operations : List Data}
    (all : ∀ operation ∈ operations, std.code operation.id ∧ operation.Upholds std caller) :
    ∀ stage ∈ stages caller operations, ∀ current scope, std.data current → scope.Provides std →
      Upholds std (stage current scope) fun made => True ∧ std.data made.2 := by
  induction operations with
  | nil => simp [stages]
  | cons operation rest ih =>
    rw [List.forall_mem_cons] at all
    rw [stages, List.forall_mem_cons]
    refine ⟨fun current scope start provides => ?_, ih all.2⟩
    exact .bind (performCall_upholds calls provides start all.1.1 all.1.2.arguments) fun result known => .pure ⟨trivial, known⟩

/-- Evaluation goes by the nodes of the program: each keeps to the standard when its parts do. -/
theorem upholds_steps (calls : caller.Upholds std) :
    NodeSteps (fun value => std.Admits value.mentions → ∀ id type, Data.Upholds std caller ⟨id, type, value⟩)
      (fun data => std.Admits data.mentions → data.Upholds std caller)
      (fun statement => std.Admits statement.mentions → statement.Upholds std caller) where
  undefined _ _ _ := .ofValue (fun _ _ => .pure (std.leaf _ _ rfl)) rfl
  text _ _ _ _ := .ofValue (fun _ _ => .pure (std.leaf _ _ rfl)) rfl
  number _ _ _ _ := .ofValue (fun _ _ => .pure (std.leaf _ _ rfl)) rfl
  boolean _ _ _ _ := .ofValue (fun _ _ => .pure (std.leaf _ _ rfl)) rfl
  error _ _ _ _ := .ofValue (fun _ _ => .pure (std.leaf _ _ rfl)) rfl
  array items all admits id type := by
    simp only [Value.mentions, allMentions_eq_flatMap, Standard.admits_flatMap] at admits
    have each := pendings_uphold fun item among => all item among (admits item among)
    exact .ofValue (fun _ provides => evaluateArray_upholds provides id type each) rfl
  record entries all admits id type := by
    simp only [Value.mentions, entryMentions_eq_flatMap, Standard.admits_flatMap] at admits
    refine .ofValue (fun scope provides => evaluateRecord_upholds provides id type ?_) rfl
    rw [pendingEntries_eq_map, List.forall_mem_map]
    exact fun entry among => all entry among (admits entry among)
  operation name parameters body first second admits id type := by
    have good (type : DataType) := std.operation id type admits
    simp only [Value.mentions, allMentions_eq_flatMap, Standard.admits_append, Standard.admits_flatMap] at admits
    have first' := pendings_uphold fun parameter among => first parameter among (admits.1 parameter among)
    have second' := pendings_uphold fun statement among => second statement among (admits.2 statement among)
    refine ⟨fun scope provides => ?_, first'⟩
    refine .bind (previewBody_upholds provides first' second') fun _ _ => ?_
    exact .bind (inferType_upholds _ _) fun inferred _ => .pure (good inferred)
  condition test whenTrue whenFalse tests trues falses admits id type := by
    simp only [Value.mentions, Standard.admits_append] at admits
    obtain ⟨⟨test, onTrue⟩, onFalse⟩ := admits
    exact .ofValue (fun _ provides => evaluateCondition_upholds provides (tests test) (trues onTrue) (falses onFalse)) rfl
  reference name target _ id type := .ofValue (fun _ provides => provides.resolve fun none => nomatch none) rfl
  handle className arguments instanceId _ _ id type :=
    .ofValue (fun _ _ => evaluateHandle_upholds id type className arguments instanceId) rfl
  data id type value all admits := all (Standard.admits_cons.mp admits).2 id type
  statement id data operations name isOptional own all admits := by
    simp only [Statement.mentions, callMentions_eq_flatMap, Standard.admits_cons, Standard.admits_append,
      Standard.admits_flatMap] at admits
    obtain ⟨recordable, inner, links⟩ := admits
    have each := stages_uphold calls fun operation among =>
      ⟨operation.id_of_admits (links operation among), all operation among (links operation among)⟩
    intro scope provides
    refine .bind ((own inner).evaluate scope provides) fun initial start => ?_
    refine .bind (runStages_upholds (fun _ => True) provides each none data start) fun outcome known => ?_
    refine .bind (provides.resolve fun _ => known.1) fun result final => ?_
    exact .bind (.update fun _ kept => std.records false kept (recordable id rfl) final) fun _ _ => .pure final

/-! ## Callers -/

/-- Runs the body of an operation behind its parameters; `caller` makes the calls in it. -/
def enterOperation (caller : Caller) : Caller := fun scope operation arguments =>
  match operation.value with
  | .operation _ parameters body => do
    let inner := { scope.child with callDepth := scope.callDepth + 1 }
    let inner ← bindParameters (pendings caller parameters) arguments inner
    return (← runBody (pendings caller body) inner).1
  | _ => (Fault.notAnOperation operation).data

theorem callerWithin_succ (levels : Nat) : callerWithin (levels + 1) = enterOperation (callerWithin levels) := rfl

/-- A body may be run if results may be recorded for the nodes of the operation. -/
theorem enterOperation_upholds (calls : caller.Upholds std) (provides : scope.Provides std) {operation : Data}
    (admits : std.Admits operation.value.mentions) {arguments : List Data} (all : ∀ argument ∈ arguments, std.data argument) :
    Upholds std (enterOperation caller scope operation arguments) std.data := by
  unfold enterOperation
  split
  · next parameters body called =>
    rw [called] at admits
    simp only [Value.mentions, allMentions_eq_flatMap, Standard.admits_append, Standard.admits_flatMap] at admits
    have statements := (upholds_steps calls).ofStatement
    have first := pendings_uphold fun parameter among => statements parameter (admits.1 parameter among)
    have second := pendings_uphold fun statement among => statements statement (admits.2 statement among)
    have inner : Scope.Provides std { scope.child with callDepth := scope.callDepth + 1 } :=
      ⟨provides.bound, provides.extensions, provides.failed⟩
    exact .bind (bindParameters_upholds first all inner) fun bound known => .bind (runBody_upholds second known) fun _ ends =>
      .pure ends.1
  · exact .draw (.leaf _ rfl)

/-- By induction on the levels that are left: a body is evaluated with one level less. -/
theorem callerWithin_upholds (opens : std.Opens) (levels : Nat) : (callerWithin levels).Upholds std := by
  induction levels with
  | zero => exact fun _ _ _ _ _ _ => .draw (.leaf _ rfl)
  | succ levels ih =>
    intro scope operation arguments provides operates all
    rw [callerWithin_succ]
    cases called : operation.isOperation with
    | true => exact enterOperation_upholds ih provides (opens operation operates called) all
    | false =>
      obtain ⟨id, type, value⟩ := operation
      cases value with
      | operation name parameters body => cases called
      | _ => exact .draw (.leaf _ rfl)

end

end LivePipeline
