import LivePipeline.Proofs.Correspondence.Revision
import LivePipeline.Proofs.Standards.Evaluation

/-! Revision keeps to a standard. Nodes for which results may be recorded are brought up to date to such nodes, and to good
data. The calls in a scope are made by a caller that is given for it, so that what holds of revision can be compared with
what would hold if some calls were made differently. -/

namespace LivePipeline

/-! ## Revision by callers -/

mutual

/-- Rebuilds a statement and evaluates it. Calls are made by the caller that is given for their scope. -/
def reviseStatementBy (callers : Scope → Caller) : Statement → Scope → Run (Statement × Data)
  | ⟨id, data, operations, name, isOptional⟩, scope => do
    let data ← reviseDataBy callers data scope
    let initial ← evaluateData (callers scope) data scope
    let (result, operations) ← runChain scope data initial (repairedStagesBy callers operations)
    let operations ← if scope.isSkipping then pure operations else operations.mapM withExecutedType
    let result ← scope.resolve result
    Run.setResult id result
    return (⟨id, data, operations, name, isOptional⟩, result)
termination_by structural statement => statement

def reviseDataBy (callers : Scope → Caller) : Data → Scope → Run Data
  | ⟨id, type, value⟩, scope =>
    match value with
    | .reference name target => return scope.rebind ⟨id, type, .reference name target⟩
    | .array items => do
      let items ← (revisablesBy callers items).mapM fun item => return (← item.revise scope.child).1
      return ⟨id, type, .array items⟩
    | .record entries => do
      let entries ← (revisableEntriesBy callers entries).mapM fun (key, entry) =>
        return (key, (← entry.revise scope.child).1)
      return ⟨id, type, .record entries⟩
    | .condition test whenTrue whenFalse => do
      let value ← reviseCondition scope ⟨test, reviseStatementBy callers test⟩
        ⟨whenTrue, reviseStatementBy callers whenTrue⟩ ⟨whenFalse, reviseStatementBy callers whenFalse⟩
      return ⟨id, type, value⟩
    | .operation name parameters body =>
      reviseOperation scope id name (revisablesBy callers parameters) fun inner => do
        return (← reviseEach (revisablesBy callers body) inner).1
    | value => return ⟨id, type, value⟩
termination_by structural data => data

def repairedStagesBy (callers : Scope → Caller) : List Data → List Stage
  | [] => []
  | operation :: rest =>
    (fun current scope => do
      let repaired ← repairCall scope current operation (revisableArgumentsBy callers operation)
      return (repaired, ← performCall (callers scope) scope current repaired (pendingArguments (callers scope) repaired)))
      :: repairedStagesBy callers rest
termination_by structural operations => operations

def revisableArgumentsBy (callers : Scope → Caller) : Data → List Revisable
  | ⟨_, _, .operation _ arguments _⟩ => revisablesBy callers arguments
  | _ => []
termination_by structural operation => operation

def revisablesBy (callers : Scope → Caller) : List Statement → List Revisable
  | [] => []
  | statement :: rest => ⟨statement, reviseStatementBy callers statement⟩ :: revisablesBy callers rest
termination_by structural statements => statements

def revisableEntriesBy (callers : Scope → Caller) : List (String × Statement) → List (String × Revisable)
  | [] => []
  | (key, statement) :: rest =>
    (key, ⟨statement, reviseStatementBy callers statement⟩) :: revisableEntriesBy callers rest
termination_by structural entries => entries

end

/-- Declares what statements before an edit result in. Calls are made by the caller that is given for their scope. -/
def Scope.carryBy (callers : Scope → Caller) (scope : Scope) : List Statement → Run Scope
  | [] => return scope
  | statement :: rest => do
    let result ← match (← Run.store).result? statement.id with
      | some result => pure result
      | none => evaluateStatement (callers scope) statement scope
    (scope.publish statement.name statement.id result).carryBy callers rest

/-- Brings statements up to date behind an edit. Calls are made by the caller that is given for their scope. -/
def Scope.reviseBy (callers : Scope → Caller) (scope : Scope) (before behind : List Statement) : Run (List Statement) := do
  let inner ← scope.child.carryBy callers before
  let (revised, _) ← reviseEach (revisablesBy callers behind) inner
  return before ++ revised

theorem revisablesBy_eq_map (callers : Scope → Caller) (statements : List Statement) :
    revisablesBy callers statements = statements.map fun statement => ⟨statement, reviseStatementBy callers statement⟩ := by
  induction statements with
  | nil => rfl
  | cons statement rest ih => rw [revisablesBy, ih, List.map_cons]

theorem revisableEntriesBy_eq_map (callers : Scope → Caller) (entries : List (String × Statement)) :
    revisableEntriesBy callers entries
      = entries.map fun (key, statement) => (key, ⟨statement, reviseStatementBy callers statement⟩) := by
  induction entries with
  | nil => rfl
  | cons entry rest ih => rw [revisableEntriesBy, ih, List.map_cons]

/-! ### By the callers that scopes have -/

theorem revisablesBy_caller {statements : List Statement}
    (all : ∀ statement ∈ statements, reviseStatementBy Scope.caller statement = reviseStatement statement) :
    revisablesBy Scope.caller statements = revisables statements := by
  rw [revisablesBy_eq_map, revisables_eq_map]
  exact List.map_congr_left fun statement among => by rw [all statement among]

theorem repairedStagesBy_caller {operations : List Data}
    (all : ∀ operation ∈ operations, revisableArgumentsBy Scope.caller operation = revisableArguments operation) :
    repairedStagesBy Scope.caller operations = repairedStages operations := by
  induction operations with
  | nil => rfl
  | cons operation rest ih =>
    rw [List.forall_mem_cons] at all
    rw [repairedStagesBy, repairedStages, all.1, ih all.2]
    rfl

theorem reviseBy_caller_steps :
    NodeSteps (fun value => ∀ id type, reviseDataBy Scope.caller ⟨id, type, value⟩ = reviseData ⟨id, type, value⟩
        ∧ revisableArgumentsBy Scope.caller ⟨id, type, value⟩ = revisableArguments ⟨id, type, value⟩)
      (fun data => reviseDataBy Scope.caller data = reviseData data
        ∧ revisableArgumentsBy Scope.caller data = revisableArguments data)
      (fun statement => reviseStatementBy Scope.caller statement = reviseStatement statement) where
  undefined _ _ := ⟨rfl, rfl⟩
  text _ _ _ := ⟨rfl, rfl⟩
  number _ _ _ := ⟨rfl, rfl⟩
  boolean _ _ _ := ⟨rfl, rfl⟩
  error _ _ _ := ⟨rfl, rfl⟩
  reference _ _ _ _ := ⟨rfl, rfl⟩
  handle _ _ _ _ _ _ := ⟨rfl, rfl⟩
  array items all id type := by
    refine ⟨funext fun scope => ?_, rfl⟩
    rw [reviseDataBy, reviseData, revisablesBy_caller all]
  record entries all id type := by
    have same : revisableEntriesBy Scope.caller entries = revisableEntries entries := by
      rw [revisableEntriesBy_eq_map, revisableEntries_eq_map]
      exact List.map_congr_left fun (key, statement) among =>
        congrArg (fun revise => (key, (⟨statement, revise⟩ : Revisable))) (all (key, statement) among)
    refine ⟨funext fun scope => ?_, rfl⟩
    rw [reviseDataBy, reviseData, same]
  operation name parameters body first second id type := by
    refine ⟨funext fun scope => ?_, revisablesBy_caller first⟩
    rw [reviseDataBy, reviseData_operation, revisablesBy_caller first, revisablesBy_caller second]
  condition test whenTrue whenFalse tests trues falses id type := by
    refine ⟨funext fun scope => ?_, rfl⟩
    rw [reviseDataBy, reviseData, tests, trues, falses]
  data _ type _ all := all _ type
  statement id data operations name isOptional own all := by
    funext scope
    rw [reviseStatementBy, reviseStatement, own.1, repairedStagesBy_caller fun operation among => (all operation among).2]
    rfl

theorem carryBy_caller (statements : List Statement) (scope : Scope) : scope.carryBy Scope.caller statements = scope.carry statements := by
  induction statements generalizing scope with
  | nil => rfl
  | cons statement rest ih =>
    rw [Scope.carryBy, Scope.carry]
    simp only [ih]
    rfl

/-- What revision does is what it does by the callers that scopes have. -/
theorem Scope.revise_eq_reviseBy (scope : Scope) (statements : List Statement) (edit : Edit) :
    scope.revise statements (some edit) = scope.reviseBy Scope.caller (edit.split statements).1 (edit.split statements).2 := by
  have same := revisablesBy_caller fun statement (_ : statement ∈ (edit.split statements).2) =>
    reviseBy_caller_steps.ofStatement statement
  rw [Scope.reviseBy, carryBy_caller, same]
  rfl

/-! ## Revision keeps to the standard -/

section

open Run (Upholds)

variable {std : Standard} {callers : Scope → Caller} {scope : Scope}

/-- Revision gives a statement for whose nodes results may be recorded, and good data. The same goes for the nodes of
the statement as it was, because it may be kept. -/
structure Revisable.Upholds (std : Standard) (revisable : Revisable) : Prop where
  admits : std.Admits revisable.statement.mentions
  revise : ∀ scope, scope.Provides std →
    Run.Upholds std (revisable.revise scope) fun outcome => std.Admits outcome.1.mentions ∧ std.data outcome.2

theorem admits_statement {statement : Statement} : std.Admits statement.mentions
    ↔ std.code statement.id ∧ std.Admits statement.data.mentions ∧ ∀ call ∈ statement.operations, std.Admits call.mentions := by
  obtain ⟨id, data, operations, name, isOptional⟩ := statement
  simp [Statement.mentions]

theorem admits_data {data : Data} : std.Admits data.mentions ↔ std.code data.id ∧ std.Admits data.value.mentions := by
  obtain ⟨id, type, value⟩ := data
  simp [Data.mentions]

/-- A reference that is pointed to its variable stays the same node. -/
theorem rebind_admits {data : Data} (admits : std.Admits data.mentions) : std.Admits (scope.rebind data).mentions := by
  obtain ⟨id, type, value⟩ := data
  have own := (admits_data.mp admits).1
  cases value with
  | reference name target =>
    simp only [Scope.rebind]
    split
    · exact admits_data.mpr ⟨own, by simp [Value.mentions]⟩
    · exact admits
  | _ => exact admits

theorem withExecutedType_upholds {operation : Data} (admits : std.Admits operation.mentions) :
    Upholds std (withExecutedType operation) fun typed => std.Admits typed.mentions := by
  obtain ⟨own, inner⟩ := admits_data.mp admits
  unfold withExecutedType
  refine .look fun world _ => ?_
  split
  · refine .pure ?_
    split
    · exact admits
    · exact admits_data.mpr ⟨own, inner⟩
  · exact .pure admits

theorem reviseEach_upholds {revisables : List Revisable} (each : ∀ revisable ∈ revisables, revisable.Upholds std)
    (provides : scope.Provides std) : Upholds std (reviseEach revisables scope)
      fun outcome => (∀ statement ∈ outcome.1, std.Admits statement.mentions) ∧ outcome.2.Provides std := by
  refine reviseEach_ensures (fun revisable among scope provides => ?_) provides
  have revised := (each revisable among).revise scope provides
  exact fun world kept => (revised world kept).imp_right fun known => ⟨known.1, provides.publish _ _ known.2⟩

theorem reviseCondition_upholds (provides : scope.Provides std) {test whenTrue whenFalse : Revisable}
    (tests : test.Upholds std) (trues : whenTrue.Upholds std) (falses : whenFalse.Upholds std) :
    Upholds std (reviseCondition scope test whenTrue whenFalse) fun value => std.Admits value.mentions := by
  refine .look fun world _ => .bind (tests.revise _ provides.child) fun test known => ?_
  have inside (narrowing : Option Narrowing) (branch : Branch) (live : Bool) :=
    ((provides.withNarrowing narrowing).enter branch).withSkip (provides.skipUnless live)
  refine .bind (trues.revise _ (inside _ _ _)) fun onTrue first => .bind (falses.revise _ (inside _ _ _)) fun onFalse second => ?_
  exact .pure (by simp [Value.mentions, known.1, first.1, second.1])

theorem reviseOperation_upholds (provides : scope.Provides std) {id : EntityId} (own : std.code id) (name : Option String)
    {parameters : List Revisable} (each : ∀ parameter ∈ parameters, parameter.Upholds std)
    {reviseBody : Scope → Run (List Statement)} (body : ∀ inner, inner.Provides std →
      Upholds std (reviseBody inner) fun statements => ∀ statement ∈ statements, std.Admits statement.mentions) :
    Upholds std (reviseOperation scope id name parameters reviseBody) fun revised => std.Admits revised.mentions := by
  refine .bind (reviseEach_upholds each provides.child) fun bound known => .bind (body _ known.2) fun statements all => ?_
  refine .bind (inferType_upholds _ _) fun type _ => .pure (admits_data.mpr ⟨own, ?_⟩)
  simpa [Value.mentions] using ⟨known.1, all⟩

theorem reviseArgument_upholds (provides : scope.Provides std) (isLazy : Bool) (parameter : Parameter) {argument : Revisable}
    (upholds : argument.Upholds std) :
    Upholds std (reviseArgument scope isLazy parameter argument) fun outcome => std.Admits outcome.1.mentions := by
  unfold reviseArgument
  split
  · obtain ⟨own, data, calls⟩ := admits_statement.mp upholds.admits
    exact .pure (admits_statement.mpr ⟨own, rebind_admits data, calls⟩)
  · exact .bind (upholds.revise _ (provides.child.expecting _)) fun outcome known => .pure known.1

theorem defaultArgument_upholds (parameter : Parameter) (full : Bool) :
    Upholds std (Run.draw (parameter.defaultArgument full)) fun statement => std.Admits statement.mentions :=
  .draw ((std.default_steps.argument full parameter).weaken fun _ suits => suits.2)

theorem repairArguments_upholds (provides : scope.Provides std) (isLazy : Bool) (parameters : List Parameter)
    {arguments : List Revisable} (each : ∀ argument ∈ arguments, argument.Upholds std) :
    Upholds std (repairArguments scope isLazy parameters arguments)
      fun statements => ∀ statement ∈ statements, std.Admits statement.mentions := by
  induction parameters generalizing arguments with
  | nil => cases arguments <;> exact .pure (by simp)
  | cons parameter parameters ih =>
    cases arguments with
    | nil =>
      rw [repairArguments]
      split
      · exact ih each
      · exact .bind (defaultArgument_upholds _ _) fun added known => .bind (ih each) fun others all =>
          .pure (List.forall_mem_cons.mpr ⟨known, all⟩)
    | cons argument arguments =>
      rw [List.forall_mem_cons] at each
      refine .bind (reviseArgument_upholds provides isLazy parameter each.1) fun revised known => ?_
      have rest {statement : Statement} (fits : std.Admits statement.mentions) : Upholds std (do
          return statement :: (← repairArguments scope isLazy parameters arguments))
          fun statements => ∀ statement ∈ statements, std.Admits statement.mentions :=
        .bind (ih each.2) fun others all => .pure (List.forall_mem_cons.mpr ⟨fits, all⟩)
      dsimp only
      split
      · exact .bind (.pure known) fun _ fits => rest fits
      · refine .bind (.bind (defaultArgument_upholds _ _) fun fallback made => .pure ?_) fun _ fits => rest fits
        exact admits_statement.mpr ⟨(admits_statement.mp known).1, (admits_statement.mp made).2⟩

theorem repairCall_upholds (provides : scope.Provides std) (data : Data) {operation : Data} (admits : std.Admits operation.mentions)
    {arguments : List Revisable} (each : ∀ argument ∈ arguments, argument.Upholds std) :
    Upholds std (repairCall scope data operation arguments) fun repaired => std.Admits repaired.mentions := by
  obtain ⟨own, inner⟩ := admits_data.mp admits
  unfold repairCall
  split
  · exact .pure admits
  · next called _ =>
    split
    · exact .pure admits
    · refine .bind (repairArguments_upholds provides _ _ each) fun statements all => .pure (admits_data.mpr ⟨own, ?_⟩)
      rw [called] at inner
      simp only [Value.mentions, allMentions_eq_flatMap, Standard.admits_append, Standard.admits_flatMap] at inner ⊢
      exact ⟨all, inner.2⟩
  · exact .pure admits

/-- Revision of data, and of the arguments when it is a call. -/
structure Data.RevisesBy (std : Standard) (callers : Scope → Caller) (data : Data) : Prop where
  revise : ∀ scope, scope.Provides std →
    Run.Upholds std (reviseDataBy callers data scope) fun revised => std.Admits revised.mentions
  arguments : ∀ argument ∈ revisableArgumentsBy callers data, argument.Upholds std

/-- Data that is no call has no arguments. -/
theorem Data.RevisesBy.ofValue {data : Data} (revise : ∀ scope, scope.Provides std →
      Run.Upholds std (reviseDataBy callers data scope) fun revised => std.Admits revised.mentions)
    (none : revisableArgumentsBy callers data = []) : data.RevisesBy std callers :=
  ⟨revise, by rw [none]; simp⟩

def Statement.RevisesBy (std : Standard) (callers : Scope → Caller) (statement : Statement) : Prop :=
  Revisable.Upholds std ⟨statement, reviseStatementBy callers statement⟩

theorem revisablesBy_uphold {statements : List Statement} (all : ∀ statement ∈ statements, statement.RevisesBy std callers) :
    ∀ revisable ∈ revisablesBy callers statements, revisable.Upholds std := by
  rw [revisablesBy_eq_map, List.forall_mem_map]
  exact all

theorem repairedStagesBy_uphold (calls : ∀ scope, (callers scope).Upholds std) {operations : List Data}
    (all : ∀ operation ∈ operations, std.Admits operation.mentions ∧ operation.RevisesBy std callers) :
    ∀ stage ∈ repairedStagesBy callers operations, ∀ current scope, std.data current → scope.Provides std →
      Upholds std (stage current scope) fun made => std.Admits made.1.mentions ∧ std.data made.2 := by
  induction operations with
  | nil => simp [repairedStagesBy]
  | cons operation rest ih =>
    rw [List.forall_mem_cons] at all
    rw [repairedStagesBy, List.forall_mem_cons]
    refine ⟨fun current scope start provides => ?_, ih all.2⟩
    refine .bind (repairCall_upholds provides current all.1.1 all.1.2.arguments) fun repaired admits => ?_
    have known := (upholds_steps (calls scope)).ofData repaired admits
    exact .bind (performCall_upholds (calls scope) provides start (repaired.id_of_admits admits) known.arguments)
      fun result good => .pure ⟨admits, good⟩

/-- Revision goes by the nodes of the program: each keeps to the standard when its parts do. -/
theorem revisesBy_steps (calls : ∀ scope, (callers scope).Upholds std) :
    NodeSteps (fun value => ∀ id type, std.Admits (Data.mk id type value).mentions → Data.RevisesBy std callers ⟨id, type, value⟩)
      (fun data => std.Admits data.mentions → data.RevisesBy std callers)
      (fun statement => std.Admits statement.mentions → statement.RevisesBy std callers) where
  undefined _ _ admits := .ofValue (fun _ _ => .pure admits) rfl
  text _ _ _ admits := .ofValue (fun _ _ => .pure admits) rfl
  number _ _ _ admits := .ofValue (fun _ _ => .pure admits) rfl
  boolean _ _ _ admits := .ofValue (fun _ _ => .pure admits) rfl
  error _ _ _ admits := .ofValue (fun _ _ => .pure admits) rfl
  reference _ _ _ _ admits := .ofValue (fun _ _ => .pure (rebind_admits admits)) rfl
  handle _ _ _ _ _ _ admits := .ofValue (fun _ _ => .pure admits) rfl
  array items all id type admits := by
    obtain ⟨own, inner⟩ := admits_data.mp admits
    simp only [Value.mentions, allMentions_eq_flatMap, Standard.admits_flatMap] at inner
    have each := revisablesBy_uphold fun item among => all item among (inner item among)
    refine .ofValue (fun scope provides => ?_) rfl
    rw [reviseDataBy]
    refine .bind (show Upholds std _ fun (revised : List Statement) => ∀ item ∈ revised, std.Admits item.mentions from ?_)
      fun revised made => .pure (admits_data.mpr ⟨own, by simpa [Value.mentions] using made⟩)
    exact .mapM fun item among => .bind ((each item among).revise _ provides.child) fun _ known => .pure known.1
  record entries all id type admits := by
    obtain ⟨own, inner⟩ := admits_data.mp admits
    simp only [Value.mentions, entryMentions_eq_flatMap, Standard.admits_flatMap] at inner
    have each : ∀ entry ∈ revisableEntriesBy callers entries, entry.2.Upholds std := by
      rw [revisableEntriesBy_eq_map, List.forall_mem_map]
      exact fun entry among => all entry among (inner entry among)
    refine .ofValue (fun scope provides => ?_) rfl
    rw [reviseDataBy]
    refine .bind (show Upholds std _ fun (revised : List (String × Statement)) => ∀ entry ∈ revised, std.Admits entry.2.mentions from ?_)
      fun revised made => .pure (admits_data.mpr ⟨own, by simpa [Value.mentions] using made⟩)
    exact .mapM fun entry among => .bind ((each entry among).revise _ provides.child) fun _ known => .pure known.1
  operation name parameters body first second id type admits := by
    obtain ⟨own, inner⟩ := admits_data.mp admits
    simp only [Value.mentions, allMentions_eq_flatMap, Standard.admits_append, Standard.admits_flatMap] at inner
    have first' := revisablesBy_uphold fun parameter among => first parameter among (inner.1 parameter among)
    have second' := revisablesBy_uphold fun statement among => second statement among (inner.2 statement among)
    refine ⟨fun scope provides => ?_, first'⟩
    rw [reviseDataBy]
    exact reviseOperation_upholds provides own name first' fun bound known =>
      .bind (reviseEach_upholds second' known) fun _ all => .pure all.1
  condition test whenTrue whenFalse tests trues falses id type admits := by
    obtain ⟨own, inner⟩ := admits_data.mp admits
    simp only [Value.mentions, Standard.admits_append] at inner
    obtain ⟨⟨first, second⟩, third⟩ := inner
    refine .ofValue (fun scope provides => ?_) rfl
    rw [reviseDataBy]
    exact .bind (reviseCondition_upholds provides (tests first) (trues second) (falses third)) fun value made =>
      .pure (admits_data.mpr ⟨own, made⟩)
  data id type value all admits := all id type admits
  statement id data operations name isOptional own all admits := by
    obtain ⟨recordable, inner, links⟩ := admits_statement.mp admits
    have each := repairedStagesBy_uphold calls fun operation among => ⟨links operation among, all operation among (links operation among)⟩
    refine ⟨admits, fun scope provides => ?_⟩
    dsimp only
    rw [reviseStatementBy]
    refine .bind ((own inner).revise scope provides) fun revised made => ?_
    refine .bind (((upholds_steps (calls scope)).ofData revised made).evaluate scope provides) fun initial start => ?_
    refine .bind (runStages_upholds (fun call => std.Admits call.mentions) provides each none revised start) fun outcome known => ?_
    have settled {calls : List Data} (typed : ∀ call ∈ calls, std.Admits call.mentions) : Upholds std (do
        let result ← scope.resolve outcome.1
        Run.setResult id result
        return ((⟨id, revised, calls, name, isOptional⟩ : Statement), result))
        fun outcome => std.Admits outcome.1.mentions ∧ std.data outcome.2 := by
      refine .bind (provides.resolve fun _ => known.1) fun result good => ?_
      refine .bind (.update fun _ kept => std.records false kept recordable good) fun _ _ => .pure ⟨?_, good⟩
      exact admits_statement.mpr ⟨recordable, made, typed⟩
    dsimp only
    split
    · exact .bind (.pure known.2) fun calls typed => settled typed
    · exact .bind (.mapM fun call among => withExecutedType_upholds (known.2 call among)) fun calls typed => settled typed

/-! ## Programs -/

/-- Statements before an edit may be carried over: what is recorded for them is good, and where nothing is, they may be
evaluated. -/
structure Statement.Carried (std : Standard) (statement : Statement) : Prop where
  recorded : ∀ {world result}, std.world world → world.store.result? statement.id = some result → std.data result
  otherwise : ∀ {world}, std.world world → world.store.result? statement.id = none → std.Admits statement.mentions

theorem carryBy_upholds (calls : ∀ scope, (callers scope).Upholds std) {statements : List Statement}
    (each : ∀ statement ∈ statements, statement.Carried std) (provides : scope.Provides std) :
    Upholds std (scope.carryBy callers statements) (Scope.Provides std) := by
  induction statements generalizing scope with
  | nil => exact .pure provides
  | cons statement rest ih =>
    rw [List.forall_mem_cons] at each
    rw [Scope.carryBy]
    have later {result : Data} (good : std.data result) := ih each.2 (provides.publish statement.name statement.id good)
    refine .look fun world kept => ?_
    cases found : world.store.result? statement.id with
    | some result => exact .bind (.pure (each.1.recorded kept found)) fun _ good => later good
    | none =>
      have admits := each.1.otherwise kept found
      exact .bind ((upholds_steps (calls scope)).ofStatement statement admits scope provides) fun _ good => later good

/-- An update keeps to the standard. -/
theorem reviseBy_upholds (calls : ∀ scope, (callers scope).Upholds std) {before behind : List Statement}
    (carried : ∀ statement ∈ before, statement.Carried std) (rebuilt : ∀ statement ∈ behind, std.Admits statement.mentions)
    (provides : scope.Provides std) : Upholds std (scope.reviseBy callers before behind) fun _ => True := by
  refine .bind (carryBy_upholds calls carried provides.child) fun inner known => ?_
  have each := revisablesBy_uphold fun statement among => (revisesBy_steps calls).ofStatement statement (rebuilt statement among)
  exact .bind (reviseEach_upholds each known) fun _ _ => .pure trivial

end

end LivePipeline
