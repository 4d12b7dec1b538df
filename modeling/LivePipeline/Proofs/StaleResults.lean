import Mathlib.Data.Set.Basic
import LivePipeline.Proofs.Effects
import LivePipeline.Proofs.Correspondence.Evaluation

/-! Results of earlier runs play no part in evaluation. Two runs are compared that start alike, except
that the store of the second one holds results already. Whatever evaluation reads of a node, it has
recorded before in the same run, or only asks whether it is a reference; so the second run does
what the first one does, and its stale results show through where nothing was recorded. -/

namespace LivePipeline

/-- Two worlds that agree but for results: where the left one has none, the right one may have a stale one. -/
structure Overlaid (stale : EntityId → Option Data) (left right : World) : Prop where
  nextId : right.nextId = left.nextId
  events : right.events = left.events
  fingerprints : right.store.fingerprints = left.store.fingerprints
  instances : right.store.instances = left.store.instances
  results : ∀ id, right.store.result? id = (left.store.result? id).or (stale id)

theorem Overlaid.instance? {stale : EntityId → Option Data} {left right : World} (overlaid : Overlaid stale left right)
    (id : EntityId) : right.store.instance? id = left.store.instance? id := by
  rw [Store.instance?, overlaid.instances]
  rfl

theorem Overlaid.fingerprint? {stale : EntityId → Option Data} {left right : World} (overlaid : Overlaid stale left right)
    (key : String) : right.store.fingerprint? key = left.store.fingerprint? key := by
  rw [Store.fingerprint?, overlaid.fingerprints]
  rfl

/-- The node has a result. -/
def World.Knows (world : World) (id : EntityId) : Prop := (world.store.result? id).isSome

/-- A run that stale results do not change, given that the nodes of `known` have results already.
Behind it, the nodes that are `learned` from its outcome have results too. -/
def Run.Blind (stale : EntityId → Option Data) (known : Set EntityId) (run : Run α) (learned : α → Set EntityId) : Prop :=
  ∀ left right, Overlaid stale left right → (∀ id ∈ known, left.Knows id) →
    (run right).1 = (run left).1 ∧ Overlaid stale (run left).2 (run right).2 ∧
      ∀ id ∈ known ∪ learned (run left).1, (run left).2.Knows id

/-- A run that stale results do not change in any case. -/
def Run.AlwaysBlind (stale : EntityId → Option Data) (run : Run α) : Prop :=
  ∀ known, Run.Blind stale known run fun _ => ∅

namespace Run

variable {stale : EntityId → Option Data} {known : Set EntityId}

namespace Blind

protected theorem pure {value : α} {learned : α → Set EntityId} (before : learned value ⊆ known) :
    Blind stale known (Pure.pure value) learned :=
  fun _ _ overlaid has => ⟨rfl, overlaid, fun id member => has id (member.elim (fun old => old) fun new => before new)⟩

protected theorem bind {run : Run α} {next : α → Run β} {middle : α → Set EntityId} {learned : β → Set EntityId}
    (first : Blind stale known run middle) (second : ∀ value, Blind stale (known ∪ middle value) (next value) learned) :
    Blind stale known (run >>= next) learned := by
  intro left right overlaid has
  obtain ⟨same, overlaid', has'⟩ := first left right overlaid has
  obtain ⟨same', overlaid'', has''⟩ := second (run left).1 _ _ overlaid' has'
  have right_eq : (run >>= next) right = next (run left).1 (run right).2 := by rw [← same]; rfl
  rw [right_eq]
  refine ⟨same', overlaid'', fun id member => has'' id ?_⟩
  exact member.elim (fun old => .inl (.inl old)) .inr

theorem weaken {run : Run α} {learned learned' : α → Set EntityId} (blind : Blind stale known run learned)
    (implied : ∀ value, learned' value ⊆ known ∪ learned value) : Blind stale known run learned' := by
  intro left right overlaid has
  obtain ⟨same, overlaid', has'⟩ := blind left right overlaid has
  exact ⟨same, overlaid', fun id member => has' id (member.elim .inl fun new => implied _ new)⟩

/-- Reading of the store what stale results do not change. -/
theorem look {next : Store → Run α} {learned : α → Set EntityId}
    (same : ∀ left right, Overlaid stale left right → (∀ id ∈ known, left.Knows id) → next right.store = next left.store)
    (second : ∀ store, Blind stale known (next store) learned) : Blind stale known (Run.store >>= next) learned := by
  intro left right overlaid has
  have right_eq : (Run.store >>= next) right = next left.store right := by
    rw [← same left right overlaid has]
    rfl
  rw [right_eq]
  exact second left.store left right overlaid has

end Blind

namespace AlwaysBlind

protected theorem pure (value : α) : AlwaysBlind stale (Pure.pure value : Run α) :=
  fun _ => .pure (Set.empty_subset _)

protected theorem bind {run : Run α} {next : α → Run β} (first : AlwaysBlind stale run)
    (second : ∀ value, AlwaysBlind stale (next value)) : AlwaysBlind stale (run >>= next) :=
  fun known => (first known).bind fun value => second value _

theorem before {run : Run α} {next : α → Run β} {learned : β → Set EntityId} (first : AlwaysBlind stale run)
    (second : ∀ value, Blind stale known (next value) learned) : Blind stale known (run >>= next) learned :=
  (first known).bind fun value => by rw [Set.union_empty]; exact second value

theorem draw (build : Fresh α) : AlwaysBlind stale (Run.draw build) := by
  intro known left right overlaid has
  have drawn : (build.run right.nextId) = build.run left.nextId := by rw [overlaid.nextId]
  have value : (Run.draw build right).1 = (Run.draw build left).1 := congrArg (·.1) drawn
  have next : (Run.draw build right).2.nextId = (Run.draw build left).2.nextId := congrArg (·.2) drawn
  refine ⟨value, { overlaid with nextId := next }, fun id member => has id ?_⟩
  simpa using member

theorem lookUp (id : EntityId) {next : Option External → Run α} (second : ∀ found, AlwaysBlind stale (next found)) :
    AlwaysBlind stale (Run.store >>= fun store => next (store.instance? id)) :=
  fun known => .look (fun _ _ overlaid _ => by rw [overlaid.instance?]) fun store => second (store.instance? id) known

theorem observe (event : Event) : AlwaysBlind stale (Run.observe event) := by
  intro known left right overlaid has
  refine ⟨rfl, { overlaid with events := congrArg (event :: ·) overlaid.events }, fun id member => has id ?_⟩
  simpa using member

theorem place (id : EntityId) (external : External) : AlwaysBlind stale (Run.updateStore (·.setInstance id external)) := by
  intro known left right overlaid has
  have instances := congrArg (Table.insert · id external) overlaid.instances
  refine ⟨rfl, { overlaid with instances := instances }, fun id member => has id ?_⟩
  simpa using member

/-- Behind the look at the instances: one that is missing is made again. -/
theorem foundOrMade (className : String) (arguments : List Statement) (instanceId : EntityId) (found : Option External) :
    AlwaysBlind stale (match found with
      | some external => (return external)
      | none => do
        let external ← Operation.materialize className arguments
        Run.updateStore (·.setInstance instanceId external)
        return external : Attempt External).run := by
  cases found with
  | some external => exact .pure _
  | none =>
    cases Operation.materialize className arguments with
    | ok external => exact .bind (place _ _) fun _ => .pure _
    | error failure => exact .pure _

theorem find (className : String) (arguments : List Statement) (instanceId : EntityId) :
    AlwaysBlind stale (Operation.externalOf className arguments instanceId).run :=
  lookUp instanceId (foundOrMade className arguments instanceId)

protected theorem mapM {work : α → Run β} (each : ∀ item, AlwaysBlind stale (work item)) (items : List α) :
    AlwaysBlind stale (items.mapM work) := by
  induction items with
  | nil => exact .pure []
  | cons item rest ih =>
    rw [List.mapM_cons]
    exact .bind (each item) fun _ => .bind ih fun _ => .pure _

theorem create (className : String) (type : DataType) (arguments : List Data) (external : External) :
    AlwaysBlind stale (Operation.createInstance className type arguments external) :=
  .bind (.mapM (fun _ => draw _) _) fun _ => .bind (draw _) fun _ => .bind (place _ _) fun _ => draw _

/-- What operations do is blind as far as the program is that they call back. -/
theorem acts {calls : Run Data → Prop} (each : ∀ run, calls run → AlwaysBlind stale run) {run : Run α}
    (acts : Acts True calls run) : AlwaysBlind stale run := by
  induction acts with
  | pure value => exact .pure value
  | bind first second ih ih' => exact .bind ih ih'
  | draw grows => exact draw _
  | find className arguments instanceId => exact find className arguments instanceId
  | create className type arguments external => exact create className type arguments external
  | observe _ event => exact observe event
  | call made => exact each _ made

end AlwaysBlind

namespace Blind

/-- Recording the result of a node. -/
theorem record (cacheable : Bool) (id : EntityId) (data : Data) :
    Blind stale known (Run.updateStore fun store => store.record cacheable id data) fun _ => {id} := by
  intro left right overlaid has
  refine ⟨rfl, { overlaid with results := fun other => ?_ }, fun other member => ?_⟩
  · change (right.store.record cacheable id data).result? other
      = ((left.store.record cacheable id data).result? other).or (stale other)
    rw [Store.result?_record, Store.result?_record, overlaid.results]
    split <;> rfl
  · change ((left.store.record cacheable id data).result? other).isSome
    rw [Store.result?_record]
    by_cases same : other = id
    · rw [if_pos same]; rfl
    · rw [if_neg same]
      exact has other (member.resolve_right same)

theorem mapM {work : α → Run β} (learned : β → Set EntityId) {items : List α}
    (each : ∀ item ∈ items, ∀ known, Blind stale known (work item) learned) :
    Blind stale known (items.mapM work) fun values => {id | ∃ value ∈ values, id ∈ learned value} := by
  induction items generalizing known with
  | nil => exact .pure (by simp)
  | cons item rest ih =>
    rw [List.forall_mem_cons] at each
    rw [List.mapM_cons]
    refine (each.1 known).bind fun value => (ih each.2).bind fun values => .pure ?_
    rintro id ⟨found, among, has⟩
    rw [List.mem_cons] at among
    cases among with
    | inl first => exact .inl (.inr (first ▸ has))
    | inr later => exact .inr ⟨found, later, has⟩

end Blind

end Run

/-! ## What evaluation reads of the store -/

namespace Overlaid

variable {stale : EntityId → Option Data} {left right : World}

theorem result?_of_knows (overlaid : Overlaid stale left right) {id : EntityId} (knows : left.Knows id) :
    right.store.result? id = left.store.result? id := by
  obtain ⟨data, found⟩ := Option.isSome_iff_exists.mp knows
  rw [overlaid.results, found, Option.some_or]

/-- A check asks of a result which variable it refers to. A stale result refers to none, and neither
does the default that stands in for it on the left. -/
theorem checks (overlaid : Overlaid stale left right) (plain : ∀ id data, stale id = some data → data.reference? = none)
    (scope : Scope) : SameChecks id scope scope left.store.result? right.store.result? where
  data data isTypeTest target := by rw [Data.rename_eq_self fun _ _ => rfl]
  stored node isTypeTest target := by
    rw [id, overlaid.results]
    cases left.store.result? node with
    | some data => rfl
    | none =>
      rw [Option.none_or]
      cases old : stale node with
      | none => rfl
      | some data =>
        rw [Scope.checkOf, Option.getD_some, plain node data old]
        rfl

theorem checkCall (overlaid : Overlaid stale left right) (plain : ∀ id data, stale id = some data → data.reference? = none)
    (scope : Scope) (receiver : Data) (current : Option Narrowing) (operation : Data) :
    scope.checkCall right.store.result? receiver current operation
      = scope.checkCall left.store.result? receiver current operation := by
  have same : scope.checkCall right.store.result? receiver current (operation.rename id)
      = scope.checkCall left.store.result? receiver current operation :=
    checkCall_rename (overlaid.checks plain scope) (fun _ _ => rfl) current operation
  rwa [Data.rename_eq_self fun _ _ => rfl] at same

theorem checkStatement (overlaid : Overlaid stale left right)
    (plain : ∀ id data, stale id = some data → data.reference? = none) (scope : Scope) (statement : Statement) :
    scope.checkStatement right.store statement = scope.checkStatement left.store statement := by
  have kept : statement.operations.map (Data.rename id) = statement.operations :=
    (List.map_congr_left fun _ _ => Data.rename_eq_self fun _ _ => rfl).trans (List.map_id' _)
  have same : checkChain scope right.store.result? statement.data none (statement.operations.map (Data.rename id))
      = checkChain scope left.store.result? statement.data none statement.operations :=
    checkChain_rename (overlaid.checks plain scope) (fun _ _ => rfl) none statement.operations
  rwa [kept] at same

/-- The type of a value whose children have results. -/
theorem inferType (overlaid : Overlaid stale left right) (scope : Scope) (value : Value)
    (has : ∀ child ∈ value.children, left.Knows child.id) :
    value.inferType (scope.hints right.store) = value.inferType (scope.hints left.store) := by
  have same : (value.rename id).inferType (scope.hints right.store) = value.inferType (scope.hints left.store) := by
    refine Value.inferType_rename id value (fun child among => ?_) rfl rfl
    rw [Statement.rename_eq_self fun _ _ => rfl]
    simp only [Scope.hints, overlaid.result?_of_knows (has child among)]
  rwa [Value.rename_self] at same

end Overlaid

/-! ## Calls -/

/-- Operation values are called without regard to stale results. -/
def Caller.Blind (stale : EntityId → Option Data) (caller : Caller) : Prop :=
  ∀ scope operation arguments, Run.AlwaysBlind stale (caller scope operation arguments)

/-- A statement is evaluated without regard to stale results, and has a result then. -/
def Pending.Blind (stale : EntityId → Option Data) (pending : Pending) : Prop :=
  ∀ known scope, Run.Blind stale known (pending.evaluate scope) fun _ => {pending.statement.id}

section

open Run (AlwaysBlind)

variable {stale : EntityId → Option Data} {caller : Caller}

theorem Pending.Blind.always {pending : Pending} (blind : pending.Blind stale) (scope : Scope) :
    AlwaysBlind stale (pending.evaluate scope) :=
  fun known => (blind known scope).weaken fun _ => Set.empty_subset _

theorem EagerHandler.Confined.blind {handler : EagerHandler} (confined : handler.Confined True) (calls : caller.Blind stale)
    (scope : Scope) (data : Data) (arguments : List Data) :
    AlwaysBlind stale (Attempt.settle (handler caller scope data arguments)) := by
  refine .acts (fun run made => ?_) (Attempt.settle_acts (confined caller scope data arguments))
  obtain ⟨operation, values, rfl⟩ := made
  exact calls scope operation values

theorem LazyHandler.Confined.blind {handler : LazyHandler} (confined : handler.Confined True) (scope : Scope) (data : Data)
    {arguments : List Pending} (each : ∀ argument ∈ arguments, argument.Blind stale) :
    AlwaysBlind stale (Attempt.settle (handler scope data arguments)) := by
  refine .acts (fun run made => ?_) (Attempt.settle_acts (confined scope data arguments))
  obtain ⟨argument, among, inner, -, rfl⟩ := made
  exact (each argument among).always inner

/-- Reusing a result is decided by fingerprints alone. -/
theorem runCached_blind (key : String) (operationId : EntityId) {run : Run Data} (blind : AlwaysBlind stale run) :
    AlwaysBlind stale (runCached key operationId run) := by
  have recorded (data : Data) : AlwaysBlind stale (Run.updateStore (·.record true operationId data)) :=
    fun known => (Run.Blind.record true operationId data).weaken fun _ => Set.empty_subset _
  have remembered (data : Data) : AlwaysBlind stale (Run.updateStore (·.setFingerprint key data)) := by
    intro known left right overlaid has
    have fingerprints := congrArg (Table.insert · key data) overlaid.fingerprints
    refine ⟨rfl, { overlaid with fingerprints := fingerprints }, fun id member => has id ?_⟩
    simpa using member
  intro known
  refine .look (fun _ _ overlaid _ => by rw [overlaid.fingerprint?]) fun store => ?_
  cases store.fingerprint? key with
  | some cached => exact (recorded cached).before fun _ => .pure (Set.empty_subset _)
  | none =>
    refine blind.before fun result => ?_
    split
    · exact .pure (Set.empty_subset _)
    · have kept := AlwaysBlind.bind (remembered result) fun _ => recorded result
      exact kept.before fun _ => .pure (Set.empty_subset _)

theorem runEager_blind (calls : caller.Blind stale) {scope inner : Scope} {data : Data} {name : String}
    {callable : Callable} (found : scope.find? data name = some callable) (operationId : EntityId) (arguments : List Data) :
    AlwaysBlind stale (runEager caller inner callable operationId data arguments) := by
  cases callable with
  | builtin builtin =>
    have confined := Scope.find?_confined found
    rw [runEager]
    cases handler : builtin.handler with
    | eager run =>
      rw [handler] at confined
      have blind := EagerHandler.Confined.blind confined calls inner data arguments
      dsimp only
      split
      · exact runCached_blind _ operationId blind
      · exact blind
    | lazy run =>
      rw [handler] at confined
      exact LazyHandler.Confined.blind confined inner data (by simp)
  | extension extension =>
    refine .bind (.observe _) fun _ => ?_
    cases extension.handler data arguments with
    | ok result => exact .pure result
    | error reason => exact .draw _
  | userDefined name operation => exact calls inner operation (data :: arguments)

theorem invoke_blind (calls : caller.Blind stale) {scope inner : Scope} {data : Data} {name : String}
    {callable : Callable} (found : scope.find? data name = some callable) (operationId : EntityId) {arguments : List Pending}
    (each : ∀ argument ∈ arguments, argument.Blind stale) :
    AlwaysBlind stale (invoke caller inner callable operationId data arguments) := by
  have evaluated (index : Nat) : AlwaysBlind stale
      (evaluateArguments inner callable.name (arguments.zip (callable.expected data)) index).run :=
    .acts (fun _ blind => blind) (evaluateArguments_tries inner callable.name
      (fun entry among scope _ => (each entry.1 (List.of_mem_zip among).1).always scope) index)
  unfold invoke
  dsimp only
  split
  · exact .draw _
  · split
    · exact .acts (fun _ blind => blind) (skipCall_acts inner callable data fun argument among scope _ =>
        (each argument among).always scope)
    · split
      · exact LazyHandler.Confined.blind (Scope.find?_confined found) inner data each
      · refine .bind (evaluated 0) fun outcome => ?_
        cases outcome with
        | ok values => exact runEager_blind calls found operationId values
        | error error => exact .pure error

theorem performCall_blind (calls : caller.Blind stale) (scope : Scope) (data operation : Data) {arguments : List Pending}
    (each : ∀ argument ∈ arguments, argument.Blind stale) :
    AlwaysBlind stale (performCall caller scope data operation arguments) := by
  have made : AlwaysBlind stale (callResult caller scope data operation arguments) := by
    unfold callResult
    dsimp only
    split
    · exact .pure _
    · split
      · split
        · next found => exact invoke_blind calls found operation.id each
        · exact .draw _
      · exact .draw _
      · exact .draw _
  intro known
  refine made.before fun result => (Run.Blind.record false operation.id result).bind fun _ => .pure (Set.empty_subset _)

/-! ## Nodes -/

/-- The type of a value whose children have results. -/
theorem inferType_blind {known : Set EntityId} (scope : Scope) {value : Value}
    (within : ∀ child ∈ value.children, child.id ∈ known) : Run.Blind stale known (scope.inferType value) fun _ => ∅ :=
  .look (fun _ _ overlaid has => by rw [overlaid.inferType scope value fun child among => has child.id (within child among)])
    fun _ => .pure (Set.empty_subset _)

theorem evaluateChild_blind {known : Set EntityId} (scope : Scope) (expected : Option DataType) {child : Pending}
    (blind : child.Blind stale) :
    Run.Blind stale known (evaluateChild scope expected child) fun statement => {statement.id} :=
  (blind known _).bind fun _ => .pure Set.subset_union_right

theorem evaluateArray_blind (scope : Scope) (id : EntityId) (type : DataType) {items : List Pending}
    (each : ∀ item ∈ items, item.Blind stale) : AlwaysBlind stale (evaluateArray scope id type items) := by
  intro known
  refine .bind (.mapM (fun statement => {statement.id}) fun entry among known => ?_) fun statements => ?_
  · exact evaluateChild_blind scope _ (each entry.1 (List.fst_mem_of_mem_zipIdx among))
  · have within : ∀ child ∈ (Value.array statements).children, child.id ∈ known ∪
        {id | ∃ value ∈ statements, id ∈ ({value.id} : Set EntityId)} :=
      fun child among => .inr ⟨child, among, rfl⟩
    exact (inferType_blind _ within).bind fun _ => .pure (Set.empty_subset _)

theorem evaluateRecord_blind (scope : Scope) (id : EntityId) (type : DataType) {entries : List (String × Pending)}
    (each : ∀ entry ∈ entries, entry.2.Blind stale) : AlwaysBlind stale (evaluateRecord scope id type entries) := by
  intro known
  refine .bind (.mapM (fun entry => {entry.2.id}) fun entry among known => ?_) fun entries => ?_
  · exact (evaluateChild_blind scope _ (each entry.1 (List.fst_mem_of_mem_zipIdx among))).bind fun _ =>
      .pure Set.subset_union_right
  · have within : ∀ child ∈ (Value.record entries).children, child.id ∈ known ∪
        {id | ∃ value ∈ entries, id ∈ ({value.2.id} : Set EntityId)} := by
      intro child among
      obtain ⟨entry, member, rfl⟩ := List.mem_map.mp among
      exact .inr ⟨entry, member, rfl⟩
    exact (inferType_blind _ within).bind fun _ => .pure (Set.empty_subset _)

theorem evaluateEach_blind {known : Set EntityId} {pendings : List Pending}
    (each : ∀ pending ∈ pendings, pending.Blind stale) (last : Data) (scope : Scope) :
    Run.Blind stale known (evaluateEach last pendings scope) fun _ => {id | ∃ pending ∈ pendings, pending.statement.id = id} := by
  induction pendings generalizing known last scope with
  | nil => exact .pure (by simp)
  | cons pending rest ih =>
    rw [List.forall_mem_cons] at each
    refine (each.1 known scope).bind fun result => (ih each.2 result _).weaken fun _ id member => ?_
    obtain ⟨found, among, same⟩ := member
    rw [List.mem_cons] at among
    cases among with
    | inl first => exact .inl (.inr (by rw [← same, first]; rfl))
    | inr later => exact .inr ⟨found, later, same⟩

/-- The preview of an operation leaves a result for each parameter and each statement of the body. -/
theorem previewBody_blind {known : Set EntityId} (scope : Scope) {parameters body : List Pending}
    (first : ∀ pending ∈ parameters, pending.Blind stale) (second : ∀ pending ∈ body, pending.Blind stale) :
    Run.Blind stale known (previewBody scope parameters body)
      fun _ => {id | ∃ pending ∈ parameters ++ body, pending.statement.id = id} := by
  refine (evaluateEach_blind first default scope.child).bind fun bound => ?_
  refine (AlwaysBlind.draw _).before fun last => (evaluateEach_blind second last bound.2).bind fun _ => .pure ?_
  rintro id ⟨pending, among, same⟩
  rw [List.mem_append] at among
  cases among with
  | inl parameter => exact .inl (.inr ⟨pending, parameter, same⟩)
  | inr statement => exact .inr ⟨pending, statement, same⟩

/-- Evaluation of data, and of the arguments when it is a call. -/
structure Data.Blind (stale : EntityId → Option Data) (caller : Caller) (data : Data) : Prop where
  evaluate : ∀ scope, AlwaysBlind stale (evaluateData caller data scope)
  arguments : ∀ argument ∈ pendingArguments caller data, argument.Blind stale

def Statement.Blind (stale : EntityId → Option Data) (caller : Caller) (statement : Statement) : Prop :=
  Pending.Blind stale ⟨statement, evaluateStatement caller statement⟩

theorem pendings_blind {statements : List Statement} (all : ∀ statement ∈ statements, statement.Blind stale caller) :
    ∀ pending ∈ pendings caller statements, pending.Blind stale := by
  rw [pendings_eq_map, List.forall_mem_map]
  exact all

/-- Data that is no call has no arguments. -/
theorem Data.Blind.ofValue {data : Data} (evaluate : ∀ scope, AlwaysBlind stale (evaluateData caller data scope))
    (none : pendingArguments caller data = []) : data.Blind stale caller where
  evaluate := evaluate
  arguments := by rw [none]; simp

variable (plain : ∀ id data, stale id = some data → data.reference? = none)
include plain

theorem runStages_blind {scope : Scope} {stages : List Stage}
    (each : ∀ stage ∈ stages, ∀ current scope, AlwaysBlind stale (stage current scope)) (narrowing : Option Narrowing)
    (receiver current : Data) : AlwaysBlind stale (runStages scope narrowing receiver current stages) := by
  induction stages generalizing narrowing receiver current with
  | nil => exact .pure (current, [])
  | cons stage rest ih =>
    rw [List.forall_mem_cons] at each
    refine .bind (each.1 current _) fun made => ?_
    obtain ⟨operation, result⟩ := made
    intro known
    refine .look (fun _ _ overlaid _ => by rw [overlaid.checkCall plain]) fun store => ?_
    exact (ih each.2 _ result result).before fun _ => .pure (Set.empty_subset _)

theorem evaluateCondition_blind (scope : Scope) {test whenTrue whenFalse : Pending} (tests : test.Blind stale)
    (trues : whenTrue.Blind stale) (falses : whenFalse.Blind stale) :
    AlwaysBlind stale (evaluateCondition scope test whenTrue whenFalse) := by
  intro known
  refine .look (fun _ _ overlaid _ => by rw [overlaid.checkStatement plain]) fun store => ?_
  refine (tests.always _).before fun result => ?_
  dsimp only
  split
  · exact .pure (Set.empty_subset _)
  · refine (trues.always _).before fun onTrue => (falses.always _).before fun onFalse => ?_
    exact .pure (Set.empty_subset _)

/-- Evaluation goes by the nodes of the program: what each does is blind when its parts are. -/
theorem blind_steps (calls : caller.Blind stale) :
    NodeSteps (fun value => ∀ id type, Data.Blind stale caller ⟨id, type, value⟩) (Data.Blind stale caller)
      (Statement.Blind stale caller) where
  undefined _ _ := .ofValue (fun _ => .pure _) rfl
  text _ _ _ := .ofValue (fun _ => .pure _) rfl
  number _ _ _ := .ofValue (fun _ => .pure _) rfl
  boolean _ _ _ := .ofValue (fun _ => .pure _) rfl
  error _ _ _ := .ofValue (fun _ => .pure _) rfl
  array items all id type := .ofValue (fun scope => evaluateArray_blind scope id type (pendings_blind all)) rfl
  record entries all id type := by
    refine .ofValue (fun scope => evaluateRecord_blind scope id type ?_) rfl
    rw [pendingEntries_eq_map, List.forall_mem_map]
    exact all
  operation name parameters body first second id type := by
    refine ⟨fun scope known => ?_, pendings_blind first⟩
    refine (previewBody_blind scope (pendings_blind first) (pendings_blind second)).bind fun _ => ?_
    refine (inferType_blind scope fun child among => ?_).bind fun _ => .pure (Set.empty_subset _)
    refine .inr ⟨⟨child, evaluateStatement caller child⟩, ?_, rfl⟩
    rw [pendings_eq_map, pendings_eq_map, ← List.map_append]
    exact List.mem_map_of_mem among
  condition test whenTrue whenFalse tests trues falses id type :=
    .ofValue (fun scope => evaluateCondition_blind plain scope tests trues falses) rfl
  reference name target id type :=
    .ofValue (fun scope => .acts (fun _ blind => blind) (scope.resolve_acts ⟨id, type, .reference name target⟩)) rfl
  handle className arguments instanceId all id type :=
    .ofValue (fun scope => .acts (fun _ blind => blind) (evaluateHandle_acts _ _ _ _)) rfl
  data _ type value all := all _ type
  statement id data operations name isOptional own all := by
    have stages_blind : ∀ stage ∈ stages caller operations, ∀ current scope, AlwaysBlind stale (stage current scope) := by
      induction operations with
      | nil => simp [stages]
      | cons operation rest ih =>
        rw [List.forall_mem_cons] at all
        rw [stages, List.forall_mem_cons]
        refine ⟨fun current scope => ?_, ih all.2⟩
        exact .bind (performCall_blind calls scope current operation all.1.arguments) fun result => .pure (operation, result)
    intro known scope
    refine (own.evaluate scope).before fun initial => ?_
    refine (runStages_blind plain stages_blind none data initial).before fun outcome => ?_
    have resolved : AlwaysBlind stale (scope.resolve outcome.1) := .acts (fun _ blind => blind) (scope.resolve_acts _)
    refine resolved.before fun result => (Run.Blind.record false id result).bind fun _ => ?_
    exact .pure Set.subset_union_right

/-! ## Callers -/

/-- By induction on the levels that are left: a body is evaluated with one level less. -/
theorem callerWithin_blind (levels : Nat) : (callerWithin levels).Blind stale := by
  induction levels with
  | zero =>
    intro scope operation arguments
    exact .draw _
  | succ levels ih =>
    have statements := (blind_steps plain ih).ofStatement
    intro scope operation arguments
    unfold callerWithin
    split
    · next parameters body _ =>
      have first := pendings_blind fun statement (_ : statement ∈ parameters) => statements statement
      have second := pendings_blind fun statement (_ : statement ∈ body) => statements statement
      refine .acts (fun _ blind => blind)
        (.bind (bindParameters_acts ?_ _ _) fun inner => .bind (runBody_acts ?_ inner) fun _ => .pure _)
      · exact fun parameter among scope => (first parameter among).always scope
      · exact fun pending among scope => (second pending among).always scope
    · exact .draw _

theorem evaluateAll_blind (scope : Scope) (statements : List Statement) :
    AlwaysBlind stale (scope.evaluateAll statements) := by
  have calls : scope.caller.Blind stale := callerWithin_blind plain _
  have each := pendings_blind fun statement (_ : statement ∈ statements) => (blind_steps plain calls).ofStatement statement
  exact .acts (fun _ blind => blind) (runBody_acts (fun pending among scope => (each pending among).always scope) scope)

end

/-! ## Stores of earlier runs -/

/-- The world without its results. Worlds that are the same then agree on the supply of identities, on
the calls that left the program, on fingerprints and on instances. -/
def World.forgetful (world : World) : World := { world with store := { world.store with results := [] } }

/-- None of the results is a reference. -/
def Store.HoldsNoReference (store : Store) : Prop :=
  ∀ id data, store.result? id = some data → data.reference? = none

/-- The results that evaluating statements leaves in a store that had none. -/
def Scope.writes (scope : Scope) (statements : List Statement) (world : World) (id : EntityId) : Option Data :=
  ((scope.evaluateAll statements).run world.forgetful).2.store.result? id

theorem Overlaid.forgetful_eq {stale : EntityId → Option Data} {left right : World} (overlaid : Overlaid stale left right) :
    right.forgetful = left.forgetful := by
  obtain ⟨⟨leftResults, leftFingerprints, leftInstances⟩, leftNext, leftEvents⟩ := left
  obtain ⟨⟨rightResults, rightFingerprints, rightInstances⟩, rightNext, rightEvents⟩ := right
  obtain ⟨rfl, rfl, rfl, rfl, -⟩ := overlaid
  rfl

/-- A run is the run from a store without results, laid over the results that were there. -/
theorem evaluateAll_overlaid (scope : Scope) (statements : List Statement) (world : World)
    (plain : world.store.HoldsNoReference) :
    let fresh := (scope.evaluateAll statements).run world.forgetful
    let ended := (scope.evaluateAll statements).run world
    ended.1 = fresh.1 ∧ Overlaid world.store.result? fresh.2 ended.2 := by
  have overlaid : Overlaid world.store.result? world.forgetful world := ⟨rfl, rfl, rfl, rfl, fun _ => rfl⟩
  obtain ⟨same, overlaid', -⟩ := evaluateAll_blind plain scope statements ∅ world.forgetful world overlaid (by simp)
  exact ⟨same, overlaid'⟩

/-- Evaluating statements does not depend on the results of earlier runs. From two worlds that agree but
for results, none of which is a reference, it comes to the same data and the same scope, makes the
same calls, draws the same identities and leaves the same fingerprints and instances; and it writes
the same results over those that were there. -/
theorem evaluateAll_ignores_results (scope : Scope) (statements : List Statement) (first second : World)
    (agree : first.forgetful = second.forgetful) (plain : first.store.HoldsNoReference)
    (plain' : second.store.HoldsNoReference) :
    let one := (scope.evaluateAll statements).run first
    let two := (scope.evaluateAll statements).run second
    one.1 = two.1 ∧ one.2.forgetful = two.2.forgetful ∧ ∀ id,
      one.2.store.result? id = (scope.writes statements first id).or (first.store.result? id)
        ∧ two.2.store.result? id = (scope.writes statements first id).or (second.store.result? id) := by
  obtain ⟨same, overlaid⟩ := evaluateAll_overlaid scope statements first plain
  obtain ⟨same', overlaid'⟩ := evaluateAll_overlaid scope statements second plain'
  rw [← agree] at same' overlaid'
  refine ⟨same.trans same'.symm, overlaid.forgetful_eq.trans overlaid'.forgetful_eq.symm, fun id => ?_⟩
  exact ⟨overlaid.results id, overlaid'.results id⟩

/-- A list of texts, of which an earlier run had a boolean as the only element. -/
theorem evaluateAll_ignores_stale_element :
    let element : Statement := ⟨"element", ⟨"word", .string, .text "a"⟩, [], none, false⟩
    let statement : Statement := ⟨"list", ⟨"items", .unknown, .array [element]⟩, [], some "list", false⟩
    let scope : Scope := {}
    let used : World := { store := { results := [("element", ⟨⟨"old", .boolean, .boolean true⟩, false⟩)] } }
    used.store.HoldsNoReference ∧ used.forgetful = World.forgetful {}
      ∧ ((scope.evaluateAll [statement]).run used).1.1.type = .array .string
      ∧ ((scope.evaluateAll [statement]).run used).2.store.result? "element" = some ⟨"word", .string, .text "a"⟩ := by
  intro element statement scope used
  have plain : used.store.HoldsNoReference := by
    intro id data found
    simp only [used, Store.result?, Table.get?] at found
    split at found
    · cases found; rfl
    · cases found
  have nothing : (World.store {}).HoldsNoReference := fun id data found => by cases found
  obtain ⟨same, _, written⟩ := evaluateAll_ignores_results scope [statement] used {} rfl plain nothing
  refine ⟨plain, rfl, ?_, ?_⟩
  · rw [same]; rfl
  · rw [(written "element").1]; rfl

end LivePipeline
