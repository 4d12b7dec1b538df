import LivePipeline.Engine
import LivePipeline.Proofs.Effects
import LivePipeline.Proofs.Edits
import LivePipeline.Proofs.Runs

/-! What holds of a world however programs run in it. A property that every kind of step preserves is
preserved by evaluation, by revision and by all that an engine does. -/

namespace LivePipeline

/-! ## Steps -/

/-- The run leaves the property of the world as it is. -/
def Run.Keeps (P : World → Prop) (run : Run α) : Prop := ∀ world, P world → P (run world).2

/-- A property that every kind of step preserves when requests are answered by `transport`. -/
structure World.Invariant (transport : Option Transport) (P : World → Prop) : Prop where
  /-- Identities are drawn. -/
  draw : ∀ {world next}, P world → world.nextId ≤ next → P { world with nextId := next }
  /-- Results are recorded or forgotten. -/
  results : ∀ {world} results, P world → P { world with store := { world.store with results } }
  /-- The object of a handle is made when it is missing. -/
  find : ∀ {world id className arguments external}, P world → world.store.instance? id = none →
    Operation.materialize className arguments = .ok external → P { world with store := world.store.setInstance id external }
  /-- A new object is made. -/
  create : ∀ {world} external, P world →
    P { world with store := world.store.setInstance (.drawn world.nextId) external, nextId := world.nextId + 1 }
  /-- The host provides an operation that is called. -/
  extension : ∀ {world} name receiver arguments, P world →
    P { world with events := .extensionCall name receiver arguments :: world.events }
  /-- A client is asked for a response. -/
  request : ∀ builtin ∈ Operation.httpFamily, ∀ caller scope operationId data arguments, scope.transport = transport →
    arguments.length + 1 = (builtin.parameters data).length →
      Run.Keeps P (runEager caller scope (.builtin builtin) operationId data arguments)

namespace Scope

theorem transport_publish (scope : Scope) (name : Option String) (id : EntityId) (data : Data) :
    (scope.publish name id data).transport = scope.transport := by
  cases name <;> rfl

theorem transport_enter (scope : Scope) (branch : Branch) : (scope.enter branch).transport = scope.transport := by
  unfold Scope.enter
  split <;> rfl

end Scope

/-! ## Operations on clients -/

/-- Only responses may be reused. -/
theorem mem_httpFamily_of_cacheable {builtin : Builtin} (among : builtin ∈ builtins) (cacheable : builtin.cacheable = true) :
    builtin ∈ Operation.httpFamily := by
  have others : ∀ family ∈ [Operation.genericFamily, Operation.textualFamily, Operation.numericFamily, Operation.logicFamily,
      Operation.sequenceFamily, Operation.recordFamily, Operation.dictionaryFamily, Operation.optionalFamily,
      Operation.callingFamily, Operation.dateFamily, Operation.locatorFamily, Operation.promiseFamily],
      builtin ∉ family := by
    have each : ∀ family ∈ [Operation.genericFamily, Operation.textualFamily, Operation.numericFamily, Operation.logicFamily,
        Operation.sequenceFamily, Operation.recordFamily, Operation.dictionaryFamily, Operation.optionalFamily,
        Operation.callingFamily, Operation.dateFamily, Operation.locatorFamily, Operation.promiseFamily],
        ∀ other ∈ family, other.cacheable = false := by
      simp only [Operation.genericFamily, Operation.textualFamily, Operation.numericFamily, Operation.logicFamily,
        Operation.sequenceFamily, Operation.recordFamily, Operation.dictionaryFamily, Operation.optionalFamily,
        Operation.callingFamily, Operation.dateFamily, Operation.locatorFamily, Operation.promiseFamily,
        List.forall_mem_cons, List.not_mem_nil, false_implies, implies_true, and_true]
      and_intros <;> rfl
    intro family listed member
    rw [each family listed builtin member] at cacheable
    cases cacheable
  simp only [List.forall_mem_cons] at others
  simp only [builtins, List.mem_append] at among
  simpa [others] using among

/-- A call of an operation on clients has an argument for each parameter. -/
theorem count_of_httpFamily {builtin : Builtin} (among : builtin ∈ Operation.httpFamily) {data : Data} {count : Nat}
    (complete : missingParameter? ((Callable.builtin builtin).expected data) count = none) :
    ((Callable.builtin builtin).expected data).length ≤ count
      ∧ ((Callable.builtin builtin).expected data).length + 1 = (builtin.parameters data).length := by
  simp only [Operation.httpFamily, List.mem_cons, List.not_mem_nil, or_false] at among
  rcases among with rfl | rfl <;>
    simp [missingParameter?, Callable.expected, Callable.parameters, Builtin.eager, Operation.takes, Parameter.named] at complete ⊢ <;>
    omega

/-! ## The number of evaluated arguments -/

/-- Whenever the work comes to a value, the value is good. -/
def Run.Ends (work : ExceptT ε Run α) (good : α → Prop) : Prop :=
  Run.Yields work.run fun outcome => ∀ value, outcome = .ok value → good value

namespace Run.Ends

protected theorem pure {value : α} {good : α → Prop} (holds : good value) : Ends (Pure.pure value : ExceptT ε Run α) good :=
  fun _ _ same => Except.ok.inj same ▸ holds

protected theorem throw (error : ε) {good : α → Prop} : Ends (throw error : ExceptT ε Run α) good := fun _ _ same => nomatch same

protected theorem bind {work : ExceptT ε Run α} {next : α → ExceptT ε Run β} {middle : α → Prop} {good : β → Prop}
    (first : Ends work middle) (second : ∀ value, middle value → Ends (next value) good) : Ends (work >>= next) good := by
  change Run.Yields (work.run >>= ExceptT.bindCont next) _
  refine Run.Yields.bind first fun outcome middle => ?_
  cases outcome with
  | ok value => exact second value (middle value rfl)
  | error error => exact fun _ _ same => nomatch same

/-- What is done before does not matter to what is given. -/
theorem behind (work : ExceptT ε Run α) {next : α → ExceptT ε Run β} {good : β → Prop}
    (second : ∀ value, Ends (next value) good) : Ends (work >>= next) good :=
  have anything : Ends work fun _ => True := fun _ _ _ => trivial
  anything.bind fun value _ => second value

theorem reject {condition : Prop} [Decidable condition] (error : ε) {next : PUnit → ExceptT ε Run α} {good : α → Prop}
    (continues : Ends (next ()) good) : Ends (if condition then throw error >>= next else next ()) good := by
  split
  · exact .throw error
  · exact continues

end Run.Ends

/-- One value for each argument that has a parameter. -/
theorem evaluateArguments_count (scope : Scope) (name : String) (arguments : List (Pending × Parameter)) (index : Nat) :
    Run.Ends (evaluateArguments scope name arguments index) fun values => values.length = arguments.length := by
  induction arguments generalizing index with
  | nil => exact .pure rfl
  | cons entry rest ih =>
    refine .behind _ fun value => .reject _ ?_
    dsimp only
    split
    · exact .behind _ fun error => .throw error
    · refine .bind (ih (index + 1)) fun values same => .pure ?_
      rw [List.length_cons, List.length_cons, same]

/-! ## Evaluation in order -/

section

variable {P : World → Prop} {transport : Option Transport} {scope : Scope}

namespace Run.Keeps

protected theorem pure (value : α) : Keeps P (Pure.pure value : Run α) := fun _ holds => holds

protected theorem bind {run : Run α} {next : α → Run β} (first : Keeps P run) (second : ∀ value, Keeps P (next value)) :
    Keeps P (run >>= next) :=
  fun world holds => second _ _ (first world holds)

/-- The outcome plays no part. -/
theorem ensures {run : Run α} (keeps : Keeps P run) : Ensures P run fun _ => True := fun world holds => ⟨keeps world holds, trivial⟩

/-- Behind a run whose outcome is known. -/
theorem behind {run : Run α} {next : α → Run β} {good : α → Prop} (first : Ensures P run good)
    (second : ∀ value, good value → Keeps P (next value)) : Keeps P (run >>= next) :=
  fun world holds => second _ (first world holds).2 _ (first world holds).1

/-- Behind a run that only comes to good values. -/
theorem bindYields {run : Run α} {next : α → Run β} {good : α → Prop} (first : Keeps P run) (yields : run.Yields good)
    (second : ∀ value, good value → Keeps P (next value)) : Keeps P (run >>= next) :=
  behind (fun world holds => ⟨first world holds, yields world⟩) second

/-- Looking at the store. -/
theorem look {next : Store → Run α} (second : ∀ store, Keeps P (next store)) : Keeps P (Run.store >>= next) :=
  fun world holds => second world.store world holds

theorem mapM {work : α → Run β} {items : List α} (each : ∀ item ∈ items, Keeps P (work item)) : Keeps P (items.mapM work) :=
  fun world holds => (Ensures.mapM (fun item among => (each item among).ensures) world holds).1

theorem inferType (scope : Scope) (value : Value) : Keeps P (scope.inferType value) := .look fun _ => .pure _

end Run.Keeps

theorem resolve_keeps (fails : ∀ kind reason, Run.Keeps P (Run.draw (Data.error kind reason))) (scope : Scope) (data : Data) :
    Run.Keeps P (scope.resolve data) := by
  unfold Scope.resolve
  split
  · split
    · exact .pure _
    · exact fails _ _
  · exact .pure _

/-- Work that keeps the property where requests are answered by `transport`. -/
def Pending.Keeps (P : World → Prop) (transport : Option Transport) (pending : Pending) : Prop :=
  ∀ inner, inner.transport = transport → Run.Keeps P (pending.evaluate inner)

def Caller.Keeps (P : World → Prop) (transport : Option Transport) (caller : Caller) : Prop :=
  ∀ inner, inner.transport = transport → ∀ operation arguments, Run.Keeps P (caller inner operation arguments)

theorem runStages_keeps {inside : Scope → Prop} (calls : ∀ narrowing, inside (scope.child.withNarrowing narrowing))
    {stages : List Stage} (each : ∀ stage ∈ stages, ∀ current inner, inside inner → Run.Keeps P (stage current inner))
    (narrowing : Option Narrowing) (receiver current : Data) : Run.Keeps P (runStages scope narrowing receiver current stages) := by
  have stage (stage : Stage) (among : stage ∈ stages) (narrowing : Option Narrowing) (current : Data) (_ : True) :
      Run.Ensures P (stage current (scope.child.withNarrowing narrowing)) fun _ => True ∧ True :=
    (each stage among current _ (calls narrowing)).ensures.weaken fun _ _ => ⟨trivial, trivial⟩
  exact fun world holds => (runStages_ensures (fun _ => True) stage narrowing receiver trivial world holds).1

theorem evaluateCondition_keeps (host : scope.transport = transport) {test whenTrue whenFalse : Pending}
    (tests : test.Keeps P transport) (trues : whenTrue.Keeps P transport) (falses : whenFalse.Keeps P transport) :
    Run.Keeps P (evaluateCondition scope test whenTrue whenFalse) := by
  have entered (narrowing : Option Narrowing) (branch : Branch) (skip : Option Skip) :
      (((scope.withNarrowing narrowing).enter branch).withSkip skip).transport = transport :=
    (Scope.transport_enter _ branch).trans host
  refine .look fun store => (tests scope.child host).bind fun result => ?_
  split
  · exact .pure _
  · exact .bind (trues _ (entered _ _ _)) fun _ => .bind (falses _ (entered _ _ _)) fun _ => .pure _

theorem evaluateChild_keeps (host : scope.transport = transport) (expected : Option DataType) {child : Pending}
    (keeps : child.Keeps P transport) : Run.Keeps P (evaluateChild scope expected child) :=
  (keeps (scope.child.expecting expected) host).bind fun _ => .pure _

theorem evaluateArray_keeps (host : scope.transport = transport) (id : EntityId) (type : DataType) {items : List Pending}
    (each : ∀ item ∈ items, item.Keeps P transport) : Run.Keeps P (evaluateArray scope id type items) := by
  refine .bind (.mapM fun entry among => ?_) fun statements => (Run.Keeps.inferType _ _).bind fun _ => .pure _
  exact evaluateChild_keeps host _ (each entry.1 (List.fst_mem_of_mem_zipIdx among))

theorem evaluateRecord_keeps (host : scope.transport = transport) (id : EntityId) (type : DataType)
    {entries : List (String × Pending)} (each : ∀ entry ∈ entries, entry.2.Keeps P transport) :
    Run.Keeps P (evaluateRecord scope id type entries) := by
  refine .bind (.mapM fun entry among => ?_) fun statements => (Run.Keeps.inferType _ _).bind fun _ => .pure _
  exact (evaluateChild_keeps host _ (each entry.1 (List.fst_mem_of_mem_zipIdx among))).bind fun _ => .pure _

/-! Publishing data does not change how requests are answered. -/

theorem transport_publishes : Publishes (·.transport = transport) fun _ => True :=
  fun scope _ _ _ host _ => (scope.transport_publish _ _ _).trans host

theorem Pending.Keeps.comesTo {pending : Pending} (keeps : pending.Keeps P transport) :
    pending.ComesTo P (·.transport = transport) fun _ => True := fun inner host => (keeps inner host).ensures

theorem previewBody_keeps (host : scope.transport = transport) {parameters body : List Pending}
    (first : ∀ pending ∈ parameters, pending.Keeps P transport) (second : ∀ pending ∈ body, pending.Keeps P transport)
    (drawn : Run.Keeps P (Run.draw Data.undefined)) : Run.Keeps P (previewBody scope parameters body) := fun world holds =>
  (previewBody_ensures transport_publishes drawn.ensures (fun pending among => (first pending among).comesTo)
    (fun pending among => (second pending among).comesTo) trivial host world holds).1

theorem bindParameters_keeps (host : scope.transport = transport) {parameters : List Pending}
    (each : ∀ parameter ∈ parameters, parameter.Keeps P transport) (arguments : List Data) :
    Run.Ensures P (bindParameters parameters arguments scope) (·.transport = transport) :=
  bindParameters_ensures transport_publishes (fun parameter among => (each parameter among).comesTo) (fun _ _ => trivial) host

theorem runBody_keeps (host : scope.transport = transport) {body : List Pending}
    (each : ∀ pending ∈ body, pending.Keeps P transport) (drawn : Run.Keeps P (Run.draw Data.undefined)) :
    Run.Keeps P (runBody body scope) := fun world holds =>
  (runBody_ensures transport_publishes drawn.ensures (fun pending among => (each pending among).comesTo) host world holds).1

/-! ## What programs do -/

namespace World.Invariant

variable (invariant : World.Invariant transport P)

include invariant

theorem drawn {build : Fresh α} (grows : build.Grows) : Run.Keeps P (Run.draw build) :=
  fun world holds => invariant.draw holds (grows world.nextId)

theorem recorded (cacheable : Bool) (id : EntityId) (data : Data) :
    Run.Keeps P (Run.updateStore (·.record cacheable id data)) :=
  fun _ holds => invariant.results _ holds

theorem found (className : String) (arguments : List Statement) (instanceId : EntityId) :
    Run.Keeps P (Operation.externalOf className arguments instanceId).run := by
  intro world holds
  rw [Operation.externalOf_run]
  cases known : world.store.instance? instanceId with
  | some external => exact holds
  | none =>
    cases made : Operation.materialize className arguments with
    | ok external => exact invariant.find holds known made
    | error failure => exact holds

theorem created (className : String) (type : DataType) (arguments : List Data) (external : External) :
    Run.Keeps P (Operation.createInstance className type arguments external) := by
  refine .bind (.mapM fun _ _ => invariant.drawn (.statement _)) fun arguments => ?_
  have placed : Run.Keeps P (do
      let instanceId ← (freshId : Run EntityId)
      Run.updateStore (·.setInstance instanceId external)
      return instanceId) := fun _ holds => invariant.create external holds
  exact placed.bind fun _ => invariant.drawn (.make _ _)

/-- What operations do keeps the property as far as the program does that they call back. -/
theorem acts {calls : Run Data → Prop} (each : ∀ run, calls run → Run.Keeps P run) {run : Run α}
    (acts : Run.Acts False calls run) : Run.Keeps P run := by
  induction acts with
  | pure value => exact .pure value
  | bind first second ih ih' => exact .bind ih ih'
  | draw grows => exact invariant.drawn grows
  | find className arguments instanceId => exact invariant.found className arguments instanceId
  | create className type arguments external => exact invariant.created className type arguments external
  | observe allowed event => exact allowed.elim
  | call made => exact each _ made

/-! ### Calls -/

theorem eager {handler : EagerHandler} (confined : handler.Confined False) {caller : Caller} (calls : caller.Keeps P transport)
    (host : scope.transport = transport) (data : Data) (arguments : List Data) :
    Run.Keeps P (Attempt.settle (handler caller scope data arguments)) := by
  refine invariant.acts (fun run made => ?_) (Attempt.settle_acts (confined caller scope data arguments))
  obtain ⟨operation, values, rfl⟩ := made
  exact calls scope host operation values

theorem lazily {handler : LazyHandler} (confined : handler.Confined False) (host : scope.transport = transport)
    (data : Data) {arguments : List Pending} (each : ∀ argument ∈ arguments, argument.Keeps P transport) :
    Run.Keeps P (Attempt.settle (handler scope data arguments)) := by
  refine invariant.acts (fun run made => ?_) (Attempt.settle_acts (confined scope data arguments))
  obtain ⟨argument, among, inner, same, rfl⟩ := made
  exact each argument among inner (same.2.trans host)

theorem runEager {caller : Caller} (calls : caller.Keeps P transport) {receiver : Scope} (host : scope.transport = transport)
    {data : Data} {name : String} {callable : Callable} (known : receiver.find? data name = some callable)
    (operationId : EntityId) {arguments : List Data} (fits : ∀ builtin ∈ Operation.httpFamily, callable = .builtin builtin →
      arguments.length + 1 = (builtin.parameters data).length) :
    Run.Keeps P (runEager caller scope callable operationId data arguments) := by
  cases callable with
  | builtin builtin =>
    have among := Scope.builtin_mem_of_find? known
    by_cases client : builtin ∈ Operation.httpFamily
    · exact invariant.request builtin client caller scope operationId data arguments host (fits builtin client rfl)
    · have confined : builtin.handler.Confined False := builtins_confined among client
      have plain : ¬ builtin.cacheable = true := fun cacheable => client (mem_httpFamily_of_cacheable among cacheable)
      rw [LivePipeline.runEager]
      cases handler : builtin.handler with
      | eager run =>
        rw [handler] at confined
        dsimp only
        rw [if_neg plain]
        exact invariant.eager confined calls host data arguments
      | lazy run =>
        rw [handler] at confined
        exact invariant.lazily confined host data (by simp)
  | extension extension =>
    refine .bind (fun _ holds => invariant.extension _ _ _ holds) fun _ => ?_
    cases extension.handler data arguments with
    | ok result => exact .pure result
    | error reason => exact invariant.drawn (.error _ _)
  | userDefined name operation => exact calls scope host operation (data :: arguments)

theorem invoke {caller : Caller} (calls : caller.Keeps P transport) {receiver : Scope} (host : scope.transport = transport)
    {data : Data} {name : String} {callable : Callable} (known : receiver.find? data name = some callable)
    (operationId : EntityId) {arguments : List Pending} (each : ∀ argument ∈ arguments, argument.Keeps P transport) :
    Run.Keeps P (invoke caller scope callable operationId data arguments) := by
  have reaches {β : Type} {run : Run β} (acts : Run.Acts False (fun run => Run.Keeps P run) run) : Run.Keeps P run :=
    invariant.acts (fun _ keeps => keeps) acts
  unfold LivePipeline.invoke
  dsimp only
  split
  · exact invariant.drawn (.fault _)
  · next complete =>
    split
    · exact reaches (skipCall_acts scope callable data fun argument among inner same => each argument among inner (same.2.trans host))
    · split
      · have among := Scope.builtin_mem_of_find? known
        have confined := builtins_confined among fun client => show False by simp [Operation.httpFamily, Builtin.eager] at client
        exact invariant.lazily confined host data each
      · have evaluated : Run.Keeps P (evaluateArguments scope callable.name (arguments.zip (callable.expected data)) 0).run :=
          reaches (evaluateArguments_tries scope callable.name
            (fun entry among inner same => each entry.1 (List.of_mem_zip among).1 inner (same.2.trans host)) 0)
        refine evaluated.bindYields (evaluateArguments_count _ _ _ _) fun outcome count => ?_
        cases outcome with
        | error error => exact .pure error
        | ok values =>
          refine invariant.runEager calls host known operationId fun builtin client same => ?_
          subst same
          obtain ⟨enough, arity⟩ := count_of_httpFamily client complete
          rw [count values rfl, List.length_zip, Nat.min_eq_right enough, arity]

end World.Invariant

/-! ### Nodes -/

/-- Evaluation of data, and of the arguments when it is a call. -/
structure Data.Preserves (P : World → Prop) (transport : Option Transport) (caller : Caller) (data : Data) : Prop where
  evaluate : ∀ scope, scope.transport = transport → Run.Keeps P (evaluateData caller data scope)
  arguments : ∀ argument ∈ pendingArguments caller data, argument.Keeps P transport

/-- Data that is no call has no arguments. -/
theorem Data.Preserves.ofValue {caller : Caller} {data : Data}
    (evaluate : ∀ scope, scope.transport = transport → Run.Keeps P (evaluateData caller data scope))
    (none : pendingArguments caller data = []) : data.Preserves P transport caller :=
  ⟨evaluate, by rw [none]; simp⟩

def Statement.Preserves (P : World → Prop) (transport : Option Transport) (caller : Caller) (statement : Statement) : Prop :=
  Pending.Keeps P transport ⟨statement, evaluateStatement caller statement⟩

theorem pendings_keep {caller : Caller} {statements : List Statement}
    (all : ∀ statement ∈ statements, statement.Preserves P transport caller) :
    ∀ pending ∈ pendings caller statements, pending.Keeps P transport := by
  rw [pendings_eq_map, List.forall_mem_map]
  exact all

/-- A property that evaluation keeps, as far as calls do, while results are recorded for certain nodes only. -/
structure World.KeptBy (recordable : EntityId → Prop) (transport : Option Transport) (caller : Caller) (P : World → Prop) : Prop where
  drawn : ∀ {α : Type} {build : Fresh α}, build.Grows → Run.Keeps P (Run.draw build)
  recorded : ∀ {id}, recordable id → ∀ data, Run.Keeps P (Run.setResult id data)
  handle : ∀ data className arguments instanceId, Run.Keeps P (evaluateHandle data className arguments instanceId)
  invoke : ∀ {scope receiver : Scope} {data : Data} {name : String} {callable : Callable} {operationId : EntityId}
    {arguments : List Pending}, scope.transport = transport → receiver.find? data name = some callable → recordable operationId →
      (∀ argument ∈ arguments, argument.Keeps P transport) → Run.Keeps P (invoke caller scope callable operationId data arguments)

namespace World.KeptBy

variable {recordable : EntityId → Prop} {caller : Caller} (kept : World.KeptBy recordable transport caller P)

include kept

theorem resolved (scope : Scope) (data : Data) : Run.Keeps P (scope.resolve data) :=
  resolve_keeps (fun _ _ => kept.drawn (.error _ _)) scope data

theorem performCall (host : scope.transport = transport) (data : Data) {operation : Data} (own : recordable operation.id)
    {arguments : List Pending} (each : ∀ argument ∈ arguments, argument.Keeps P transport) :
    Run.Keeps P (performCall caller scope data operation arguments) := by
  have made : Run.Keeps P (callResult caller scope data operation arguments) := by
    unfold callResult
    dsimp only
    split
    · exact .pure _
    · split
      · split
        · next known =>
          have inner : (scope.withSkip (scope.skipBehind data none)).transport = transport := host
          exact kept.invoke inner known own each
        · exact kept.drawn (.fault _)
      · exact kept.drawn (.fault _)
      · exact kept.drawn (.fault _)
  exact made.bind fun result => (kept.recorded own result).bind fun _ => .pure result

/-- Evaluation goes by the nodes of the program: each keeps the property when its parts do. -/
theorem steps :
    NodeSteps (fun value => (∀ id, Mention.node id ∈ value.mentions → recordable id) →
        ∀ own type, Data.Preserves P transport caller ⟨own, type, value⟩)
      (fun data => (∀ id, Mention.node id ∈ data.mentions → recordable id) → data.Preserves P transport caller)
      (fun statement => (∀ id, Mention.node id ∈ statement.mentions → recordable id) → statement.Preserves P transport caller) where
  undefined _ _ _ := .ofValue (fun _ _ => .pure _) rfl
  text _ _ _ _ := .ofValue (fun _ _ => .pure _) rfl
  number _ _ _ _ := .ofValue (fun _ _ => .pure _) rfl
  boolean _ _ _ _ := .ofValue (fun _ _ => .pure _) rfl
  error _ _ _ _ := .ofValue (fun _ _ => .pure _) rfl
  array items all mentioned own type := by
    simp only [Value.mentions, allMentions_eq_flatMap, List.mem_flatMap] at mentioned
    have each := pendings_keep fun item among => all item among fun id within => mentioned id ⟨item, among, within⟩
    exact .ofValue (fun _ host => evaluateArray_keeps host own type each) rfl
  record entries all mentioned own type := by
    simp only [Value.mentions, entryMentions_eq_flatMap, List.mem_flatMap] at mentioned
    refine .ofValue (fun scope host => evaluateRecord_keeps host own type ?_) rfl
    rw [pendingEntries_eq_map, List.forall_mem_map]
    intro entry among
    exact all entry among fun id within => mentioned id ⟨entry, among, within⟩
  operation name parameters body first second mentioned own type := by
    simp only [Value.mentions, allMentions_eq_flatMap, List.mem_append, List.mem_flatMap] at mentioned
    have first' := pendings_keep fun parameter among =>
      first parameter among fun id within => mentioned id (.inl ⟨parameter, among, within⟩)
    have second' := pendings_keep fun statement among =>
      second statement among fun id within => mentioned id (.inr ⟨statement, among, within⟩)
    refine ⟨fun scope host => ?_, first'⟩
    exact (previewBody_keeps host first' second' (kept.drawn .undefined)).bind fun _ => (Run.Keeps.inferType _ _).bind fun _ => .pure _
  condition test whenTrue whenFalse tests trues falses mentioned own type := by
    simp only [Value.mentions, List.mem_append] at mentioned
    refine .ofValue (fun _ host => evaluateCondition_keeps host ?_ ?_ ?_) rfl
    · exact tests fun id within => mentioned id (.inl (.inl within))
    · exact trues fun id within => mentioned id (.inl (.inr within))
    · exact falses fun id within => mentioned id (.inr within)
  reference name target _ own type := .ofValue (fun scope _ => kept.resolved scope ⟨own, type, .reference name target⟩) rfl
  handle className arguments instanceId _ _ own type := .ofValue (fun _ _ => kept.handle _ _ _ _) rfl
  data own type value all mentioned := all (fun id within => mentioned id (List.mem_cons_of_mem _ within)) own type
  statement own data operations name isOptional first all mentioned := by
    simp only [Statement.mentions, callMentions_eq_flatMap, List.mem_cons, List.mem_append, List.mem_flatMap] at mentioned
    have links : ∀ operation ∈ operations, recordable operation.id ∧ operation.Preserves P transport caller := by
      intro operation among
      have inside (id : EntityId) (within : Mention.node id ∈ operation.mentions) : recordable id :=
        mentioned id (.inr (.inr ⟨operation, among, within⟩))
      exact ⟨inside operation.id (by rw [Data.mentions_eta]; exact List.mem_cons_self), all operation among inside⟩
    have each : ∀ stage ∈ stages caller operations, ∀ current inner, inner.transport = transport →
        Run.Keeps P (stage current inner) := by
      clear all mentioned
      induction operations with
      | nil => simp [stages]
      | cons operation rest ih =>
        rw [List.forall_mem_cons] at links
        rw [stages, List.forall_mem_cons]
        refine ⟨fun current inner host => ?_, ih links.2⟩
        exact (kept.performCall host current links.1.1 links.1.2.arguments).bind fun result => .pure (operation, result)
    intro scope host
    have initial := (first fun id within => mentioned id (.inr (.inl within))).evaluate scope host
    refine initial.bind fun initial => (runStages_keeps (fun _ => host) each none data initial).bind fun outcome => ?_
    exact (kept.resolved scope _).bind fun result => (kept.recorded (mentioned own (.inl rfl)) result).bind fun _ => .pure result

/-- What a call of an operation evaluates. -/
theorem body {operation : Data} (mentioned : ∀ id, Mention.node id ∈ operation.mentions → recordable id) {name : Option String}
    {parameters body : List Statement} (called : operation.value = .operation name parameters body)
    (host : scope.transport = transport) (arguments : List Data) : Run.Keeps P (do
      let inner ← bindParameters (pendings caller parameters) arguments { scope.child with callDepth := scope.callDepth + 1 }
      return (← runBody (pendings caller body) inner).1) := by
  simp only [Data.mentions_eta, called, Value.mentions, allMentions_eq_flatMap, List.mem_cons, List.mem_append, List.mem_flatMap]
    at mentioned
  have first := pendings_keep fun parameter among =>
    kept.steps.ofStatement parameter fun id within => mentioned id (.inr (.inl ⟨parameter, among, within⟩))
  have second := pendings_keep fun statement among =>
    kept.steps.ofStatement statement fun id within => mentioned id (.inr (.inr ⟨statement, among, within⟩))
  have inner : ({ scope.child with callDepth := scope.callDepth + 1 } : Scope).transport = transport := host
  refine .behind (bindParameters_keeps inner first arguments) fun bound same => ?_
  exact (runBody_keeps same second (kept.drawn .undefined)).bind fun _ => .pure _

end World.KeptBy

namespace World.Invariant

variable (invariant : World.Invariant transport P)

include invariant

theorem keptBy {caller : Caller} (calls : caller.Keeps P transport) : World.KeptBy (fun _ => True) transport caller P where
  drawn grows := invariant.drawn grows
  recorded _ data := invariant.recorded false _ data
  handle _ _ _ _ := invariant.acts (fun _ keeps => keeps) (evaluateHandle_acts _ _ _ _)
  invoke host known _ each := invariant.invoke calls host known _ each

/-- By induction on the levels that are left: a body is evaluated with one level less. -/
theorem callerWithin (levels : Nat) : (callerWithin levels).Keeps P transport := by
  induction levels with
  | zero => exact fun _ _ _ _ => invariant.drawn (.fault _)
  | succ levels ih =>
    intro scope host operation arguments
    unfold LivePipeline.callerWithin
    split
    · next called => exact (invariant.keptBy ih).body (fun _ _ => trivial) called host arguments
    · exact invariant.drawn (.fault _)

theorem caller (scope : Scope) : scope.caller.Keeps P transport := invariant.callerWithin _

theorem statement (scope : Scope) (statement : Statement) : statement.Preserves P transport scope.caller :=
  (invariant.keptBy (invariant.caller scope)).steps.ofStatement statement fun _ _ => trivial

theorem node (scope : Scope) (data : Data) : data.Preserves P transport scope.caller :=
  (invariant.keptBy (invariant.caller scope)).steps.ofData data fun _ _ => trivial

theorem evaluate (host : scope.transport = transport) (statement : Statement) : Run.Keeps P (scope.evaluate statement) :=
  invariant.statement scope statement scope host

theorem evaluateAll (host : scope.transport = transport) (statements : List Statement) :
    Run.Keeps P (scope.evaluateAll statements) :=
  runBody_keeps host (pendings_keep fun statement _ => invariant.statement scope statement) (invariant.drawn .undefined)

theorem perform (host : scope.transport = transport) (data operation : Data) : Run.Keeps P (scope.perform data operation) :=
  (invariant.keptBy (invariant.caller scope)).performCall host data trivial (invariant.node scope operation).arguments

theorem call (host : scope.transport = transport) (operation : Data) (arguments : List Data) :
    Run.Keeps P (scope.call operation arguments) :=
  invariant.caller scope scope host operation arguments

theorem createCall (host : scope.transport = transport) (data : Data) (name : String) :
    Run.Keeps P (scope.createCall data name) := by
  unfold Scope.createCall
  split
  · exact .pure _
  · refine .bind (.mapM fun parameter _ => invariant.drawn (.defaultArgument _ parameter)) fun arguments => ?_
    refine (invariant.drawn (.make _ _)).bind fun call => ?_
    exact (invariant.perform host data call).bind fun _ => .pure _

end World.Invariant

end

end LivePipeline
