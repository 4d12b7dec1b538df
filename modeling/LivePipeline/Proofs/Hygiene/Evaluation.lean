import LivePipeline.Proofs.Hygiene.Builtins

/-! Evaluation behind the declarations of a caller. What uses none of them is evaluated as it is without
them, to the last step. -/

namespace LivePipeline

open Run (Upholds Secures Alike TryAlike)

/-! ## Calls -/

theorem Store.Normal.result?_normal {store : Store} (normal : store.Normal noResult) (id : EntityId) (data : Data)
    (found : store.result? id = some data) : data.Normal :=
  (normal.results id data found).resolve_right fun none => by cases none

/-- Callers that do the same on normal arguments. A call does not see what is asked for or narrowed where it is made. -/
structure Shelter.Callers (shelter : Shelter) (caller caller' : Caller) : Prop where
  same : ∀ {hidden inner outer}, shelter.Scopes hidden inner.child outer.child → ∀ operation arguments,
    (∀ argument ∈ arguments, argument.Normal) → Run.Alike (caller inner operation arguments) (caller' outer operation arguments)
  upholds : caller.Upholds (.normal noResult)

section

variable {shelter : Shelter} {caller caller' : Caller} {hidden : String → Bool} {inner outer : Scope}

theorem Shelter.Callers.alike (callers : shelter.Callers caller caller') (scopes : shelter.Scopes hidden inner outer) :
    Caller.Alike caller caller' inner outer :=
  ⟨callers.same scopes.child, callers.upholds, scopes.normal, scopes.transport⟩

theorem Run.TryAlike.settle {left right : Attempt Data} (alike : TryAlike left right) : Alike left.settle right.settle :=
  Alike.andThen alike _

theorem evaluateArguments_alike (scopes : shelter.Scopes hidden inner outer) (name : String)
    {arguments arguments' : List (Pending × Parameter)}
    (twins : List.Forall₂ (fun left right =>
      (shelter.Twins left.1 right.1 ∧ left.1.statement.avoids shelter.secret hidden = true) ∧ right.2 = left.2) arguments arguments')
    (index : Nat) : TryAlike (evaluateArguments inner name arguments index) (evaluateArguments outer name arguments' index) := by
  induction twins generalizing index with
  | nil => exact .refl _
  | @cons left right rest rest' head tail ih =>
    obtain ⟨argument, parameter⟩ := left
    obtain ⟨argument', parameter'⟩ := right
    obtain ⟨⟨twin, avoids⟩, same⟩ := head
    cases same
    have inside := scopes.child.expecting (some parameter.type)
    refine .after (twin.alike avoids inside) (twin.upholds _ inside.normal) fun value _ => .reject ?_
    rw [scopes.signature]
    dsimp only
    split
    · exact .after (.refl _) (.drawAny (.fault _)) fun error _ => .thrown error _ _
    · exact (ih (index + 1)).andThen _

theorem runCached_alike (key : String) (operationId : EntityId) {run run' : Run Data} (alike : Alike run run') :
    Alike (runCached key operationId run) (runCached key operationId run') := by
  refine .look fun store _ => ?_
  split
  · exact .refl _
  · exact alike.andThen _

/-- What a call can name does the same. -/
def Callable.Alike : Callable → Prop
  | .builtin known => known.handler.Alike
  | .extension _ | .userDefined _ _ => True

theorem Scope.find?_alike {scope : Scope} {data : Data} {name : String} {callable : Callable}
    (found : scope.find? data name = some callable) : callable.Alike := by
  cases callable with
  | builtin known => exact builtins_alike known (Scope.builtin_mem_of_find? found)
  | _ => trivial

theorem runEager_alike (callers : shelter.Callers caller caller') (scopes : shelter.Scopes hidden inner outer) {callable : Callable}
    (alike : callable.Alike) (operationId : EntityId) {data : Data} (receiver : data.Normal) {arguments : List Data}
    (all : ∀ argument ∈ arguments, argument.Normal) :
    Alike (runEager caller inner callable operationId data arguments) (runEager caller' outer callable operationId data arguments) := by
  cases callable with
  | builtin builtin =>
    change Handler.Alike builtin.handler at alike
    simp only [runEager]
    cases handler : builtin.handler with
    | eager run =>
      rw [handler] at alike
      have work := (alike caller caller' inner outer data arguments (callers.alike scopes) receiver all).settle
      dsimp only
      split
      · exact runCached_alike _ operationId work
      · exact work
    | lazy run =>
      rw [handler] at alike
      exact (alike shelter hidden inner outer data [] [] scopes receiver .nil).settle
  | extension extension => exact .refl _
  | userDefined name operation => exact (callers.alike scopes).same operation _ (List.forall_mem_cons.mpr ⟨receiver, all⟩)

theorem Shelter.arguments_uphold {arguments arguments' : List Pending} (twins : shelter.Arguments hidden arguments arguments') :
    ∀ argument ∈ arguments, argument.Upholds (.normal noResult) := by
  induction twins with
  | nil => simp
  | cons head _ ih => exact List.forall_mem_cons.mpr ⟨head.1.upholds, ih⟩

theorem skipCall_alike (scopes : shelter.Scopes hidden inner outer) (callable : Callable) (data : Data)
    {arguments arguments' : List Pending} (twins : shelter.Arguments hidden arguments arguments') :
    Alike (skipCall inner callable data arguments) (skipCall outer callable data arguments') := by
  have child := scopes.child
  have each := Shelter.arguments_uphold twins
  unfold skipCall
  rw [scopes.options]
  refine (Alike.mapM Data.Normal (twins.imp fun left right twin => twin.1.alike twin.2 child) fun argument among => ?_).andThen _
  exact each argument among _ child.normal

/-- The part of an invocation behind its checks: the arguments and, if none failed, the run. -/
theorem evaluateAndRun_alike (callers : shelter.Callers caller caller') (scopes : shelter.Scopes hidden inner outer) {callable : Callable}
    (alike : callable.Alike) (operationId : EntityId) {data : Data} (receiver : data.Normal) {arguments arguments' : List Pending}
    (twins : shelter.Arguments hidden arguments arguments') :
    Alike
      (do
        match ← (evaluateArguments inner callable.name (arguments.zip (callable.expected data)) 0).run with
        | .ok values => runEager caller inner callable operationId data values
        | .error error => return error)
      (do
        match ← (evaluateArguments outer callable.name (arguments'.zip (callable.expected data)) 0).run with
        | .ok values => runEager caller' outer callable operationId data values
        | .error error => return error) := by
  have parameters : List.Forall₂ (fun parameter parameter' => parameter' = parameter) (callable.expected data) (callable.expected data) :=
    List.forall₂_same.mpr fun _ _ => rfl
  have evaluated := evaluateArguments_alike scopes callable.name (forall₂_zip twins parameters) 0
  have secures : Secures (.normal noResult) (evaluateArguments inner callable.name (arguments.zip (callable.expected data)) 0)
      Data.Normal fun values => ∀ value ∈ values, value.Normal := by
    refine evaluateArguments_secures scopes.normal callable.name (fun entry among => ?_) 0
    exact Shelter.arguments_uphold twins entry.1 (List.of_mem_zip among).1
  refine .bind evaluated secures fun outcome met => ?_
  cases outcome with
  | ok values => exact runEager_alike callers scopes alike operationId receiver met
  | error error => exact .refl _

theorem invoke_alike (callers : shelter.Callers caller caller') (scopes : shelter.Scopes hidden inner outer) {callable : Callable}
    (alike : callable.Alike) (operationId : EntityId) {data : Data} (receiver : data.Normal) {arguments arguments' : List Pending}
    (twins : shelter.Arguments hidden arguments arguments') :
    Alike (invoke caller inner callable operationId data arguments) (invoke caller' outer callable operationId data arguments') := by
  have count : arguments'.length = arguments.length := twins.length_eq.symm
  unfold invoke
  rw [scopes.isSkipping, count]
  dsimp only
  split
  · exact .refl _
  · split
    · exact skipCall_alike scopes callable data twins
    · split
      · exact (alike shelter hidden inner outer data arguments arguments' scopes receiver twins).settle
      · exact evaluateAndRun_alike callers scopes alike operationId receiver twins

theorem performCall_alike (callers : shelter.Callers caller caller') (scopes : shelter.Scopes hidden inner outer) {data : Data}
    (receiver : data.Normal) {operation : Data} (avoids : operation.callAvoids shelter.secret hidden = true)
    {arguments arguments' : List Pending} (twins : shelter.Arguments hidden arguments arguments') :
    Alike (performCall caller inner data operation arguments) (performCall caller' outer data operation arguments') := by
  have made : Alike (callResult caller inner data operation arguments) (callResult caller' outer data operation arguments') := by
    have failed := scopes.normal.skipBehind receiver none
    obtain ⟨id, type, value⟩ := operation
    unfold callResult
    rw [scopes.skipBehind, scopes.signature]
    dsimp only
    split
    · exact .refl _
    · split
      · next _ name parameters body =>
        have visible : hidden name = false := by
          simp only [Data.callAvoids, Option.any_some, Bool.and_eq_true, Bool.not_eq_true'] at avoids
          exact avoids.1
        rw [scopes.find? data visible]
        split
        · next found => exact invoke_alike callers (scopes.withSkip failed) (Scope.find?_alike found) id receiver twins
        · exact .refl _
      · exact .refl _
      · exact .refl _
  exact made.andThen _

/-! ## Chains -/

/-- A link of a chain on both sides. The call that it makes uses no hidden name. -/
structure Shelter.Links (shelter : Shelter) (hidden : String → Bool) (stage stage' : Stage) : Prop where
  alike : ∀ {inner outer} current, shelter.Scopes hidden inner outer → current.Normal →
    Run.Alike (stage current inner) (stage' current outer)
  upholds : ∀ current scope, current.Normal → scope.Provides (.normal noResult) →
    Run.Upholds (.normal noResult) (stage current scope) fun made => made.1.callAvoids shelter.secret hidden = true ∧ made.2.Normal

theorem runStages_alike (scopes : shelter.Scopes hidden inner outer) {stages stages' : List Stage}
    (links : List.Forall₂ (shelter.Links hidden) stages stages') {narrowing : Option Narrowing}
    (known : ∀ narrowing', narrowing = some narrowing' → narrowing'.Avoids hidden) {receiver : Data} (clear : receiver.Clear hidden)
    {current : Data} (start : current.Normal) :
    Alike (runStages inner narrowing receiver current stages) (runStages outer narrowing receiver current stages') := by
  induction links generalizing narrowing receiver current with
  | nil => exact .refl _
  | cons head _ ih =>
    have inside := scopes.child.withNarrowing known
    refine .bind (head.alike current inside start) (head.upholds current _ start inside.normal) fun made holds => .look fun store normal => ?_
    have checked := scopes.checkCall normal.result?_normal clear known made.1 holds.1
    dsimp only
    rw [checked.1]
    exact (ih checked.2 (.of_normal holds.2 hidden) holds.2).andThen _

/-! ## Nodes -/

theorem Shelter.Scopes.resolve (scopes : shelter.Scopes hidden inner outer) {data : Data} (clear : data.Clear hidden) :
    outer.resolve data = inner.resolve data := by
  obtain ⟨id, type, value⟩ := data
  cases value with
  | reference name target =>
    have shown := scopes.variableNamed? (clear name target rfl)
    simp only [Scope.resolve]
    cases first : outer.variableNamed? name <;> cases second : inner.variableNamed? name <;> simp_all
  | _ => rfl

theorem Shelter.Scopes.inferType (scopes : shelter.Scopes hidden inner outer) (value : Value)
    (closed : ∀ name id, value ≠ .reference name id) : outer.inferType value = inner.inferType value := by
  unfold Scope.inferType Scope.hints
  rw [scopes.same]
  cases value with
  | reference name id => exact absurd rfl (closed name id)
  | _ => rfl

theorem evaluateCondition_alike (scopes : shelter.Scopes hidden inner outer) {test test' whenTrue whenTrue' whenFalse whenFalse' : Pending}
    (tests : shelter.Twins test test' ∧ test.statement.avoids shelter.secret hidden = true)
    (trues : shelter.Twins whenTrue whenTrue' ∧ whenTrue.statement.avoids shelter.secret hidden = true)
    (falses : shelter.Twins whenFalse whenFalse' ∧ whenFalse.statement.avoids shelter.secret hidden = true) :
    Alike (evaluateCondition inner test whenTrue whenFalse) (evaluateCondition outer test' whenTrue' whenFalse') := by
  refine .look fun store normal => ?_
  have checked := scopes.checkStatement normal.result?_normal tests.2
  have inside (branch : Branch) (live : Bool) :=
    ((scopes.withNarrowing checked.2).enter branch).withSkip (scopes.normal.skipUnless live)
  rw [tests.1.same, checked.1, scopes.skipUnless]
  refine .bind (tests.1.alike tests.2 scopes.child) (tests.1.upholds _ scopes.child.normal) fun result _ => ?_
  dsimp only
  split
  · exact .refl _
  · refine .bind (trues.1.alike trues.2 (inside _ _)) (trues.1.upholds _ (inside _ _).normal) fun onTrue _ => ?_
    exact (falses.1.alike falses.2 (inside _ _)).andThen _

theorem evaluateChild_alike (scopes : shelter.Scopes hidden inner outer) (expected : Option DataType) {child child' : Pending}
    (twins : shelter.Twins child child' ∧ child.statement.avoids shelter.secret hidden = true) :
    Alike (evaluateChild inner expected child) (evaluateChild outer expected child') := by
  unfold evaluateChild
  rw [twins.1.same]
  exact (twins.1.alike twins.2 (scopes.child.expecting expected)).andThen _

theorem rebuild_alike (scopes : shelter.Scopes hidden inner outer) (id : EntityId) (type : DataType) (value : Value)
    (closed : ∀ name id, value ≠ .reference name id) : rebuild outer id type value = rebuild inner id type value := by
  unfold rebuild
  rw [(scopes.expecting (some type)).inferType value closed]

theorem evaluateArray_alike (scopes : shelter.Scopes hidden inner outer) (id : EntityId) (type : DataType) {items items' : List Pending}
    (twins : shelter.Arguments hidden items items') : Alike (evaluateArray inner id type items) (evaluateArray outer id type items') := by
  have rebuilt (items : List Statement) := rebuild_alike scopes id type (.array items) fun _ _ same => nomatch same
  have each : List.Forall₂ (fun entry entry' => Alike (evaluateChild inner (type.expectedChild entry.2 none) entry.1)
      (evaluateChild outer (type.expectedChild entry'.2 none) entry'.1)) items.zipIdx items'.zipIdx := by
    refine (forall₂_zipIdx twins 0).imp fun entry entry' twin => ?_
    rw [twin.2]
    exact evaluateChild_alike scopes _ twin.1
  simp only [evaluateArray, rebuilt]
  refine (Alike.mapM Statement.Normal each fun entry among => ?_).andThen _
  exact evaluateChild_upholds scopes.normal _ (Shelter.arguments_uphold twins entry.1 (List.fst_mem_of_mem_zipIdx among))

theorem evaluateRecord_alike (scopes : shelter.Scopes hidden inner outer) (id : EntityId) (type : DataType)
    {entries entries' : List (String × Pending)}
    (twins : List.Forall₂ (fun left right => right.1 = left.1 ∧ shelter.Twins left.2 right.2
      ∧ left.2.statement.avoids shelter.secret hidden = true) entries entries') :
    Alike (evaluateRecord inner id type entries) (evaluateRecord outer id type entries') := by
  have rebuilt (entries : List (String × Statement)) := rebuild_alike scopes id type (.record entries) fun _ _ same => nomatch same
  have pending : ∀ entry ∈ entries, entry.2.Upholds (.normal noResult) := by
    clear rebuilt
    induction twins with
    | nil => simp
    | cons head _ ih => exact List.forall_mem_cons.mpr ⟨head.2.1.upholds, ih⟩
  simp only [evaluateRecord, rebuilt]
  refine (Alike.mapM (fun made => made.2.Normal) ((forall₂_zipIdx twins 0).imp fun entry entry' twin => ?_) fun entry among => ?_).andThen _
  · obtain ⟨⟨key, child⟩, index⟩ := entry
    obtain ⟨⟨key', child'⟩, index'⟩ := entry'
    obtain ⟨⟨same, twin⟩, placed⟩ := twin
    cases same
    cases placed
    exact (evaluateChild_alike scopes _ twin).andThen _
  · have made := evaluateChild_upholds scopes.normal (type.expectedChild entry.2 (some entry.1.1))
      (pending entry.1 (List.fst_mem_of_mem_zipIdx among))
    exact .bind made fun _ known => .pure known

/-! ### Statements in order -/

/-- The runs do the same and come to values that are related. -/
def Run.Leads (left right : Run α) (related : α → α → Prop) : Prop :=
  ∀ world, world.store.Normal noResult →
    (left world).2 = (right world).2 ∧ (left world).2.store.Normal noResult ∧ related (left world).1 (right world).1

namespace Run.Leads

protected theorem pure {value value' : α} {related : α → α → Prop} (holds : related value value') :
    Leads (Pure.pure value) (Pure.pure value') related := fun _ normal => ⟨rfl, normal, holds⟩

/-- Behind runs that are alike. -/
theorem after {left right : Run α} {middle : α → Prop} {next next' : α → Run β} {related : β → β → Prop} (alike : Alike left right)
    (upholds : Upholds (.normal noResult) left middle) (continues : ∀ value, middle value → Leads (next value) (next' value) related) :
    Leads (left >>= next) (right >>= next') related := by
  intro world normal
  obtain ⟨kept, holds⟩ := upholds world normal
  have rest := continues _ holds _ kept
  have first := alike world normal
  have second : (right >>= next') world = next' (left world).1 (left world).2 := by
    rw [first]
    rfl
  rw [second]
  exact rest

theorem bind {left right : Run α} {related : α → α → Prop} {next next' : α → Run β} (leads : Leads left right related)
    (continues : ∀ value value', related value value' → Alike (next value) (next' value')) : Alike (left >>= next) (right >>= next') := by
  intro world normal
  obtain ⟨same, kept, holds⟩ := leads world normal
  change (next (left world).1 (left world).2) = (next' (right world).1 (right world).2)
  rw [← same]
  exact continues _ _ holds _ kept

end Run.Leads

/-- The same data, in scopes on both sides. -/
def Shelter.Ends (shelter : Shelter) (hidden : String → Bool) (left right : Data × Scope) : Prop :=
  right.1 = left.1 ∧ left.1.Normal ∧ shelter.Scopes hidden left.2 right.2

theorem Statement.behind_nil (hidden : String → Bool) : Statement.behind [] hidden = hidden := by
  funext name
  simp [Statement.behind]

theorem Statement.behind_cons (statement : Statement) (rest : List Statement) (hidden : String → Bool) :
    Statement.behind (statement :: rest) hidden = Statement.behind rest (Statement.behind [statement] hidden) := by
  funext name
  simp [Statement.behind, Bool.and_assoc]

/-- The statements that are pending. -/
abbrev statementsOf (pendings : List Pending) : List Statement := pendings.map (·.statement)

theorem sequenceAvoids_cons {secret : EntityId → Bool} {statement : Statement} {rest : List Statement} :
    sequenceAvoids secret (statement :: rest) hidden = true ↔ statement.avoids secret hidden = true
      ∧ (statement.name.isNone || !secret statement.id) = true
      ∧ sequenceAvoids secret rest (Statement.behind [statement] hidden) = true := by
  rw [sequenceAvoids, Bool.and_eq_true, Bool.and_eq_true, and_assoc]

theorem evaluateEach_leads {pendings pendings' : List Pending} (twins : List.Forall₂ shelter.Twins pendings pendings')
    (avoids : sequenceAvoids shelter.secret (statementsOf pendings) hidden = true) (scopes : shelter.Scopes hidden inner outer)
    {last : Data} (start : last.Normal) :
    Run.Leads (evaluateEach last pendings inner) (evaluateEach last pendings' outer)
      (shelter.Ends (Statement.behind (statementsOf pendings) hidden)) := by
  induction twins generalizing hidden inner outer last with
  | nil => exact .pure ⟨rfl, start, by rwa [statementsOf, List.map_nil, Statement.behind_nil]⟩
  | cons head _ ih =>
    obtain ⟨own, named, others⟩ := sequenceAvoids_cons.mp avoids
    rw [statementsOf, List.map_cons, Statement.behind_cons]
    refine .after (head.alike own scopes) (head.upholds _ scopes.normal) fun result known => ?_
    rw [head.same]
    exact ih others (scopes.publish known named) known

/-- Behind an error the scopes need not be related any more. -/
theorem evaluateUntilError_leads {pendings pendings' : List Pending} (twins : List.Forall₂ shelter.Twins pendings pendings')
    (avoids : sequenceAvoids shelter.secret (statementsOf pendings) hidden = true) (scopes : shelter.Scopes hidden inner outer)
    (last : Data) :
    Run.Leads (evaluateUntilError last pendings inner) (evaluateUntilError last pendings' outer) fun left right => right.1 = left.1 := by
  induction twins generalizing hidden inner outer last with
  | nil => exact .pure rfl
  | cons head _ ih =>
    obtain ⟨own, named, others⟩ := sequenceAvoids_cons.mp avoids
    refine .after (head.alike own scopes) (head.upholds _ scopes.normal) fun result known => ?_
    rw [head.same]
    dsimp only
    split
    · exact .pure rfl
    · exact ih others (scopes.publish known named) result

theorem bindParameters_leads {parameters parameters' : List Pending} (twins : List.Forall₂ shelter.Twins parameters parameters')
    (avoids : sequenceAvoids shelter.secret (statementsOf parameters) hidden = true) (scopes : shelter.Scopes hidden inner outer)
    {values : List Data} (all : ∀ value ∈ values, value.Normal) :
    Run.Leads (bindParameters parameters values inner) (bindParameters parameters' values outer)
      (shelter.Scopes (Statement.behind (statementsOf parameters) hidden)) := by
  induction twins generalizing hidden inner outer values with
  | nil => exact .pure (by rwa [statementsOf, List.map_nil, Statement.behind_nil])
  | cons head _ ih =>
    obtain ⟨own, named, others⟩ := sequenceAvoids_cons.mp avoids
    rw [statementsOf, List.map_cons, Statement.behind_cons]
    cases values with
    | nil =>
      refine .after (head.alike own scopes) (head.upholds _ scopes.normal) fun value known => ?_
      rw [head.same]
      exact ih others (scopes.publish known named) all
    | cons value values =>
      rw [List.forall_mem_cons] at all
      rw [bindParameters, bindParameters, head.same]
      exact ih others (scopes.publish all.1 named) all.2

theorem previewBody_alike (scopes : shelter.Scopes hidden inner outer) {parameters parameters' body body' : List Pending}
    (first : List.Forall₂ shelter.Twins parameters parameters') (second : List.Forall₂ shelter.Twins body body')
    (avoids : sequenceAvoids shelter.secret (statementsOf parameters) hidden = true)
    (avoids' : sequenceAvoids shelter.secret (statementsOf body) (Statement.behind (statementsOf parameters) hidden) = true) :
    Alike (previewBody inner parameters body) (previewBody outer parameters' body') := by
  have begun : (default : Data).Normal := trivial
  refine (evaluateEach_leads first avoids scopes.child begun).bind fun bound bound' ends => ?_
  obtain ⟨_, _⟩ := bound
  obtain ⟨_, _⟩ := bound'
  refine .behind (.draw (.leaf _ rfl)) fun last known => ?_
  refine (evaluateEach_leads second avoids' ends.2.2 known).bind fun outcome outcome' ends => ?_
  rw [ends.1]
  exact .refl _

/-! ## Statements -/

/-- Evaluation of data, and of the arguments when it is a call. -/
structure Shelter.EvaluatesData (shelter : Shelter) (caller caller' : Caller) (data : Data) : Prop where
  evaluate : ∀ {hidden inner outer}, data.avoids shelter.secret hidden = true → shelter.Scopes hidden inner outer →
    Run.Alike (evaluateData caller data inner) (evaluateData caller' data outer)
  arguments : ∀ {hidden}, data.callAvoids shelter.secret hidden = true →
    shelter.Arguments hidden (pendingArguments caller data) (pendingArguments caller' data)

def Shelter.EvaluatesStatement (shelter : Shelter) (caller caller' : Caller) (statement : Statement) : Prop :=
  ∀ hidden inner outer, statement.avoids shelter.secret hidden = true → shelter.Scopes hidden inner outer →
    Run.Alike (evaluateStatement caller statement inner) (evaluateStatement caller' statement outer)

theorem Shelter.EvaluatesStatement.twins (callers : shelter.Callers caller caller') {statement : Statement}
    (evaluates : shelter.EvaluatesStatement caller caller' statement) :
    shelter.Twins ⟨statement, evaluateStatement caller statement⟩ ⟨statement, evaluateStatement caller' statement⟩ where
  same := rfl
  upholds := callers.upholds.statement statement
  alike avoids scopes := evaluates _ _ _ avoids scopes

theorem pendings_twins (callers : shelter.Callers caller caller') {statements : List Statement}
    (evaluates : ∀ statement ∈ statements, shelter.EvaluatesStatement caller caller' statement) :
    List.Forall₂ shelter.Twins (pendings caller statements) (pendings caller' statements) := by
  rw [pendings_eq_map, pendings_eq_map, List.forall₂_map_left_iff, List.forall₂_map_right_iff, List.forall₂_same]
  exact fun statement among => (evaluates statement among).twins callers

theorem pendings_arguments (callers : shelter.Callers caller caller') {statements : List Statement}
    (evaluates : ∀ statement ∈ statements, shelter.EvaluatesStatement caller caller' statement)
    (avoids : allAvoid shelter.secret statements hidden = true) :
    shelter.Arguments hidden (pendings caller statements) (pendings caller' statements) := by
  unfold Shelter.Arguments
  rw [pendings_eq_map, pendings_eq_map, List.forall₂_map_left_iff, List.forall₂_map_right_iff, List.forall₂_same]
  exact fun statement among => ⟨(evaluates statement among).twins callers, allAvoid_iff.mp avoids statement among⟩

@[simp] theorem statementsOf_pendings (caller : Caller) (statements : List Statement) : statementsOf (pendings caller statements) = statements := by
  rw [pendings_eq_map, statementsOf, List.map_map]
  exact List.map_id statements

theorem stages_links (callers : shelter.Callers caller caller') {operations : List Data}
    (evaluates : ∀ operation ∈ operations, shelter.EvaluatesData caller caller' operation)
    (avoids : callsAvoid shelter.secret operations hidden = true) :
    List.Forall₂ (shelter.Links hidden) (stages caller operations) (stages caller' operations) := by
  induction operations with
  | nil => exact .nil
  | cons operation rest ih =>
    rw [List.forall_mem_cons] at evaluates
    obtain ⟨own, others⟩ := Bool.and_eq_true_iff.mp avoids
    have twins := evaluates.1.arguments own
    refine .cons ⟨fun current scopes start => ?_, fun current scope start normal => ?_⟩ (ih evaluates.2 others)
    · exact (performCall_alike callers scopes start own twins).andThen _
    · refine .bind (performCall_upholds callers.upholds normal start trivial (Shelter.arguments_uphold twins)) fun result known => ?_
      exact .pure ⟨own, known⟩

/-- Data that is its own result and no call. -/
theorem Shelter.EvaluatesData.ofValue {id : EntityId} {type : DataType} {value : Value}
    (evaluate : ∀ {hidden inner outer}, value.avoids shelter.secret hidden = true → shelter.Scopes hidden inner outer →
      Alike (evaluateData caller ⟨id, type, value⟩ inner) (evaluateData caller' ⟨id, type, value⟩ outer))
    (alone : ∀ caller, pendingArguments caller ⟨id, type, value⟩ = []) : shelter.EvaluatesData caller caller' ⟨id, type, value⟩ :=
  ⟨evaluate, fun _ => by rw [Shelter.Arguments, alone, alone]; exact .nil⟩

/-- Each kind of node is evaluated alike when its parts are. -/
theorem alike_steps (callers : shelter.Callers caller caller') :
    NodeSteps (fun value => ∀ id type, shelter.EvaluatesData caller caller' ⟨id, type, value⟩) (shelter.EvaluatesData caller caller')
      (fun statement => shelter.EvaluatesStatement caller caller' statement) where
  undefined _ _ := .ofValue (fun _ _ => .refl _) fun _ => rfl
  text _ _ _ := .ofValue (fun _ _ => .refl _) fun _ => rfl
  number _ _ _ := .ofValue (fun _ _ => .refl _) fun _ => rfl
  boolean _ _ _ := .ofValue (fun _ _ => .refl _) fun _ => rfl
  error _ _ _ := .ofValue (fun _ _ => .refl _) fun _ => rfl
  array items all id type :=
    .ofValue (fun avoids scopes => evaluateArray_alike scopes id type (pendings_arguments callers all avoids)) fun _ => rfl
  record entries all id type := by
    refine .ofValue (fun avoids scopes => evaluateRecord_alike scopes id type ?_) fun _ => rfl
    rw [pendingEntries_eq_map, pendingEntries_eq_map, List.forall₂_map_left_iff, List.forall₂_map_right_iff, List.forall₂_same]
    exact fun entry among => ⟨rfl, (all entry among).twins callers, entriesAvoid_iff.mp avoids entry among⟩
  operation name parameters body first second id type := by
    refine ⟨fun avoids scopes => ?_, fun avoids => pendings_arguments callers first (Bool.and_eq_true_iff.mp avoids).2⟩
    obtain ⟨parameters_avoid, body_avoids⟩ := Bool.and_eq_true_iff.mp avoids
    have preview := previewBody_alike scopes (pendings_twins callers first) (pendings_twins callers second)
      (by rwa [statementsOf_pendings]) (by rwa [statementsOf_pendings, statementsOf_pendings])
    have inferred := scopes.inferType (.operation name parameters body) fun _ _ same => nomatch same
    rw [evaluateData, evaluateData]
    dsimp only
    rw [inferred]
    exact preview.andThen _
  condition test whenTrue whenFalse tests trues falses id type := by
    refine .ofValue (fun avoids scopes => ?_) fun _ => rfl
    obtain ⟨both, third⟩ := Bool.and_eq_true_iff.mp avoids
    obtain ⟨first, second⟩ := Bool.and_eq_true_iff.mp both
    exact evaluateCondition_alike scopes ⟨tests.twins callers, first⟩ ⟨trues.twins callers, second⟩ ⟨falses.twins callers, third⟩
  reference name target id type := by
    refine .ofValue (fun avoids scopes => ?_) fun _ => rfl
    have named : Data.avoids shelter.secret ⟨id, type, .reference name target⟩ _ = true := avoids
    have clear := Data.Clear.of_avoids named
    rw [evaluateData, evaluateData, scopes.resolve clear]
    exact .refl _
  handle className arguments instanceId all id type := .ofValue (fun _ _ => .refl _) fun _ => rfl
  data _ type value all := all _ type
  statement id data operations name isOptional own all := by
    intro hidden inner outer avoids scopes
    obtain ⟨first, second⟩ := Bool.and_eq_true_iff.mp avoids
    have links := stages_links callers all second
    have calls := stages_uphold callers.upholds fun operation (_ : operation ∈ operations) =>
      ⟨trivial, callers.upholds.node operation⟩
    rw [evaluateStatement_eq, evaluateStatement_eq]
    refine Alike.andThen (.bind (own.evaluate first scopes) ((callers.upholds.node data).evaluate inner scopes.normal) fun initial start => ?_) _
    refine .bind (runStages_alike scopes links (fun _ given => by cases given) (.of_avoids first) start)
      (runStages_upholds (fun _ => True) scopes.normal calls none data start) fun outcome final => ?_
    obtain ⟨result, _⟩ := outcome
    dsimp only
    rw [scopes.resolve (.of_normal final.1 hidden)]
    exact .refl _

/-! ## Callers -/

/-- One call further in, an operation that uses no hidden name is run alike. -/
theorem enterOperation_alike (callers : shelter.Callers caller caller') (scopes : shelter.Scopes hidden inner.child outer.child)
    {operation : Data} (avoids : operation.avoids shelter.secret hidden = true) {arguments : List Data}
    (all : ∀ argument ∈ arguments, argument.Normal) :
    Alike (enterOperation caller inner operation arguments) (enterOperation caller' outer operation arguments) := by
  have statements (all : List Statement) := pendings_twins callers fun statement (_ : statement ∈ all) => (alike_steps callers).ofStatement statement
  rw [Data.avoids_eta] at avoids
  unfold enterOperation
  split
  · next parameters body value =>
    rw [value] at avoids
    obtain ⟨parameters_avoid, body_avoids⟩ := Bool.and_eq_true_iff.mp avoids
    refine (bindParameters_leads (statements parameters) (by rwa [statementsOf_pendings]) scopes.inside all).bind fun bound bound' inside => ?_
    rw [statementsOf_pendings] at inside
    refine Run.Leads.bind (.after (.refl _) (.draw (.leaf _ rfl)) fun last _ =>
      evaluateUntilError_leads (statements body) (by rwa [statementsOf_pendings]) inside last) fun ended ended' same => ?_
    rw [same]
    exact .refl _
  · exact .refl _

end

/-- Scopes that agree in what their names stand for. -/
def Shelter.plain : Shelter := ⟨noIdentity, [], 0⟩

theorem Shelter.seen_plain (table : Table Variable) (name : String) :
    Shelter.plain.seen table name = (Table.get? table name).map (·.data) := by
  have kept : Shelter.plain.origin name = some := rfl
  rw [seen, kept, Option.bind_fun_some]

theorem Scope.hides_noIdentity (scope : Scope) : scope.hides noIdentity = noName := by
  funext name
  simp only [hides]
  cases scope.variableNamed? name <;> rfl

/-- Calls see of a scope only what its names stand for. By induction on the levels that are left. -/
theorem callerWithin_alike : ∀ levels, Shelter.plain.Callers (callerWithin levels) (callerWithin levels)
  | 0 => by
    refine ⟨fun {hidden inner outer} scopes operation arguments _ => ?_, callerWithin_normal noResult 0⟩
    have depth : outer.child.callDepth = inner.child.callDepth := scopes.callDepth
    have options : outer.child.options = inner.child.options := scopes.options
    change Alike (Fault.tooDeep ⟨inner.child.callDepth + 1, inner.child.options.maxCallDepth⟩).data
      (Fault.tooDeep ⟨outer.child.callDepth + 1, outer.child.options.maxCallDepth⟩).data
    rw [depth, options]
    exact .refl _
  | levels + 1 => by
    refine ⟨fun {hidden inner outer} scopes operation arguments all => ?_, callerWithin_normal noResult (levels + 1)⟩
    have names := scopes.narrow
    rw [Shelter.plain, Scope.hides_noIdentity] at names
    exact enterOperation_alike (callerWithin_alike levels) names (avoids_noName_steps.ofData operation).1 all

/-! ### What stands for the caller's calls -/

namespace Table

variable {α : Type u}

/-- Changes each entry where it stands, or leaves it out. -/
def change (table : Table α) (change : String → α → Option α) : Table α :=
  table.filterMap fun entry => (change entry.1 entry.2).map (entry.1, ·)

theorem keys_change_sublist (table : Table α) (origin : String → α → Option α) : List.Sublist (keys (table.change origin)) (keys table) := by
  induction table with
  | nil => exact .slnil
  | cons entry rest ih =>
    simp only [change, keys, List.map_cons, List.filterMap_cons] at ih ⊢
    cases origin entry.1 entry.2 with
    | none => exact ih.cons _
    | some value => exact ih.cons_cons _

theorem get?_change {table : Table α} (distinct : (keys table).Nodup) (origin : String → α → Option α) (name : String) :
    get? (table.change origin) name = (get? table name).bind (origin name) := by
  induction table with
  | nil => rfl
  | cons entry rest ih =>
    obtain ⟨key, value⟩ := entry
    rw [keys, List.map_cons, List.nodup_cons] at distinct
    have rest := ih distinct.2
    simp only [change, List.filterMap_cons] at rest ⊢
    by_cases same : key = name
    · subst same
      cases changed : origin key value with
      | none => simpa [get?, changed, get?_of_not_mem distinct.1] using rest
      | some other => simp [get?, changed]
    · cases changed : origin key value with
      | none => simpa [get?, same] using rest
      | some other => simpa [get?, same] using rest

end Table

/-- The scope without what the caller has declared. -/
def Shelter.restore (shelter : Shelter) (outer : Scope) : Scope :=
  { outer with bindings := outer.bindings.change shelter.origin, callDepth := outer.callDepth - shelter.deeper }

theorem Shelter.Scopes.restore {shelter : Shelter} {hidden : String → Bool} {inner outer : Scope}
    (scopes : shelter.Scopes hidden inner outer) : Shelter.plain.Scopes noName inner (shelter.restore outer) := by
  have distinct := scopes.tables.distinct
  refine ⟨?_, ⟨⟨distinct.1, distinct.2.sublist (Table.keys_change_sublist _ _)⟩, fun name => ?_, fun _ _ _ secret => nomatch secret⟩,
    fun narrowing _ => ⟨fun _ _ => rfl, fun _ _ => rfl⟩, scopes.normal⟩
  · rw [Shelter.restore, scopes.callDepth, Nat.add_sub_cancel]
    rw [scopes.same]
    rfl
  · rw [Shelter.seen_plain, scopes.tables.shown, Shelter.seen, Shelter.restore, Table.get?_change distinct.2]

/-- Calls behind the caller that use nothing of it are made as they are without it, if the others are taken from there. By
induction on the levels that are left; without the caller there are `more`. -/
theorem callerAvoiding_alike (shelter : Shelter) (more levels : Nat) : shelter.Callers (callerWithin (levels + more))
    (callerAvoiding shelter.secret (fun levels outer => callerWithin (levels + more) (shelter.restore outer.child)) levels) := by
  have restored (levels : Nat) {hidden : String → Bool} {inner outer : Scope} (scopes : shelter.Scopes hidden inner.child outer.child)
      (operation : Data) {arguments : List Data} (all : ∀ argument ∈ arguments, argument.Normal) :
      Alike (callerWithin (levels + more) inner operation arguments)
        (callerWithin (levels + more) (shelter.restore outer.child) operation arguments) := by
    have plain : Shelter.plain.Scopes noName inner.child (shelter.restore outer.child).child := scopes.restore.child
    exact (callerWithin_alike (levels + more)).same plain operation arguments all
  induction levels with
  | zero => exact ⟨fun scopes operation arguments all => restored 0 scopes operation all, callerWithin_normal noResult _⟩
  | succ levels ih =>
    refine ⟨fun {hidden inner outer} scopes operation arguments all => ?_, callerWithin_normal noResult _⟩
    unfold callerAvoiding
    split
    · next avoids =>
      rw [Nat.add_right_comm, callerWithin_succ]
      exact enterOperation_alike ih scopes.narrow avoids all
    · exact restored _ scopes operation all

/-! ## Calls from everywhere -/

/-- What the scope is to calls that a caller makes behind declarations of its own, so many calls further in. -/
def Scope.behindCaller (scope : Scope) (declared : Table Variable) (deeper : Nat) : Scope :=
  { scope with bindings := Table.insertAll scope.bindings declared, callDepth := scope.callDepth + deeper }

/-- Declarations under another identity. -/
def Table.under (declared : Table Variable) (mark : EntityId) : Table Variable :=
  Table.mapValues (fun found => { found with id := mark }) declared

/-- In this world it makes no difference what is done instead of calls whose operation leaves a name open that stands for
a variable under `mark` where the call is made, and instead of calls beyond the limit: there are none. -/
def Scope.CallAvoids (scope : Scope) (mark : EntityId) (operation : Data) (arguments : List Data) (world : World) : Prop :=
  ∀ instead, callerAvoiding (· == mark) instead (scope.options.maxCallDepth - scope.callDepth) scope operation arguments world
    = scope.call operation arguments world

/-- Without the caller the names stand for what they do. -/
theorem Shelter.seen_home (shelter : Shelter) (name : String) :
    shelter.seen shelter.home name = (Table.get? shelter.home name).map (·.data) := by
  simp only [seen]
  cases found : Table.get? shelter.home name with
  | none => rfl
  | some bound =>
    simp only [Option.bind_some, origin, found]
    split <;> rfl

/-- Behind the declarations of a caller its names stand for what they do without it, if the caller is not seen. -/
theorem Shelter.Tables.behindCaller (mark : EntityId) (deeper : Nat) {home : Table Variable} (distinct : (Table.keys home).Nodup)
    (declared : Table Variable) :
    Shelter.Tables ⟨(· == mark), home, deeper⟩ (fun _ => true) home (Table.insertAll home (declared.under mark)) := by
  let shelter : Shelter := ⟨(· == mark), home, deeper⟩
  have all : ∀ outer, (∀ name, (Table.get? home name).map (·.data) = shelter.seen outer name) →
      ∀ name, (Table.get? home name).map (·.data) = shelter.seen (Table.insertAll outer (declared.under mark)) name := by
    induction declared with
    | nil => exact fun outer seen => seen
    | cons entry rest ih =>
      refine fun outer seen => ih _ fun name => ?_
      by_cases same : name = entry.1
      · subst same
        simp [Shelter.seen, Shelter.origin, shelter]
      · rw [seen name, Shelter.seen, Shelter.seen, Table.get?_insert_of_ne _ _ same]
  exact ⟨⟨distinct, Table.nodup_insertAll distinct _⟩, all home fun name => (shelter.seen_home name).symm, fun _ _ _ _ => rfl⟩

/-- Under which identities a caller declares its variables makes no difference. -/
theorem Shelter.Tables.under (mark : EntityId) {table : Table Variable} (distinct : (Table.keys table).Nodup) (declared : Table Variable) :
    Shelter.plain.Tables noName (Table.insertAll table declared) (Table.insertAll table (declared.under mark)) := by
  have all : ∀ inner outer, Shelter.plain.Tables noName inner outer →
      Shelter.plain.Tables noName (Table.insertAll inner declared) (Table.insertAll outer (declared.under mark)) := by
    induction declared with
    | nil => exact fun inner outer tables => tables
    | cons entry rest ih =>
      refine fun inner outer tables => ih _ _ (tables.insert entry.1 entry.2.id ?_ entry.2.data)
      rfl
  exact all table table ⟨⟨distinct, distinct⟩, fun name => (Shelter.seen_plain table name).symm, fun _ _ _ secret => nomatch secret⟩

/-- An operation takes nothing from its caller that it does not name. It gives the same result, in the same world, behind
further declarations of a caller as without them, whatever names they reuse, and however many calls further in, if no
operation that is called on the way leaves a name open that stands for one of these declarations there, and the limit of
nested calls is not reached. -/
theorem call_ignores_caller {scope : Scope} {declared : Table Variable} {deeper : Nat} {mark : EntityId} {operation : Data}
    {arguments : List Data} {world : World} (distinct : (Table.keys scope.bindings).Nodup) (normal : scope.Normal)
    (values : ∀ entry ∈ declared, entry.2.data.Normal) (given : ∀ argument ∈ arguments, argument.Normal)
    (clean : world.store.Normal noResult)
    (avoids : (scope.behindCaller (declared.under mark) deeper).CallAvoids mark operation arguments world) :
    (scope.behindCaller declared deeper).call operation arguments world = scope.call operation arguments world := by
  let shelter : Shelter := ⟨(· == mark), scope.bindings, deeper⟩
  let marked : Scope := scope.behindCaller (declared.under mark) deeper
  let levels : Nat := scope.options.maxCallDepth - (scope.callDepth + deeper)
  obtain ⟨more, without⟩ : ∃ more, scope.options.maxCallDepth - scope.callDepth = levels + more :=
    Nat.exists_eq_add_of_le (Nat.sub_le_sub_left (Nat.le_add_right _ _) _)
  have outside : shelter.Scopes (fun _ => true) scope.child marked.child :=
    ⟨rfl, .behindCaller mark deeper distinct declared, fun _ given => (by cases given), (normal.provides noResult).child⟩
  have bound : (scope.behindCaller declared deeper).child.Provides (.normal noResult) :=
    ⟨Table.all_insertAll (P := fun (found : Variable) => found.data.Normal) normal.bound values, normal.extensions, normal.failed⟩
  have renamed : Shelter.plain.Scopes noName (scope.behindCaller declared deeper).child marked.child :=
    ⟨rfl, .under mark distinct declared, fun _ given => (by cases given), bound⟩
  calc (scope.behindCaller declared deeper).call operation arguments world
      = marked.call operation arguments world := (callerWithin_alike levels).same renamed operation arguments given world clean
    _ = callerAvoiding (· == mark) (fun left outer => callerWithin (left + more) (shelter.restore outer.child)) levels marked operation
          arguments world := (avoids _).symm
    _ = callerWithin (levels + more) scope operation arguments world :=
      ((callerAvoiding_alike shelter more levels).same outside operation arguments given world clean).symm
    _ = scope.call operation arguments world := by rw [← without]; rfl

/-- An operation declares an ending and puts it in the place of an item by a callback. The caller has an ending and an item too. -/
theorem call_ignores_ending :
    let word (id text : String) : Data := ⟨id, .string, .text text⟩
    let plain (id : EntityId) (data : Data) (calls : List Data) (name : Option String) : Statement := ⟨id, data, calls, name, false⟩
    let callback : Data := ⟨"callback", .operation [.named "item" .string] .string,
      .operation none [plain "item-in" (word "item-default" "") [] (some "item")]
        [plain "ending-out" ⟨"ending-use", .reference .string, .reference "ending" ""⟩ [] none]⟩
    let maps : Data := ⟨"maps", .unknown, .operation (some "map") [plain "argument" callback [] none] []⟩
    let items : Data := ⟨"items", .array .string, .array [plain "first" (word "a" "a") [] none]⟩
    let operation : Data := ⟨"operation", .operation [] (.array .string),
      .operation none [] [plain "ending-in" (word "own" "!") [] (some "ending"), plain "all" items [maps] none]⟩
    let declared : Table Variable := [("ending", ⟨"outer-ending", word "other" "?"⟩), ("item", ⟨"outer-item", word "another" "z"⟩)]
    let scope : Scope := {}
    ((scope.behindCaller declared 2).call operation [] {}).1.plain = .array [.text "!"] := by
  intro word plain callback maps items operation declared scope
  have clean : Store.Normal noResult {} := by
    constructor <;> intro _ _ found <;> cases found
  have normal : scope.Normal := ⟨by simp [scope], by simp [scope], fun _ given => nomatch given⟩
  have values : ∀ entry ∈ declared, entry.2.data.Normal := by simp [declared, word, Value.Normal]
  -- Both sides are evaluated by themselves: compared step by step they take far longer.
  let given : Data := ⟨EntityId.drawn 5, .array .string, .array [plain (EntityId.drawn 4) (word "own" "!") [] none]⟩
  have avoids : (scope.behindCaller (declared.under "mark") 2).CallAvoids "mark" operation [] {} := by
    intro instead
    apply Prod.ext
    · exact (rfl : _ = given).trans rfl
    · rfl
  rw [call_ignores_caller (by decide) normal values (by simp) clean avoids]
  rfl

/-- An operation that mentions a name of its caller finds what the caller has declared. So does one that is given a reference to
it, and one that uses a variable which is such a reference. -/
theorem caller_seen_by_operation :
    let word (id text : String) : Data := ⟨id, .string, .text text⟩
    let use (id name : String) : Data := ⟨id, .reference .string, .reference name ""⟩
    let gives (name : String) : Data := ⟨"gives-" ++ name, .operation [.named "n" .string] .string,
      .operation none [⟨"n-in", word "n-default" "", [], some "n", false⟩] [⟨"body", use "used" name, [], none, false⟩]⟩
    let scope : Scope := { bindings := [("x", ⟨"outer", word "outer-data" "outer"⟩), ("v", ⟨"via", use "via-data" "x"⟩)] }
    let inside : Scope := scope.behindCaller [("x", ⟨"inner", word "inner-data" "inner"⟩)] 1
    let outcomes (name : String) (argument : Data) : Json × Json :=
      ((scope.call (gives name) [argument] {}).1.plain, (inside.call (gives name) [argument] {}).1.plain)
    outcomes "x" (word "word" "a") = (.text "outer", .text "inner") ∧ outcomes "n" (use "given" "x") = (.text "outer", .text "inner")
      ∧ outcomes "v" (word "word" "a") = (.text "outer", .text "inner") ∧ outcomes "n" (word "word" "a") = (.text "a", .text "a") := by
  dsimp only
  refine ⟨?_, ?_, ?_, ?_⟩ <;> rfl

end LivePipeline
