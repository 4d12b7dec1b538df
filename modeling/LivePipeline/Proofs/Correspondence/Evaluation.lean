import LivePipeline.Evaluation
import LivePipeline.Proofs.Correspondence.Calls

/-! Evaluation on both sides of a link. Results that were recorded before do not matter: whatever an
evaluation reads from the store by identity, it has written itself. -/

namespace LivePipeline

open Link

@[simp] theorem pendings_eq_map (caller : Caller) (statements : List Statement) :
    pendings caller statements = statements.map fun statement => ⟨statement, evaluateStatement caller statement⟩ := by
  induction statements with
  | nil => rfl
  | cons statement rest ih => simp [pendings, ih]

@[simp] theorem pendingEntries_eq_map (caller : Caller) (entries : List (String × Statement)) :
    pendingEntries caller entries
      = entries.map fun (key, statement) => (key, ⟨statement, evaluateStatement caller statement⟩) := by
  induction entries with
  | nil => rfl
  | cons entry rest ih => simp [pendingEntries, ih]

/-- What a statement results in, before the result is recorded. -/
def evaluateChain (caller : Caller) (data : Data) (operations : List Data) (scope : Scope) : Run Data := do
  let initial ← evaluateData caller data scope
  let (result, _) ← runChain scope data initial (stages caller operations)
  scope.resolve result

theorem evaluateStatement_eq (caller : Caller) (id : EntityId) (data : Data) (operations : List Data)
    (name : Option String) (isOptional : Bool) (scope : Scope) :
    evaluateStatement caller ⟨id, data, operations, name, isOptional⟩ scope = (do
      let result ← evaluateChain caller data operations scope
      Run.setResult id result
      return result) :=
  rfl

/-- A child of a container on both sides, with results that agree. -/
def Link.SameChild (link : Link) (ledger : Ledger) (statement statement' : Statement) : Prop :=
  link.SameStatement ledger statement statement' ∧ ledger.synced statement.id

theorem Link.SameChild.mono {link : Link} {before after : Ledger} {statement statement' : Statement}
    (same : link.SameChild before statement statement') (le : before ≤ after) :
    link.SameChild after statement statement' :=
  ⟨same.1.mono le, Ledger.synced_mono le same.2⟩

namespace Link.Sim

variable {link : Link} {ledger : Ledger} {scope scope' : Scope}

/-! ## Conditions -/

theorem evaluateCondition (scopes : link.SameScope ledger scope scope') {test test' onTrue onTrue' onFalse onFalse' : Pending}
    (tests : link.SamePending ledger test test') (trues : link.SamePending ledger onTrue onTrue')
    (falses : link.SamePending ledger onFalse onFalse') :
    link.Sim ledger (evaluateCondition scope test onTrue onFalse) (evaluateCondition scope' test' onTrue' onFalse')
      link.Same := by
  refine .store fun world world' linked => ?_
  rw [tests.statement, checkStatement scopes test.statement linked]
  generalize scope.checkStatement world.store test.statement = narrowing
  refine .bind (tests.evaluate ledger _ _ (le_refl _) scopes.child) fun first result result' le results => ?_
  rw [results.1.isError, results.1.bool?]
  split
  · exact .pure results.1
  · have guarded := (scopes.withNarrowing narrowing).mono le
    have entered := (scopes.mono le).skipUnless (result.bool? == some true) (guarded.enter .narrowed)
    refine .bind (trues.evaluate first _ _ le entered) fun second whenTrue whenTrue' le' chosen => ?_
    have entered := ((scopes.mono le).skipUnless (!(result.bool? == some true)) (guarded.enter .inverse)).mono le'
    refine .bind (falses.evaluate second _ _ (le.trans le') entered) fun last whenFalse whenFalse' le'' other => .pure ?_
    split
    · exact chosen.1.mono le''
    · exact other.1

/-! ## Containers -/

theorem evaluateChild (scopes : link.SameScope ledger scope scope') (expected : Option DataType) {child child' : Pending}
    (pending : link.SamePending ledger child child') :
    link.Sim ledger (evaluateChild scope expected child) (evaluateChild scope' expected child')
      link.SameChild := by
  refine .bind (pending.evaluate ledger _ _ (le_refl _) (scopes.child.expecting expected))
    fun later result result' le same => .pure ⟨⟨?_, ?_⟩, same.2⟩
  · rw [pending.statement, same.1.1]
    obtain ⟨id, data, operations, name, isOptional⟩ := child.statement
    rfl
  · exact Ledger.holds_iff.mpr ⟨pending.allows.mono le, same.1.2, by simp⟩

theorem rebuild (scopes : link.SameScope ledger scope scope') {id : EntityId} (allows : ledger.Allows link (.node id))
    (type : DataType) {value value' : Value} (same : link.SameValue ledger value value')
    (synced : ∀ statement ∈ value.children, ledger.synced statement.id) :
    link.Sim ledger (rebuild scope id type value) (rebuild scope' (link.names id) type value') link.Same := by
  obtain ⟨rfl, settles⟩ := same
  refine .bind (inferType (scopes.expecting (some type)) value synced) fun later inferred inferred' le types => .pure ⟨?_, ?_⟩
  · rw [types]
    rfl
  · exact Ledger.settles_iff.mpr ⟨allows.mono le, settles.mono le⟩

theorem evaluateArray (scopes : link.SameScope ledger scope scope') {id : EntityId}
    (allows : ledger.Allows link (.node id)) (type : DataType) {items items' : List Pending}
    (pendings : link.SamePendings ledger items items') :
    link.Sim ledger (evaluateArray scope id type items) (evaluateArray scope' (link.names id) type items') link.Same := by
  refine .bind (.mapM link.SameChild (fun _ _ _ _ le same => same.mono le) ?_) fun later statements statements' le all => ?_
  · refine (forall₂_zipIdx pendings 0).imp fun entry entry' same later le => ?_
    obtain ⟨item, index⟩ := entry
    obtain ⟨item', index'⟩ := entry'
    obtain ⟨pending, rfl⟩ := same
    exact evaluateChild (scopes.mono le) _ (pending.mono le)
  · have same := SameAll.of_forall₂ (all.imp fun _ _ same => same.1)
    exact rebuild (scopes.mono le) (allows.mono le) type same.array (forall₂_left (fun _ _ same => same.2) all)

theorem evaluateRecord (scopes : link.SameScope ledger scope scope') {id : EntityId}
    (allows : ledger.Allows link (.node id)) (type : DataType) {entries entries' : List (String × Pending)}
    (pendings : List.Forall₂ (fun entry entry' => entry'.1 = entry.1 ∧ link.SamePending ledger entry.2 entry'.2)
      entries entries') :
    link.Sim ledger (evaluateRecord scope id type entries) (evaluateRecord scope' (link.names id) type entries')
      link.Same := by
  refine .bind (.mapM (fun later (entry entry' : String × Statement) => entry'.1 = entry.1 ∧ link.SameChild later entry.2 entry'.2)
    (fun _ _ _ _ le same => ⟨same.1, same.2.mono le⟩) ?_) fun later statements statements' le all => ?_
  · refine (forall₂_zipIdx pendings 0).imp fun entry entry' same later le => ?_
    obtain ⟨⟨key, item⟩, index⟩ := entry
    obtain ⟨⟨key', item'⟩, index'⟩ := entry'
    obtain ⟨⟨rfl, pending⟩, rfl⟩ := same
    refine .bind (evaluateChild (scopes.mono le) _ (pending.mono le)) fun last statement statement' _ same => ?_
    exact .pure ⟨rfl, same⟩
  · have same := SameEntries.of_forall₂ (all.imp fun _ _ same => ⟨same.1, same.2.1⟩)
    refine rebuild (scopes.mono le) (allows.mono le) type same.record fun statement member => ?_
    obtain ⟨entry, within, rfl⟩ := List.mem_map.mp member
    exact forall₂_left (P := fun (entry : String × Statement) => later.synced entry.2.id) (fun _ _ same => same.2.2) all
      entry within

/-! ## Bodies -/

/-- The scope behind statements, and the last result. -/
def SameEnd (link : Link) (ledger : Ledger) (outcome outcome' : Data × Scope) : Prop :=
  link.Same ledger outcome.1 outcome'.1 ∧ link.SameScope ledger outcome.2 outcome'.2

theorem evaluateEach {pendings pendings' : List Pending} (last last' : Data)
    (scopes : link.SameScope ledger scope scope') (all : link.SamePendings ledger pendings pendings') :
    link.Sim ledger (evaluateEach last pendings scope) (evaluateEach last' pendings' scope')
      fun later outcome outcome' => link.SameScope later outcome.2 outcome'.2
        ∧ ∀ pending ∈ pendings, later.synced pending.statement.id := by
  induction pendings generalizing pendings' ledger last last' scope scope' with
  | nil =>
    cases all
    exact .pure ⟨scopes, by simp⟩
  | cons pending rest ih =>
    cases all with
    | @cons _ pending' _ rest' head tail =>
      refine .bind (head.evaluate ledger _ _ (le_refl _) scopes) fun later result result' le results => ?_
      have published := (scopes.mono le).publish pending.statement.name (head.allows.mono le).1 results.1
      rw [head.statement, Statement.rename_name, Statement.rename_id]
      refine .weaken (ih result result' published (SamePendings.mono tail le)) fun final _ _ le' ended => ⟨ended.1, ?_⟩
      exact List.forall_mem_cons.mpr ⟨Ledger.synced_mono le' results.2, ended.2⟩

theorem evaluateUntilError {pendings pendings' : List Pending} {last last' : Data} (same : link.Same ledger last last')
    (scopes : link.SameScope ledger scope scope') (all : link.SamePendings ledger pendings pendings') :
    link.Sim ledger (evaluateUntilError last pendings scope) (evaluateUntilError last' pendings' scope') (SameEnd link) := by
  induction pendings generalizing pendings' ledger last last' scope scope' with
  | nil =>
    cases all
    exact .pure ⟨same, scopes⟩
  | cons pending rest ih =>
    cases all with
    | @cons _ pending' _ rest' head tail =>
      refine .bind (head.evaluate ledger _ _ (le_refl _) scopes) fun later result result' le results => ?_
      have published := (scopes.mono le).publish pending.statement.name (head.allows.mono le).1 results.1
      rw [head.statement, Statement.rename_name, Statement.rename_id]
      dsimp only
      rw [results.1.isError]
      split
      · exact .pure ⟨results.1, published⟩
      · exact ih results.1 published (SamePendings.mono tail le)

theorem runBody (scopes : link.SameScope ledger scope scope') {body body' : List Pending}
    (pendings : link.SamePendings ledger body body') :
    link.Sim ledger (runBody body scope) (runBody body' scope') (SameEnd link) :=
  .bind .undefined fun _ _ _ le same => evaluateUntilError same (scopes.mono le) (pendings.mono le)

theorem previewBody (scopes : link.SameScope ledger scope scope') {parameters parameters' body body' : List Pending}
    (first : link.SamePendings ledger parameters parameters') (second : link.SamePendings ledger body body') :
    link.Sim ledger (previewBody scope parameters body) (previewBody scope' parameters' body')
      fun later _ _ => ∀ pending ∈ parameters ++ body, later.synced pending.statement.id := by
  refine .bind (evaluateEach default default scopes.child first) fun first outcome outcome' le begun => ?_
  obtain ⟨_, inner⟩ := outcome
  obtain ⟨_, inner'⟩ := outcome'
  refine .bind .undefined fun middle last last' le' _ => ?_
  refine .bind (evaluateEach last last' (begun.1.mono le') (second.mono (le.trans le'))) fun final _ _ le'' ended => .pure ?_
  intro pending member
  rcases List.mem_append.mp member with early | late
  · exact Ledger.synced_mono (le'.trans le'') (begun.2 pending early)
  · exact ended.2 pending late

theorem bindParameters {parameters parameters' : List Pending} {values values' : List Data}
    (all : link.SamePendings ledger parameters parameters') (given : link.SameList ledger values values')
    (scopes : link.SameScope ledger scope scope') :
    link.Sim ledger (bindParameters parameters values scope) (bindParameters parameters' values' scope') link.SameScope := by
  induction parameters generalizing parameters' values values' ledger scope scope' with
  | nil =>
    cases all
    exact .pure scopes
  | cons parameter rest ih =>
    cases all with
    | @cons _ parameter' _ rest' head tail =>
      cases given.forall₂ with
      | nil =>
        refine .bind (head.evaluate ledger _ _ (le_refl _) scopes) fun later value value' le same => ?_
        rw [head.statement, Statement.rename_name, Statement.rename_id]
        exact ih (SamePendings.mono tail le) (given.mono le) ((scopes.mono le).publish _ (head.allows.mono le).1 same.1)
      | cons value others =>
        simp only [LivePipeline.bindParameters, head.statement, Statement.rename_name, Statement.rename_id]
        exact ih tail (.of_forall₂ others) (scopes.publish _ head.allows.1 value)

theorem evaluateHandle {id instanceId : EntityId} {type : DataType} {className : String} {arguments : List Statement}
    (settles : ledger.Settles link ⟨id, type, .handle className arguments instanceId⟩) :
    link.Sim ledger (evaluateHandle ⟨id, type, .handle className arguments instanceId⟩ className arguments instanceId)
      (evaluateHandle ⟨link.names id, type, .handle className (renameAll link.names arguments) (link.names instanceId)⟩
        className (renameAll link.names arguments) (link.names instanceId)) link.Same := by
  have known := (Ledger.settlesValue_handle.mp settles.value).1
  have seed : seedText (renameAll link.names arguments) = seedText arguments := by
    rw [renameAll_eq_map, seedText_map_rename]
  refine settle (.bind (Operation.externalOf_attempts known seed) fun later _ _ le _ => .pure ⟨?_, settles.mono le⟩)
  rfl

end Link.Sim

/-! ## Statements -/

namespace Link

variable {link : Link}

/-- What evaluation does to the parts of a node, on both sides. -/
def EvaluatesStatement (link : Link) (caller : Caller) (statement : Statement) : Prop :=
  ∀ (ledger : Ledger) (scope scope' : Scope), ledger.Covers link statement.mentions → link.SameScope ledger scope scope' →
    link.Sim ledger (evaluateStatement caller statement scope)
      (evaluateStatement caller (statement.rename link.names) scope')
      fun later result result' => link.Same later result result' ∧ later.synced statement.id

def EvaluatesData (link : Link) (caller : Caller) (data : Data) : Prop :=
  ∀ ledger : Ledger, ledger.Covers link data.mentions →
    (∀ scope scope', link.SameScope ledger scope scope' →
      link.Sim ledger (evaluateData caller data scope) (evaluateData caller (data.rename link.names) scope') link.Same)
    ∧ ∀ data' : Data, data'.value = data.value.rename link.names →
      link.SamePendings ledger (pendingArguments caller data) (pendingArguments caller data')

theorem samePending {caller : Caller} {ledger : Ledger} {statement : Statement} (evaluates : link.EvaluatesStatement caller statement)
    (covers : ledger.Covers link statement.mentions) :
    link.SamePending ledger ⟨statement, evaluateStatement caller statement⟩
      ⟨statement.rename link.names, evaluateStatement caller (statement.rename link.names)⟩ where
  statement := rfl
  allows := by
    rw [Statement.mentions_eta, Ledger.covers_cons] at covers
    exact covers.1
  evaluate later scope scope' le scopes := evaluates later scope scope' (covers.mono le) scopes

theorem samePendings {caller : Caller} {ledger : Ledger} {statements : List Statement}
    (evaluates : ∀ statement ∈ statements, link.EvaluatesStatement caller statement)
    (covers : ∀ statement ∈ statements, ledger.Covers link statement.mentions) :
    link.SamePendings ledger (pendings caller statements) (pendings caller (renameAll link.names statements)) := by
  rw [pendings_eq_map, pendings_eq_map, renameAll_eq_map, List.map_map]
  unfold SamePendings
  rw [List.forall₂_map_left_iff, List.forall₂_map_right_iff, List.forall₂_same]
  exact fun statement member => samePending (evaluates statement member) (covers statement member)

/-- Data that is its own result and has no parts. -/
theorem evaluatesData_leaf {caller : Caller} {id : EntityId} {type : DataType} {value : Value}
    (inert : value.rename link.names = value) (firm : value.Firm)
    (evaluated : ∀ id scope, evaluateData caller ⟨id, type, value⟩ scope = Pure.pure ⟨id, type, value⟩)
    (alone : ∀ id type, pendingArguments caller ⟨id, type, value⟩ = []) :
    link.EvaluatesData caller ⟨id, type, value⟩ := by
  intro ledger covers
  constructor
  · intro scope scope' _
    rw [Data.rename, inert, evaluated, evaluated]
    refine .pure ⟨?_, firm, covers⟩
    rw [Data.rename, inert]
  · intro data' same
    obtain ⟨id', type', value'⟩ := data'
    dsimp only at same
    rw [inert] at same
    rw [same, alone, alone]
    exact .nil

theorem stages_forall₂ {caller : Caller} (calls : link.Calls caller) {ledger : Ledger} {scope scope' : Scope}
    (scopes : link.SameScope ledger scope scope') {operations operations' : List Data}
    (evaluates : ∀ operation ∈ operations, link.EvaluatesData caller operation)
    (covers : ∀ operation ∈ operations, ledger.Covers link operation.mentions)
    (same : List.Forall₂ (fun operation operation' => operation'.id = link.names operation.id
      ∧ operation'.value = operation.value.rename link.names) operations operations') :
    List.Forall₂ (link.SameStage (fun _ => link.SameCall) scope scope' ledger) (stages caller operations)
      (stages caller operations') := by
  induction same with
  | nil => exact .nil
  | @cons operation operation' rest rest' head _ ih =>
    rw [List.forall_mem_cons] at evaluates covers
    refine .cons (fun later narrowing current current' le same => ?_) (ih evaluates.2 covers.2)
    have allowed : ledger.Allows link (.node operation.id) := by
      have covers := covers.1
      rw [Data.mentions_eta, Ledger.covers_cons] at covers
      exact covers.1
    have called : link.SameCall operation operation' := ⟨head.1, head.2, allowed.2⟩
    have pendings := (evaluates.1 later (covers.1.mono le)).2 operation' head.2
    have inner := (scopes.mono le).child.withNarrowing narrowing
    exact .bind (.performCall calls inner same called pendings) fun last result result' _ results =>
      .pure ⟨called, results.1⟩

/-- A chain on both sides; the calls on the right may be typed differently. -/
theorem evaluateChain_sim {caller : Caller} (calls : link.Calls caller) {ledger : Ledger} {scope scope' : Scope}
    (scopes : link.SameScope ledger scope scope') {data : Data} {operations operations' : List Data}
    (evaluates : link.EvaluatesData caller data) (all : ∀ operation ∈ operations, link.EvaluatesData caller operation)
    (covers : ledger.Covers link data.mentions)
    (covered : ∀ operation ∈ operations, ledger.Covers link operation.mentions)
    (same : List.Forall₂ (fun operation operation' => operation'.id = link.names operation.id
      ∧ operation'.value = operation.value.rename link.names) operations operations') :
    link.Sim ledger (evaluateChain caller data operations scope)
      (evaluateChain caller (data.rename link.names) operations' scope') link.Same := by
  refine .bind ((evaluates ledger covers).1 scope scope' scopes) fun later initial initial' le starts => ?_
  have linked := stages_forall₂ calls (scopes.mono le) all (fun operation member => (covered operation member).mono le) same
  refine .bind (.runStages (fun _ _ _ _ _ called => called) (fun _ _ _ called => called) none (scopes.mono le)
    (scopes.checkOf data) starts linked) fun last outcome outcome' _ ended => ?_
  obtain ⟨result, _⟩ := outcome
  obtain ⟨result', _⟩ := outcome'
  exact .resolve scope scope' ended.1

theorem evaluation_steps {caller : Caller} (calls : link.Calls caller) :
    NodeSteps (fun value => ∀ id type, link.EvaluatesData caller ⟨id, type, value⟩) (link.EvaluatesData caller)
      (link.EvaluatesStatement caller) where
  undefined _ _ := evaluatesData_leaf rfl trivial (fun _ _ => rfl) fun _ _ => rfl
  text _ _ _ := evaluatesData_leaf rfl trivial (fun _ _ => rfl) fun _ _ => rfl
  number _ _ _ := evaluatesData_leaf rfl trivial (fun _ _ => rfl) fun _ _ => rfl
  boolean _ _ _ := evaluatesData_leaf rfl trivial (fun _ _ => rfl) fun _ _ => rfl
  error _ _ _ := evaluatesData_leaf rfl trivial (fun _ _ => rfl) fun _ _ => rfl
  array items all id type ledger covers := by
    simp only [Data.mentions, Value.mentions, allMentions_eq_flatMap, Ledger.covers_cons, Ledger.covers_flatMap] at covers
    refine ⟨fun scope scope' scopes => ?_, fun data' same => ?_⟩
    · exact .evaluateArray scopes covers.1 type (samePendings all covers.2)
    · obtain ⟨_, _, _⟩ := data'
      cases same
      exact .nil
  record entries all id type ledger covers := by
    simp only [Data.mentions, Value.mentions, entryMentions_eq_flatMap, Ledger.covers_cons, Ledger.covers_flatMap]
      at covers
    refine ⟨fun scope scope' scopes => .evaluateRecord scopes covers.1 type ?_, fun data' same => ?_⟩
    · rw [pendingEntries_eq_map, pendingEntries_eq_map, renameEntries_eq_map, List.map_map, List.forall₂_map_left_iff,
        List.forall₂_map_right_iff, List.forall₂_same]
      exact fun entry member => ⟨rfl, samePending (all entry member) (covers.2 entry member)⟩
    · obtain ⟨_, _, _⟩ := data'
      cases same
      exact .nil
  operation name parameters body first second id type ledger covers := by
    have own : ledger.Settles link ⟨id, type, .operation name parameters body⟩ := ⟨trivial, covers⟩
    have parts := Ledger.settlesValue_operation.mp own.value
    have parameters_same := samePendings first parts.1
    refine ⟨fun scope scope' scopes => ?_, fun data' same => ?_⟩
    · refine .bind (.previewBody scopes parameters_same (samePendings second parts.2)) fun later _ _ le synced => ?_
      refine .bind (.inferType (scopes.mono le) (.operation name parameters body) fun statement member => ?_)
        fun last inferred inferred' le' types => .pure ⟨?_, ?_⟩
      · have member : (⟨statement, evaluateStatement caller statement⟩ : Pending)
            ∈ pendings caller parameters ++ pendings caller body := by
          rw [pendings_eq_map, pendings_eq_map, ← List.map_append]
          exact List.mem_map_of_mem member
        exact synced _ member
      · rw [types]
        rfl
      · exact Ledger.settles_iff.mpr ⟨(Ledger.settles_iff.mp own).1.mono (le.trans le'), own.value.mono (le.trans le')⟩
    · obtain ⟨_, _, _⟩ := data'
      cases same
      exact parameters_same
  condition test whenTrue whenFalse tests trues falses id type ledger covers := by
    simp only [Data.mentions, Value.mentions, Ledger.covers_cons, Ledger.covers_append] at covers
    obtain ⟨_, ⟨first, second⟩, third⟩ := covers
    refine ⟨fun scope scope' scopes => ?_, fun data' same => ?_⟩
    · exact .evaluateCondition scopes (samePending tests first) (samePending trues second) (samePending falses third)
    · obtain ⟨_, _, _⟩ := data'
      cases same
      exact .nil
  reference name target id type ledger covers := by
    refine ⟨fun scope scope' scopes => ?_, fun data' same => ?_⟩
    · exact .resolveReference scopes id target type name
    · obtain ⟨_, _, _⟩ := data'
      cases same
      exact .nil
  handle className arguments instanceId all id type ledger covers := by
    refine ⟨fun scope scope' scopes => .evaluateHandle ⟨trivial, covers⟩, fun data' same => ?_⟩
    obtain ⟨_, _, _⟩ := data'
    cases same
    exact .nil
  data _ type value all := all _ type
  statement id data operations name isOptional own all ledger scope scope' covers scopes := by
    simp only [Statement.mentions, callMentions_eq_flatMap, Ledger.covers_cons, Ledger.covers_append, Ledger.covers_flatMap]
      at covers
    obtain ⟨allowed, first, second⟩ := covers
    rw [evaluateStatement_eq, Statement.rename, evaluateStatement_eq, renameCalls_eq_map]
    have same : List.Forall₂ (fun operation operation' => operation'.id = link.names operation.id
        ∧ operation'.value = operation.value.rename link.names) operations (operations.map (Data.rename link.names)) := by
      rw [List.forall₂_map_right_iff, List.forall₂_same]
      exact fun operation _ => ⟨operation.rename_id _, operation.rename_value _⟩
    refine .bind (evaluateChain_sim calls scopes own all first second same) fun later result result' le results => ?_
    refine .bind (.record false rfl allowed.2 results.1 results.2.1.reference?) fun last _ _ le' synced => ?_
    exact .pure ⟨results.mono le', synced⟩

end Link

/-! ## Callers -/

namespace Link

variable {link : Link}

theorem evaluatesStatement {caller : Caller} (calls : link.Calls caller) (statement : Statement) :
    link.EvaluatesStatement caller statement :=
  (evaluation_steps calls).ofStatement statement

theorem evaluatesData {caller : Caller} (calls : link.Calls caller) (data : Data) : link.EvaluatesData caller data :=
  (evaluation_steps calls).ofData data

/-- By induction on the levels that are left: a body is evaluated with one level less. -/
theorem callerWithin_calls : ∀ levels, link.Calls (callerWithin levels)
  | 0 => by
    intro ledger scope scope' operation operation' arguments arguments' scopes _ _
    rw [scopes.1]
    exact .fault _
  | levels + 1 => by
    intro ledger scope scope' operation operation' arguments arguments' scopes same given
    have calls := callerWithin_calls levels
    have shown : (Fault.notAnOperation operation').data = (Fault.notAnOperation operation).data :=
      congrArg (fun shown => Data.error .typeError ("`" ++ shown ++ "` is not an operation"))
        (same.1 ▸ operation.rename_display link.names)
    obtain ⟨rfl, settles⟩ := same
    have settled := settles.value
    obtain ⟨id, type, value⟩ := operation
    cases value with
    | operation name parameters body =>
      have parts := Ledger.settlesValue_operation.mp settled
      have inner : link.SameScope ledger { scope.child with callDepth := scope.callDepth + 1 }
          { scope'.child with callDepth := scope'.callDepth + 1 } :=
        ⟨by rw [scopes.1]; rfl, ⟨scopes.2.bindings, scopes.2.failed, scopes.2.extensions⟩⟩
      have parameters_same := samePendings (fun statement _ => evaluatesStatement calls statement) parts.1
      have body_same := samePendings (fun statement _ => evaluatesStatement calls statement) parts.2
      refine .bind (.bindParameters parameters_same given inner) fun later bound bound' le scopes => ?_
      refine .bind (.runBody scopes (body_same.mono le)) fun last outcome outcome' _ ended => ?_
      exact .pure ended.1
    | _ =>
      change link.Sim ledger (Run.draw (Fault.notAnOperation _).data) (Run.draw (Fault.notAnOperation _).data) link.Same
      rw [shown]
      exact .fault _

theorem SameScope.caller {ledger : Ledger} {scope scope' : Scope} (scopes : link.SameScope ledger scope scope') :
    scope'.caller = scope.caller ∧ link.Calls scope.caller :=
  ⟨by rw [scopes.1]; rfl, callerWithin_calls _⟩

end Link

end LivePipeline
