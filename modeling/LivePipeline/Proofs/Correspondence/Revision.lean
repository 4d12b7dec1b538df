import LivePipeline.Revision
import LivePipeline.Proofs.Correspondence.Evaluation

/-! Bringing code up to date on both sides of a link: references are rebound, arguments replaced and
calls retyped alike, so the code that comes out differs in names only. -/

namespace LivePipeline

open Link

/-! ## Code -/

namespace Link

variable {link : Link} {before after ledger : Ledger}

/-- Code on both sides; unlike results it may hold references. -/
def SameCode (link : Link) (ledger : Ledger) (data data' : Data) : Prop :=
  data' = data.rename link.names ∧ ledger.Writes link data.mentions

def SameSource (link : Link) (ledger : Ledger) (statement statement' : Statement) : Prop :=
  statement' = statement.rename link.names ∧ ledger.Writes link statement.mentions

theorem SameCode.mono {data data' : Data} (same : link.SameCode before data data') (le : before ≤ after) :
    link.SameCode after data data' :=
  ⟨same.1, same.2.mono le⟩

theorem SameSource.mono {statement statement' : Statement} (same : link.SameSource before statement statement')
    (le : before ≤ after) : link.SameSource after statement statement' :=
  ⟨same.1, same.2.mono le⟩

theorem SameSource.permits {statement statement' : Statement} (same : link.SameSource ledger statement statement') :
    ledger.Permits link (.node statement.id) := by
  have writes := same.2
  rw [Statement.mentions_eta, Ledger.writes_cons] at writes
  exact writes.1

theorem SameCode.permits {data data' : Data} (same : link.SameCode ledger data data') :
    ledger.Permits link (.node data.id) := by
  have writes := same.2
  rw [Data.mentions_eta, Ledger.writes_cons] at writes
  exact writes.1

/-- Statements on both sides, in the same order. -/
def SameSources (link : Link) (ledger : Ledger) (statements statements' : List Statement) : Prop :=
  List.Forall₂ (link.SameSource ledger) statements statements'

theorem SameSources.mono {statements statements' : List Statement} (same : link.SameSources before statements statements')
    (le : before ≤ after) : link.SameSources after statements statements' :=
  same.imp fun _ _ same => same.mono le

theorem SameSources.eq_map {statements statements' : List Statement} (same : link.SameSources ledger statements statements') :
    statements' = renameAll link.names statements ∧ ∀ statement ∈ statements, ledger.Writes link statement.mentions := by
  induction same with
  | nil => exact ⟨rfl, by simp⟩
  | cons head _ ih => exact ⟨by rw [head.1, ih.1]; rfl, List.forall_mem_cons.mpr ⟨head.2, ih.2⟩⟩

end Link

/-! ## References -/

theorem Link.names_empty (link : Link) (id : EntityId) : (link.names id).isEmpty = id.isEmpty := by
  have filled (number : Nat) : (EntityId.drawn number).isEmpty = false := by
    rw [Bool.eq_false_iff, ne_eq, String.isEmpty_iff]
    intro empty
    have characters := congrArg String.toList empty
    simp [EntityId.drawn, EntityId.drawnMark] at characters
  unfold names EntityId.renumber
  split
  · next number found => rw [EntityId.number?_eq_some.mp found, filled, filled]
  · rfl

theorem Scope.rename_variableById? (link : Link) (scope : Scope) (id : EntityId) :
    (scope.rename link.names).variableById? (link.names id)
      = (scope.variableById? id).map fun entry => (entry.1, entry.2.rename link.names) := by
  have named (other : EntityId) : (link.names other == link.names id) = (other == id) := by
    rw [Bool.eq_iff_iff, beq_iff_eq, beq_iff_eq]
    exact ⟨fun same => link.names_injective same, congrArg _⟩
  simp only [variableById?, rename, Table.mapValues]
  rw [List.find?_map]
  simp only [Function.comp_def, Variable.rename, named]

theorem Scope.rename_referent? (link : Link) (scope : Scope) (name : String) (id : EntityId) :
    (scope.rename link.names).referent? name (link.names id)
      = (scope.referent? name id).map fun entry => (entry.1, entry.2.rename link.names) := by
  simp only [referent?, link.names_empty, rename_variableById?, rename_variableNamed?]
  split
  · cases scope.variableNamed? name <;> rfl
  · cases scope.variableById? id with
    | some found => rfl
    | none => cases scope.variableNamed? name <;> rfl

theorem Scope.referent?_mem {scope : Scope} {name : String} {id : EntityId} {found : String × Variable}
    (referent : scope.referent? name id = some found) : found.2 ∈ Table.values scope.bindings := by
  rcases Option.or_eq_some_iff.mp referent with byId | ⟨_, byName⟩
  · obtain ⟨_, byId⟩ := Option.ite_none_left_eq_some.mp byId
    exact List.mem_map_of_mem (List.mem_of_find?_eq_some byId)
  · obtain ⟨other, named, rfl⟩ := Option.map_eq_some_iff.mp byName
    exact Table.of_get? (P := fun found => found ∈ Table.values scope.bindings)
      (fun entry member => List.mem_map_of_mem member) named

/-- A scope in which code is brought up to date: its variables are declared by code. -/
def Link.SameSite (link : Link) (ledger : Ledger) (scope scope' : Scope) : Prop :=
  link.SameScope ledger scope scope' ∧ ∀ entry ∈ scope.bindings, ledger.source entry.2.id

namespace Link.SameSite

variable {link : Link} {ledger before after : Ledger} {scope scope' : Scope}

theorem mono (site : link.SameSite before scope scope') (le : before ≤ after) : link.SameSite after scope scope' :=
  ⟨site.1.mono le, fun entry member => Ledger.source_mono le (site.2 entry member)⟩

theorem child (site : link.SameSite ledger scope scope') : link.SameSite ledger scope.child scope'.child :=
  ⟨site.1.child, site.2⟩

theorem expecting (site : link.SameSite ledger scope scope') (type : Option DataType) :
    link.SameSite ledger (scope.expecting type) (scope'.expecting type) :=
  ⟨site.1.expecting type, site.2⟩

theorem withNarrowing (site : link.SameSite ledger scope scope') (narrowing : Option Narrowing) :
    link.SameSite ledger (scope.withNarrowing narrowing) (scope'.withNarrowing narrowing) :=
  ⟨site.1.withNarrowing narrowing, site.2⟩

theorem enter (site : link.SameSite ledger scope scope') (branch : Branch) :
    link.SameSite ledger (scope.enter branch) (scope'.enter branch) := by
  refine ⟨site.1.enter branch, ?_⟩
  unfold Scope.enter
  split
  · exact site.2
  · exact Scope.Settled.retype (P := fun found => ledger.source found.id) (fun _ _ known => known) _ site.2

theorem publish (site : link.SameSite ledger scope scope') (name : Option String) {id : EntityId} {data data' : Data}
    (source : ledger.source id) (published : link.Same ledger data data') :
    link.SameSite ledger (scope.publish name id data) (scope'.publish name (link.names id) data') := by
  refine ⟨site.1.publish name (ledger.source_below source) published, ?_⟩
  cases name with
  | none => exact site.2
  | some name => exact Table.all_insert (P := fun (found : Variable) => ledger.source found.id) site.2 name source

theorem skipUnless (site : link.SameSite ledger scope scope') (live : Bool) {inner inner' : Scope}
    (inners : link.SameSite ledger inner inner') :
    link.SameSite ledger (inner.withSkip (scope.skipUnless live)) (inner'.withSkip (scope'.skipUnless live)) :=
  ⟨site.1.skipUnless live inners.1, inners.2⟩

theorem rebind (site : link.SameSite ledger scope scope') {data data' : Data} (same : link.SameCode ledger data data') :
    link.SameCode ledger (scope.rebind data) (scope'.rebind data') := by
  obtain ⟨⟨rfl, settled⟩, sources⟩ := site
  obtain ⟨rfl, writes⟩ := same
  obtain ⟨id, type, value⟩ := data
  cases value with
  | reference name target =>
    simp only [Scope.rebind, Data.rename, Value.rename, Scope.rename_referent?]
    cases referent : scope.referent? name target with
    | none => exact ⟨rfl, writes⟩
    | some found =>
      refine ⟨?_, ?_⟩
      · simp only [Option.map_some, Variable.rename, Data.rename_type, Data.rename, Value.rename]
      · obtain ⟨entry, member, same⟩ := List.mem_map.mp (Scope.referent?_mem referent)
        have source : ledger.source found.2.id := same ▸ sources entry member
        simp only [Data.mentions, Value.mentions, Ledger.writes_cons] at writes ⊢
        exact ⟨writes.1, ⟨ledger.source_below source, source⟩, Ledger.writes_nil⟩
  | _ => exact ⟨rfl, writes⟩

end Link.SameSite

/-! ## Statements in order -/

/-- A statement that was brought up to date, with its result. -/
structure Link.SameRevised (link : Link) (ledger : Ledger) (outcome outcome' : Statement × Data) : Prop where
  statement : link.SameSource ledger outcome.1 outcome'.1
  result : link.Same ledger outcome.2 outcome'.2
  synced : ledger.synced outcome.1.id

/-- A statement to be brought up to date, on both sides. -/
structure Link.SameRevisable (link : Link) (ledger : Ledger) (revisable revisable' : Revisable) : Prop where
  statement : link.SameSource ledger revisable.statement revisable'.statement
  revise : ∀ (later : Ledger) (scope scope' : Scope), ledger ≤ later → link.SameSite later scope scope' →
    link.Sim later (revisable.revise scope) (revisable'.revise scope') link.SameRevised

theorem Link.SameRevisable.mono {link : Link} {before after : Ledger} {revisable revisable' : Revisable}
    (same : link.SameRevisable before revisable revisable') (le : before ≤ after) :
    link.SameRevisable after revisable revisable' :=
  ⟨same.statement.mono le, fun later scope scope' le' => same.revise later scope scope' (le.trans le')⟩

def Link.SameRevisables (link : Link) (ledger : Ledger) (revisables revisables' : List Revisable) : Prop :=
  List.Forall₂ (link.SameRevisable ledger) revisables revisables'

theorem Link.SameRevisables.mono {link : Link} {before after : Ledger} {revisables revisables' : List Revisable}
    (same : link.SameRevisables before revisables revisables') (le : before ≤ after) :
    link.SameRevisables after revisables revisables' :=
  same.imp fun _ _ same => same.mono le

/-- What a part of the code is worth to its surroundings: the code, and that results agree for it. -/
def Link.SamePart (link : Link) (ledger : Ledger) (statement statement' : Statement) : Prop :=
  link.SameSource ledger statement statement' ∧ ledger.synced statement.id

theorem Link.SamePart.mono {link : Link} {before after : Ledger} {statement statement' : Statement}
    (same : link.SamePart before statement statement') (le : before ≤ after) : link.SamePart after statement statement' :=
  ⟨same.1.mono le, Ledger.synced_mono le same.2⟩

namespace Link.Sim

variable {link : Link} {ledger : Ledger} {scope scope' : Scope}

theorem reviseEach {revisables revisables' : List Revisable} (scopes : link.SameSite ledger scope scope')
    (all : link.SameRevisables ledger revisables revisables') :
    link.Sim ledger (reviseEach revisables scope) (reviseEach revisables' scope')
      fun later outcome outcome' => List.Forall₂ (link.SamePart later) outcome.1 outcome'.1
        ∧ link.SameSite later outcome.2 outcome'.2 := by
  induction revisables generalizing revisables' ledger scope scope' with
  | nil =>
    cases all
    exact .pure ⟨.nil, scopes⟩
  | cons revisable rest ih =>
    cases all with
    | @cons _ revisable' _ rest' head tail =>
      refine .bind (head.revise ledger _ _ (le_refl _) scopes) fun later outcome outcome' le revised => ?_
      obtain ⟨statement, result⟩ := outcome
      obtain ⟨statement', result'⟩ := outcome'
      obtain ⟨statements, results, synced⟩ := revised
      dsimp only at statements results synced
      have published := (scopes.mono le).publish statement.name statements.permits.2 results
      dsimp only
      rw [statements.1, Statement.rename_name, Statement.rename_id]
      refine .bind (ih published (SameRevisables.mono tail le)) fun last outcome outcome' le' ended => ?_
      exact .pure ⟨.cons ⟨⟨rfl, statements.2.mono le'⟩, Ledger.synced_mono le' synced⟩ ended.1, ended.2⟩

/-! ## Conditions and operations -/

/-- Code without its identity. -/
def SameContent (link : Link) (ledger : Ledger) (value value' : Value) : Prop :=
  value' = value.rename link.names ∧ ledger.Writes link value.mentions

theorem SameContent.data {value value' : Value} (same : SameContent link ledger value value') {id : EntityId}
    (permits : ledger.Permits link (.node id)) (type : DataType) :
    link.SameCode ledger ⟨id, type, value⟩ ⟨link.names id, type, value'⟩ :=
  ⟨by rw [same.1]; rfl, Ledger.writes_cons.mpr ⟨permits, same.2⟩⟩

theorem reviseCondition (scopes : link.SameSite ledger scope scope') {test test' onTrue onTrue' onFalse onFalse' : Revisable}
    (tests : link.SameRevisable ledger test test') (trues : link.SameRevisable ledger onTrue onTrue')
    (falses : link.SameRevisable ledger onFalse onFalse') :
    link.Sim ledger (reviseCondition scope test onTrue onFalse) (reviseCondition scope' test' onTrue' onFalse')
      (SameContent link) := by
  refine .store fun world world' linked => ?_
  rw [tests.statement.1, checkStatement scopes.1 test.statement linked]
  generalize scope.checkStatement world.store test.statement = narrowing
  refine .bind (tests.revise ledger _ _ (le_refl _) scopes.child) fun first outcome outcome' le revised => ?_
  obtain ⟨tested, result⟩ := outcome
  obtain ⟨tested', result'⟩ := outcome'
  obtain ⟨test_same, results, _⟩ := revised
  have guarded := (scopes.withNarrowing narrowing).mono le
  dsimp only at results test_same ⊢
  rw [results.isError, results.bool?]
  have entered := (scopes.mono le).skipUnless ((result.bool? == some true) || result.isError) (guarded.enter .narrowed)
  refine .bind (trues.revise first _ _ le entered) fun second outcome outcome' le' chosen => ?_
  obtain ⟨whenTrue, _⟩ := outcome
  obtain ⟨whenTrue', _⟩ := outcome'
  have entered := ((scopes.mono le).skipUnless ((!(result.bool? == some true)) || result.isError)
    (guarded.enter .inverse)).mono le'
  refine .bind (falses.revise second _ _ (le.trans le') entered) fun last outcome outcome' le'' other => ?_
  obtain ⟨whenFalse, _⟩ := outcome
  obtain ⟨whenFalse', _⟩ := outcome'
  refine .pure ⟨?_, ?_⟩
  · have tests := test_same.1
    have trues := chosen.statement.1
    have falses := other.statement.1
    dsimp only at trues falses
    rw [tests, trues, falses, Value.rename]
  · simp only [Value.mentions, Ledger.writes_append]
    exact ⟨⟨test_same.2.mono (le'.trans le''), chosen.statement.2.mono le''⟩, other.statement.2⟩

theorem reviseOperation (scopes : link.SameSite ledger scope scope') {id : EntityId}
    (permits : ledger.Permits link (.node id)) (name : Option String) {parameters parameters' : List Revisable}
    (all : link.SameRevisables ledger parameters parameters') {reviseBody reviseBody' : Scope → Run (List Statement)}
    (bodies : ∀ later scope scope', ledger ≤ later → link.SameSite later scope scope' →
      link.Sim later (reviseBody scope) (reviseBody' scope') fun last statements statements' =>
        List.Forall₂ (link.SamePart last) statements statements') :
    link.Sim ledger (reviseOperation scope id name parameters reviseBody)
      (reviseOperation scope' (link.names id) name parameters' reviseBody') link.SameCode := by
  refine .bind (reviseEach scopes.child all) fun first outcome outcome' le begun => ?_
  obtain ⟨revised, inner⟩ := outcome
  obtain ⟨revised', inner'⟩ := outcome'
  refine .bind (bodies first inner inner' le begun.2) fun second body body' le' ended => ?_
  have parts := begun.1.imp fun _ _ (same : link.SamePart first _ _) => same.mono le'
  have first_same := SameSources.eq_map (parts.imp fun _ _ same => same.1)
  have second_same := SameSources.eq_map (ended.imp fun _ _ same => same.1)
  have content : SameContent link second (.operation name revised body) (.operation name revised' body') := by
    dsimp only at first_same
    refine ⟨by rw [first_same.1, second_same.1, Value.rename], ?_⟩
    simp only [Value.mentions, allMentions_eq_flatMap, Ledger.writes_append, Ledger.writes_flatMap]
    exact ⟨first_same.2, second_same.2⟩
  have synced : ∀ statement ∈ (Value.operation name revised body).children, second.synced statement.id := by
    intro statement member
    rcases List.mem_append.mp member with early | late
    · exact forall₂_left (P := fun (statement : Statement) => second.synced statement.id) (fun _ _ same => same.2) parts
        statement early
    · exact forall₂_left (P := fun (statement : Statement) => second.synced statement.id) (fun _ _ same => same.2) ended
        statement late
  dsimp only
  rw [content.1]
  refine .bind (inferType (begun.2.mono le').1 _ synced) fun last type type' le'' types => .pure ?_
  rw [types]
  exact SameContent.data ⟨rfl, content.2.mono le''⟩ (permits.mono ((le.trans le').trans le'')) type

/-! ## Calls -/

/-- A call that was made, on both sides, with results that agree. -/
def SameMade (link : Link) (ledger : Ledger) (operation operation' : Data) : Prop :=
  link.SameCode ledger operation operation' ∧ ledger.synced operation.id

theorem SameMade.mono {before after : Ledger} {operation operation' : Data}
    (same : SameMade link before operation operation') (le : before ≤ after) : SameMade link after operation operation' :=
  ⟨same.1.mono le, Ledger.synced_mono le same.2⟩

theorem SameCode.call {operation operation' : Data} (same : link.SameCode ledger operation operation') :
    link.SameCall operation operation' :=
  ⟨by rw [same.1, Data.rename_id], by rw [same.1, Data.rename_value], same.permits.1.2⟩

theorem withExecutedType {operation operation' : Data} (made : SameMade link ledger operation operation') :
    link.Sim ledger (withExecutedType operation) (withExecutedType operation') link.SameCode := by
  obtain ⟨⟨rfl, writes⟩, synced⟩ := made
  refine .store fun world world' linked => ?_
  have results := linked.synced operation.id synced
  have kept : link.SameCode ledger operation (operation.rename link.names) := ⟨rfl, writes⟩
  rw [Data.rename_type, Data.rename_id, results]
  cases type : operation.type with
  | operation parameters declared =>
    cases world.store.result? operation.id with
    | none => exact .pure kept
    | some result =>
      simp only [Option.map_some, Data.rename_isError, Data.rename_type]
      refine .pure ?_
      split
      · exact kept
      · refine ⟨by rw [Data.rename_eta, Data.rename_eta], ?_⟩
        rw [Data.mentions_eta] at writes ⊢
        exact writes
  | _ => exact .pure kept

theorem reviseArgument (scopes : link.SameSite ledger scope scope') (isLazy : Bool) (parameter : Parameter)
    {argument argument' : Revisable} (same : link.SameRevisable ledger argument argument') :
    link.Sim ledger (reviseArgument scope isLazy parameter argument) (reviseArgument scope' isLazy parameter argument')
      fun later outcome outcome' => link.SameSource later outcome.1 outcome'.1 ∧ outcome'.2 = outcome.2 := by
  unfold LivePipeline.reviseArgument
  split
  · -- Only the reference at the head of the argument is brought up to date.
    have source := same.statement
    have writes := source.2
    rw [Statement.mentions_eta, Ledger.writes_cons, Ledger.writes_append] at writes
    have rebound : link.SameCode ledger (scope.rebind argument.statement.data)
        (scope'.rebind (argument.statement.data.rename link.names)) := scopes.rebind ⟨rfl, writes.2.1⟩
    have renamed : ({ argument'.statement with data := scope'.rebind argument'.statement.data } : Statement)
        = ({ argument.statement with data := scope.rebind argument.statement.data } : Statement).rename link.names := by
      rw [source.1, Statement.rename_data, rebound.1]
      obtain ⟨id, data, operations, name, isOptional⟩ := argument.statement
      rfl
    refine .pure ⟨⟨renamed, ?_⟩, ?_⟩
    · rw [Statement.mentions_eta, Ledger.writes_cons, Ledger.writes_append]
      exact ⟨writes.1, rebound.2, writes.2.2⟩
    · dsimp only
      rw [renamed, Statement.rename_resultType]
  · refine .bind (same.revise ledger _ _ (le_refl _) (scopes.child.expecting _)) fun later outcome outcome' _ revised => ?_
    exact .pure ⟨revised.statement, revised.result.type⟩

/-- A default in the place of an argument. -/
theorem sameSource_placed {statement statement' : Statement} (draft : link.Draft ledger statement statement')
    {id : EntityId} (permits : ledger.Permits link (.node id)) :
    link.SameSource ledger { statement with id := id } { statement' with id := link.names id } := by
  obtain ⟨rfl, _, writes⟩ := draft
  rw [Statement.mentions_eta, Ledger.writes_cons] at writes
  refine ⟨by obtain ⟨_, _, _, _, _⟩ := statement; rfl, ?_⟩
  rw [Statement.mentions_eta, Ledger.writes_cons]
  exact ⟨permits, writes.2⟩

theorem repairArguments (isLazy : Bool) {parameters : List Parameter} {arguments arguments' : List Revisable}
    (scopes : link.SameSite ledger scope scope') (all : link.SameRevisables ledger arguments arguments') :
    link.Sim ledger (repairArguments scope isLazy parameters arguments)
      (repairArguments scope' isLazy parameters arguments') link.SameSources := by
  have options : scope'.options = scope.options := by rw [scopes.1.1, Scope.rename_options]
  induction parameters generalizing arguments arguments' ledger with
  | nil => exact .pure .nil
  | cons parameter parameters ih =>
    cases all with
    | nil =>
      simp only [LivePipeline.repairArguments]
      rw [options]
      split
      · exact ih scopes .nil
      · refine .bind (.defaultArgument _ _) fun later added added' le same => ?_
        refine .bind (ih (scopes.mono le) .nil) fun last rest rest' le' others => .pure ?_
        exact .cons ⟨same.1, same.2.2.mono le'⟩ others
    | @cons _ _ others others' head tail =>
      simp only [LivePipeline.repairArguments]
      rw [options]
      refine .bind (reviseArgument scopes isLazy parameter head) fun first outcome outcome' le revised => ?_
      obtain ⟨statement, type⟩ := outcome
      obtain ⟨statement', type'⟩ := outcome'
      obtain ⟨source, types⟩ := revised
      dsimp only at source types ⊢
      rw [types]
      -- Whichever statement takes the place, the other parameters are served behind it.
      have continues : ∀ later, first ≤ later → ∀ chosen chosen', link.SameSource later chosen chosen' →
          link.Sim later (do return chosen :: (← LivePipeline.repairArguments scope isLazy parameters others))
            (do return chosen' :: (← LivePipeline.repairArguments scope' isLazy parameters others')) link.SameSources := by
        intro later le' chosen chosen' same
        refine .bind (ih (scopes.mono (le.trans le')) (SameRevisables.mono tail (le.trans le')))
          fun last rest rest' le served => .pure ?_
        exact .cons (same.mono le) served
      split
      · exact continues first (le_refl _) statement statement' source
      · refine .bind (.defaultArgument _ _) fun later fallback fallback' le same => ?_
        rw [pure_bind, pure_bind, source.1, Statement.rename_id]
        exact continues later le _ _ (sameSource_placed same (source.permits.mono le))

/-- The repair of a call by its name, once it is known that nothing failed before it. -/
theorem repairNamed (scopes : link.SameSite ledger scope scope') {data data' : Data} (receiver : link.Same ledger data data')
    {id : EntityId} {type : DataType} {name : String} {parameters body : List Statement}
    (writes : ledger.Writes link (Data.mentions ⟨id, type, .operation (some name) parameters body⟩))
    {arguments arguments' : List Revisable} (all : link.SameRevisables ledger arguments arguments') :
    link.Sim ledger
      (match scope.find? data name with
        | none => Pure.pure ⟨id, type, .operation (some name) parameters body⟩
        | some callable => do
          let expected := callable.expected data
          let arguments ← LivePipeline.repairArguments scope callable.isLazy expected arguments
          let type := if scope.isSkipping then type else
            .operation expected (callable.resultType data (arguments.map Statement.resultType))
          return ⟨id, type, .operation (some name) arguments body⟩)
      (match scope'.find? data' name with
        | none => Pure.pure ⟨link.names id, type,
            .operation (some name) (renameAll link.names parameters) (renameAll link.names body)⟩
        | some callable => do
          let expected := callable.expected data'
          let arguments ← LivePipeline.repairArguments scope' callable.isLazy expected arguments'
          let type := if scope'.isSkipping then type else
            .operation expected (callable.resultType data' (arguments.map Statement.resultType))
          return ⟨link.names id, type, .operation (some name) arguments (renameAll link.names body)⟩)
      link.SameCode := by
  have skipping : scope'.isSkipping = scope.isSkipping := by rw [scopes.1.1, Scope.rename_isSkipping]
  have callables := scopes.1.find? receiver.type name
  revert callables
  generalize scope.find? data name = callable
  generalize scope'.find? data' name = callable'
  intro callables
  cases callables with
  | none => exact .pure ⟨rfl, writes⟩
  | @some callable callable' found =>
    dsimp only
    rw [found.isLazy, found.expected receiver.type, skipping]
    refine .bind (repairArguments callable.isLazy scopes all) fun later served served' le same => .pure ?_
    have sources := SameSources.eq_map same
    have types : served'.map Statement.resultType = served.map Statement.resultType := by
      rw [sources.1, renameAll_eq_map, List.map_map]
      exact List.map_congr_left fun statement _ => statement.rename_resultType link.names
    rw [types, found.resultType receiver.type]
    refine ⟨by rw [sources.1]; rfl, ?_⟩
    simp only [Data.mentions, Value.mentions, allMentions_eq_flatMap, Ledger.writes_cons, Ledger.writes_append,
      Ledger.writes_flatMap] at writes ⊢
    exact ⟨writes.1.mono le, sources.2, fun statement member => (writes.2.2 statement member).mono le⟩

theorem repairCall (scopes : link.SameSite ledger scope scope') {data data' : Data} (receiver : link.Same ledger data data')
    {operation operation' : Data} (code : link.SameCode ledger operation operation') {arguments arguments' : List Revisable}
    (all : link.SameRevisables ledger arguments arguments') :
    link.Sim ledger (repairCall scope data operation arguments) (repairCall scope' data' operation' arguments')
      link.SameCode := by
  obtain ⟨rfl, writes⟩ := code
  have kept : link.SameCode ledger operation (operation.rename link.names) := ⟨rfl, writes⟩
  have skip := scope.rename_skipBehind link.names data none
  rw [← scopes.1.1, ← receiver.1] at skip
  obtain ⟨id, type, value⟩ := operation
  unfold LivePipeline.repairCall
  rw [skip, Data.rename]
  cases value with
  | operation name parameters body =>
    cases name with
    | none =>
      cases scope.skipBehind data none with
      | none => exact .pure kept
      | some reason => cases reason <;> exact .pure kept
    | some name =>
      have repaired := repairNamed scopes receiver writes all
      cases scope.skipBehind data none with
      | none => exact repaired
      | some reason =>
        cases reason with
        | unreachable => exact repaired
        | failed error => exact .pure kept
  | _ =>
    cases scope.skipBehind data none with
    | none => exact .pure kept
    | some reason => cases reason <;> exact .pure kept

end Link.Sim

/-! ## Statements -/

@[simp] theorem revisables_eq_map (statements : List Statement) :
    revisables statements = statements.map fun statement => ⟨statement, reviseStatement statement⟩ := by
  induction statements with
  | nil => rfl
  | cons statement rest ih => simp [revisables, ih]

@[simp] theorem revisableEntries_eq_map (entries : List (String × Statement)) :
    revisableEntries entries
      = entries.map fun (key, statement) => (key, ⟨statement, reviseStatement statement⟩) := by
  induction entries with
  | nil => rfl
  | cons entry rest ih => simp [revisableEntries, ih]

/-- Calls are typed by their results, unless nothing was run. -/
def Scope.retyped (scope : Scope) (operations : List Data) : Run (List Data) :=
  if scope.isSkipping then pure operations else operations.mapM withExecutedType

/-- All that is done to a statement before its result is recorded: its data, its calls and the
result. -/
def reviseChain (data : Data) (operations : List Data) (scope : Scope) : Run (Data × List Data × Data) := do
  let data ← reviseData data scope
  let initial ← scope.evaluateNode data
  let outcome ← runChain scope data initial (repairedStages operations)
  let operations ← scope.retyped outcome.2
  return (data, operations, ← scope.resolve outcome.1)

theorem reviseStatement_eq (id : EntityId) (data : Data) (operations : List Data) (name : Option String)
    (isOptional : Bool) (scope : Scope) :
    reviseStatement ⟨id, data, operations, name, isOptional⟩ scope = (do
      let (data, operations, result) ← reviseChain data operations scope
      Run.setResult id result
      return (⟨id, data, operations, name, isOptional⟩, result)) := by
  simp only [reviseChain, Scope.retyped]
  unfold reviseStatement
  split <;> rfl

theorem reviseData_operation (id : EntityId) (type : DataType) (name : Option String) (parameters body : List Statement)
    (scope : Scope) :
    reviseData ⟨id, type, .operation name parameters body⟩ scope
      = reviseOperation scope id name (revisables parameters) fun inner => do
        return (← reviseEach (revisables body) inner).1 :=
  rfl

namespace Link

variable {link : Link} {ledger : Ledger} {scope scope' : Scope}

def RevisesStatement (link : Link) (statement : Statement) : Prop :=
  ∀ (ledger : Ledger) (scope scope' : Scope), ledger.Writes link statement.mentions → link.SameSite ledger scope scope' →
    link.Sim ledger (reviseStatement statement scope) (reviseStatement (statement.rename link.names) scope') link.SameRevised

def RevisesData (link : Link) (data : Data) : Prop :=
  ∀ ledger : Ledger, ledger.Writes link data.mentions →
    (∀ scope scope', link.SameSite ledger scope scope' →
      link.Sim ledger (reviseData data scope) (reviseData (data.rename link.names) scope') link.SameCode)
    ∧ link.SameRevisables ledger (revisableArguments data) (revisableArguments (data.rename link.names))

theorem sameRevisable {statement : Statement} (revises : link.RevisesStatement statement)
    (writes : ledger.Writes link statement.mentions) :
    link.SameRevisable ledger ⟨statement, reviseStatement statement⟩
      ⟨statement.rename link.names, reviseStatement (statement.rename link.names)⟩ :=
  ⟨⟨rfl, writes⟩, fun later scope scope' le => revises later scope scope' (writes.mono le)⟩

theorem sameRevisables {statements : List Statement}
    (revises : ∀ statement ∈ statements, link.RevisesStatement statement)
    (writes : ∀ statement ∈ statements, ledger.Writes link statement.mentions) :
    link.SameRevisables ledger (revisables statements) (revisables (renameAll link.names statements)) := by
  rw [revisables_eq_map, revisables_eq_map, renameAll_eq_map, List.map_map]
  unfold SameRevisables
  rw [List.forall₂_map_left_iff, List.forall₂_map_right_iff, List.forall₂_same]
  exact fun statement member => sameRevisable (revises statement member) (writes statement member)

theorem perform_sim (scopes : link.SameScope ledger scope scope') {current current' : Data}
    (receiver : link.Same ledger current current') {operation operation' : Data}
    (code : link.SameCode ledger operation operation') :
    link.Sim ledger (scope.perform current operation) (scope'.perform current' operation')
      fun later result result' => link.Same later result result' ∧ later.synced operation.id := by
  obtain ⟨same, calls⟩ := scopes.caller
  have pendings := (evaluatesData calls operation ledger code.2.covers).2 operation' (by rw [code.1, Data.rename_value])
  rw [Scope.perform, Scope.perform, same]
  exact .performCall calls scopes receiver (Sim.SameCode.call code) pendings

theorem evaluateNode_sim (scopes : link.SameScope ledger scope scope') {data data' : Data}
    (code : link.SameCode ledger data data') :
    link.Sim ledger (scope.evaluateNode data) (scope'.evaluateNode data') link.Same := by
  obtain ⟨same, calls⟩ := scopes.caller
  rw [Scope.evaluateNode, Scope.evaluateNode, same, code.1]
  exact (evaluatesData calls data ledger code.2.covers).1 scope scope' scopes

theorem retyped_sim (scopes : link.SameSite ledger scope scope') {operations operations' : List Data}
    (made : List.Forall₂ (Sim.SameMade link ledger) operations operations') :
    link.Sim ledger (scope.retyped operations) (scope'.retyped operations')
      fun later calls calls' => List.Forall₂ (link.SameCode later) calls calls' := by
  have skipping : scope'.isSkipping = scope.isSkipping := by rw [scopes.1.1, Scope.rename_isSkipping]
  rw [Scope.retyped, Scope.retyped, skipping]
  split
  · exact .pure (made.imp fun _ _ same => same.1)
  · refine .mapM link.SameCode (fun _ _ _ _ le same => same.mono le) (made.imp fun _ _ same later le => ?_)
    exact .withExecutedType (Sim.SameMade.mono same le)

theorem repairedCall_sim (site : link.SameSite ledger scope scope') {current current' : Data}
    (same : link.Same ledger current current') {operation : Data} (revises : link.RevisesData operation)
    (writes : ledger.Writes link operation.mentions) :
    link.Sim ledger
      (do
        let repaired ← repairCall scope current operation (revisableArguments operation)
        return (repaired, ← scope.perform current repaired))
      (do
        let repaired ← repairCall scope' current' (operation.rename link.names)
          (revisableArguments (operation.rename link.names))
        return (repaired, ← scope'.perform current' repaired))
      fun later outcome outcome' => Sim.SameMade link later outcome.1 outcome'.1 ∧ link.Same later outcome.2 outcome'.2 := by
  refine .bind (.repairCall site same ⟨rfl, writes⟩ (revises ledger writes).2) fun later repaired repaired' le code => ?_
  refine .bind (perform_sim (site.mono le).1 (same.mono le) code) fun last result result' le' results => ?_
  exact .pure ⟨⟨code.mono le', results.2⟩, results.1⟩

/-- A chain whose calls are repaired while they are made. -/
theorem repairedChain_sim {operations : List Data} (site : link.SameSite ledger scope scope')
    (revises : ∀ operation ∈ operations, link.RevisesData operation)
    (writes : ∀ operation ∈ operations, ledger.Writes link operation.mentions) (narrowing : Option Narrowing)
    {receiver receiver' current current' : Data}
    (checks : ∀ isTypeTest target, scope'.checkOf receiver' isTypeTest target = scope.checkOf receiver isTypeTest target)
    (same : link.Same ledger current current') :
    link.Sim ledger (runStages scope narrowing receiver current (repairedStages operations))
      (runStages scope' narrowing receiver' current' (repairedStages (renameCalls link.names operations)))
      fun later outcome outcome' => link.Same later outcome.1 outcome'.1
        ∧ List.Forall₂ (Sim.SameMade link later) outcome.2 outcome'.2 := by
  have stages : List.Forall₂ (link.SameStage (Sim.SameMade link) scope scope' ledger) (repairedStages operations)
      (repairedStages (renameCalls link.names operations)) := by
    induction operations with
    | nil => exact .nil
    | cons operation rest ih =>
      rw [List.forall_mem_cons] at revises writes
      refine .cons (fun later narrowing current current' le same => ?_) (ih revises.2 writes.2)
      exact repairedCall_sim ((site.mono le).child.withNarrowing narrowing) same revises.1 (writes.1.mono le)
  have mono : ∀ before after operation operation', before ≤ after → Sim.SameMade link before operation operation' →
      Sim.SameMade link after operation operation' := fun _ _ _ _ le same => same.mono le
  exact .runStages mono (fun _ _ _ same => Sim.SameCode.call same.1) narrowing site.1 checks same stages

theorem revisesData_array {items : List Statement} (all : ∀ item ∈ items, link.RevisesStatement item) (id : EntityId)
    (type : DataType) : link.RevisesData ⟨id, type, .array items⟩ := by
  intro ledger writes
  simp only [Data.mentions, Value.mentions, allMentions_eq_flatMap, Ledger.writes_cons, Ledger.writes_flatMap] at writes
  refine ⟨fun scope scope' scopes => ?_, .nil⟩
  have revised : link.Sim ledger
      ((revisables items).mapM fun item => do return (← item.revise scope.child).1)
      ((revisables (renameAll link.names items)).mapM fun item => do return (← item.revise scope'.child).1)
      link.SameSources := by
    refine .mapM link.SameSource (fun _ _ _ _ le same => same.mono le) ((sameRevisables all writes.2).imp
      fun item item' same later le => ?_)
    refine .bind (same.revise later _ _ le (scopes.child.mono le)) fun _ _ _ _ revised => ?_
    exact .pure revised.statement
  refine .bind revised fun later items items' le revised => .pure ?_
  have sources := SameSources.eq_map revised
  refine ⟨by rw [sources.1]; rfl, ?_⟩
  simp only [Data.mentions, Value.mentions, allMentions_eq_flatMap, Ledger.writes_cons, Ledger.writes_flatMap]
  exact ⟨writes.1.mono le, sources.2⟩

theorem revisesData_condition {test whenTrue whenFalse : Statement} (tests : link.RevisesStatement test)
    (trues : link.RevisesStatement whenTrue) (falses : link.RevisesStatement whenFalse) (id : EntityId) (type : DataType) :
    link.RevisesData ⟨id, type, .condition test whenTrue whenFalse⟩ := by
  intro ledger writes
  simp only [Data.mentions, Value.mentions, Ledger.writes_cons, Ledger.writes_append] at writes
  obtain ⟨own, ⟨first, second⟩, third⟩ := writes
  refine ⟨fun scope scope' scopes => ?_, .nil⟩
  refine .bind (.reviseCondition scopes (sameRevisable tests first) (sameRevisable trues second)
    (sameRevisable falses third)) fun later value value' le same => .pure ?_
  exact Sim.SameContent.data same (own.mono le) type

theorem revisesData_operation {parameters body : List Statement}
    (first : ∀ parameter ∈ parameters, link.RevisesStatement parameter)
    (second : ∀ statement ∈ body, link.RevisesStatement statement) (name : Option String) (id : EntityId) (type : DataType) :
    link.RevisesData ⟨id, type, .operation name parameters body⟩ := by
  intro ledger writes
  simp only [Data.mentions, Value.mentions, allMentions_eq_flatMap, Ledger.writes_cons, Ledger.writes_append,
    Ledger.writes_flatMap] at writes
  have parameters_same := sameRevisables first writes.2.1
  refine ⟨fun scope scope' scopes => ?_, parameters_same⟩
  rw [Data.rename, Value.rename, reviseData_operation, reviseData_operation]
  refine .reviseOperation scopes writes.1 name parameters_same fun later inner inner' le scopes => ?_
  refine .bind (.reviseEach scopes (SameRevisables.mono (sameRevisables second writes.2.2) le))
    fun last outcome outcome' _ ended => ?_
  exact .pure ended.1

theorem reviseEntries_sim {entries : List (String × Statement)} (all : ∀ entry ∈ entries, link.RevisesStatement entry.2)
    (writes : ∀ entry ∈ entries, ledger.Writes link entry.2.mentions) (scopes : link.SameSite ledger scope scope') :
    link.Sim ledger
      ((revisableEntries entries).mapM fun (key, entry) => do return (key, (← entry.revise scope.child).1))
      ((revisableEntries (renameEntries link.names entries)).mapM fun (key, entry) => do
        return (key, (← entry.revise scope'.child).1))
      fun later entries entries' => List.Forall₂
        (fun entry entry' => entry'.1 = entry.1 ∧ link.SameSource later entry.2 entry'.2) entries entries' := by
  refine .mapM (fun later (entry entry' : String × Statement) => entry'.1 = entry.1 ∧ link.SameSource later entry.2 entry'.2)
    (fun _ _ _ _ le same => ⟨same.1, same.2.mono le⟩) ?_
  rw [revisableEntries_eq_map, revisableEntries_eq_map, renameEntries_eq_map, List.map_map, List.forall₂_map_left_iff,
    List.forall₂_map_right_iff, List.forall₂_same]
  intro entry member later le
  have same := sameRevisable (all entry member) (writes entry member)
  refine .bind (same.revise later _ _ le (scopes.child.mono le)) fun _ _ _ _ revised => ?_
  exact .pure ⟨rfl, revised.statement⟩

theorem revisesData_record {entries : List (String × Statement)} (all : ∀ entry ∈ entries, link.RevisesStatement entry.2)
    (id : EntityId) (type : DataType) : link.RevisesData ⟨id, type, .record entries⟩ := by
  intro ledger writes
  simp only [Data.mentions, Value.mentions, entryMentions_eq_flatMap, Ledger.writes_cons, Ledger.writes_flatMap] at writes
  refine ⟨fun scope scope' scopes => ?_, .nil⟩
  refine .bind (reviseEntries_sim all writes.2 scopes) fun later entries entries' le revised => .pure ?_
  have sources : entries' = renameEntries link.names entries ∧ ∀ entry ∈ entries, later.Writes link entry.2.mentions := by
    induction revised with
    | nil => exact ⟨rfl, by simp⟩
    | @cons entry entry' _ _ head _ ih =>
      obtain ⟨key, statement⟩ := entry
      obtain ⟨key', statement'⟩ := entry'
      obtain ⟨same, renamed, own⟩ := head
      dsimp only at same renamed
      exact ⟨by rw [same, renamed, ih.1]; rfl, List.forall_mem_cons.mpr ⟨own, ih.2⟩⟩
  refine ⟨by rw [sources.1]; rfl, ?_⟩
  simp only [Data.mentions, Value.mentions, entryMentions_eq_flatMap, Ledger.writes_cons, Ledger.writes_flatMap]
  exact ⟨writes.1.mono le, sources.2⟩

/-- A chain that was brought up to date, with its result. -/
structure SameChain (link : Link) (ledger : Ledger) (outcome outcome' : Data × List Data × Data) : Prop where
  data : link.SameCode ledger outcome.1 outcome'.1
  operations : List.Forall₂ (link.SameCode ledger) outcome.2.1 outcome'.2.1
  result : link.Same ledger outcome.2.2 outcome'.2.2

theorem reviseChain_sim {data : Data} {operations : List Data} (own : link.RevisesData data)
    (all : ∀ operation ∈ operations, link.RevisesData operation) (scopes : link.SameSite ledger scope scope')
    (writes : ledger.Writes link data.mentions)
    (written : ∀ operation ∈ operations, ledger.Writes link operation.mentions) :
    link.Sim ledger (reviseChain data operations scope)
      (reviseChain (data.rename link.names) (renameCalls link.names operations) scope') link.SameChain := by
  refine .bind ((own ledger writes).1 scope scope' scopes) fun first revised revised' le code => ?_
  refine .bind (evaluateNode_sim (scopes.mono le).1 code) fun second initial initial' le' starts => ?_
  have reach := le.trans le'
  have checks := code.1 ▸ scopes.1.checkOf revised
  refine .bind (repairedChain_sim (scopes.mono reach) all (fun operation member => (written operation member).mono reach)
    none checks starts)
    fun third outcome outcome' le'' ended => ?_
  refine .bind (retyped_sim (scopes.mono (reach.trans le'')) ended.2) fun fourth retyped retyped' le3 codes => ?_
  refine .bind (.resolve scope scope' (ended.1.mono le3)) fun last final final' le4 finals => .pure ⟨?_, ?_, finals⟩
  · exact code.mono (le'.trans (le''.trans (le3.trans le4)))
  · exact codes.imp fun _ _ same => same.mono le4

theorem SameCode.eq_map {calls calls' : List Data} (codes : List.Forall₂ (link.SameCode ledger) calls calls') :
    calls' = renameCalls link.names calls ∧ ∀ call ∈ calls, ledger.Writes link call.mentions := by
  induction codes with
  | nil => exact ⟨rfl, by simp⟩
  | cons head _ ih => exact ⟨by rw [head.1, ih.1]; rfl, List.forall_mem_cons.mpr ⟨head.2, ih.2⟩⟩

theorem revisesStatement_chain {id : EntityId} {data : Data} {operations : List Data} (own : link.RevisesData data)
    (all : ∀ operation ∈ operations, link.RevisesData operation) (name : Option String) (isOptional : Bool) :
    link.RevisesStatement ⟨id, data, operations, name, isOptional⟩ := by
  intro ledger scope scope' writes scopes
  simp only [Statement.mentions, callMentions_eq_flatMap, Ledger.writes_cons, Ledger.writes_append, Ledger.writes_flatMap]
    at writes
  obtain ⟨allowed, first, second⟩ := writes
  rw [Statement.rename, reviseStatement_eq, reviseStatement_eq]
  refine .bind (reviseChain_sim own all scopes first second) fun later outcome outcome' le revised => ?_
  obtain ⟨revised_data, calls, result⟩ := outcome
  obtain ⟨revised_data', calls', result'⟩ := outcome'
  obtain ⟨code, codes, results⟩ := revised
  dsimp only at code codes results ⊢
  refine .bind (.record false rfl allowed.1.2 results.1 results.2.1.reference?) fun last _ _ le' synced => .pure ?_
  have renamed := SameCode.eq_map codes
  refine ⟨⟨by rw [renamed.1, code.1]; rfl, ?_⟩, results.mono le', synced⟩
  simp only [Statement.mentions, callMentions_eq_flatMap, Ledger.writes_cons, Ledger.writes_append, Ledger.writes_flatMap]
  exact ⟨allowed.mono (le.trans le'), code.2.mono le', fun call member => (renamed.2 call member).mono le'⟩

theorem revision_steps :
    NodeSteps (fun value => ∀ id type, link.RevisesData ⟨id, type, value⟩) link.RevisesData link.RevisesStatement where
  undefined _ _ _ writes := ⟨fun _ _ _ => .pure ⟨rfl, writes⟩, .nil⟩
  text _ _ _ _ writes := ⟨fun _ _ _ => .pure ⟨rfl, writes⟩, .nil⟩
  number _ _ _ _ writes := ⟨fun _ _ _ => .pure ⟨rfl, writes⟩, .nil⟩
  boolean _ _ _ _ writes := ⟨fun _ _ _ => .pure ⟨rfl, writes⟩, .nil⟩
  error _ _ _ _ writes := ⟨fun _ _ _ => .pure ⟨rfl, writes⟩, .nil⟩
  handle _ _ _ _ _ _ _ writes := ⟨fun _ _ _ => .pure ⟨rfl, writes⟩, .nil⟩
  reference _ _ _ _ _ writes := ⟨fun _ _ scopes => .pure (scopes.rebind ⟨rfl, writes⟩), .nil⟩
  array _ all := revisesData_array all
  record _ all := revisesData_record all
  condition _ _ _ tests trues falses := revisesData_condition tests trues falses
  operation name _ _ first second := revisesData_operation first second name
  data _ type _ all := all _ type
  statement _ _ _ name isOptional own all := revisesStatement_chain own all name isOptional

theorem revisesStatement (statement : Statement) : link.RevisesStatement statement :=
  revision_steps.ofStatement statement

theorem revisesData (data : Data) : link.RevisesData data := revision_steps.ofData data

end Link

end LivePipeline
