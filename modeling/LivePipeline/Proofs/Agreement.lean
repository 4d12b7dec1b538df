import LivePipeline.Proofs.Chains
import LivePipeline.Proofs.Correspondence.Trailing

/-! Bringing a program up to date and evaluating it agree: the results that the one leaves for the
statements are those that the other gives for the program that came out, up to drawn identities. -/

namespace LivePipeline

open Link

/-! ## One call -/

/-- A call that was retyped: it is the same call still. -/
def Data.Retypes (operation retyped : Data) : Prop := retyped.id = operation.id ∧ retyped.value = operation.value

theorem withExecutedType_retypes (operation : Data) (world : World) :
    (withExecutedType operation world).2 = world ∧ operation.Retypes (withExecutedType operation world).1 := by
  rw [withExecutedType, Run.store_bind]
  cases operation.type with
  | operation parameters declared =>
    cases world.store.result? operation.id with
    | none => exact ⟨rfl, rfl, rfl⟩
    | some result =>
      refine ⟨rfl, ?_⟩
      change operation.Retypes (if result.isError then operation else _)
      split
      · exact ⟨rfl, rfl⟩
      · exact ⟨rfl, rfl⟩
  | _ => exact ⟨rfl, rfl, rfl⟩

/-- Typing calls by their results changes nothing else. -/
theorem retyped_retypes (scope : Scope) (operations : List Data) (world : World) :
    (scope.retyped operations world).2 = world
      ∧ List.Forall₂ Data.Retypes operations (scope.retyped operations world).1 := by
  have all : (operations.mapM withExecutedType world).2 = world
      ∧ List.Forall₂ Data.Retypes operations (operations.mapM withExecutedType world).1 := by
    induction operations with
    | nil => exact ⟨rfl, .nil⟩
    | cons operation rest ih =>
      have head := withExecutedType_retypes operation world
      rw [List.mapM_cons]
      change ((rest.mapM withExecutedType (withExecutedType operation world).2).2 = world)
        ∧ List.Forall₂ Data.Retypes (operation :: rest) ((withExecutedType operation world).1
          :: (rest.mapM withExecutedType (withExecutedType operation world).2).1)
      rw [head.1]
      exact ⟨ih.1, .cons head.2 ih.2⟩
  unfold Scope.retyped
  split
  · exact ⟨rfl, List.forall₂_same.mpr fun _ _ => ⟨rfl, rfl⟩⟩
  · exact all

theorem Scope.resolve_eq (scope : Scope) {data : Data} (firm : data.reference? = none) : scope.resolve data = pure data := by
  obtain ⟨id, type, value⟩ := data
  cases value with
  | reference name target => cases firm
  | _ => rfl

namespace Trails

variable {link : Link} {ledger : Ledger} {left right : World} {scope scope' : Scope}

/-- The left run repairs a call before it makes it; the right one makes the repaired call. -/
theorem call (trails : Trails link ledger left right) (hosts : link.Hosts ledger scope scope') {current current' : Data}
    (same : link.Same ledger current current') {operation : Data} (writes : ledger.Writes link operation.mentions)
    {repaired called result : Data} {middle last : World}
    (repairs : repairCall scope current operation (revisableArguments operation) left = (repaired, middle))
    (performs : scope.perform current repaired middle = (result, last)) (modest : Modest link.reserve left last)
    (retypes : repaired.Retypes called) :
    ∃ link' ledger', link.Renews ledger link' ledger' ∧ Trails link' ledger' last (scope'.perform current' called right).2
      ∧ ledger'.Writes link' repaired.mentions ∧ link'.Same ledger' result (scope'.perform current' called right).1 := by
  have arguments := (revisesData operation ledger writes).2
  have repair : link.Sim ledger (repairCall scope current operation (revisableArguments operation)) _ link.SameCode :=
    .repairCall hosts.site same ⟨rfl, writes⟩ arguments
  -- The left run is modest while it repairs, because it is when the call has been made.
  have repairing : Modest link.reserve left middle := by
    obtain ⟨later, le, linked, first, code⟩ := repair left right trails.linked
    rw [repairs] at linked first code
    obtain ⟨_, _, _, second, _⟩ := perform_sim (hosts.site.mono le).1 (same.mono le) code _ _ linked
    rw [performs] at second
    exact (modest.split first second).1
  obtain ⟨later, _, link', le, renews, trails, code⟩ := trails.lead repair (by rw [repairs]; exact repairing)
  rw [repairs] at trails code
  have written := code.2.adopt le renews.code
  have hosts := renews.hosts hosts
  have kept := trails.keeps written
  obtain ⟨callers, calls⟩ := hosts.site.1.caller
  have value : called.value = repaired.value.rename link'.names := by
    rw [retypes.2, ← Data.rename_value, kept]
  have id : called.id = link'.names repaired.id := by
    have ids := congrArg Data.id kept
    rw [Data.rename_id] at ids
    rw [retypes.1, ids]
  have allowed : (ledger.adopt later le).Permits link' (.node repaired.id) := by
    rw [Data.mentions_eta, Ledger.writes_cons] at written
    exact written.1
  have pendings := (evaluatesData calls repaired _ written.covers).2 called value
  have perform : link'.Sim (ledger.adopt later le) (scope.perform current repaired) (scope'.perform current' called)
      fun later result result' => link'.Same later result result' ∧ later.synced repaired.id := by
    rw [Scope.perform, Scope.perform, callers]
    exact .performCall calls hosts.site.1 (renews.same same) ⟨id, value, allowed.1.2⟩ pendings
  obtain ⟨last', le', renews', trails, results⟩ := trails.follow perform
  rw [performs] at trails results
  exact ⟨link', _, renews.trans renews', trails, renews'.writes written, results.1⟩

/-- The calls of a chain, one after the other. By induction on the chain: each call leaves a world
that the right run still trails. -/
theorem calls {operations : List Data} (trails : Trails link ledger left right) (hosts : link.Hosts ledger scope scope')
    (writes : ∀ operation ∈ operations, ledger.Writes link operation.mentions) (narrowing : Option Narrowing)
    {receiver receiver' current current' : Data}
    (checks : ∀ isTypeTest target, scope'.checkOf receiver' isTypeTest target = scope.checkOf receiver isTypeTest target)
    (same : link.Same ledger current current') {final : Data} {made calls : List Data} {last : World}
    (runs : runStages scope narrowing receiver current (repairedStages operations) left = ((final, made), last))
    (modest : Modest link.reserve left last) (retypes : List.Forall₂ Data.Retypes made calls) :
    ∃ link' ledger', link.Renews ledger link' ledger'
      ∧ Trails link' ledger' last (runStages scope' narrowing receiver' current' (stages scope'.caller calls) right).2
      ∧ link'.Same ledger' final (runStages scope' narrowing receiver' current' (stages scope'.caller calls) right).1.1 := by
  induction operations generalizing link ledger left right narrowing receiver receiver' current current' final made calls with
  | nil =>
    cases runs
    cases retypes
    exact ⟨link, ledger, .refl, trails, same⟩
  | cons operation rest ih =>
    rw [List.forall_mem_cons] at writes
    -- What the first stage does, and what the others do behind it.
    obtain ⟨⟨repaired, middle⟩, repairs⟩ : ∃ outcome, repairCall (scope.child.withNarrowing narrowing) current operation
      (revisableArguments operation) left = outcome := ⟨_, rfl⟩
    obtain ⟨⟨result, next⟩, performs⟩ : ∃ outcome,
      (scope.child.withNarrowing narrowing).perform current repaired middle = outcome := ⟨_, rfl⟩
    obtain ⟨⟨⟨final', others⟩, last'⟩, continues⟩ : ∃ outcome,
      runStages scope (scope.checkCall next.store.result? receiver narrowing repaired) result result
        (repairedStages rest) next = outcome := ⟨_, rfl⟩
    have first : (do
        let repaired ← repairCall (scope.child.withNarrowing narrowing) current operation (revisableArguments operation)
        return (repaired, ← (scope.child.withNarrowing narrowing).perform current repaired)) left
        = ((repaired, result), next) :=
      (Run.bind_eq repairs).trans (Run.bind_eq performs)
    have staged : runStages scope narrowing receiver current (repairedStages (operation :: rest)) left
        = ((final', repaired :: others), last') := by
      refine (runStages_cons first _).trans ?_
      rw [continues]
    rw [staged] at runs
    cases runs
    obtain _ | ⟨retypes, others_retype⟩ := retypes
    rename_i called calls
    have stepping : Modest link.reserve left next ∧ Modest link.reserve next last := by
      obtain ⟨later, le, linked, steps, _, results⟩ := repairedCall_sim (hosts.inner narrowing).site same
        (revisesData operation) writes.1 left right trails.linked
      rw [first] at linked steps results
      have behind := repairedChain_sim (hosts.site.mono le) (fun operation _ => revisesData operation)
        (fun operation member => (writes.2 operation member).mono le)
        (scope.checkCall next.store.result? receiver narrowing repaired) (results.checkOf scope scope') results
      obtain ⟨_, _, _, steps', _⟩ := behind next _ linked
      rw [continues] at steps'
      exact modest.split steps steps'
    obtain ⟨link', ledger', renews, trails, written, results⟩ := trails.call (hosts.inner narrowing) same writes.1 repairs performs
      stepping.1 retypes
    have hosts := renews.hosts hosts
    obtain ⟨⟨result', next'⟩, performs'⟩ : ∃ outcome,
      (scope'.child.withNarrowing narrowing).perform current' called right = outcome := ⟨_, rfl⟩
    rw [performs'] at trails results
    dsimp only at trails results
    -- Both runs establish the same by the call.
    have established : scope'.checkCall next'.store.result? receiver' narrowing called
        = scope.checkCall next.store.result? receiver narrowing repaired := by
      rw [Scope.checkCall_congr _ _ _ _ retypes.2, ← Scope.checkCall_congr _ _ _ _ (congrArg Data.value (trails.keeps written))]
      exact checkCall_rename (hosts.site.1.checks trails.linked) checks narrowing repaired
    have staged' : runStages scope' narrowing receiver' current' (stages scope'.caller (called :: calls)) right
        = let behind := runStages scope' (scope.checkCall next.store.result? receiver narrowing repaired) result' result'
            (stages scope'.caller calls) next'
          ((behind.1.1, called :: behind.1.2), behind.2) := by
      rw [← established]
      exact runStages_cons (Run.bind_eq performs') _
    obtain ⟨link'', ledger'', renews', trails, finals⟩ := ih trails hosts
      (fun operation member => renews.writes (writes.2 operation member)) _ (results.checkOf scope scope') results continues
      (renews.reserve ▸ stepping.2) others_retype
    rw [staged']
    exact ⟨link'', ledger'', renews.trans renews', trails, finals⟩

/-- A whole chain: its data is brought up to date by the left run alone, then both evaluate it. -/
theorem chain {data : Data} {operations : List Data} (trails : Trails link ledger left right)
    (hosts : link.Hosts ledger scope scope') (writes : ledger.Writes link data.mentions)
    (written : ∀ operation ∈ operations, ledger.Writes link operation.mentions) {revised result : Data} {calls : List Data}
    {last : World} (revises : reviseChain data operations scope left = ((revised, calls, result), last))
    (modest : Modest link.reserve left last) :
    ∃ link' ledger', link.Renews ledger link' ledger'
      ∧ Trails link' ledger' last (evaluateChain scope'.caller revised calls scope' right).2
      ∧ link'.Same ledger' result (evaluateChain scope'.caller revised calls scope' right).1 := by
  obtain ⟨⟨changed, first⟩, changes⟩ : ∃ outcome, reviseData data scope left = outcome := ⟨_, rfl⟩
  obtain ⟨⟨initial, second⟩, starts⟩ : ∃ outcome, scope.evaluateNode changed first = outcome := ⟨_, rfl⟩
  obtain ⟨⟨⟨final, made⟩, third⟩, runs⟩ : ∃ outcome,
    runChain scope changed initial (repairedStages operations) second = outcome := ⟨_, rfl⟩
  have change := (revisesData data ledger writes).1 scope scope' hosts.site
  -- The left run as a whole, for what its parts leave.
  obtain ⟨firm, later, later', changing, starting, evaluating, running⟩ : final.value.Firm ∧ ∃ later later', Steps link ledger left first
      ∧ Steps link ledger left second ∧ Steps link later first second ∧ Steps link later' second third := by
    obtain ⟨later, le, linked, steps, code⟩ := change left right trails.linked
    rw [changes] at linked steps code
    obtain ⟨later', le', linked, steps', same⟩ := evaluateNode_sim (hosts.site.mono le).1 code first _ linked
    rw [starts] at linked steps' same
    have reach := le.trans le'
    have checks := code.1 ▸ hosts.site.1.checkOf changed
    obtain ⟨_, _, _, steps'', ended⟩ := repairedChain_sim (hosts.site.mono reach) (fun operation _ => revisesData operation)
      (fun operation member => (written operation member).mono reach) none checks same second _ linked
    rw [runChain] at runs
    rw [runs] at steps'' ended
    exact ⟨ended.1.2.1, later, later', steps, steps.trans le steps', steps', steps''⟩
  have retyping := retyped_retypes scope made third
  have outcome : reviseChain data operations scope left = ((changed, (scope.retyped made third).1, final), third) := by
    have typed : scope.retyped made third = ((scope.retyped made third).1, third) := Prod.ext rfl retyping.1
    refine (Run.bind_eq changes).trans ((Run.bind_eq starts).trans ((Run.bind_eq runs).trans ((Run.bind_eq typed).trans ?_)))
    rw [scope.resolve_eq firm.reference?]
    rfl
  rw [outcome] at revises
  cases revises
  obtain ⟨began, ran⟩ := modest.split starting running
  obtain ⟨_, _, link', le, renews, trails, code⟩ := trails.lead change (by rw [changes]; exact (began.split changing evaluating).1)
  rw [changes] at trails code
  dsimp only at trails code
  have written' := code.2.adopt le renews.code
  have hosts' := renews.hosts hosts
  have kept := trails.keeps written'
  obtain ⟨later, le', renews', trails, same⟩ := trails.follow (evaluateNode_sim hosts'.site.1 ⟨kept.symm, written'⟩)
  obtain ⟨⟨initial', second'⟩, starts'⟩ : ∃ outcome, scope'.evaluateNode revised right = outcome := ⟨_, rfl⟩
  rw [starts, starts'] at trails same
  have checks := hosts'.site.1.checkOf revised
  rw [kept] at checks
  have renewed := renews.trans renews'
  obtain ⟨link'', ledger'', renews'', trails, finals⟩ := trails.calls (renewed.hosts hosts)
    (fun operation member => renewed.writes (written operation member)) none checks same runs (renewed.reserve ▸ ran)
    retyping.2
  obtain ⟨⟨⟨final', made'⟩, third'⟩, runs'⟩ : ∃ outcome,
    runStages scope' none revised initial' (stages scope'.caller (scope.retyped made last).1) second' = outcome := ⟨_, rfl⟩
  rw [runs'] at trails finals
  dsimp only at trails finals
  have outcome' : evaluateChain scope'.caller revised (scope.retyped made last).1 scope' right = (final', third') := by
    have firm' : final'.reference? = none := by
      rw [finals.1, Data.rename_reference?, firm.reference?]
      rfl
    refine (Run.bind_eq starts').trans ((Run.bind_eq runs').trans ?_)
    exact congrFun (scope'.resolve_eq firm') third'
  rw [outcome']
  exact ⟨link'', ledger'', renewed.trans renews'', trails, finals⟩

/-- Both runs record what the statement results in. -/
theorem record (trails : Trails link ledger left right) {id : EntityId} (source : ledger.source id) {data data' : Data}
    (same : link.Same ledger data data') :
    Trails link (ledger.sync id) { left with store := left.store.setResult id data }
      { right with store := right.store.setResult id data' } := by
  have linked := trails.linked.record false id same.2.1.reference?
  rw [trails.written id source, ← same.1] at linked
  exact ⟨linked, trails.ahead, trails.written⟩

/-- A statement of the program. The left run rebuilds it, the right one evaluates what came out. -/
theorem statement {statement : Statement} (trails : Trails link ledger left right) (hosts : link.Hosts ledger scope scope')
    (source : ledger.source statement.id) (writes : ledger.Writes link statement.data.mentions)
    (written : ∀ operation ∈ statement.operations, ledger.Writes link operation.mentions) {revised : Statement}
    {result : Data} {last : World} (revises : reviseStatement statement scope left = ((revised, result), last))
    (modest : Modest link.reserve left last) :
    ∃ link' ledger', link.Renews ledger link' ledger' ∧ Trails link' ledger' last (scope'.evaluate revised right).2
      ∧ link'.Same ledger' result (scope'.evaluate revised right).1 := by
  obtain ⟨id, data, operations, name, isOptional⟩ := statement
  obtain ⟨⟨⟨changed, calls, final⟩, middle⟩, chained⟩ : ∃ outcome, reviseChain data operations scope left = outcome := ⟨_, rfl⟩
  rw [reviseStatement_eq] at revises
  cases (Run.bind_eq chained).symm.trans revises
  obtain ⟨link', ledger', renews, trails, same⟩ := trails.chain hosts writes written chained ⟨modest.drawn, modest.fingerprint⟩
  obtain ⟨⟨result', middle'⟩, chained'⟩ : ∃ outcome, evaluateChain scope'.caller changed calls scope' right = outcome :=
    ⟨_, rfl⟩
  rw [chained'] at trails same
  have evaluated : scope'.evaluate ⟨id, changed, calls, name, isOptional⟩ right
      = (result', { middle' with store := middle'.store.setResult id result' }) := by
    rw [Scope.evaluate, evaluateStatement_eq]
    exact Run.bind_eq chained'
  rw [evaluated]
  have synced : link'.Renews ledger' link' (ledger'.sync id) :=
    ⟨rfl, rfl, rfl, Nat.le_refl _, fun known => known, fun known => known, fun _ _ => rfl⟩
  exact ⟨link', ledger'.sync id, renews.trans synced, trails.record (renews.source source) same, synced.same same⟩

end Trails

/-! ## Statements in order -/

/-- Evaluates statements in order and declares those with a name; errors do not stop it. Gives what
each of them results in. -/
def Scope.outcomes (scope : Scope) : List Statement → Run (List Data)
  | [] => return []
  | statement :: rest => do
    let result ← scope.evaluate statement
    return result :: (← (scope.publish statement.name statement.id result).outcomes rest)

/-- Declares what statements result in. -/
def Scope.publishAll (scope : Scope) : List Statement → List Data → Scope
  | statement :: rest, result :: results => (scope.publish statement.name statement.id result).publishAll rest results
  | _, _ => scope

/-- What a rebuilt statement keeps, and where results are recorded meanwhile. -/
structure Rebuilt (code : EntityId → Prop) (before after : World) (statement revised : Statement) (result : Data) : Prop where
  id : revised.id = statement.id
  name : revised.name = statement.name
  own : after.store.result? statement.id = some result
  others : ∀ other, ¬ code other → other ≠ statement.id → after.store.result? other = before.store.result? other

theorem Linked.rebuilt {link : Link} {ledger : Ledger} {left right : World} (linked : Linked link ledger left right)
    {scope scope' : Scope} (site : link.SameSite ledger scope scope') {statement : Statement}
    (writes : ledger.Writes link statement.data.mentions)
    (written : ∀ operation ∈ statement.operations, ledger.Writes link operation.mentions) {revised : Statement}
    {result : Data} {last : World} (revises : reviseStatement statement scope left = ((revised, result), last)) :
    Rebuilt link.code left last statement revised result := by
  obtain ⟨id, data, operations, name, isOptional⟩ := statement
  obtain ⟨⟨⟨changed, calls, final⟩, middle⟩, chained⟩ : ∃ outcome, reviseChain data operations scope left = outcome := ⟨_, rfl⟩
  rw [reviseStatement_eq] at revises
  cases (Run.bind_eq chained).symm.trans revises
  obtain ⟨_, _, _, steps, _⟩ := reviseChain_sim (revisesData data) (fun operation _ => revisesData operation) site writes
    written left right linked
  rw [chained] at steps
  refine ⟨rfl, rfl, ?_, fun other foreign differs => ?_⟩
  · exact (middle.store.result?_record false id id result).trans (if_pos rfl)
  · exact ((middle.store.result?_record false id other result).trans (if_neg differs)).trans (steps.result other foreign)

/-- A statement of the program itself: nothing in the code records a result for it. -/
structure Link.Stands (link : Link) (ledger : Ledger) (statement : Statement) : Prop where
  source : ledger.source statement.id
  apart : ¬ link.code statement.id
  data : ledger.Writes link statement.data.mentions
  operations : ∀ operation ∈ statement.operations, ledger.Writes link operation.mentions

theorem Link.Stands.renew {link link' : Link} {ledger ledger' : Ledger} {statement : Statement}
    (stands : link.Stands ledger statement) (renews : link.Renews ledger link' ledger') : link'.Stands ledger' statement where
  source := renews.source stands.source
  apart := renews.code ▸ stands.apart
  data := renews.writes stands.data
  operations operation member := renews.writes (stands.operations operation member)

theorem Link.Stands.relaxed {link : Link} {ledger : Ledger} {statement : Statement} (stands : link.Stands ledger statement) :
    ledger.Writes link.relaxed statement.mentions := by
  rw [Statement.mentions_eta, Ledger.writes_cons, Ledger.writes_append, Ledger.writes_flatMap]
  exact ⟨⟨⟨ledger.source_below stands.source, trivial⟩, stands.source⟩, writes_relaxed stands.data,
    fun operation member => writes_relaxed (stands.operations operation member)⟩

/-- The left run as a whole: what it does behind the first statement takes nothing back. -/
theorem Linked.reviseEach_split {link : Link} {ledger : Ledger} {left right : World} (linked : Linked link ledger left right)
    {scope scope' : Scope} (hosts : link.Hosts ledger scope scope') {statement revised : Statement} {rest : List Statement}
    (stands : link.Stands ledger statement) (stand : ∀ other ∈ rest, link.Stands ledger other) {result : Data}
    {middle last : World} {outcome : List Statement × Scope}
    (revises : reviseStatement statement scope left = ((revised, result), middle))
    (continues : reviseEach (revisables rest) (scope.publish revised.name revised.id result) middle = (outcome, last))
    {reserve : Nat} (modest : Modest reserve left last) : Modest reserve left middle ∧ Modest reserve middle last := by
  have relaxed := hosts.relaxed
  obtain ⟨later, le, linked, steps, same⟩ := revisesStatement statement ledger scope scope' stands.relaxed relaxed.site
    left right linked.relaxed
  rw [revises] at linked steps same
  have source : later.source revised.id := same.statement.permits.2
  have published := (relaxed.site.mono le).publish revised.name source same.result
  have others : link.relaxed.SameRevisables later (revisables rest) (revisables (renameAll link.relaxed.names rest)) :=
    sameRevisables (fun other _ => revisesStatement other) fun other member => (stand other member).relaxed.mono le
  obtain ⟨_, _, _, steps', _⟩ := Sim.reviseEach published others middle _ linked
  rw [continues] at steps'
  exact modest.split steps steps'

/-- A whole program. By induction on the statements: each sees the same variables in both runs. -/
theorem Trails.outcomes {statements : List Statement} {link : Link} {ledger : Ledger} {left right : World}
    {scope scope' : Scope} (trails : Trails link ledger left right) (hosts : link.Hosts ledger scope scope')
    (stand : ∀ statement ∈ statements, link.Stands ledger statement) (distinct : (statements.map Statement.id).Nodup)
    {revised : List Statement} {final : Scope} {last : World}
    (revises : reviseEach (revisables statements) scope left = ((revised, final), last))
    (modest : Modest link.reserve left last) :
    (∃ link' ledger', link.Renews ledger link' ledger' ∧ Trails link' ledger' last (scope'.outcomes revised right).2
      ∧ List.Forall₂ (fun statement result => ∃ data, last.store.result? statement.id = some data
        ∧ link'.Same ledger' data result) revised (scope'.outcomes revised right).1)
      ∧ (∃ results, final = scope.publishAll revised results
        ∧ List.Forall₂ (fun statement result => last.store.result? statement.id = some result) revised results)
      ∧ revised.map Statement.id = statements.map Statement.id
      ∧ ∀ other, ¬ link.code other → other ∉ statements.map Statement.id →
        last.store.result? other = left.store.result? other := by
  induction statements generalizing link ledger left right scope scope' revised with
  | nil =>
    cases revises
    exact ⟨⟨link, ledger, .refl, trails, .nil⟩, ⟨[], rfl, .nil⟩, rfl, fun _ _ _ => rfl⟩
  | cons statement rest ih =>
    rw [List.forall_mem_cons] at stand
    rw [List.map_cons, List.nodup_cons] at distinct
    obtain ⟨⟨⟨rebuilt, result⟩, middle⟩, rebuilds⟩ : ∃ outcome, reviseStatement statement scope left = outcome := ⟨_, rfl⟩
    obtain ⟨⟨⟨others, final'⟩, last'⟩, continues⟩ : ∃ outcome,
      reviseEach (revisables rest) (scope.publish rebuilt.name rebuilt.id result) middle = outcome := ⟨_, rfl⟩
    have outcome : reviseEach (revisables (statement :: rest)) scope left = ((rebuilt :: others, final'), last') :=
      (Run.bind_eq rebuilds).trans (Run.bind_eq continues)
    rw [outcome] at revises
    cases revises
    have stepping := trails.linked.reviseEach_split hosts stand.1 stand.2 rebuilds continues modest
    have kept := trails.linked.rebuilt hosts.site stand.1.data stand.1.operations rebuilds
    obtain ⟨link', ledger', renews, trails, same⟩ := trails.statement hosts stand.1.source stand.1.data stand.1.operations
      rebuilds stepping.1
    obtain ⟨⟨result', middle'⟩, evaluates⟩ : ∃ outcome, scope'.evaluate rebuilt right = outcome := ⟨_, rfl⟩
    rw [evaluates] at trails same
    have source : ledger'.source rebuilt.id := by
      rw [kept.id]
      exact renews.source stand.1.source
    have published := (renews.hosts hosts).publish rebuilt.name source same
    rw [trails.written _ source] at published
    obtain ⟨⟨link'', ledger'', renews', trails, all⟩, ⟨results, behind, stored⟩, ids, frame⟩ := ih trails published
      (fun other member => (stand.2 other member).renew renews) distinct.2 continues (renews.reserve ▸ stepping.2)
    have outcomes : scope'.outcomes (rebuilt :: others) right
        = let behind := (scope'.publish rebuilt.name rebuilt.id result').outcomes others middle'
          (result' :: behind.1, behind.2) := Run.bind_eq evaluates
    have own : last.store.result? rebuilt.id = some result := by
      rw [kept.id, frame statement.id (renews.code ▸ stand.1.apart) distinct.1, kept.own]
    rw [outcomes]
    refine ⟨⟨link'', ledger'', renews.trans renews', trails, .cons ⟨result, own, renews'.same same⟩ all⟩,
      ⟨result :: results, behind, .cons own stored⟩, ?_, fun other foreign absent => ?_⟩
    · rw [List.map_cons, List.map_cons, kept.id, ids]
    · rw [List.map_cons, List.mem_cons, not_or] at absent
      rw [frame other (renews.code ▸ foreign) absent.2, kept.others other foreign absent.1]

/-! ## What a program stands on -/

/-- Data that is no reference and mentions known things only. -/
def Data.Rests (known : Mention → Prop) (data : Data) : Prop :=
  data.value.Firm ∧ ∀ mention ∈ data.mentions, known mention

/-- What a program, its variables and the store mention is known. Identities are told apart: those to
be drawn are new, no statement of the program is a node elsewhere, and the handles of one object
agree on what it is made from. -/
structure Grounds (known : Mention → Prop) (statements : List Statement) (scope : Scope) (world : World) : Prop where
  below : ∀ mention, known mention → mention.id.Below world.nextId
  agree : ∀ {id className text className' text'}, known (.object id className text) →
    known (.object id className' text') → className = className' ∧ text = text'
  unused : ∀ number, world.nextId ≤ number → world.store.instance? (.drawn number) = none
  own : ∀ statement ∈ statements, known (.target statement.id)
  distinct : (statements.map Statement.id).Nodup
  apart : ∀ id, known (.node id) → id ∉ statements.map Statement.id
  data : ∀ statement ∈ statements, ∀ mention ∈ statement.data.mentions, known mention
  operations : ∀ statement ∈ statements, ∀ operation ∈ statement.operations, ∀ mention ∈ operation.mentions, known mention
  bindings : ∀ entry ∈ scope.bindings, known (.target entry.2.id) ∧ entry.2.data.Rests known
  extensions : ∀ extension ∈ scope.extensions, extension.Faithful fun id => id ∉ statements.map Statement.id
  fingerprints : ∀ key data, world.store.fingerprint? key = some data → data.Rests known
  promises : ∀ id className text value, known (.object id className text) →
    world.store.instance? id = some (.promise (.resolved value)) → value.Rests known
  results : ∀ id data, world.store.result? id = some data → data.reference? = none

/-- Another world with the same objects and fingerprints, whose results are no references. -/
structure World.Resembles (world other : World) : Prop where
  instances : ∀ id, other.store.instance? id = world.store.instance? id
  fingerprints : ∀ key, other.store.fingerprint? key = world.store.fingerprint? key
  results : ∀ id data, other.store.result? id = some data → data.reference? = none

namespace Grounds

variable {known : Mention → Prop} {statements : List Statement} {scope : Scope} {world other : World}

def ledger (grounds : Grounds known statements scope world) : Ledger where
  bound := world.nextId
  object id className text := known (.object id className text)
  object_below knows := grounds.below _ knows
  object_unique := grounds.agree
  source := EntityId.Below world.nextId
  source_below below := below
  synced _ := False

/-- What is drawn from now on is numbered from `next` on in the other world. -/
def link (grounds : Grounds known statements scope world) (reserve : Nat) {next : Nat} (ahead : world.nextId ≤ next) :
    Link where
  numbers number := if number < world.nextId then number else next + (number - world.nextId)
  injective := by
    intro first second same
    dsimp only at same
    split at same <;> split at same <;> omega
  start := world.nextId
  reserve := reserve
  code id := id ∉ statements.map Statement.id
  code_drawn := by
    intro number drawn member
    obtain ⟨statement, among, same⟩ := List.mem_map.mp member
    have := grounds.below _ (grounds.own statement among) number same
    omega

variable (grounds : Grounds known statements scope world) {reserve next : Nat} {ahead : world.nextId ≤ next}

theorem names_eq_self {id : EntityId} (below : id.Below world.nextId) : (grounds.link reserve ahead).names id = id :=
  EntityId.renumber_eq_self fun number drew => if_pos (below number drew)

theorem rename_eq_self {data : Data} (rests : data.Rests known) : data.rename (grounds.link reserve ahead).names = data :=
  Data.rename_eq_self fun mention member => grounds.names_eq_self (grounds.below mention (rests.2 mention member))

theorem permits {mention : Mention} (knows : known mention) :
    grounds.ledger.Permits (grounds.link reserve ahead) mention := by
  refine ⟨?_, grounds.below mention knows⟩
  cases mention with
  | node id => exact ⟨grounds.below _ knows, grounds.apart id knows⟩
  | target id => exact grounds.below _ knows
  | object id className text => exact knows

theorem settles {data : Data} (rests : data.Rests known) : grounds.ledger.Settles (grounds.link reserve ahead) data :=
  ⟨rests.1, fun mention member => (grounds.permits (rests.2 mention member)).1⟩

theorem stands {statement : Statement} (member : statement ∈ statements) :
    (grounds.link reserve ahead).Stands grounds.ledger statement where
  source := grounds.below _ (grounds.own statement member)
  apart absent := absent (List.mem_map_of_mem member)
  data mention among := grounds.permits (grounds.data statement member mention among)
  operations operation called mention among :=
    grounds.permits (grounds.operations statement member operation called mention among)

/-- The object behind a known handle, in either world. -/
theorem external {id : EntityId} {className : String} {text : Option String} (knows : known (.object id className text))
    {external : External} (found : world.store.external? id className text = some external) :
    external.rename (grounds.link reserve ahead).names = external
      ∧ external.Settled (grounds.link reserve ahead) grounds.ledger := by
  have promises : ∀ value, world.store.instance? id = some (.promise (.resolved value)) →
      value.rename (grounds.link reserve ahead).names = value.rename (fun id => id)
        ∧ grounds.ledger.Settles (grounds.link reserve ahead) value := by
    intro value stored
    have rests := grounds.promises id className text value knows stored
    exact ⟨(grounds.rename_eq_self rests).trans value.rename_self.symm, grounds.settles rests⟩
  have settled := Store.external?_settled found promises
  rwa [External.rename_self] at settled

theorem trails (resembles : world.Resembles other) (ahead : world.nextId ≤ other.nextId) (reserved : reserve ≤ other.nextId) :
    Trails (grounds.link reserve ahead) grounds.ledger world other where
  linked :=
    { bound := rfl
      start := Nat.le_refl _
      future := by
        intro ahead
        refine (if_neg (by omega)).trans ?_
        omega
      apart := by
        intro number other free reserved
        dsimp only [link] at reserved ⊢
        split <;> omega
      unused_left := grounds.unused
      unused_right := fun number free => (resembles.instances _).trans (grounds.unused number (by omega))
      external := by
        intro id className text knows
        have same : other.store.external? id className text = world.store.external? id className text := by
          rw [Store.external?, Store.external?, resembles.instances]
        have kept : (grounds.link reserve ahead).names id = id := grounds.names_eq_self (grounds.below _ knows)
        rw [kept, same]
        cases found : world.store.external? id className text with
        | none => rfl
        | some external => exact congrArg some (grounds.external knows found).1.symm
      external_settled := fun id className text external knows found => (grounds.external knows found).2
      crafted := fun id className text knows _ late => absurd (grounds.below _ knows) late
      fingerprint := by
        intro key
        rw [resembles.fingerprints]
        cases found : world.store.fingerprint? key with
        | none => rfl
        | some data => exact congrArg some (grounds.rename_eq_self (grounds.fingerprints key data found)).symm
      fingerprint_settled := fun key data found => grounds.settles (grounds.fingerprints key data found)
      firm_left := grounds.results
      firm_right := resembles.results
      synced := fun _ known => known.elim }
  ahead := reserved
  written _ below := grounds.names_eq_self below

theorem hosts (live : scope.skip = none) (reserve : Nat) (ahead : world.nextId ≤ next) :
    (grounds.link reserve ahead).Hosts grounds.ledger scope.child scope.child := by
  refine Hosts.of_kept live (fun entry member => ?_) grounds.extensions
  have known := grounds.bindings entry member
  have below := grounds.below _ known.1
  exact ⟨below, grounds.names_eq_self below, grounds.settles known.2, grounds.rename_eq_self known.2⟩

end Grounds

/-! ## Agreement -/

/-- What is asked of a statement as a whole and what is narrowed already do not matter to checks. -/
theorem Scope.checks_child (scope : Scope) (results : EntityId → Option Data) :
    SameChecks id scope scope.child results results where
  data data isTypeTest target := by
    rw [data.rename_eq_self fun _ _ => rfl]
    rfl
  stored _ _ _ := rfl

theorem runStages_child (scope : Scope) (narrowing : Option Narrowing) (receiver current : Data) (stages : List Stage) :
    runStages scope.child narrowing receiver current stages = runStages scope narrowing receiver current stages := by
  have checked : ∀ results receiver current operation,
      scope.child.checkCall results receiver current operation = scope.checkCall results receiver current operation := by
    intro results receiver current operation
    have same : scope.child.checkCall results receiver current (operation.rename id)
        = scope.checkCall results receiver current operation :=
      checkCall_rename (scope.checks_child results) (fun _ _ => rfl) current operation
    rw [operation.rename_eq_self fun _ _ => rfl] at same
    exact same
  induction stages generalizing narrowing receiver current with
  | nil => rfl
  | cons stage rest ih =>
    simp only [runStages, checked, ih]
    rfl

theorem Scope.checkStatement_child (scope : Scope) (store : Store) (statement : Statement) :
    scope.child.checkStatement store statement = scope.checkStatement store statement := by
  have same : checkChain scope.child store.result? statement.data none (statement.operations.map (Data.rename id))
      = checkChain scope store.result? statement.data none statement.operations :=
    checkChain_rename (scope.checks_child store.result?) (fun _ _ => rfl) none statement.operations
  rw [List.map_congr_left fun operation _ => operation.rename_eq_self fun _ _ => rfl, List.map_id'] at same
  exact same

theorem evaluateData_child (caller : Caller) (data : Data) (scope : Scope) :
    evaluateData caller data scope.child = evaluateData caller data scope := by
  obtain ⟨own, type, value⟩ := data
  cases value with
  | condition test whenTrue whenFalse =>
    simp only [evaluateData, evaluateCondition, scope.checkStatement_child]
    rfl
  | _ => rfl

theorem evaluateStatement_child (caller : Caller) (statement : Statement) (scope : Scope) :
    evaluateStatement caller statement scope.child = evaluateStatement caller statement scope := by
  obtain ⟨id, data, operations, name, isOptional⟩ := statement
  simp only [evaluateStatement_eq, evaluateChain, runChain, runStages_child, evaluateData_child]
  rfl

theorem Scope.outcomes_child (scope : Scope) (statements : List Statement) :
    scope.child.outcomes statements = scope.outcomes statements := by
  induction statements generalizing scope with
  | nil => rfl
  | cons statement rest ih =>
    have published : ∀ result, (scope.child.publish statement.name statement.id result).outcomes rest
        = (scope.publish statement.name statement.id result).outcomes rest := by
      intro result
      rw [← ih (scope.publish statement.name statement.id result)]
      cases statement.name <;> rfl
    have evaluated : scope.child.evaluate statement = scope.evaluate statement :=
      evaluateStatement_child scope.caller statement scope
    simp only [outcomes, evaluated, published]

/-- What a run may have done to a world: nothing was taken back, and what is yet to be drawn is new. -/
structure World.Grows (before after : World) : Prop where
  drawn : before.nextId ≤ after.nextId
  fingerprints : ∀ key data, before.store.fingerprint? key = some data → after.store.fingerprint? key = some data
  unused : ∀ number, after.nextId ≤ number → after.store.instance? (.drawn number) = none
  results : ∀ id data, after.store.result? id = some data → data.reference? = none

theorem Grounds.grows {known : Mention → Prop} {statements : List Statement} {scope : Scope} {world : World}
    (grounds : Grounds known statements scope world) (live : scope.skip = none) :
    world.Grows (reviseEach (revisables statements) scope.child world).2 := by
  have itself : world.Resembles world := ⟨fun _ => rfl, fun _ => rfl, grounds.results⟩
  have linked := (grounds.trails itself (Nat.le_refl _) (Nat.zero_le _)).linked.relaxed
  have hosts := (grounds.hosts live 0 (Nat.le_refl _)).relaxed
  have revised := Sim.reviseEach hosts.site (sameRevisables (fun statement _ => revisesStatement statement)
    fun statement member => (grounds.stands member).relaxed)
  obtain ⟨_, _, linked, steps, _⟩ := revised world world linked
  exact ⟨steps.drawn, steps.fingerprint, linked.unused_left, linked.firm_left⟩

/-- Revision and evaluation agree. A program is brought up to date in a world, which adds no
fingerprint to it. Then the results that this leaves for the statements are what evaluating the new
statements in order gives in another world like the first, up to drawn identities. -/
theorem revise_agrees_with_outcomes {known : Mention → Prop} {statements revised : List Statement} {scope : Scope}
    {world after other : World} (grounds : Grounds known statements scope world) (live : scope.isSkipping = false)
    (revises : scope.revise statements none world = (revised, after))
    (quiet : ∀ key data, after.store.fingerprint? key = some data → world.store.fingerprint? key = some data)
    (resembles : world.Resembles other) (beyond : after.nextId ≤ other.nextId) :
    ∃ numbers : Nat → Nat, Function.Injective numbers ∧ (∀ number, number < world.nextId → numbers number = number)
      ∧ List.Forall₂ (fun statement result => (after.store.result? statement.id).map
          (Data.rename (EntityId.renumber numbers)) = some result) revised (scope.outcomes revised other).1 := by
  have live : scope.skip = none := by simpa [Scope.isSkipping] using live
  have ahead := (grounds.grows live).drawn
  obtain ⟨⟨⟨rebuilt, final⟩, last⟩, runs⟩ : ∃ outcome, reviseEach (revisables statements) scope.child world = outcome := ⟨_, rfl⟩
  have begins : scope.child.carry [] world = (scope.child, world) := rfl
  have outcome : scope.revise statements none world = (rebuilt, last) := (Run.bind_eq begins).trans (Run.bind_eq runs)
  rw [outcome] at revises
  cases revises
  rw [runs] at ahead
  have trails := grounds.trails resembles (Nat.le_trans ahead beyond) beyond
  have hosts := grounds.hosts live after.nextId (Nat.le_trans ahead beyond)
  obtain ⟨⟨link, ledger, renews, _, all⟩, _⟩ := trails.outcomes hosts (fun statement member => grounds.stands member)
    grounds.distinct runs ⟨Nat.le_refl _, quiet⟩
  refine ⟨link.numbers, link.injective, fun number less => (renews.numbers number less).trans (if_pos less), ?_⟩
  rw [← scope.outcomes_child]
  refine all.imp fun statement result related => ?_
  obtain ⟨data, found, same⟩ := related
  rw [found]
  exact congrArg some same.1.symm

/-- What the statements of a program are and consist of. -/
def programMentions (statements : List Statement) : List Mention :=
  statements.flatMap fun statement =>
    .target statement.id :: (statement.data.mentions ++ statement.operations.flatMap Data.mentions)

/-- A program without handles and without drawn identities, in a world in which no object was made and no
fingerprint is known, stands on itself. -/
theorem Grounds.of_plain {statements : List Statement} {scope : Scope} {world : World} (bindings : scope.bindings = [])
    (extensions : scope.extensions = []) (instances : world.store.instances = []) (fingerprints : world.store.fingerprints = [])
    (results : ∀ id data, world.store.result? id = some data → data.reference? = none)
    (plain : ∀ mention ∈ programMentions statements, mention.id.number? = none ∧ mention.isObject = false)
    (distinct : (statements.map Statement.id).Nodup)
    (apart : ∀ statement ∈ statements, .node statement.id ∉ programMentions statements) :
    Grounds (· ∈ programMentions statements) statements scope world where
  below mention knows number drew := by
    cases (plain mention knows).1.symm.trans (EntityId.number?_eq_some.mpr drew)
  agree knows _ := by cases (plain _ knows).2
  unused number _ := by
    rw [Store.instance?, instances]
    rfl
  own statement among := List.mem_flatMap.mpr ⟨statement, among, List.mem_cons_self⟩
  distinct := distinct
  apart id knows among := by
    obtain ⟨statement, member, rfl⟩ := List.mem_map.mp among
    exact apart statement member knows
  data statement among mention within :=
    List.mem_flatMap.mpr ⟨statement, among, List.mem_cons_of_mem _ (List.mem_append_left _ within)⟩
  operations statement among operation called mention within := by
    refine List.mem_flatMap.mpr ⟨statement, among, List.mem_cons_of_mem _ (List.mem_append_right _ ?_)⟩
    exact List.mem_flatMap.mpr ⟨operation, called, within⟩
  bindings entry among := by
    rw [bindings] at among
    cases among
  extensions extension among := by
    rw [extensions] at among
    cases among
  fingerprints key data found := by
    rw [Store.fingerprint?, fingerprints] at found
    cases found
  promises id className text value knows _ := by cases (plain _ knows).2
  results := results

/-- A call whose only argument is missing, in a world in which nothing was done yet. -/
theorem revise_agrees_with_repaired_outcome :
    let statement : Statement :=
      ⟨"greeting", ⟨"hello", .string, .text "a"⟩, [⟨"append", .unknown, .operation (some "concat") [] []⟩], none, false⟩
    let scope : Scope := {}
    let updated := scope.revise [statement] none {}
    Grounds (· ∈ programMentions [statement]) [statement] scope {} ∧ updated.1.map (·.operations.length) = [1]
      ∧ ∃ numbers : Nat → Nat, Function.Injective numbers
        ∧ List.Forall₂ (fun revised result => (updated.2.store.result? revised.id).map
          (Data.rename (EntityId.renumber numbers)) = some result) updated.1 (scope.outcomes updated.1 { nextId := 9 }).1 := by
  intro statement scope updated
  have grounds : Grounds (· ∈ programMentions [statement]) [statement] scope {} :=
    .of_plain rfl rfl rfl rfl (fun id data found => by cases found) (by decide +kernel) (by decide +kernel) (by decide +kernel)
  have none : updated.2.store.fingerprints.isEmpty := by decide +kernel
  have drawn : updated.2.nextId ≤ 9 := by decide +kernel
  have quiet : ∀ key data, updated.2.store.fingerprint? key = some data → Store.fingerprint? {} key = some data := by
    intro key data found
    rw [Store.fingerprint?, List.isEmpty_iff.mp none] at found
    exact found
  have resembles : World.Resembles {} { nextId := 9 } :=
    ⟨fun _ => rfl, fun _ => rfl, fun id data found => by cases found⟩
  obtain ⟨numbers, injective, _, all⟩ :=
    revise_agrees_with_outcomes grounds rfl (Prod.eta updated).symm quiet resembles drawn
  exact ⟨grounds, by decide +kernel, numbers, injective, all⟩

/-- Without the condition on fingerprints they need not agree. The argument of the first call is evaluated
before it is replaced, and its request for `<Http>` is kept; the second call is made on a client, which
looks the same as plain data, and gets the kept response. Evaluating the new statements makes no
request, and the second call fails. -/
theorem shared_fingerprint_disagrees :
    let client (id key : String) (type : DataType) : Data := ⟨id, type, .handle "Http" [] key⟩
    let get (id : String) (argument : Statement) : Data := ⟨id, .unknown, .operation (some "get") [argument] []⟩
    let http := Operation.httpType
    let address : Statement := ⟨"address", ⟨"url", .string, .text "<Http>"⟩, [], none, false⟩
    let page : Statement := ⟨"page", client "first" "one" http, [get "load" address], none, false⟩
    let greeting : Statement :=
      ⟨"greeting", ⟨"hello", .string, .text "a"⟩, [⟨"append", .unknown, .operation (some "concat") [page] []⟩], none, false⟩
    let other : Statement := ⟨"other", client "third" "three" .unknown, [], none, false⟩
    let confused : Statement := ⟨"confused", client "second" "two" http, [get "reload" other], none, false⟩
    let scope : Scope := { transport := some fun _ => .ok ⟨200, "x"⟩ }
    let updated := scope.revise [greeting, confused] none {}
    let results := (scope.outcomes updated.1 { nextId := updated.2.nextId }).1
    (updated.2.store.result? "confused").map Data.isError = some false ∧ results.map Data.isError = [false, true] := by
  dsimp only
  decide +kernel

end LivePipeline
