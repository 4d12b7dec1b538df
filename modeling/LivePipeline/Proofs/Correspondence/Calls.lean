import Mathlib.Data.List.Find
import LivePipeline.Proofs.Chains
import LivePipeline.Proofs.Correspondence.Builtins
import LivePipeline.Proofs.Correspondence.Defaults

/-! Calls on both sides of a link: a call finds corresponding operations, its arguments are evaluated
in lockstep, and its result is recorded for both. -/

namespace LivePipeline

open Link

/-! ## Finding operations -/

/-- Something that a call can name, on both sides. -/
inductive Link.SameCallable (link : Link) (ledger : Ledger) : Callable → Callable → Prop
  | builtin {builtin : Builtin} (natural : builtin.Natural) : SameCallable link ledger (.builtin builtin) (.builtin builtin)
  | extension {extension : Extension} (settled : extension.Settled link ledger) :
    SameCallable link ledger (.extension extension) (.extension extension)
  | userDefined (name : String) {operation operation' : Data} (same : link.Same ledger operation operation') :
    SameCallable link ledger (.userDefined name operation) (.userDefined name operation')

namespace Link.SameCallable

variable {link : Link} {ledger : Ledger} {callable callable' : Callable}

theorem mono {later : Ledger} (same : link.SameCallable ledger callable callable') (le : ledger ≤ later) :
    link.SameCallable later callable callable' := by
  cases same with
  | builtin natural => exact .builtin natural
  | extension settled => exact .extension (settled.mono le)
  | userDefined name same => exact .userDefined name (same.mono le)

theorem name (same : link.SameCallable ledger callable callable') : callable'.name = callable.name := by
  cases same <;> rfl

theorem isLazy (same : link.SameCallable ledger callable callable') : callable'.isLazy = callable.isLazy := by
  cases same <;> rfl

theorem parameters (same : link.SameCallable ledger callable callable') {data data' : Data}
    (typed : data'.type = data.type) : callable'.parameters data' = callable.parameters data := by
  cases same with
  | builtin natural => exact natural.parameters data data' typed
  | extension _ => rfl
  | userDefined name same => simp only [Callable.parameters, same.type]

theorem expected (same : link.SameCallable ledger callable callable') {data data' : Data}
    (typed : data'.type = data.type) : callable'.expected data' = callable.expected data := by
  rw [Callable.expected, Callable.expected, same.parameters typed]

theorem resultType (same : link.SameCallable ledger callable callable') {data data' : Data}
    (typed : data'.type = data.type) (arguments : List DataType) :
    callable'.resultType data' arguments = callable.resultType data arguments := by
  cases same with
  | builtin natural => exact congrFun (natural.result data data' typed) arguments
  | extension _ => rfl
  | userDefined name same => simp only [Callable.resultType, same.type]

end Link.SameCallable

theorem Link.SameScope.userOperations {link : Link} {ledger : Ledger} {scope scope' : Scope}
    (scopes : link.SameScope ledger scope scope') :
    List.Forall₂ (link.SameCallable ledger) scope.userOperations scope'.userOperations := by
  obtain ⟨rfl, settled⟩ := scopes
  simp only [Scope.userOperations, Scope.rename, Table.mapValues, ← List.map_reverse]
  have all : ∀ entry ∈ scope.bindings.reverse, ledger.Settles link entry.2.data := fun entry member =>
    (settled.bindings entry (List.mem_reverse.mp member)).2
  revert all
  induction scope.bindings.reverse with
  | nil => exact fun _ => .nil
  | cons entry rest ih =>
    intro all
    rw [List.forall_mem_cons] at all
    simp only [List.map_cons, List.filterMap_cons, Variable.rename, Data.rename_type]
    cases entry.2.data.type.dereference with
    | operation parameters result => exact .cons (.userDefined _ ⟨rfl, all.1⟩) (ih all.2)
    | _ => exact ih all.2

theorem Link.SameScope.callables {link : Link} {ledger : Ledger} {scope scope' : Scope}
    (scopes : link.SameScope ledger scope scope') :
    List.Forall₂ (link.SameCallable ledger) scope.callables scope'.callables := by
  have extensions : List.Forall₂ (link.SameCallable ledger) (scope.extensions.map .extension)
      (scope'.extensions.map .extension) := by
    rw [scopes.1, Scope.rename_extensions, List.forall₂_map_left_iff, List.forall₂_map_right_iff, List.forall₂_same]
    exact fun extension member => .extension (scopes.2.extensions extension member)
  have natural : List.Forall₂ (link.SameCallable ledger) (builtins.map .builtin) (builtins.map .builtin) := by
    rw [List.forall₂_map_left_iff, List.forall₂_map_right_iff, List.forall₂_same]
    exact fun builtin member => .builtin (builtins_natural builtin member)
  exact List.rel_append (List.rel_append scopes.userOperations extensions) natural

theorem Link.SameScope.find? {link : Link} {ledger : Ledger} {scope scope' : Scope}
    (scopes : link.SameScope ledger scope scope') {data data' : Data} (typed : data'.type = data.type) (name : String) :
    Option.Rel (link.SameCallable ledger) (scope.find? data name) (scope'.find? data' name) := by
  refine forall₂_find? (fun callable callable' same => ?_) scopes.callables
  have supported : data'.supports (callable.parameters data) = data.supports (callable.parameters data) := by
    simp only [Data.supports, typed]
  rw [same.name, same.parameters typed, supported]

/-! ## Running operations -/

namespace Link.Sim

variable {link : Link} {ledger : Ledger}

theorem settle {attempt attempt' : Attempt Data} (attempts : link.Attempts ledger attempt attempt' link.Same) :
    link.Sim ledger attempt.settle attempt'.settle link.Same := by
  refine .bind attempts fun later outcome outcome' _ outcomes => ?_
  cases outcome with
  | ok data =>
    cases outcome' with
    | ok data' => exact .pure outcomes
    | error failure' => exact outcomes.elim
  | error failure =>
    cases outcome' with
    | ok data' => exact outcomes.elim
    | error failure' =>
      have message : failure'.message = failure.message := outcomes
      dsimp only
      rw [message]
      exact error _ _

theorem fingerprint_same (builtin : Builtin) {data data' : Data} {arguments arguments' : List Data}
    (receiver : link.Same ledger data data') (given : link.SameList ledger arguments arguments') :
    LivePipeline.fingerprint builtin data' arguments' = LivePipeline.fingerprint builtin data arguments := by
  have shown : (arguments.map (Data.rename link.names)).map Data.plain = arguments.map Data.plain := by
    simp [Function.comp_def]
  rw [LivePipeline.fingerprint, receiver.1, given.1, shown, Data.rename_plain, LivePipeline.fingerprint]

end Link.Sim

theorem runCached_found {key : String} {operationId : EntityId} {run : Run Data} {world : World} {cached : Data}
    (found : world.store.fingerprint? key = some cached) :
    runCached key operationId run world
      = (cached, { world with store := world.store.setCacheableResult operationId cached }) := by
  rw [runCached, Run.store_bind, found]
  rfl

theorem runCached_missing {key : String} {operationId : EntityId} {run : Run Data} {world : World}
    (missing : world.store.fingerprint? key = none) :
    runCached key operationId run world
      = if (run world).1.isError then run world
        else ((run world).1, { (run world).2 with
          store := ((run world).2.store.setFingerprint key (run world).1).setCacheableResult operationId (run world).1 }) := by
  rw [runCached, Run.store_bind, missing]
  refine (Run.bind_eq rfl).trans ?_
  split <;> rfl

namespace Link.Sim

variable {link : Link} {ledger : Ledger}

/-- A remembered result is there on both sides or on neither. -/
theorem runCached (key : String) {operationId : EntityId} (code : link.code operationId) {run run' : Run Data}
    (runs : link.Sim ledger run run' link.Same) :
    link.Sim ledger (runCached key operationId run) (runCached key (link.names operationId) run') link.Same := by
  intro world world' linked
  have remembered := linked.fingerprint key
  have foreign : ∀ (store : Store) (data : Data) (id : EntityId), ¬ link.code id →
      (store.setCacheableResult operationId data).result? id = store.result? id := by
    intro store data id foreign
    refine (store.result?_record true operationId id data).trans (if_neg ?_)
    rintro rfl
    exact foreign code
  cases found : world.store.fingerprint? key with
  | some cached =>
    rw [found] at remembered
    have settles := linked.fingerprint_settled key cached found
    rw [runCached_found found, runCached_found remembered]
    exact ⟨ledger.sync operationId, ledger.le_sync _, linked.record true operationId settles.1.reference?,
      ⟨Nat.le_refl _, fun _ _ _ _ => rfl, fun _ _ kept => kept, foreign _ _⟩, rfl, settles.mono (ledger.le_sync _)⟩
  | none =>
    rw [found] at remembered
    obtain ⟨later, le, linked, steps, same⟩ := runs world world' linked
    rw [runCached_missing found, runCached_missing remembered, same.isError]
    split
    · exact ⟨later, le, linked, steps, same⟩
    · rw [same.1]
      refine ⟨later.sync operationId, le.trans (later.le_sync _),
        (linked.setFingerprint key same.2).record true operationId same.2.1.reference?, ?_, rfl,
        same.2.mono (later.le_sync _)⟩
      refine ⟨steps.drawn, steps.external, fun other data kept => ?_, fun id other => ?_⟩
      · -- The key was not there before, so nothing is overwritten.
        refine ((run world).2.store.fingerprint?_setFingerprint key other _).trans ?_
        rw [if_neg, steps.fingerprint other data kept]
        rintro rfl
        rw [found] at kept
        cases kept
      · exact (foreign _ _ id other).trans (steps.result id other)

section

variable {caller : Caller} (calls : link.Calls caller) {scope scope' : Scope} (scopes : link.SameScope ledger scope scope')
  {callable callable' : Callable} (found : link.SameCallable ledger callable callable') {data data' : Data}
  (receiver : link.Same ledger data data')
include scopes found receiver

theorem skipCall {arguments arguments' : List Pending} (pendings : link.SamePendings ledger arguments arguments') :
    link.Sim ledger (skipCall scope callable data arguments) (skipCall scope' callable' data' arguments') link.Same := by
  refine .bind (.mapM link.Same (fun _ _ _ _ le same => same.mono le) ?_) fun later values values' _ all => ?_
  · refine pendings.imp fun pending pending' same later le => ?_
    exact .weaken (same.evaluate later _ _ le (scopes.child.mono le)) fun _ _ _ _ holds => holds.1
  · have types : values'.map (·.type) = values.map (·.type) := by
      rw [(SameList.of_forall₂ all).1, List.map_map]
      exact List.map_congr_left fun value _ => value.rename_type link.names
    dsimp only
    rw [types, found.resultType receiver.type, scopes.1, Scope.rename_options]
    exact .weaken (.defaultData _ _) fun _ _ _ _ draft => draft.same

include calls in
theorem runEager {operationId : EntityId} (code : link.code operationId) {arguments arguments' : List Data}
    (given : link.SameList ledger arguments arguments') :
    link.Sim ledger (runEager caller scope callable operationId data arguments)
      (runEager caller scope' callable' (link.names operationId) data' arguments') link.Same := by
  cases found with
  | @builtin builtin natural =>
    simp only [LivePipeline.runEager]
    cases handled : builtin.handler with
    | eager run =>
      have works := settle (natural.eager run handled link caller calls ledger _ _ _ _ _ _ ⟨scopes, receiver, given⟩)
      dsimp only
      split
      · rw [fingerprint_same builtin receiver given]
        exact runCached _ code works
      · exact works
    | lazy run => exact settle (natural.lazy run handled link ledger _ _ _ _ _ _ scopes receiver .nil)
  | @extension extension settled =>
    refine .bind (.observe _ _) fun later _ _ le _ => ?_
    have answers := settled.natural data arguments
    rw [← receiver.1, ← given.1] at answers
    rw [answers]
    cases answered : extension.handler data arguments with
    | ok result =>
      exact .pure ⟨rfl, settled.settled later le data arguments result (receiver.2.mono le)
        (fun argument member => (given.2 argument member).mono le) answered⟩
    | error reason => exact .error _ _
  | userDefined name same =>
    exact calls ledger _ _ _ _ _ _ scopes same (.of_forall₂ (.cons receiver given.forall₂))

end

theorem evaluateArguments {scope scope' : Scope} (name : String) :
    ∀ {arguments arguments' : List (Pending × Parameter)} {ledger : Ledger} (index : Nat),
      link.SameScope ledger scope scope' →
      List.Forall₂ (fun entry entry' => link.SamePending ledger entry.1 entry'.1 ∧ entry'.2 = entry.2) arguments arguments' →
      link.Try link.Same ledger (evaluateArguments scope name arguments index)
        (evaluateArguments scope' name arguments' index)
        fun later values values' => List.Forall₂ (link.Same later) values values'
  | [], [], _, _, _, .nil => .pure .nil
  | (argument, parameter) :: rest, (argument', parameter') :: rest', ledger, index, scopes, .cons head tail => by
    obtain ⟨pending, rfl⟩ := head
    have signature : scope'.signature = scope.signature := by rw [scopes.1]; rfl
    refine Try.bind (.lift (pending.evaluate ledger _ _ (le_refl _) (scopes.child.expecting _)))
      fun later value value' le same => ?_
    rw [same.1.isError]
    refine Try.guard same.1 ?_
    rw [same.1.type, signature]
    have rest := evaluateArguments name (index + 1) (scopes.mono le)
      (tail.imp fun _ _ same => ⟨same.1.mono le, same.2⟩)
    dsimp only
    split
    · refine Try.bind (.lift (.fault _)) fun last error error' _ same => ?_
      exact Try.throw same
    · exact Try.bind rest fun last values values' le all => .pure (.cons (same.1.mono le) all)

section

variable {caller : Caller} (calls : link.Calls caller) {scope scope' : Scope} (scopes : link.SameScope ledger scope scope')
  {data data' : Data} (receiver : link.Same ledger data data')
include calls scopes receiver

/-- The part of an invocation behind its checks: the arguments and, if none failed, the run. -/
theorem evaluateAndRun {callable callable' : Callable} (found : link.SameCallable ledger callable callable')
    {operationId : EntityId} (code : link.code operationId) {arguments arguments' : List Pending}
    (pendings : link.SamePendings ledger arguments arguments') :
    link.Sim ledger
      (do
        match ← (LivePipeline.evaluateArguments scope callable.name (arguments.zip (callable.expected data)) 0).run with
        | .ok values => LivePipeline.runEager caller scope callable operationId data values
        | .error error => return error)
      (do
        match ← (LivePipeline.evaluateArguments scope' callable.name (arguments'.zip (callable.expected data)) 0).run with
        | .ok values => LivePipeline.runEager caller scope' callable' (link.names operationId) data' values
        | .error error => return error) link.Same := by
  have parameters : List.Forall₂ (fun parameter parameter' => parameter' = parameter) (callable.expected data)
      (callable.expected data) := List.forall₂_same.mpr fun _ _ => rfl
  refine .bind (evaluateArguments callable.name 0 scopes (forall₂_zip pendings parameters))
    fun later outcome outcome' le outcomes => ?_
  cases outcome with
  | ok values =>
    cases outcome' with
    | ok values' =>
      exact runEager calls (scopes.mono le) (found.mono le) (receiver.mono le) code (.of_forall₂ outcomes)
    | error error' => exact outcomes.elim
  | error error =>
    cases outcome' with
    | ok values' => exact outcomes.elim
    | error error' => exact .pure outcomes

theorem invoke {callable callable' : Callable} (found : link.SameCallable ledger callable callable')
    {operationId : EntityId} (code : link.code operationId) {arguments arguments' : List Pending}
    (pendings : link.SamePendings ledger arguments arguments') :
    link.Sim ledger (invoke caller scope callable operationId data arguments)
      (invoke caller scope' callable' (link.names operationId) data' arguments') link.Same := by
  have expected := found.expected receiver.type
  have skipping : scope'.isSkipping = scope.isSkipping := by rw [scopes.1, Scope.rename_isSkipping]
  have evaluated := evaluateAndRun calls scopes receiver found code pendings
  simp only [LivePipeline.invoke, expected, found.name, skipping, pendings.length_eq]
  cases missingParameter? (callable.expected data) arguments'.length with
  | some index => exact .fault _
  | none =>
    dsimp only
    split
    · exact skipCall scopes found receiver pendings
    · cases found with
      | @builtin builtin natural =>
        obtain ⟨name, group, parameters, result, handler, cacheable⟩ := builtin
        cases handler with
        | eager run => exact evaluated
        | lazy run => exact settle (natural.lazy run rfl link ledger _ _ _ _ _ _ scopes receiver pendings)
      | extension settled => exact evaluated
      | userDefined name same => exact evaluated

end

end Link.Sim

/-! ## Calls and chains -/

/-- A call of the code on both sides; the type that it is given does not matter. -/
structure Link.SameCall (link : Link) (operation operation' : Data) : Prop where
  id : operation'.id = link.names operation.id
  value : operation'.value = operation.value.rename link.names
  code : link.code operation.id

theorem Data.display_congr {data data' : Data} (same : data'.value = data.value) : data'.display = data.display := by
  simp only [Data.display, same]

namespace Link.Sim

variable {link : Link} {ledger : Ledger}

section

variable {caller : Caller} (calls : link.Calls caller) {scope scope' : Scope} (scopes : link.SameScope ledger scope scope')
  {data data' : Data} (receiver : link.Same ledger data data') {operation operation' : Data}
  (called : link.SameCall operation operation') {arguments arguments' : List Pending}
  (pendings : link.SamePendings ledger arguments arguments')
include calls scopes receiver called pendings

/-- The call itself, once it is known what it is skipped behind. -/
theorem namedCall {skip skip' : Option Skip}
    (inner : link.SameScope ledger (scope.withSkip skip) (scope'.withSkip skip')) :
    link.Sim ledger
      (match operation.value with
        | .operation (some name) _ _ =>
          match scope.find? data name with
          | some callable => LivePipeline.invoke caller (scope.withSkip skip) callable operation.id data arguments
          | none => Run.draw (Fault.cannotChain name (scope.signature data.type)).data
        | .operation none _ _ => Run.draw Fault.unnamedCall.data
        | _ => Run.draw (Fault.notACall operation).data)
      (match operation'.value with
        | .operation (some name) _ _ =>
          match scope'.find? data' name with
          | some callable => LivePipeline.invoke caller (scope'.withSkip skip') callable operation'.id data' arguments'
          | none => Run.draw (Fault.cannotChain name (scope'.signature data'.type)).data
        | .operation none _ _ => Run.draw Fault.unnamedCall.data
        | _ => Run.draw (Fault.notACall operation').data) link.Same := by
  have signature : scope'.signature = scope.signature := by rw [scopes.1]; rfl
  have shown : operation'.display = operation.display := by
    rw [← Data.rename_display link.names operation]
    exact Data.display_congr (by rw [called.value, Data.rename_value])
  have other : (Fault.notACall operation').data = (Fault.notACall operation).data :=
    congrArg (fun shown => Data.error .typeError ("`" ++ shown ++ "` is not an operation call")) shown
  rw [called.value, called.id, other]
  cases operation.value with
  | operation name parameters body =>
    cases name with
    | none => exact .fault _
    | some name =>
      simp only [Value.rename]
      have callables := scopes.find? receiver.type name
      revert callables
      generalize scope.find? data name = callable
      generalize scope'.find? data' name = callable'
      intro callables
      cases callables with
      | none =>
        rw [signature, receiver.type]
        exact .fault _
      | some found => exact invoke calls inner receiver found called.code pendings
  | _ => exact .fault _

theorem callResult : link.Sim ledger (callResult caller scope data operation arguments)
    (callResult caller scope' data' operation' arguments') link.Same := by
  have skip := scope.rename_skipBehind link.names data none
  rw [← scopes.1, ← receiver.1] at skip
  have settled := scopes.2.skipBehind receiver.2 none
  have made := namedCall calls scopes receiver called pendings (scopes.skipBehind receiver none scopes)
  simp only [LivePipeline.callResult, skip]
  rw [skip] at made
  cases behind : scope.skipBehind data none with
  | none =>
    rw [behind] at made
    exact made
  | some reason =>
    rw [behind] at made
    cases reason with
    | unreachable => exact made
    | failed error => exact .pure ⟨rfl, settled error behind⟩

theorem performCall : link.Sim ledger (performCall caller scope data operation arguments)
    (performCall caller scope' data' operation' arguments')
    fun later result result' => link.Same later result result' ∧ later.synced operation.id := by
  refine .bind (callResult calls scopes receiver called pendings) fun later result result' _ same => ?_
  refine .bind (.record false called.id called.code same.1 same.2.1.reference?) fun last _ _ le synced => ?_
  exact .pure ⟨same.mono le, synced⟩

end

end Link.Sim

/-- A check reads the value of a call only. -/
theorem Scope.checkCall_congr (scope : Scope) (results : EntityId → Option Data) (receiver : Data)
    (current : Option Narrowing) {operation operation' : Data} (same : operation'.value = operation.value) :
    scope.checkCall results receiver current operation' = scope.checkCall results receiver current operation := by
  obtain ⟨id, type, value⟩ := operation
  obtain ⟨id', type', value'⟩ := operation'
  cases same
  cases value with
  | operation name parameters body => cases name <;> rfl
  | _ => rfl

/-- A check on settled data is about no variable, on either side. -/
theorem Link.Same.checkOf {link : Link} {ledger : Ledger} {data data' : Data} (same : link.Same ledger data data')
    (scope scope' : Scope) (isTypeTest : Bool) (target : DataType) :
    scope'.checkOf data' isTypeTest target = scope.checkOf data isTypeTest target := by
  have firm := same.2.1.reference?
  have firm' : data'.reference? = none := by rw [same.1, Data.rename_reference?, firm]; rfl
  simp only [Scope.checkOf, firm, firm', Option.map_none]

/-- Stages of a chain on both sides; `made` relates the calls that they make. -/
def Link.SameStage (link : Link) (made : Ledger → Data → Data → Prop) (scope scope' : Scope) (ledger : Ledger)
    (stage stage' : Stage) : Prop :=
  ∀ (later : Ledger) (narrowing : Option Narrowing) (current current' : Data), ledger ≤ later →
    link.Same later current current' →
    link.Sim later (stage current (scope.child.withNarrowing narrowing))
      (stage' current' (scope'.child.withNarrowing narrowing))
      fun last outcome outcome' => made last outcome.1 outcome'.1 ∧ link.Same last outcome.2 outcome'.2

namespace Link.Sim

variable {link : Link}

theorem runStages {scope scope' : Scope} {made : Ledger → Data → Data → Prop}
    (mono : ∀ before after operation operation', before ≤ after → made before operation operation' →
      made after operation operation')
    (called : ∀ ledger operation operation', made ledger operation operation' → link.SameCall operation operation') :
    ∀ {stages stages' : List Stage} {ledger : Ledger} (narrowing : Option Narrowing)
      {receiver receiver' current current' : Data}, link.SameScope ledger scope scope' →
      (∀ isTypeTest target, scope'.checkOf receiver' isTypeTest target = scope.checkOf receiver isTypeTest target) →
      link.Same ledger current current' → List.Forall₂ (link.SameStage made scope scope' ledger) stages stages' →
      link.Sim ledger (runStages scope narrowing receiver current stages)
        (runStages scope' narrowing receiver' current' stages')
        fun later outcome outcome' => link.Same later outcome.1 outcome'.1
          ∧ List.Forall₂ (made later) outcome.2 outcome'.2
  | [], [], _, _, _, _, _, _, _, _, same, .nil => .pure ⟨same, .nil⟩
  | stage :: rest, stage' :: rest', ledger, narrowing, receiver, receiver', current, current', scopes, checks, same,
    .cons head tail => by
    refine .bind (head ledger narrowing _ _ (le_refl _) same) fun later outcome outcome' le related => ?_
    obtain ⟨operation, result⟩ := outcome
    obtain ⟨operation', result'⟩ := outcome'
    obtain ⟨calls, results⟩ := related
    refine .store fun world world' linked => ?_
    -- What the call establishes is read off the store, where no result is a reference.
    have established : scope'.checkCall world'.store.result? receiver' narrowing operation'
        = scope.checkCall world.store.result? receiver narrowing operation := by
      have renamed : operation'.value = (operation.rename link.names).value := by
        rw [(called later operation operation' calls).value, Data.rename_value]
      rw [Scope.checkCall_congr _ _ _ _ renamed]
      exact checkCall_rename ((scopes.mono le).checks linked) checks narrowing operation
    dsimp only
    rw [established]
    have continues := runStages mono called (scope.checkCall world.store.result? receiver narrowing operation)
      (scopes.mono le) (results.checkOf scope scope') results (tail.imp fun _ _ works last narrowing current current' le' =>
        works last narrowing current current' (le.trans le'))
    refine .bind continues fun last outcome outcome' le' related => .pure ⟨related.1, ?_⟩
    exact .cons (mono later last operation operation' le' calls) related.2

end Link.Sim

end LivePipeline
