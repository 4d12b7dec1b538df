import LivePipeline.Proofs.Rebinding

/-! Arguments of calls, and the parameters that they stand for. New calls get a default for each required
parameter, and revision adds the defaults that a call lacks. Both leave out optional parameters, and
arguments are told apart by their position only: so everything stands in its place exactly when no
required parameter comes behind an optional one without an argument. -/

namespace LivePipeline

/-! ## Arguments and their parameters -/

/-- A new default for the parameter. -/
def Statement.IsDefault (full : Bool) (parameter : Parameter) (argument : Statement) : Prop :=
  ∃ next, argument = ((parameter.defaultArgument full).run next).1

/-- What an argument has to do with a parameter. It is the argument that was given for it, or a default that has
taken the place and the identity of that one, or, when none was given, a default. -/
inductive Statement.StandsFor (full : Bool) (parameter : Parameter) : Option Statement → Statement → Prop
  | kept {given argument : Statement} (same : argument.frame = given.frame) : StandsFor full parameter (some given) argument
  | replaced {given fallback : Statement} (made : fallback.IsDefault full parameter) :
    StandsFor full parameter (some given) { fallback with id := given.id }
  | added {argument : Statement} (made : argument.IsDefault full parameter) : StandsFor full parameter none argument

/-- So many arguments reach all required parameters. -/
def Covers (expected : List Parameter) (count : Nat) : Prop :=
  ∀ (index : Nat) (parameter : Parameter), expected[index]? = some parameter → parameter.isOptional = false → index < count

/-- The arguments of a call are in order: there is a parameter for each of them, at the same position, and they
cover all required parameters. -/
structure Conforms (full : Bool) (expected : List Parameter) (given arguments : List Statement) : Prop where
  fits : arguments.length ≤ expected.length
  covers : Covers expected arguments.length
  placed : ∀ (index : Nat) (argument : Statement) (parameter : Parameter), arguments[index]? = some argument →
    expected[index]? = some parameter → argument.StandsFor full parameter given[index]?

/-- Behind an optional parameter there are optional ones only. -/
def Gapless (parameters : List Parameter) : Prop := parameters.Pairwise fun first second => first.isOptional → second.isOptional

instance (parameters : List Parameter) : Decidable (Gapless parameters) :=
  inferInstanceAs (Decidable (parameters.Pairwise fun first second => first.isOptional → second.isOptional))

namespace Covers

variable {parameter : Parameter} {parameters : List Parameter} {count : Nat}

theorem succ_iff : Covers (parameter :: parameters) (count + 1) ↔ Covers parameters count := by
  constructor
  · intro covers index other found needed
    exact Nat.lt_of_succ_lt_succ (covers (index + 1) other found needed)
  · intro covers index other found needed
    cases index with
    | zero => exact Nat.succ_pos _
    | succ index => exact Nat.succ_lt_succ (covers index other found needed)

/-- Without arguments all parameters have to be optional. -/
theorem zero_iff : Covers parameters 0 ↔ ∀ parameter ∈ parameters, parameter.isOptional = true := by
  constructor
  · intro covers parameter among
    obtain ⟨index, found⟩ := List.mem_iff_getElem?.mp among
    by_contra needed
    exact Nat.not_lt_zero _ (covers index parameter found (Bool.eq_false_iff.mpr needed))
  · intro spare index parameter found needed
    cases (spare parameter (List.mem_of_getElem? found)).symm.trans needed

/-- There are no more required parameters than arguments that reach them. -/
theorem length_filter_le (covers : Covers parameters count) : (parameters.filter (!·.isOptional)).length ≤ count := by
  induction parameters generalizing count with
  | nil => exact Nat.zero_le _
  | cons parameter parameters ih =>
    cases count with
    | zero =>
      have all := zero_iff.mp covers
      rw [List.filter_eq_nil_iff.mpr fun other among => by simp [all other among]]
      exact Nat.le_refl 0
    | succ count =>
      have others := ih (succ_iff.mp covers)
      rw [List.filter_cons]
      split
      · exact Nat.succ_le_succ others
      · exact Nat.le_succ_of_le others

/-- A call is refused for a parameter that its arguments do not reach. -/
theorem iff_missingParameter? : Covers parameters count ↔ missingParameter? parameters count = none := by
  rw [missingParameter?, Option.map_eq_none_iff, List.find?_eq_none]
  constructor
  · intro covers entry among
    have found := List.mem_zipIdx_iff_getElem?.mp among
    cases needed : entry.1.isOptional with
    | true => simp [needed]
    | false => simpa [needed] using covers entry.2 entry.1 found needed
  · intro reached index parameter found needed
    have within := reached (parameter, index) (List.mem_zipIdx_iff_getElem?.mpr found)
    simpa [needed] using within

end Covers

theorem Conforms.cons_iff {full : Bool} {parameter : Parameter} {parameters : List Parameter} {given arguments : List Statement}
    {argument : Statement} : Conforms full (parameter :: parameters) given (argument :: arguments)
      ↔ argument.StandsFor full parameter given.head? ∧ Conforms full parameters given.tail arguments := by
  have shifted (index : Nat) : given.tail[index]? = given[index + 1]? := by cases given <;> simp
  constructor
  · intro ⟨fits, covers, placed⟩
    refine ⟨?_, Nat.le_of_succ_le_succ fits, Covers.succ_iff.mp covers, fun index filled other place found => ?_⟩
    · rw [List.head?_eq_getElem?]
      exact placed 0 argument parameter rfl rfl
    · rw [shifted]
      exact placed (index + 1) filled other place found
  · intro ⟨first, fits, covers, placed⟩
    refine ⟨Nat.succ_le_succ fits, Covers.succ_iff.mpr covers, fun index filled other place found => ?_⟩
    cases index with
    | zero =>
      cases place
      cases found
      rwa [← List.head?_eq_getElem?]
    | succ index =>
      rw [← shifted]
      exact placed index filled other place found

theorem Conforms.nil_iff {full : Bool} {parameters : List Parameter} {given : List Statement} :
    Conforms full parameters given [] ↔ Covers parameters 0 :=
  ⟨Conforms.covers, fun covers => ⟨Nat.zero_le _, covers, fun _ _ _ place => by cases place⟩⟩

theorem gapless_cons_iff {parameter : Parameter} {parameters : List Parameter} :
    Gapless (parameter :: parameters)
      ↔ (parameter.isOptional = true → Covers parameters 0) ∧ Gapless parameters := by
  rw [Gapless, List.pairwise_cons, Covers.zero_iff]
  exact and_congr_left fun _ => ⟨fun spare given other among => spare other among given, fun spare other among given => spare given other among⟩

/-! ## Filling in -/

/-- How arguments are filled in, parameter by parameter. Given ones come first; an optional parameter without one is
passed over, and so the defaults behind it move up. -/
inductive Fills (full : Bool) : List Parameter → List Statement → List Statement → Prop
  | done (given : List Statement) : Fills full [] given []
  | used {parameter : Parameter} {parameters : List Parameter} {argument filled : Statement} {given arguments : List Statement}
    (stands : filled.StandsFor full parameter (some argument)) (rest : Fills full parameters given arguments) :
    Fills full (parameter :: parameters) (argument :: given) (filled :: arguments)
  | passed {parameter : Parameter} {parameters : List Parameter} {arguments : List Statement}
    (spare : parameter.isOptional = true) (rest : Fills full parameters [] arguments) :
    Fills full (parameter :: parameters) [] arguments
  | added {parameter : Parameter} {parameters : List Parameter} {filled : Statement} {arguments : List Statement}
    (needed : parameter.isOptional = false) (made : filled.IsDefault full parameter)
    (rest : Fills full parameters [] arguments) : Fills full (parameter :: parameters) [] (filled :: arguments)

namespace Fills

variable {full : Bool} {expected : List Parameter} {given arguments : List Statement}

/-- Without given arguments there is one for each required parameter. -/
theorem length_eq (fills : Fills full expected [] arguments) :
    arguments.length = (expected.filter (!·.isOptional)).length := by
  generalize blank : ([] : List Statement) = given at fills
  induction fills with
  | done => rfl
  | used => cases blank
  | passed spare _ ih => simpa [spare] using ih blank
  | added needed _ _ ih => simpa [needed] using ih blank

/-- If the arguments reach all required parameters, then those that were not given stand for parameters without a gap. -/
theorem gapless_of_covers (fills : Fills full expected given arguments) (covers : Covers expected arguments.length) :
    Gapless (expected.drop given.length) := by
  induction fills with
  | done given => simp [Gapless]
  | used _ _ ih => exact ih (Covers.succ_iff.mp covers)
  | @passed parameter parameters arguments spare rest ih =>
    -- As many arguments as there are required parameters reach all of them only when there is none behind this one.
    have none : Covers parameters 0 := by
      have counted := rest.length_eq
      cases count : arguments.length with
      | zero =>
        rw [count, eq_comm, List.length_eq_zero_iff, List.filter_eq_nil_iff] at counted
        exact Covers.zero_iff.mpr fun other among => by simpa using counted other among
      | succ count =>
        rw [count] at covers
        have reached := (Covers.succ_iff.mp covers).length_filter_le
        omega
    have all := Covers.zero_iff.mp none
    refine gapless_cons_iff.mpr ⟨fun _ => none, ?_⟩
    exact List.pairwise_of_forall_mem_list fun _ _ other among _ => all other among
  | added needed _ _ ih =>
    refine gapless_cons_iff.mpr ⟨fun spare => ?_, ih (Covers.succ_iff.mp covers)⟩
    cases needed.symm.trans spare

/-- Without a gap every argument stands where its parameter does. -/
theorem conforms_of_gapless (fills : Fills full expected given arguments) (gapless : Gapless (expected.drop given.length)) :
    Conforms full expected given arguments := by
  induction fills with
  | done given => exact Conforms.nil_iff.mpr (Covers.zero_iff.mpr (by simp))
  | used stands _ ih => exact Conforms.cons_iff.mpr ⟨stands, ih gapless⟩
  | @passed parameter parameters arguments spare rest ih =>
    have none := (gapless_cons_iff.mp gapless).1 spare
    have empty : arguments = [] := by
      have all := Covers.zero_iff.mp none
      rw [← List.length_eq_zero_iff, rest.length_eq, List.length_eq_zero_iff, List.filter_eq_nil_iff]
      intro other among
      simp [all other among]
    rw [empty, Conforms.nil_iff, Covers.zero_iff]
    exact List.forall_mem_cons.mpr ⟨spare, Covers.zero_iff.mp none⟩
  | added _ made _ ih => exact Conforms.cons_iff.mpr ⟨.added made, ih (gapless_cons_iff.mp gapless).2⟩

theorem conforms_iff (fills : Fills full expected given arguments) :
    Conforms full expected given arguments ↔ Gapless (expected.drop given.length) :=
  ⟨fun conforms => fills.gapless_of_covers conforms.covers, fills.conforms_of_gapless⟩

/-- The same condition decides whether a call with these arguments is refused for a parameter. -/
theorem missingParameter?_iff (fills : Fills full expected given arguments) :
    missingParameter? expected arguments.length = none ↔ Gapless (expected.drop given.length) := by
  rw [← Covers.iff_missingParameter?]
  exact ⟨fills.gapless_of_covers, fun gapless => (fills.conforms_of_gapless gapless).covers⟩

end Fills

/-! ## Calls that are made and repaired -/

theorem defaultArgument_isDefault (full : Bool) (parameter : Parameter) :
    (parameter.defaultArgument full).Gives (Statement.IsDefault full parameter) := fun next => ⟨next, rfl⟩

/-- A new call gets a default for each required parameter. -/
theorem fills_of_required (full : Bool) (expected : List Parameter) :
    Run.Yields ((expected.filter (!·.isOptional)).mapM fun parameter => (parameter.defaultArgument full : Run Statement))
      (Fills full expected []) := by
  induction expected with
  | nil => exact .pure (.done [])
  | cons parameter parameters ih =>
    cases needed : parameter.isOptional with
    | true =>
      rw [List.filter_cons_of_neg (by simp [needed])]
      exact fun world => .passed needed (ih world)
    | false =>
      rw [List.filter_cons_of_pos (by simp [needed]), List.mapM_cons]
      refine .bind (.draw (defaultArgument_isDefault full parameter)) fun filled made => ?_
      exact .bind ih fun others rest => .pure (.added needed made rest)

theorem createCall_fills {scope : Scope} {data : Data} {name : String} {callable : Callable}
    (found : scope.find? data name = some callable) :
    (scope.createCall data name).Yields fun outcome => ∃ call arguments, outcome = .ok call
      ∧ call.value = .operation (some name) arguments []
      ∧ Fills scope.options.includeOptionalProperties (callable.expected data) [] arguments := by
  rw [Scope.createCall, found]
  refine .bind (fills_of_required _ _) fun arguments fills => ?_
  refine .bind (show Run.Yields _ fun call => call.value = .operation (some name) arguments [] from fun _ => rfl) fun call made => ?_
  refine .behind _ fun result => .pure ?_
  split
  · exact ⟨call, arguments, rfl, made, fills⟩
  · exact ⟨_, arguments, rfl, made, fills⟩

theorem reviseArgument_keeps_frame (scope : Scope) (isLazy : Bool) (parameter : Parameter) (statement : Statement) :
    (reviseArgument scope isLazy parameter ⟨statement, reviseStatement statement⟩).Yields fun outcome =>
      outcome.1.frame = statement.frame := by
  cases isLazy with
  | true =>
    refine .pure ?_
    simp only [Statement.frame, rebind_id]
  | false => exact .bind (reviseStatement_keeps_frame statement _) fun outcome same => .pure same

/-- By recursion on the parameters, as the arguments are repaired. -/
theorem repairArguments_fills (scope : Scope) (isLazy : Bool) (parameters : List Parameter) (given : List Statement) :
    (repairArguments scope isLazy parameters (revisables given)).Yields
      (Fills scope.options.includeOptionalProperties parameters given) := by
  induction parameters generalizing given with
  | nil => exact .pure (.done given)
  | cons parameter parameters ih =>
    cases given with
    | nil =>
      rw [revisables, repairArguments]
      cases needed : parameter.isOptional with
      | true => exact fun world => .passed needed (ih [] world)
      | false =>
        refine .bind (.draw (defaultArgument_isDefault _ parameter)) fun filled made => ?_
        exact .bind (ih []) fun others rest => .pure (.added needed made rest)
    | cons argument given =>
      refine .bind (reviseArgument_keeps_frame scope isLazy parameter argument) fun outcome same => ?_
      have chosen (filled : Statement)
          (stands : filled.StandsFor scope.options.includeOptionalProperties parameter (some argument)) : Run.Yields (do
            return filled :: (← repairArguments scope isLazy parameters (revisables given)))
            (Fills scope.options.includeOptionalProperties (parameter :: parameters) (argument :: given)) :=
        .bind (ih given) fun others rest => .pure (.used stands rest)
      dsimp only
      split
      · exact .bind (.pure (.kept same)) chosen
      · have own : outcome.1.id = argument.id := congrArg Frame.id same
        refine .bind (.draw (defaultArgument_isDefault _ parameter)) fun fallback made => ?_
        exact .bind (.pure (own ▸ .replaced made)) chosen

theorem repairCall_fills {scope : Scope} {receiver : Data} {callable : Callable} (id : EntityId) (type : DataType)
    (name : String) (given body : List Statement) (runs : ∀ error, scope.skipBehind receiver none ≠ some (.failed error))
    (found : scope.find? receiver name = some callable) :
    (repairCall scope receiver ⟨id, type, .operation (some name) given body⟩ (revisables given)).Yields fun call =>
      ∃ arguments, call.value = .operation (some name) arguments body
        ∧ Fills scope.options.includeOptionalProperties (callable.expected receiver) given arguments := by
  unfold repairCall
  split
  · next error failed => exact absurd failed (runs error)
  · next called _ =>
    cases called
    rw [found]
    exact .bind (repairArguments_fills scope _ _ given) fun arguments fills => .pure ⟨arguments, rfl, fills⟩
  · next unnamed _ => exact absurd rfl (unnamed name given body)

/-- Behind an error a call is left as it is, and made it hands the error on. -/
theorem repairCall_of_failed {scope : Scope} {receiver error : Data} (failed : scope.skipBehind receiver none = some (.failed error))
    (operation : Data) (arguments : List Revisable) : repairCall scope receiver operation arguments = pure operation := by
  simp only [repairCall, failed]

/-! ## Where revision meets a call -/

/-- The scope of a call and the receiver that it is made on, as revision comes to them: behind the statements in
front of its own one, and behind the calls before it on the same data. -/
def Scope.receiverAt (scope : Scope) (front : List Statement) (source : Data) (before : List Data) : Run (Scope × Data) := do
  let (_, inner) ← reviseEach (revisables front) scope.child
  let data ← reviseData source inner
  let initial ← inner.evaluateNode data
  let (receiver, _) ← runChain inner data initial (repairedStages before)
  return (inner, receiver)

/-- By induction on the calls before it: the call is repaired for what those come to. -/
theorem repairedStages_repair (scope : Scope) (before behind : List Data) (operation : Data) (narrowing : Option Narrowing)
    (subject current : Data) (world : World) : ∃ narrowing' world',
      (runStages scope narrowing subject current (repairedStages (before ++ operation :: behind)) world).1.2[before.length]?
        = some (repairCall (scope.child.withNarrowing narrowing')
          (runStages scope narrowing subject current (repairedStages before) world).1.1 operation (revisableArguments operation) world').1 := by
  induction before generalizing narrowing subject current world with
  | nil => exact ⟨narrowing, world, rfl⟩
  | cons first rest ih =>
    obtain ⟨⟨⟨made, result⟩, next⟩, runs⟩ : ∃ outcome, (do
        let repaired ← repairCall (scope.child.withNarrowing narrowing) current first (revisableArguments first)
        return (repaired, ← (scope.child.withNarrowing narrowing).perform current repaired) : Run (Data × Data)) world = outcome :=
      ⟨_, rfl⟩
    rw [List.cons_append, repairedStages, repairedStages, runStages_cons runs, runStages_cons runs]
    exact ih _ result result next

/-- Typing calls by their results keeps each in its place. -/
theorem getElem?_retyped (scope : Scope) {operations : List Data} {index : Nat} {operation : Data}
    (found : operations[index]? = some operation) (world : World) :
    ∃ call, (scope.retyped operations world).1[index]? = some call ∧ operation.Retypes call := by
  obtain ⟨within, rfl⟩ := List.getElem?_eq_some_iff.mp found
  have all := (retyped_retypes scope operations world).2
  have same := all.length_eq
  refine ⟨_, List.getElem?_eq_getElem (same ▸ within), ?_⟩
  exact all.get within (same ▸ within)

theorem reviseStatement_repairs (scope : Scope) (id : EntityId) (source : Data) (before behind : List Data) (operation : Data)
    (name : Option String) (isOptional : Bool) (world : World) : ∃ narrowing world' call,
      (reviseStatement ⟨id, source, before ++ operation :: behind, name, isOptional⟩ scope world).1.1.operations[before.length]? = some call
        ∧ Data.Retypes (repairCall (scope.child.withNarrowing narrowing) ((do
          let data ← reviseData source scope
          let initial ← scope.evaluateNode data
          runChain scope data initial (repairedStages before) : Run (Data × List Data)) world).1.1 operation
          (revisableArguments operation) world').1 call := by
  obtain ⟨⟨data, second⟩, revises⟩ : ∃ outcome, reviseData source scope world = outcome := ⟨_, rfl⟩
  obtain ⟨⟨initial, third⟩, evaluates⟩ : ∃ outcome, scope.evaluateNode data second = outcome := ⟨_, rfl⟩
  obtain ⟨narrowing, world', repaired⟩ := repairedStages_repair scope before behind operation none data initial third
  obtain ⟨call, found, retypes⟩ := getElem?_retyped scope repaired
    (runChain scope data initial (repairedStages (before ++ operation :: behind)) third).2
  refine ⟨narrowing, world', call, ?_, ?_⟩
  · rw [reviseStatement_eq, reviseChain, bind_assoc, Run.bind_eq revises, bind_assoc, Run.bind_eq evaluates]
    exact found
  · rw [Run.bind_eq revises, Run.bind_eq evaluates]
    exact retypes

/-- A call of the program is repaired for the receiver that revision comes to there. -/
theorem revise_repairs (scope : Scope) (front back : List Statement) (id : EntityId) (source : Data) (before behind : List Data)
    (operation : Data) (name : Option String) (isOptional : Bool) (world : World) : ∃ narrowing world' call,
      let place := (scope.receiverAt front source before world).1
      (scope.revise (front ++ ⟨id, source, before ++ operation :: behind, name, isOptional⟩ :: back) none world).1[front.length]?.bind
          (·.operations[before.length]?) = some call
        ∧ Data.Retypes (repairCall (place.1.child.withNarrowing narrowing) place.2 operation (revisableArguments operation) world').1 call := by
  obtain ⟨⟨⟨begun, inner⟩, second⟩, begins⟩ : ∃ outcome, reviseEach (revisables front) scope.child world = outcome := ⟨_, rfl⟩
  obtain ⟨narrowing, world', call, found, retypes⟩ :=
    reviseStatement_repairs inner id source before behind operation name isOptional second
  have frames := reviseEach_keeps_frames front scope.child world
  rw [begins] at frames
  have placed : begun.length = front.length := by simpa using congrArg List.length frames
  refine ⟨narrowing, world', call, ?_⟩
  have position : scope.receiverAt front source before world = ((do
      let data ← reviseData source inner
      let initial ← inner.evaluateNode data
      let (receiver, _) ← runChain inner data initial (repairedStages before)
      return (inner, receiver) : Run (Scope × Data)) second) := by
    rw [Scope.receiverAt, Run.bind_eq begins]
  rw [position]
  refine ⟨?_, retypes⟩
  have revised (statement : Statement) : (scope.revise (front ++ statement :: back) none world).1
      = begun ++ (reviseEach (revisables (statement :: back)) inner second).1.1 := by
    have runs : (reviseEach (revisables (front ++ statement :: back)) scope.child world).1.1
        = begun ++ (reviseEach (revisables (statement :: back)) inner second).1.1 := by
      rw [revisables_eq_map, List.map_append, ← revisables_eq_map, ← revisables_eq_map, reviseEach_append, Run.bind_eq begins]
      rfl
    exact runs
  rw [revised, List.getElem?_append_right (Nat.le_of_eq placed), placed, Nat.sub_self]
  exact found

/-! ## Calls conform to their operations -/

/-- What a call passes to an operation: arguments that are in order, and for which it is not refused, exactly when the
parameters without a given argument have no gap. -/
def Callable.Fitted (callable : Callable) (full : Bool) (receiver : Data) (given arguments : List Statement) : Prop :=
  (Conforms full (callable.expected receiver) given arguments ↔ Gapless ((callable.expected receiver).drop given.length))
    ∧ (missingParameter? (callable.expected receiver) arguments.length = none
      ↔ Gapless ((callable.expected receiver).drop given.length))

/-- A new call conforms to its operation exactly when no required parameter comes behind an optional one. A call that
was brought up to date conforms exactly when none does among the parameters that it gave no argument for. Only behind an
error a call is left as it is; it is not made there, but hands on the error. -/
theorem calls_conform_iff_gapless (scope : Scope) (world : World) :
    (∀ data name callable, scope.find? data name = some callable → ∃ call arguments,
      (scope.createCall data name world).1 = .ok call ∧ call.value = .operation (some name) arguments []
        ∧ callable.Fitted scope.options.includeOptionalProperties data [] arguments)
    ∧ ∀ front back id source before behind callId type name given body ownName isOptional, ∃ call,
      let operation : Data := ⟨callId, type, .operation (some name) given body⟩
      let place := (scope.receiverAt front source before world).1
      (scope.revise (front ++ ⟨id, source, before ++ operation :: behind, ownName, isOptional⟩ :: back) none world).1[front.length]?.bind
          (·.operations[before.length]?) = some call
        ∧ call.id = callId
        ∧ (∀ error, place.1.skipBehind place.2 none = some (.failed error) → call.value = operation.value
          ∧ ∀ caller arguments, callResult caller place.1 place.2 call arguments = pure error)
        ∧ ∀ callable, place.1.find? place.2 name = some callable →
          (∀ error, place.1.skipBehind place.2 none ≠ some (.failed error)) →
          ∃ arguments, call.value = .operation (some name) arguments body
            ∧ callable.Fitted place.1.options.includeOptionalProperties place.2 given arguments := by
  constructor
  · intro data name callable found
    obtain ⟨call, arguments, made, passes, fills⟩ := createCall_fills found world
    exact ⟨call, arguments, made, passes, fills.conforms_iff, fills.missingParameter?_iff⟩
  · intro front back id source before behind callId type name given body ownName isOptional
    obtain ⟨narrowing, world', call, stands, same, value⟩ :=
      revise_repairs scope front back id source before behind ⟨callId, type, .operation (some name) given body⟩ ownName isOptional world
    generalize (scope.receiverAt front source before world).1 = place at same value ⊢
    obtain ⟨inner, receiver⟩ := place
    let met : Scope := inner.child.withNarrowing narrowing
    let operation : Data := ⟨callId, type, .operation (some name) given body⟩
    refine ⟨call, stands, ?_, fun error failed => ⟨?_, fun caller arguments => ?_⟩, fun callable found runs => ?_⟩
    · have kept : Data.callFrame _ = Data.callFrame _ :=
        repairCall_keeps_frame met receiver operation (revisableArguments operation) world'
      exact same.trans (congrArg Prod.fst kept)
    · have left : repairCall met receiver operation (revisableArguments operation) = pure operation :=
        repairCall_of_failed (show met.skipBehind receiver none = _ from failed) _ _
      rw [value, left]
      rfl
    · simp only [callResult, failed]
    · have made : ∀ error, met.skipBehind receiver none ≠ some (.failed error) := runs
      obtain ⟨arguments, passes, fills⟩ := repairCall_fills callId type name given body made found world'
      exact ⟨arguments, value.trans passes, fills.conforms_iff, fills.missingParameter?_iff⟩

/-- A host operation that takes a text, and may take a number behind it: what is made up for the text stands first. -/
theorem calls_conform_pick :
    let pick : Extension := ⟨"pick", [.receiver .string, .named "text" .string, .optional "count" .number], .string, fun data _ => .ok data⟩
    let scope : Scope := { extensions := [pick] }
    let word : Data := ⟨"word", .string, .text "x"⟩
    let bare : Data := ⟨"call", .unknown, .operation (some "pick") [] []⟩
    let given (arguments : List Statement) : Prop := Conforms false (pick.parameters.drop 1) [] arguments
    (∃ call arguments, (scope.createCall word "pick" {}).1 = .ok call ∧ call.value = .operation (some "pick") arguments []
      ∧ given arguments)
    ∧ ∃ call arguments, (scope.revise [⟨"only", word, [bare], none, false⟩] none {}).1[0]?.bind (·.operations[0]?) = some call
      ∧ call.value = .operation (some "pick") arguments [] ∧ given arguments := by
  intro pick scope word bare given
  have gapless : Gapless (pick.parameters.drop 1) := by decide
  have found : scope.find? word "pick" = some (.extension pick) := rfl
  have live : (scope.receiverAt [] word [] {}).1.1.skipBehind (scope.receiverAt [] word [] {}).1.2 none = none := rfl
  obtain ⟨made, revised⟩ := calls_conform_iff_gapless scope {}
  constructor
  · obtain ⟨call, arguments, result, passes, fitted⟩ := made word "pick" _ found
    exact ⟨call, arguments, result, passes, fitted.1.mpr gapless⟩
  · obtain ⟨call, stands, _, _, fits⟩ := revised [] [] "only" word [] [] "call" .unknown "pick" [] [] none false
    obtain ⟨arguments, passes, fitted⟩ := fits _ found fun error failed => by cases live.symm.trans failed
    exact ⟨call, arguments, stands, passes, fitted.1.mpr gapless⟩

/-- When the number may stand before the text, the text that is made up takes its place, and the call is refused for
the text. -/
theorem default_stands_for_optional_parameter :
    let pick : Extension := ⟨"pick", [.receiver .string, .optional "count" .number, .named "text" .string], .string, fun data _ => .ok data⟩
    let scope : Scope := { extensions := [pick] }
    let word : Data := ⟨"word", .string, .text "x"⟩
    let bare : Data := ⟨"call", .unknown, .operation (some "pick") [] []⟩
    let passed (call : Data) : List Kind := match call.value with
      | .operation _ arguments _ => arguments.map (·.data.type.kind)
      | _ => []
    let refused (result : Data) : Bool := result.error? == some (.typeError, "Parameter 2 of `pick` is required")
    let made := (scope.createCall word "pick" {}).1.toOption
    let revised := (scope.revise [⟨"only", word, [bare], none, false⟩] none {}).1
    made.map passed = some [.string] ∧ made.map (fun call => refused (scope.perform word call {}).1) = some true
      ∧ revised.map (·.operations.map passed) = [[[.string]]] ∧ refused (scope.evaluateAll revised {}).1.1 = true := by
  dsimp only
  decide +kernel

end LivePipeline
