import LivePipeline.Evaluation
import LivePipeline.Proofs.Drawing

/-! What the built-in operations can do to a world. They draw identities, look up and make external
objects, send requests, and call the program back. Nothing else: no operation reads, records or
forgets a result. The same is true of every part of evaluation that only puts evaluations of
statements in order. -/

namespace LivePipeline

/-! ## Runs by their steps -/

/-- Runs that are made of these steps; `calls` are the runs of the program itself that they may make, and
`sends` tells whether the host may observe something. -/
inductive Run.Acts (sends : Prop) (calls : Run Data → Prop) : {α : Type} → Run α → Prop
  | pure (value : α) : Acts sends calls (Pure.pure value : Run α)
  | bind {run : Run α} {next : α → Run β} (first : Acts sends calls run) (second : ∀ value, Acts sends calls (next value)) :
    Acts sends calls (run >>= next)
  | draw {build : Fresh α} (grows : build.Grows) : Acts sends calls (Run.draw build)
  | find (className : String) (arguments : List Statement) (instanceId : EntityId) :
    Acts sends calls (Operation.externalOf className arguments instanceId).run
  | create (className : String) (type : DataType) (arguments : List Data) (external : External) :
    Acts sends calls (Operation.createInstance className type arguments external)
  | observe (allowed : sends) (event : Event) : Acts sends calls (Run.observe event)
  | call {run : Run Data} (made : calls run) : Acts sends calls run

/-- Work that may fail and acts by these steps. -/
def Run.Tries (sends : Prop) (calls : Run Data → Prop) (attempt : ExceptT ε Run α) : Prop := Run.Acts sends calls attempt.run

namespace Run

variable {sends : Prop} {calls : Run Data → Prop}

theorem Acts.mapM {work : α → Run β} (each : ∀ item, Acts sends calls (work item)) (items : List α) :
    Acts sends calls (items.mapM work) := by
  induction items with
  | nil => exact .pure []
  | cons item rest ih =>
    rw [List.mapM_cons]
    exact .bind (each item) fun _ => .bind ih fun _ => .pure _

namespace Tries

protected theorem pure (value : α) : Tries sends calls (Pure.pure value : ExceptT ε Run α) := Acts.pure (Except.ok value)

protected theorem throw (error : ε) : Tries sends calls (throw error : ExceptT ε Run α) := Acts.pure (Except.error error)

protected theorem bind {attempt : ExceptT ε Run α} {next : α → ExceptT ε Run β} (first : Tries sends calls attempt)
    (second : ∀ value, Tries sends calls (next value)) : Tries sends calls (attempt >>= next) := by
  change Acts sends calls (attempt.run >>= ExceptT.bindCont next)
  refine Acts.bind first fun outcome => ?_
  cases outcome with
  | ok value => exact second value
  | error error => exact Acts.pure (Except.error error)

theorem lift {run : Run α} (acts : Acts sends calls run) : Tries sends calls (liftM run : ExceptT ε Run α) :=
  Acts.bind acts fun value => .pure (Except.ok value)

theorem build {work : Fresh α} (grows : work.Grows) : Tries sends calls (liftM work : ExceptT ε Run α) := lift (.draw grows)

/-- Work that looks at data only. -/
theorem read (outcome : Except ε α) : Tries sends calls (liftM outcome : ExceptT ε Run α) := by
  cases outcome with
  | ok value => exact .pure value
  | error error => exact .throw error

/-- A failure under a condition. -/
theorem reject {condition : Prop} [Decidable condition] (error : ε) {next : PUnit → ExceptT ε Run α}
    (continues : Tries sends calls (next ())) :
    Tries sends calls (if condition then throw error >>= next else next ()) := by
  split
  · exact .throw error
  · exact continues

theorem mapM {work : α → ExceptT ε Run β} (each : ∀ item, Tries sends calls (work item)) (items : List α) :
    Tries sends calls (items.mapM work) := by
  induction items with
  | nil => exact .pure []
  | cons item rest ih =>
    rw [List.mapM_cons]
    exact .bind (each item) fun _ => .bind ih fun _ => .pure _

end Tries

end Run

open Run (Acts Tries)

/-! ## Sorting -/

theorem mergeM_tries {sends : Prop} {calls : Run Data → Prop} {compare : α → α → ExceptT ε Run Ordering}
    (each : ∀ a b, Tries sends calls (compare a b)) (left right : List α) : Tries sends calls (mergeM compare left right) := by
  fun_induction mergeM compare left right with
  | case1 right => exact .pure right
  | case2 x xs => exact .pure (x :: xs)
  | case3 x xs y ys later earlier =>
    refine .bind (each x y) fun order => ?_
    cases order with
    | gt => exact .bind later fun _ => .pure _
    | _ => exact .bind earlier fun _ => .pure _

theorem mergeSortM_tries {sends : Prop} {calls : Run Data → Prop} {compare : α → α → ExceptT ε Run Ordering}
    (each : ∀ a b, Tries sends calls (compare a b)) (items : List α) : Tries sends calls (mergeSortM compare items) := by
  fun_induction mergeSortM compare items with
  | case1 items => exact .pure items
  | case2 items long left right =>
    exact .bind left fun _ => .bind right fun _ => mergeM_tries each _ _

/-! ## Handlers -/

/-- The host provides the same operations in both scopes and answers requests alike. -/
def Scope.SameHost (scope inner : Scope) : Prop := inner.extensions = scope.extensions ∧ inner.transport = scope.transport

namespace Scope.SameHost

variable {scope inner : Scope}

theorem refl (scope : Scope) : scope.SameHost scope := ⟨rfl, rfl⟩

theorem child (same : scope.SameHost inner) : scope.SameHost inner.child := same

theorem expecting (same : scope.SameHost inner) (type : Option DataType) : scope.SameHost (inner.expecting type) := same

theorem withSkip (same : scope.SameHost inner) (skip : Option Skip) : scope.SameHost (inner.withSkip skip) := same

theorem enter (same : scope.SameHost inner) (branch : Branch) : scope.SameHost (inner.enter branch) := by
  unfold Scope.enter
  split <;> exact same

end Scope.SameHost

/-- A run of an operation value, as a handler may ask for it. -/
def Caller.Makes (caller : Caller) (scope : Scope) (run : Run Data) : Prop :=
  ∃ operation arguments, run = caller scope operation arguments

/-- An evaluation of one of the arguments. -/
def Pending.OneOf (arguments : List Pending) (scope : Scope) (run : Run Data) : Prop :=
  ∃ argument ∈ arguments, ∃ inner, scope.SameHost inner ∧ run = argument.evaluate inner

/-- An eager operation reaches the program through its caller only. -/
def EagerHandler.Confined (sends : Prop) (handler : EagerHandler) : Prop :=
  ∀ caller scope data arguments, Tries sends (caller.Makes scope) (handler caller scope data arguments)

/-- A lazy operation reaches the program through its arguments only. -/
def LazyHandler.Confined (sends : Prop) (handler : LazyHandler) : Prop :=
  ∀ scope data arguments, Tries sends (Pending.OneOf arguments scope) (handler scope data arguments)

def Handler.Confined (sends : Prop) : Handler → Prop
  | .eager run => EagerHandler.Confined sends run
  | .lazy run => LazyHandler.Confined sends run

theorem Run.Acts.calls {sends : Prop} (caller : Caller) (scope : Scope) (operation : Data) (arguments : List Data) :
    Acts sends (caller.Makes scope) (caller scope operation arguments) :=
  .call ⟨operation, arguments, rfl⟩

namespace Operation

variable {sends : Prop} {calls : Run Data → Prop}

theorem externalOf_tries (className : String) (arguments : List Statement) (instanceId : EntityId) :
    Tries sends calls (externalOf className arguments instanceId) :=
  .find className arguments instanceId

theorem expectExternal_tries (name : String) (data : Data) : Tries sends calls (expectExternal name data) := by
  unfold expectExternal
  split
  · exact externalOf_tries _ _ _
  · exact .throw _

/-! ## The families -/

theorem isEqual_confined : EagerHandler.Confined sends isEqual := fun _ _ _ _ => .bind (.read _) fun _ => .build (.boolean _)

theorem isTypeOf_confined : EagerHandler.Confined sends isTypeOf := fun _ _ _ _ => .bind (.read _) fun _ => .build (.boolean _)

theorem toText_confined : EagerHandler.Confined sends toText := fun _ _ _ _ => .build (.text _)

theorem isUndefined_confined : EagerHandler.Confined sends isUndefined := fun _ _ _ _ => .build (.boolean _)

theorem genericFamily_confined : ∀ builtin ∈ genericFamily, builtin.handler.Confined sends := by
  simp only [genericFamily, List.forall_mem_cons, List.not_mem_nil, false_implies, implies_true, and_true]
  exact ⟨isEqual_confined, isTypeOf_confined, toText_confined, isUndefined_confined⟩

theorem arithmetic_confined (name : String) (compute : Float → Float → Float) :
    EagerHandler.Confined sends (arithmetic name compute) :=
  fun _ _ _ _ => .bind (.read _) fun _ => .build (.number _)

theorem comparison_confined (name : String) (compare : Float → Float → Bool) :
    EagerHandler.Confined sends (comparison name compare) :=
  fun _ _ _ _ => .bind (.read _) fun _ => .build (.boolean _)

theorem transform_confined (name : String) (compute : Float → Float) :
    EagerHandler.Confined sends (transform name compute) :=
  fun _ _ _ _ => .bind (.read _) fun _ => .build (.number _)

theorem divide_confined : EagerHandler.Confined sends divide :=
  fun _ _ _ _ => .bind (.read _) fun _ => .reject _ (.build (.number _))

theorem modulo_confined : EagerHandler.Confined sends modulo :=
  fun _ _ _ _ => .bind (.read _) fun _ => .reject _ (.build (.number _))

theorem toRange_confined : EagerHandler.Confined sends toRange := fun _ _ _ _ =>
  .bind (.read _) fun _ => .reject _ <| .reject _ <| .bind (.mapM (fun _ => .build (.number _)) _) fun _ => .build (.array _ _)

theorem toFixed_confined : EagerHandler.Confined sends toFixed := fun _ _ _ _ =>
  .bind (.read _) fun _ => .bind (.read _) fun _ => .bind (.read _) fun _ => .reject _ (.build (.text _))

theorem numericFamily_confined : ∀ builtin ∈ numericFamily, builtin.handler.Confined sends := by
  simp only [numericFamily, List.forall_mem_cons, List.not_mem_nil, false_implies, implies_true, and_true]
  exact ⟨arithmetic_confined _ _, arithmetic_confined _ _, arithmetic_confined _ _, divide_confined, modulo_confined,
    arithmetic_confined _ _, arithmetic_confined _ _, arithmetic_confined _ _, transform_confined _ _,
    transform_confined _ _, transform_confined _ _, transform_confined _ _, comparison_confined _ _,
    comparison_confined _ _, comparison_confined _ _, comparison_confined _ _, toRange_confined, toFixed_confined⟩

/-! ### Texts -/

theorem createDate_acts (moment : Moment) : Acts sends calls (createDate moment) :=
  .bind (.draw (.text _)) fun _ => .create _ _ _ _

theorem textLength_confined : EagerHandler.Confined sends textLength := fun _ _ _ _ => .bind (.read _) fun _ => .build (.number _)

theorem concatTexts_confined : EagerHandler.Confined sends concatTexts := fun _ _ _ _ => .bind (.read _) fun _ => .build (.text _)

theorem textTest_confined (name : String) (test : String → String → Bool) : EagerHandler.Confined sends (textTest name test) :=
  fun _ _ _ _ => .bind (.read _) fun _ => .build (.boolean _)

theorem indexOfText_confined : EagerHandler.Confined sends indexOfText := fun _ _ _ _ => .bind (.read _) fun _ => .build (.number _)

theorem sliceText_confined : EagerHandler.Confined sends sliceText := fun _ _ _ _ =>
  .bind (.read _) fun _ => .bind (.read _) fun _ => .bind (.read _) fun _ => .build (.text _)

theorem splitText_confined : EagerHandler.Confined sends splitText := fun _ _ _ _ =>
  .bind (.read _) fun _ => .bind (.mapM (fun _ => .build (.text _)) _) fun _ => .build (.array _ _)

theorem textTransform_confined (name : String) (change : String → String) :
    EagerHandler.Confined sends (textTransform name change) :=
  fun _ _ _ _ => .bind (.read _) fun _ => .build (.text _)

theorem textReplacement_confined (name : String) (change : String → String → String → String) :
    EagerHandler.Confined sends (textReplacement name change) :=
  fun _ _ _ _ => .bind (.read _) fun _ => .bind (.read _) fun _ => .bind (.read _) fun _ => .bind (.read _) fun _ =>
    .build (.text _)

theorem repeatText_confined : EagerHandler.Confined sends repeatText := fun _ _ _ _ =>
  .bind (.read _) fun _ => .bind (.read _) fun _ => .bind (.read _) fun _ => .reject _ <| .reject _ <| .build (.text _)

theorem toNumber_confined : EagerHandler.Confined sends toNumber := by
  intro caller scope data arguments
  refine .bind (.read _) fun text => ?_
  split
  · exact .build (.number _)
  · exact .throw _

theorem parseJson_confined : EagerHandler.Confined sends parseJson := by
  intro caller scope data arguments
  refine .bind (.read _) fun text => ?_
  split
  · exact .build (.ofPlain _)
  · exact .throw _

theorem matchesPattern_confined : EagerHandler.Confined sends matchesPattern := by
  intro caller scope data arguments
  refine .bind (.read _) fun texts => ?_
  dsimp only
  split
  · exact .build (.boolean _)
  · exact .throw _

theorem toDate_confined : EagerHandler.Confined sends toDate := fun _ _ _ _ =>
  .bind (.read _) fun _ => .bind (.read _) fun _ => .lift (createDate_acts _)

theorem toUrl_confined : EagerHandler.Confined sends toUrl := fun _ _ _ _ =>
  .bind (.read _) fun _ => .bind (.read _) fun _ => .bind (.build (.text _)) fun _ => .lift (.create _ _ _ _)

theorem textualFamily_confined : ∀ builtin ∈ textualFamily, builtin.handler.Confined sends := by
  simp only [textualFamily, List.forall_mem_cons, List.not_mem_nil, false_implies, implies_true, and_true]
  exact ⟨textLength_confined, concatTexts_confined, textTest_confined _ _, textTest_confined _ _, textTest_confined _ _,
    indexOfText_confined, sliceText_confined, splitText_confined, textTransform_confined _ _, textTransform_confined _ _,
    textTransform_confined _ _, textReplacement_confined _ _, textReplacement_confined _ _, repeatText_confined,
    toNumber_confined, parseJson_confined, matchesPattern_confined, toDate_confined, toUrl_confined⟩

/-! ### Booleans -/

theorem branchArgument_acts (name : String) (scope : Scope) (data : Data) (index : Nat) {argument : Pending}
    {arguments : List Pending} (among : argument ∈ arguments) (branch : Branch) (expected : Option DataType) :
    Acts sends (Pending.OneOf arguments scope) (branchArgument name scope data index argument branch expected) := by
  refine .bind (.call ⟨argument, among, _, (((Scope.SameHost.refl scope).enter branch).withSkip _).expecting expected, rfl⟩) fun value => ?_
  split
  · split
    · exact .draw (.fault _)
    · exact .pure value
  · exact .pure value

theorem connective_confined (name : String) (decisive : Bool) (branch : Branch) :
    LazyHandler.Confined sends (connective name decisive branch) := by
  intro scope data arguments
  cases arguments with
  | nil => exact .throw _
  | cons argument rest =>
    refine .bind (.read _) fun left => .bind (.lift (branchArgument_acts _ _ _ _ (by simp) _ _)) fun right => ?_
    split
    · exact .build (.boolean _)
    · split
      · exact .pure right
      · exact .bind (.read _) fun _ => .build (.boolean _)

theorem negate_confined : EagerHandler.Confined sends negate := fun _ _ _ _ => .bind (.read _) fun _ => .build (.boolean _)

theorem choose_confined : LazyHandler.Confined sends choose := by
  intro scope data arguments
  unfold choose
  split
  · refine .bind (.read _) fun condition => .bind (.lift (branchArgument_acts _ _ _ _ (by simp) _ _)) fun onTrue =>
      .bind (.lift (branchArgument_acts _ _ _ _ (by simp) _ _)) fun onFalse => ?_
    generalize (if condition then onTrue else onFalse) = chosen
    dsimp only
    split
    · exact .pure chosen
    · exact .build (.make _ _)
  · exact .throw _

theorem logicFamily_confined : ∀ builtin ∈ logicFamily, builtin.handler.Confined sends := by
  simp only [logicFamily, List.forall_mem_cons, List.not_mem_nil, false_implies, implies_true, and_true]
  exact ⟨connective_confined _ _ _, connective_confined _ _ _, negate_confined, choose_confined⟩

/-! ### Sequences -/

theorem callEach_acts (caller : Caller) (scope : Scope) (operation : Data) (items : List Statement) :
    Acts sends (caller.Makes scope) (callEach caller scope operation items) :=
  .mapM (fun _ => .bind (.draw (.number _)) fun _ => .calls _ _ _ _) _

theorem answered_tries (name : String) (caller : Caller) (scope : Scope) (data : Data) (arguments : List Data) :
    Tries sends (caller.Makes scope) (answered name caller scope data arguments) :=
  .bind (.read _) fun _ => .bind (.read _) fun _ => .bind (.read _) fun _ => .bind (.lift (callEach_acts _ _ _ _)) fun _ =>
    .pure _

theorem sequenceLength_confined : EagerHandler.Confined sends sequenceLength :=
  fun _ _ _ _ => .bind (.read _) fun _ => .build (.number _)

theorem elementByIndex_confined : EagerHandler.Confined sends elementByIndex := by
  intro caller scope data arguments
  refine .bind (.read _) fun index => .bind (.read _) fun items => .bind (.read _) fun position => ?_
  split
  · exact .pure _
  · exact .build .undefined

theorem concatSequences_confined : EagerHandler.Confined sends concatSequences := fun _ _ _ _ =>
  .bind (.read _) fun _ => .bind (.read _) fun _ => .bind (.read _) fun _ => .build (.array _ _)

theorem includesElement_confined : EagerHandler.Confined sends includesElement := fun _ _ _ _ =>
  .bind (.read _) fun _ => .bind (.read _) fun _ => .build (.boolean _)

theorem indexOfElement_confined : EagerHandler.Confined sends indexOfElement := fun _ _ _ _ =>
  .bind (.read _) fun _ => .bind (.read _) fun _ => .build (.number _)

theorem join_confined : EagerHandler.Confined sends join := by
  intro caller scope data arguments
  refine .bind (.read _) fun items => ?_
  split
  · exact .bind (.read _) fun _ => .build (.text _)
  · exact .bind (.pure _) fun _ => .build (.text _)

theorem reverseSequence_confined : EagerHandler.Confined sends reverseSequence :=
  fun _ _ _ _ => .bind (.read _) fun _ => .build (.withItems _ _)

theorem sliceSequence_confined : EagerHandler.Confined sends sliceSequence := fun _ _ _ _ =>
  .bind (.read _) fun _ => .bind (.read _) fun _ => .bind (.read _) fun _ => .build (.withItems _ _)

theorem push_confined : EagerHandler.Confined sends push := fun _ _ _ _ =>
  .bind (.read _) fun _ => .bind (.read _) fun _ => .bind (.build (.statement _)) fun _ => .build (.make _ _)

theorem mapSequence_confined : EagerHandler.Confined sends mapSequence := fun _ _ _ _ =>
  .bind (.read _) fun _ => .bind (.read _) fun _ => .bind (.read _) fun _ => .bind (.lift (callEach_acts _ _ _ _)) fun _ =>
    .build (.array _ _)

theorem filterSequence_confined : EagerHandler.Confined sends filterSequence := fun _ _ _ _ =>
  .bind (answered_tries _ _ _ _ _) fun _ => .bind (.build (.keepAnswered _)) fun _ => .build (.withItems _ _)

theorem findElement_confined : EagerHandler.Confined sends findElement := by
  intro caller scope data arguments
  refine .bind (answered_tries _ _ _ _ _) fun pairs => ?_
  split
  · exact .pure _
  · exact .build .undefined

theorem someElement_confined : EagerHandler.Confined sends someElement := by
  intro caller scope data arguments
  refine .bind (.read _) fun argument => .bind (.read _) fun operation => .bind (.read _) fun items =>
    .bind (.lift (callEach_acts _ _ _ _)) fun results => ?_
  split
  · split
    · exact .pure _
    · exact .build (.boolean _)
  · exact .build (.boolean _)

theorem everyElement_confined : EagerHandler.Confined sends everyElement := by
  intro caller scope data arguments
  refine .bind (.read _) fun argument => .bind (.read _) fun operation => .bind (.read _) fun items =>
    .bind (.lift (callEach_acts _ _ _ _)) fun results => ?_
  split
  · split
    · exact .pure _
    · exact .build (.boolean _)
  · exact .build (.boolean _)

theorem compareBy_tries (caller : Caller) (scope : Scope) (comparator : Data) (a b : Statement) :
    Tries sends (caller.Makes scope) (compareBy caller scope comparator a b) := by
  refine .bind (.lift (.calls _ _ _ _)) fun result => .reject _ ?_
  dsimp only
  split
  · exact .throw _
  · exact .pure _

theorem sortSequence_confined : EagerHandler.Confined sends sortSequence := by
  intro caller scope data arguments
  refine .bind (.read _) fun items => ?_
  split
  · exact .build (.withItems _ _)
  · refine .bind (.read _) fun comparator => .bind (.lift (mergeSortM_tries (compareBy_tries caller scope comparator) items))
      fun sorted => ?_
    split
    · exact .build (.withItems _ _)
    · exact .pure _
    · exact .throw _

theorem reduceFrom_acts (caller : Caller) (scope : Scope) (operation : Data) (items : List (Statement × Nat))
    (accumulator : Data) : Acts sends (caller.Makes scope) (reduceFrom caller scope operation items accumulator) := by
  induction items generalizing accumulator with
  | nil => exact .pure accumulator
  | cons item rest ih =>
    refine .bind (.draw (.number _)) fun index => .bind (.calls _ _ _ _) fun result => ?_
    split
    · exact .pure result
    · exact ih result

theorem reduceSequence_confined : EagerHandler.Confined sends reduceSequence := fun _ _ _ _ =>
  .bind (.read _) fun _ => .bind (.read _) fun _ => .bind (.read _) fun _ => .lift (reduceFrom_acts _ _ _ _ _)

theorem sequenceFamily_confined : ∀ builtin ∈ sequenceFamily, builtin.handler.Confined sends := by
  simp only [sequenceFamily, List.forall_mem_cons, List.not_mem_nil, false_implies, implies_true, and_true]
  exact ⟨sequenceLength_confined, elementByIndex_confined, concatSequences_confined, includesElement_confined,
    indexOfElement_confined, join_confined, reverseSequence_confined, sliceSequence_confined, push_confined,
    mapSequence_confined, filterSequence_confined, findElement_confined, someElement_confined, everyElement_confined,
    sortSequence_confined, reduceSequence_confined⟩

/-! ### Objects and dictionaries -/

theorem getEntry_confined : EagerHandler.Confined sends getEntry := by
  intro caller scope data arguments
  refine .bind (.read _) fun key => .bind (.read _) fun entries => .bind (.read _) fun key => ?_
  split
  · exact .pure _
  · exact .build .undefined

theorem written_tries (data : Data) (arguments : List Data) : Tries sends calls (written data arguments) :=
  .bind (.read _) fun _ => .bind (.read _) fun _ => .bind (.read _) fun _ => .bind (.build (.statement _)) fun _ => .pure _

theorem setProperty_confined : EagerHandler.Confined sends setProperty := fun _ _ _ _ =>
  .bind (written_tries _ _) fun _ => .build (.withEntries _ _)

theorem hasEntry_confined : EagerHandler.Confined sends hasEntry := fun _ _ _ _ =>
  .bind (.read _) fun _ => .bind (.read _) fun _ => .bind (.read _) fun _ => .build (.boolean _)

theorem entryKeys_confined : EagerHandler.Confined sends entryKeys := fun _ _ _ _ =>
  .bind (.read _) fun _ => .bind (.mapM (fun _ => .build (.text _)) _) fun _ => .build (.array _ _)

theorem entryValues_confined (fallback : Data → DataType) : EagerHandler.Confined sends (entryValues fallback) :=
  fun _ _ _ _ => .bind (.read _) fun _ => .build (.array _ _)

theorem merge_confined : EagerHandler.Confined sends merge := fun _ _ _ _ =>
  .bind (.read _) fun _ => .bind (.read _) fun _ => .bind (.read _) fun _ => .build (.withEntries _ _)

theorem recordFamily_confined : ∀ builtin ∈ recordFamily, builtin.handler.Confined sends := by
  simp only [recordFamily, List.forall_mem_cons, List.not_mem_nil, false_implies, implies_true, and_true]
  exact ⟨getEntry_confined, setProperty_confined, hasEntry_confined, entryKeys_confined, entryValues_confined _,
    merge_confined⟩

theorem setElement_confined : EagerHandler.Confined sends setElement := fun _ _ _ _ =>
  .bind (written_tries _ _) fun _ => .build (.make _ _)

theorem deleteEntry_confined : EagerHandler.Confined sends deleteEntry := fun _ _ _ _ =>
  .bind (.read _) fun _ => .bind (.read _) fun _ => .bind (.read _) fun _ => .build (.make _ _)

theorem entryCount_confined : EagerHandler.Confined sends entryCount := fun _ _ _ _ => .bind (.read _) fun _ => .build (.number _)

theorem dictionaryFamily_confined : ∀ builtin ∈ dictionaryFamily, builtin.handler.Confined sends := by
  simp only [dictionaryFamily, List.forall_mem_cons, List.not_mem_nil, false_implies, implies_true, and_true]
  exact ⟨getEntry_confined, setElement_confined, hasEntry_confined, deleteEntry_confined, entryKeys_confined,
    entryValues_confined _, entryCount_confined⟩

/-! ### Unions and operations -/

theorem orElse_confined : EagerHandler.Confined sends orElse := by
  intro caller scope data arguments
  refine .bind (.read _) fun fallback => ?_
  split
  · exact .pure fallback
  · exact .build (.make _ _)

theorem optionalFamily_confined : ∀ builtin ∈ optionalFamily, builtin.handler.Confined sends := by
  simp only [optionalFamily, List.forall_mem_cons, List.not_mem_nil, false_implies, implies_true, and_true]
  exact orElse_confined

theorem call_confined : EagerHandler.Confined sends call := fun _ _ _ _ =>
  .bind (.read _) fun _ => .lift (.calls _ _ _ _)

theorem callingFamily_confined : ∀ builtin ∈ callingFamily, builtin.handler.Confined sends := by
  simp only [callingFamily, List.forall_mem_cons, List.not_mem_nil, false_implies, implies_true, and_true]
  exact call_confined

/-! ### External objects -/

theorem expectDate_tries (name : String) (data : Data) : Tries sends calls (expectDate name data) := by
  refine .bind (expectExternal_tries _ _) fun external => ?_
  cases external with
  | date moment => exact .pure moment
  | _ => exact .throw _

theorem dateField_confined (name : String) (read : Moment → Int) : EagerHandler.Confined sends (dateField name read) :=
  fun _ _ _ _ => .bind (expectDate_tries _ _) fun _ => .build (.number _)

theorem toISOString_confined : EagerHandler.Confined sends toISOString :=
  fun _ _ _ _ => .bind (expectDate_tries _ _) fun _ => .build (.text _)

theorem addDays_confined : EagerHandler.Confined sends addDays := by
  intro caller scope data arguments
  refine .bind (.read _) fun argument => .bind (expectDate_tries _ _) fun moment => .bind (.read _) fun days =>
    .reject _ ?_
  dsimp only
  split
  · exact .lift (createDate_acts _)
  · exact .throw _

theorem dateFamily_confined : ∀ builtin ∈ dateFamily, builtin.handler.Confined sends := by
  simp only [dateFamily, List.forall_mem_cons, List.not_mem_nil, false_implies, implies_true, and_true]
  exact ⟨dateField_confined _ _, toISOString_confined, dateField_confined _ _, dateField_confined _ _,
    dateField_confined _ _, dateField_confined _ _, dateField_confined _ _, dateField_confined _ _,
    dateField_confined _ _, addDays_confined⟩

theorem expectUrl_tries (name : String) (data : Data) : Tries sends calls (expectUrl name data) := by
  refine .bind (expectExternal_tries _ _) fun external => ?_
  cases external with
  | url url => exact .pure url
  | _ => exact .throw _

theorem urlField_confined (name : String) (read : Url → String) : EagerHandler.Confined sends (urlField name read) :=
  fun _ _ _ _ => .bind (expectUrl_tries _ _) fun _ => .build (.text _)

theorem searchParams_confined : EagerHandler.Confined sends searchParams := fun _ _ _ _ =>
  .bind (expectUrl_tries _ _) fun _ =>
    .bind (.mapM (fun _ => .bind (.build (.text _)) fun _ => .bind (.build (.statement _)) fun _ => .pure _) _) fun _ => .build (.make _ _)

theorem locatorFamily_confined : ∀ builtin ∈ locatorFamily, builtin.handler.Confined sends := by
  simp only [locatorFamily, List.forall_mem_cons, List.not_mem_nil, false_implies, implies_true, and_true]
  exact ⟨urlField_confined _ _, urlField_confined _ _, urlField_confined _ _, urlField_confined _ _,
    urlField_confined _ _, urlField_confined _ _, searchParams_confined⟩

theorem send_tries (allowed : sends) (scope : Scope) (data : Data) (request : Request) :
    Tries sends calls (send scope data request) := by
  refine .bind (expectExternal_tries _ _) fun external => ?_
  dsimp only
  split
  · split
    · exact .throw _
    · next transport _ =>
      refine .bind (.lift (.observe allowed _)) fun _ => ?_
      cases transport request with
      | ok response =>
        exact .bind (.build (.responseData _)) fun _ => .bind (.pure _) fun _ => .lift (.create _ _ _ _)
      | error reason => exact .bind (.pure _) fun _ => .lift (.create _ _ _ _)
  · exact .throw _

theorem httpGet_confined (allowed : sends) : EagerHandler.Confined sends httpGet := fun _ _ _ _ =>
  .bind (.read _) fun _ => .bind (.read _) fun _ => send_tries allowed _ _ _

theorem httpPost_confined (allowed : sends) : EagerHandler.Confined sends httpPost := fun _ _ _ _ =>
  .bind (.read _) fun _ => .bind (.read _) fun _ => .bind (.read _) fun _ => send_tries allowed _ _ _

theorem httpFamily_confined (allowed : sends) : ∀ builtin ∈ httpFamily, builtin.handler.Confined sends := by
  simp only [httpFamily, List.forall_mem_cons, List.not_mem_nil, false_implies, implies_true, and_true]
  exact ⟨httpGet_confined allowed, httpPost_confined allowed⟩

theorem await_confined : EagerHandler.Confined sends await := by
  intro caller scope data arguments
  refine .bind (expectExternal_tries _ _) fun external => ?_
  split
  · exact .pure _
  · exact .throw _
  · exact .throw _

theorem promiseFamily_confined : ∀ builtin ∈ promiseFamily, builtin.handler.Confined sends := by
  simp only [promiseFamily, List.forall_mem_cons, List.not_mem_nil, false_implies, implies_true, and_true]
  exact await_confined

end Operation

/-- Every built-in operation does to the world what these steps do, and reaches the program only
through what it was given. Only those on clients send requests. -/
theorem builtins_confined {sends : Prop} {builtin : Builtin} (among : builtin ∈ builtins)
    (allowed : builtin ∈ Operation.httpFamily → sends) : builtin.handler.Confined sends := by
  simp only [builtins, List.mem_append] at among
  obtain (((((((((((generic | textual) | numeric) | logic) | sequence) | record) | dictionary) | optional) | calling) | date)
    | locator) | http) | promise := among
  · exact Operation.genericFamily_confined builtin generic
  · exact Operation.textualFamily_confined builtin textual
  · exact Operation.numericFamily_confined builtin numeric
  · exact Operation.logicFamily_confined builtin logic
  · exact Operation.sequenceFamily_confined builtin sequence
  · exact Operation.recordFamily_confined builtin record
  · exact Operation.dictionaryFamily_confined builtin dictionary
  · exact Operation.optionalFamily_confined builtin optional
  · exact Operation.callingFamily_confined builtin calling
  · exact Operation.dateFamily_confined builtin date
  · exact Operation.locatorFamily_confined builtin locator
  · exact Operation.httpFamily_confined (allowed http) builtin http
  · exact Operation.promiseFamily_confined builtin promise

/-- The built-in operation that a call names is one of those. -/
theorem Scope.builtin_mem_of_find? {scope : Scope} {data : Data} {name : String} {builtin : Builtin}
    (found : scope.find? data name = some (.builtin builtin)) : builtin ∈ builtins := by
  have among := List.mem_of_find?_eq_some found
  simp only [callables, userOperations, List.mem_append, List.mem_filterMap, List.mem_map] at among
  obtain (⟨entry, -, other⟩ | ⟨extension, -, other⟩) | ⟨known, member, same⟩ := among
  · split at other <;> cases other
  · cases other
  · cases same
    exact member

theorem Scope.find?_confined {scope : Scope} {data : Data} {name : String} {builtin : Builtin}
    (found : scope.find? data name = some (.builtin builtin)) : builtin.handler.Confined True :=
  builtins_confined (builtin_mem_of_find? found) fun _ => trivial

/-! ## Evaluation in order -/

section

variable {sends : Prop} {calls : Run Data → Prop}

theorem Attempt.settle_acts {attempt : Attempt Data} (tries : Tries sends calls attempt) : Acts sends calls attempt.settle := by
  refine .bind tries fun outcome => ?_
  cases outcome with
  | ok data => exact .pure data
  | error failure => exact .draw (.error _ _)

theorem Scope.resolve_acts (scope : Scope) (data : Data) : Acts sends calls (scope.resolve data) := by
  unfold resolve
  split
  · split
    · exact .pure _
    · exact .draw (.error _ _)
  · exact .pure data

theorem evaluateArguments_tries (scope : Scope) (name : String) {arguments : List (Pending × Parameter)}
    (each : ∀ entry ∈ arguments, ∀ inner, scope.SameHost inner → calls (entry.1.evaluate inner)) (index : Nat) :
    Tries sends calls (evaluateArguments scope name arguments index) := by
  induction arguments generalizing index with
  | nil => exact .pure []
  | cons entry rest ih =>
    rw [List.forall_mem_cons] at each
    refine .bind (.lift (.call (each.1 _ ((Scope.SameHost.refl scope).child.expecting _)))) fun value => .reject _ ?_
    dsimp only
    split
    · exact .bind (.build (.fault _)) fun error => .throw error
    · exact .bind (ih each.2 (index + 1)) fun values => .pure (value :: values)

theorem skipCall_acts (scope : Scope) (callable : Callable) (data : Data) {arguments : List Pending}
    (each : ∀ argument ∈ arguments, ∀ inner, scope.SameHost inner → calls (argument.evaluate inner)) :
    Acts sends calls (skipCall scope callable data arguments) := by
  refine .bind ?_ fun values => .draw (.defaultData _ _)
  induction arguments with
  | nil => exact .pure []
  | cons argument rest ih =>
    rw [List.forall_mem_cons] at each
    rw [List.mapM_cons]
    exact .bind (.call (each.1 _ (Scope.SameHost.refl scope).child)) fun value => .bind (ih each.2) fun values =>
      .pure (value :: values)

theorem bindParameters_acts {parameters : List Pending}
    (each : ∀ parameter ∈ parameters, ∀ scope, calls (parameter.evaluate scope)) (values : List Data) (scope : Scope) :
    Acts sends calls (bindParameters parameters values scope) := by
  induction parameters generalizing values scope with
  | nil => exact .pure scope
  | cons parameter rest ih =>
    rw [List.forall_mem_cons] at each
    cases values with
    | nil => exact .bind (.call (each.1 scope)) fun value => ih each.2 [] _
    | cons value values => exact ih each.2 values _

theorem runBody_acts {body : List Pending} (each : ∀ pending ∈ body, ∀ scope, calls (pending.evaluate scope))
    (scope : Scope) : Acts sends calls (runBody body scope) := by
  refine .bind (.draw .undefined) fun last => ?_
  induction body generalizing last scope with
  | nil => exact .pure (last, scope)
  | cons pending rest ih =>
    rw [List.forall_mem_cons] at each
    refine .bind (.call (each.1 scope)) fun result => ?_
    dsimp only
    split
    · exact .pure _
    · exact ih each.2 _ result

theorem evaluateHandle_acts (data : Data) (className : String) (arguments : List Statement) (instanceId : EntityId) :
    Acts sends calls (evaluateHandle data className arguments instanceId) :=
  Attempt.settle_acts (.bind (Operation.externalOf_tries _ _ _) fun _ => .pure data)

end

end LivePipeline
