import LivePipeline.Proofs.ErrorPassing
import LivePipeline.Proofs.Shapes.Data
import LivePipeline.Proofs.Shapes.Watching
import LivePipeline.Proofs.Skipping
import LivePipeline.Proofs.Standards.Evaluation

/-! Programs that are well written come to well-shaped results. A watched run does so whatever it comes to, as long as what
is done in place of a deception is well-shaped too. So does a run that is deceived nowhere: it is the watched one. Where
nothing is run results stand for nothing, and nothing is said about them. -/

namespace LivePipeline

open Run (Assures Conserves Ensures)

theorem made_shapes {counts : Prop} {type : DataType} {value : Value} (isLeaf : value.isLeaf = true) (admits : type.admits value = true) :
    Conserves (Run.draw (Data.make type value)) fun result => counts → result.wellShaped = true :=
  (Ensures.draw (.admitted isLeaf admits)).weaken fun _ known _ => known

/-! ## Scopes -/

/-- Gives well-shaped results when it is given well-shaped data. -/
def Extension.KeepsShapes (extension : Extension) : Prop :=
  ∀ data arguments result, data.wellShaped = true → (∀ argument ∈ arguments, argument.wellShaped = true) →
    extension.handler data arguments = .ok result → result.wellShaped = true

/-- Where code is run, the data of the variables is good. -/
structure Scope.Supplies (good : Data → Prop) (scope : Scope) : Prop where
  bound : scope.isSkipping = false → ∀ entry ∈ scope.bindings, good entry.2.data
  extensions : ∀ extension ∈ scope.extensions, extension.KeepsShapes

namespace Scope

/-- The data of the variables is well-shaped. -/
abbrev Shaped : Scope → Prop := Supplies (·.wellShaped = true)

/-- What is inside of the variables is well-shaped. A check may have given them other types. -/
abbrev Contained : Scope → Prop := Supplies (·.value.wellShaped = true)

/-- Results count where code is run, and there they are well-shaped. -/
def Yields (scope : Scope) (result : Data) : Prop := scope.isSkipping = false → result.wellShaped = true

theorem isSkipping_enter (scope : Scope) (branch : Branch) : (scope.enter branch).isSkipping = scope.isSkipping := by
  unfold enter
  split <;> rfl

theorem isSkipping_of_skipBehind {scope : Scope} {data : Data} {branch : Option (String × Nat)}
    (runs : scope.skipBehind data branch = none) : scope.isSkipping = false := by
  unfold skipBehind at runs
  split at runs
  · cases runs
  · next none => rw [isSkipping, none]; rfl

namespace Supplies

variable {good : Data → Prop} {scope : Scope}

theorem child (supplies : scope.Supplies good) : scope.child.Supplies good := ⟨supplies.bound, supplies.extensions⟩

theorem expecting (supplies : scope.Supplies good) (type : Option DataType) : (scope.expecting type).Supplies good :=
  ⟨supplies.bound, supplies.extensions⟩

theorem withNarrowing (supplies : scope.Supplies good) (narrowing : Option Narrowing) : (scope.withNarrowing narrowing).Supplies good :=
  ⟨supplies.bound, supplies.extensions⟩

/-- Code behind a skip is run only where code is run already. -/
theorem withSkip (supplies : scope.Supplies good) {skip : Option Skip} (within : skip = none → scope.isSkipping = false) :
    (scope.withSkip skip).Supplies good :=
  ⟨fun live => supplies.bound (within ((Option.isSome_eq_false_iff.trans Option.isNone_iff_eq_none).mp live)), supplies.extensions⟩

theorem publish (supplies : scope.Supplies good) (name : Option String) (id : EntityId) {data : Data}
    (new : scope.isSkipping = false → good data) : (scope.publish name id data).Supplies good := by
  cases name with
  | none => exact supplies
  | some name =>
    refine ⟨fun live => ?_, supplies.extensions⟩
    exact Table.all_insert (P := fun (found : Variable) => good found.data) (supplies.bound live) name (new live)

theorem contained (shaped : scope.Shaped) : scope.Contained :=
  ⟨fun live entry among => (Data.wellShaped_iff.mp (shaped.bound live entry among)).2, shaped.extensions⟩

/-- A check changes the types of variables only. -/
theorem enter (contained : scope.Contained) (branch : Branch) : (scope.enter branch).Contained := by
  unfold Scope.enter
  split
  · exact contained.child
  · refine ⟨fun live => ?_, contained.extensions⟩
    exact Scope.Settled.retype (P := fun found => found.data.value.wellShaped = true) (fun _ _ known => known) _ (contained.bound live)

/-- The scope of an argument that is evaluated on demand. -/
theorem behind (contained : scope.Contained) (branch : Branch) (data : Data) (argument : Option (String × Nat)) :
    ((scope.enter branch).withSkip (scope.skipBehind data argument)).Contained :=
  (contained.enter branch).withSkip fun runs => (scope.isSkipping_enter branch).trans (isSkipping_of_skipBehind runs)

/-- A scope that is not deceived has variables of the right types. -/
theorem shaped (contained : scope.Contained) (told : scope.isDeceived = false) : scope.Shaped := by
  refine ⟨fun live entry among => Data.wellShaped_iff.mpr ⟨?_, contained.bound live entry among⟩, contained.extensions⟩
  rw [isDeceived, live, Bool.not_false, Bool.true_and, List.any_eq_false] at told
  simpa using told entry among

theorem resolve (shaped : scope.Shaped) {data : Data} (otherwise : data.reference? = none → scope.Yields data) :
    Conserves (scope.resolve data) scope.Yields := by
  obtain ⟨id, type, value⟩ := data
  unfold Scope.resolve
  cases value with
  | reference name target =>
    dsimp only
    split
    · next found given =>
      refine .pure fun live => ?_
      exact Table.of_get? (P := fun (found : Variable) => found.data.wellShaped = true) (shaped.bound live) given
    · exact made_shapes rfl rfl
  | _ => exact .pure (otherwise rfl)

end Supplies

end Scope

/-! ## Statements that are not evaluated yet -/

/-- What is done in place of a deception. -/
def undefinedInstead (_ : Scope) : Run Data := Run.draw Data.undefined

/-- In scopes that are well-shaped inside the statement is evaluated to well-shaped data. -/
def Pending.KeepsShapes (pending : Pending) : Prop :=
  ∀ scope, scope.Contained → Conserves (pending.evaluate scope) scope.Yields

/-- Well-shaped data whose type says what it is, or an error. -/
structure Data.IsFirm (data : Data) : Prop where
  shaped : data.wellShaped = true
  told : data.isError = true ∨ data.type.isExplicit = true

/-- The statement is evaluated to firm data, where nothing is run as well. -/
def Pending.IsFirm (pending : Pending) : Prop :=
  ∀ scope, scope.Contained → Conserves (pending.evaluate scope) Data.IsFirm

theorem undefinedInstead_firm (scope : Scope) : Conserves (undefinedInstead scope) Data.IsFirm :=
  .draw (.bind .freshId fun _ _ => .pure ⟨rfl, .inr rfl⟩)

theorem undefinedInstead_shaped (scope : Scope) : Conserves (undefinedInstead scope) scope.Yields :=
  (undefinedInstead_firm scope).weaken fun _ firm _ => firm.shaped

theorem Pending.IsFirm.keepsShapes {pending : Pending} (firm : pending.IsFirm) : pending.KeepsShapes :=
  fun scope contained => (firm scope contained).weaken fun _ firm _ => firm.shaped

theorem Pending.KeepsShapes.watched {pending : Pending} (keeps : pending.KeepsShapes) : (pending.watched undefinedInstead).IsFirm := by
  intro scope contained
  unfold Pending.watched
  dsimp only
  split
  · exact undefinedInstead_firm scope
  · next live =>
    refine .bind (keeps scope contained) fun result known => ?_
    split
    · next told => exact .pure ⟨known (Bool.eq_false_iff.mpr live), (Bool.or_eq_true _ _).mp told⟩
    · exact undefinedInstead_firm scope

/-! ## Calls -/

section

variable {caller : Caller} {scope : Scope} {data operation : Data} {arguments : List Pending}

theorem watchArguments_keep (each : ∀ argument ∈ arguments, argument.KeepsShapes) :
    ∀ argument ∈ scope.watchArguments undefinedInstead data operation arguments, argument.KeepsShapes := by
  have modified (place : Nat) : ∀ argument ∈ arguments.modify place (Pending.watched undefinedInstead), argument.KeepsShapes := by
    intro argument among
    obtain ⟨index, given⟩ := List.mem_iff_getElem?.mp among
    rw [List.getElem?_modify] at given
    obtain ⟨original, found, rfl⟩ := Option.map_eq_some_iff.mp given
    have keeps := each original (List.mem_of_getElem? found)
    split
    · exact keeps.watched.keepsShapes
    · exact keeps
  unfold Scope.watchArguments
  split
  · split
    · exact modified _
    · exact each
  · exact each

/-- What the choice selects is firm. -/
def Selects (data : Data) (arguments : List Pending) : Prop :=
  ∀ condition, data.bool? = some condition → ∀ argument, arguments[if condition then 0 else 1]? = some argument → argument.IsFirm

theorem watchArguments_select (each : ∀ argument ∈ arguments, argument.KeepsShapes)
    (choice : scope.runsBuiltin data operation "thenElse" = true) :
    Selects data (scope.watchArguments undefinedInstead data operation arguments) := by
  intro condition decided argument given
  unfold Scope.watchArguments at given
  simp only [decided, choice, if_true, List.getElem?_modify] at given
  obtain ⟨original, found, rfl⟩ := Option.map_eq_some_iff.mp given
  exact (each original (List.mem_of_getElem? found)).watched

/-- The call gives no value a type that need not admit it. -/
structure Callable.Fits (callable : Callable) (data : Data) (arguments : List Pending) : Prop where
  selects : callable.isBuiltin = true → callable.name = "thenElse" → Selects data arguments
  told : callable.isBuiltin = true → callable.name = "orElse" → data.isVague = false

/-! ### Operations that evaluate their arguments themselves or change types -/

namespace Operation

theorem branchArgument_shapes (name : String) (contained : scope.Contained) (index : Nat) {argument : Pending}
    (keeps : argument.KeepsShapes) (branch : Branch) (expected : Option DataType) :
    Conserves (branchArgument name scope data index argument branch expected)
      fun result => scope.skipBehind data (some (name, index)) = none → result.wellShaped = true := by
  refine .bind (keeps _ ((contained.behind branch data _).expecting expected)) fun value known => ?_
  have known' (runs : scope.skipBehind data (some (name, index)) = none) : value.wellShaped = true :=
    known (congrArg Option.isSome runs)
  split
  · split
    · exact made_shapes rfl rfl
    · exact .pure known'
  · exact .pure known'

theorem branchArgument_firm (name : String) (contained : scope.Contained) (index : Nat) {argument : Pending}
    (firm : argument.IsFirm) (branch : Branch) :
    Conserves (branchArgument name scope data index argument branch none) Data.IsFirm :=
  .bind (firm _ ((contained.behind branch data _).expecting none)) fun _ known => .pure known

/-- A connective that does not decide alone runs its argument. -/
theorem connective_shapes {name : String} {decisive : Bool} (branch : Branch) (contained : scope.Contained)
    (runs : data.bool? = some (!decisive) → scope.skipBehind data (some (name, 0)) = none)
    (each : ∀ argument ∈ arguments, argument.KeepsShapes) :
    Attempt.Obeys Discipline.shapes (connective name decisive branch scope data arguments) Discipline.shapes.data := by
  cases arguments with
  | nil => exact .fail _
  | cons argument rest =>
    refine .reading fun left given => ?_
    have keeps := each argument List.mem_cons_self
    refine .bind (.lift (branchArgument_shapes name contained 0 keeps _ _)) fun right known => ?_
    split
    · exact .build (.admitted rfl rfl)
    · next undecided =>
      split
      · have other : left = !decisive := Bool.eq_not.mpr fun same => undecided (beq_iff_eq.mpr same)
        exact .pure (known (runs ((expect_eq given).trans (congrArg some other))))
      · exact .reading fun _ _ => .build (.admitted rfl rfl)

/-- An error is passed on, other data gets the type of the choice. -/
theorem chosen_shapes {onTrue onFalse chosen : Data} (among : chosen.type ∈ [onTrue.type, onFalse.type]) (firm : chosen.IsFirm) :
    Attempt.Obeys Discipline.shapes
      (if chosen.isError then return chosen
        else liftM (Data.make (choiceType onTrue.type onFalse.type chosen.type) chosen.value))
      Discipline.shapes.data := by
  split
  · exact .pure firm.shaped
  · next failed =>
    obtain ⟨admitted, inside⟩ := Data.wellShaped_iff.mp firm.shaped
    have explicit := firm.told.resolve_left failed
    exact .build (.make _ fun id => Data.wellShaped_iff.mpr ⟨choiceType_admits among explicit admitted, inside⟩)

/-- The selected argument is firm, and the type of the other one does no harm. -/
theorem choose_shapes (contained : scope.Contained) (each : ∀ argument ∈ arguments, argument.KeepsShapes)
    (selects : Selects data arguments) :
    Attempt.Obeys Discipline.shapes (choose scope data arguments) Discipline.shapes.data := by
  unfold choose
  split
  · next whenTrue whenFalse rest =>
    refine .reading fun condition given => ?_
    have selected := selects condition (expect_eq given)
    have keeps := each whenTrue (by simp)
    have keeps' := each whenFalse (by simp)
    cases condition with
    | true =>
      have firm := selected whenTrue rfl
      refine .bind (.lift (branchArgument_firm _ contained 0 firm _)) fun onTrue known => ?_
      refine .bind (.lift (branchArgument_shapes _ contained 1 keeps' _ _)) fun onFalse _ => ?_
      exact chosen_shapes (by simp) known
    | false =>
      have firm := selected whenFalse rfl
      refine .bind (.lift (branchArgument_shapes _ contained 0 keeps _ _)) fun onTrue _ => ?_
      refine .bind (.lift (branchArgument_firm _ contained 1 firm _)) fun onFalse known => ?_
      exact chosen_shapes (by simp) known
  · exact .fail _

theorem orElse_shapes {arguments : List Data} (receiver : data.wellShaped = true) (told : data.isVague = false)
    (all : ∀ argument ∈ arguments, argument.wellShaped = true) :
    Attempt.Obeys Discipline.shapes (orElse caller scope data arguments) Discipline.shapes.data := by
  refine .reading fun fallback given => ?_
  split
  · have known : fallback.wellShaped = true := first_good all given
    exact .pure known
  · next there =>
    obtain ⟨admitted, inside⟩ := Data.wellShaped_iff.mp receiver
    have explicit : data.type.dereference.isExplicit = true := by
      unfold Data.isVague at told
      split at told
      · next nothing => exact absurd nothing there
      · simpa using told
    have defined := definedType_admits explicit admitted there
    refine .build (.make _ fun id => Data.wellShaped_iff.mpr ⟨?_, inside⟩)
    split
    · rw [DataType.admits_dereference]
      exact admitted
    · exact defined

end Operation

/-! ### Calls that are run -/

/-- Code behind data that is no error is run, but for branches that cannot be reached. -/
theorem Scope.skipBehind_of_live (live : scope.isSkipping = false) (fine : data.isError = false) :
    scope.skipBehind data none = none ∧ (data.bool? = some true → scope.skipBehind data (some ("and", 0)) = none)
      ∧ (data.bool? = some false → scope.skipBehind data (some ("or", 0)) = none) := by
  have unskipped : scope.skip = none := by simpa [isSkipping] using live
  simp +contextual [skipBehind, unskipped, fine]

/-- What a call can name keeps shapes. -/
def Callable.KeepsShapes : Callable → Prop
  | .builtin known => known.Works
  | .extension known => known.KeepsShapes
  | .userDefined _ operation => operation.wellShaped = true

theorem Scope.find?_shapes (shaped : scope.Shaped) (live : scope.isSkipping = false) {name : String} {callable : Callable}
    (found : scope.find? data name = some callable) : callable.KeepsShapes := by
  rcases Scope.origin_of_find? found with ⟨entry, among, rfl⟩ | ⟨extension, among, rfl⟩ | ⟨known, among, rfl⟩
  · exact shaped.bound live entry among
  · exact shaped.extensions extension among
  · exact builtins_work known among

/-- Calls of well-shaped operation values on well-shaped data give well-shaped data. -/
def Caller.KeepsShapes (caller : Caller) : Prop :=
  ∀ scope : Scope, scope.Shaped → scope.isSkipping = false → caller.Obeys Discipline.shapes scope

theorem Builtin.Works.runLazy {builtin : Builtin} (works : builtin.Works) {run : LazyHandler} (handler : builtin.handler = .lazy run)
    (shaped : scope.Shaped) (live : scope.isSkipping = false) (fine : data.isError = false)
    (each : ∀ argument ∈ arguments, argument.KeepsShapes) (fits : (Callable.builtin builtin).Fits data arguments) :
    Attempt.Obeys Discipline.shapes (run scope data arguments) Discipline.shapes.data := by
  obtain ⟨-, conjunction, disjunction⟩ := scope.skipBehind_of_live live fine
  cases works with
  | obedient obeys => rw [handler] at obeys; cases obeys
  | conjunction same =>
    cases handler.symm.trans same
    exact Operation.connective_shapes _ shaped.contained conjunction each
  | disjunction same =>
    cases handler.symm.trans same
    exact Operation.connective_shapes _ shaped.contained disjunction each
  | choice named same =>
    cases handler.symm.trans same
    exact Operation.choose_shapes shaped.contained each (fits.selects rfl named)
  | fallback named same => cases handler.symm.trans same

theorem Builtin.Works.runEager {builtin : Builtin} (works : builtin.Works) {run : EagerHandler} (handler : builtin.handler = .eager run)
    (calls : caller.KeepsShapes) (shaped : scope.Shaped) (live : scope.isSkipping = false) (receiver : data.wellShaped = true)
    {values : List Data} (all : ∀ value ∈ values, value.wellShaped = true)
    (told : builtin.name = "orElse" → data.isVague = false) :
    Attempt.Obeys Discipline.shapes (run caller scope data values) Discipline.shapes.data := by
  cases works with
  | obedient obeys =>
    rw [handler] at obeys
    exact obeys Discipline.shapes caller scope data values (calls scope shaped live) receiver all
  | conjunction same | disjunction same | choice _ same => cases handler.symm.trans same
  | fallback named same =>
    cases handler.symm.trans same
    exact Operation.orElse_shapes receiver (told named) all

theorem runCached_shapes (key : String) (operationId : EntityId) {run : Run Data} (conserves : Conserves run Discipline.shapes.data) :
    Conserves (runCached key operationId run) Discipline.shapes.data := by
  apply runCached_ensures key _ _ _ conserves
  · exact fun _ result kept found => kept.fingerprints key result found
  · exact fun _ result kept _ => kept.record true operationId result
  · exact fun _ _ kept known => kept.remember key known

theorem runEager_shapes (calls : caller.KeepsShapes) (shaped : scope.Shaped) (live : scope.isSkipping = false)
    (fine : data.isError = false) {callable : Callable} (keeps : callable.KeepsShapes) (fits : callable.Fits data arguments)
    (operationId : EntityId) (receiver : data.wellShaped = true) {values : List Data}
    (all : ∀ value ∈ values, value.wellShaped = true) :
    Conserves (runEager caller scope callable operationId data values) Discipline.shapes.data := by
  cases callable with
  | builtin builtin =>
    rw [runEager]
    cases handler : builtin.handler with
    | eager run =>
      have work := (keeps.runEager handler calls shaped live receiver all (fits.told rfl)).settle
      dsimp only
      split
      · exact runCached_shapes _ _ work
      · exact work
    | lazy run =>
      have alone : (Callable.builtin builtin).Fits data [] := by
        refine ⟨fun _ _ condition _ argument given => ?_, fits.told⟩
        rw [List.getElem?_nil] at given
        cases given
      exact (keeps.runLazy handler shaped live fine (by simp) alone).settle
  | extension extension =>
    refine .bind (.observe _) fun _ _ => ?_
    cases given : extension.handler data values with
    | ok result => exact .pure (keeps data values result receiver all given)
    | error reason => exact .draw (.admitted rfl rfl)
  | userDefined name operation =>
    exact calls scope shaped live operation (data :: values) keeps (List.forall_mem_cons.mpr ⟨receiver, all⟩)

theorem invoke_shapes (calls : caller.KeepsShapes) (shaped : scope.Shaped) (live : scope.isSkipping = false)
    (fine : data.isError = false) {callable : Callable} (keeps : callable.KeepsShapes) (fits : callable.Fits data arguments)
    (operationId : EntityId) (receiver : data.wellShaped = true) (each : ∀ argument ∈ arguments, argument.KeepsShapes) :
    Conserves (invoke caller scope callable operationId data arguments) Discipline.shapes.data := by
  unfold invoke
  dsimp only
  split
  · exact .draw (.admitted rfl rfl)
  · rw [live, if_neg Bool.false_ne_true]
    split
    · exact (keeps.runLazy rfl shaped live fine each fits).settle
    · have evaluated : Assures Discipline.shapes.world (evaluateArguments scope callable.name (arguments.zip (callable.expected data)) 0)
          Discipline.shapes.data fun values => ∀ value ∈ values, Discipline.shapes.data value := by
        refine evaluateArguments_assures (fun _ _ => .draw (.admitted rfl rfl)) callable.name (fun entry among type => ?_) 0
        have argument := each entry.1 (List.of_mem_zip among).1 _ (shaped.contained.child.expecting type)
        exact argument.weaken fun _ known => known live
      refine .bind evaluated fun outcome met => ?_
      cases outcome with
      | ok values => exact runEager_shapes calls shaped live fine keeps fits operationId receiver met
      | error error => exact .pure met

/-! ### Calls that are skipped -/

theorem invoke_skipped (skipping : scope.isSkipping = true) (contained : scope.Contained) (callable : Callable) (operationId : EntityId)
    (each : ∀ argument ∈ arguments, argument.KeepsShapes) :
    Conserves (invoke caller scope callable operationId data arguments) fun _ => True := by
  unfold invoke
  dsimp only
  split
  · exact .drawAny (.fault _)
  · rw [if_pos skipping]
    refine .bind (.mapM fun argument among => each argument among _ contained.child) fun values _ => ?_
    exact .drawAny (.defaultData _ _)

theorem callResult_skipped (skipping : scope.isSkipping = true) (contained : scope.Contained)
    (each : ∀ argument ∈ arguments, argument.KeepsShapes) :
    Conserves (callResult caller scope data operation arguments) fun _ => True := by
  have skipped : (scope.withSkip (scope.skipBehind data none)).isSkipping = true := by
    cases skip : scope.skipBehind data none with
    | none => rw [Scope.isSkipping_of_skipBehind skip] at skipping; cases skipping
    | some _ => rfl
  unfold callResult
  dsimp only
  split
  · exact .pure trivial
  · split
    · split
      · exact invoke_skipped skipped (contained.withSkip Scope.isSkipping_of_skipBehind) _ _ each
      · exact .drawAny (.fault _)
    · exact .drawAny (.fault _)
    · exact .drawAny (.fault _)

/-! ### All calls -/

theorem Scope.runsBuiltin_of_find? (live : scope.isSkipping = false) (fine : data.isError = false) {called name : String}
    {parameters body : List Statement} (call : operation.value = .operation (some called) parameters body) {callable : Callable}
    (found : scope.find? data called = some callable) (native : callable.isBuiltin = true) (named : callable.name = name) :
    scope.runsBuiltin data operation name = true := by
  have same : callable.name = called := by
    have fits := List.find?_some found
    rw [Bool.and_eq_true, beq_iff_eq] at fits
    exact fits.1
  have named' : called = name := same.symm.trans named
  rw [named'] at call found
  simp [runsBuiltin, live, fine, call, found, native]

/-- A call that gives no value a type which need not admit it. -/
theorem performCall_shapes (calls : caller.KeepsShapes) (shaped : scope.Shaped) (receiver : scope.Yields data)
    (each : ∀ argument ∈ arguments, argument.KeepsShapes)
    (selects : scope.runsBuiltin data operation "thenElse" = true → Selects data arguments)
    (told : scope.runsBuiltin data operation "orElse" = true → data.isVague = false) :
    Conserves (performCall caller scope data operation arguments) scope.Yields := by
  -- Of a skipped call only the arguments are evaluated, and a call on an error is not made at all.
  have made : Conserves (callResult caller scope data operation arguments) scope.Yields := by
    cases live : scope.isSkipping with
    | true => exact (callResult_skipped live shaped.contained each).weaken fun _ _ runs => nomatch live.symm.trans runs
    | false =>
      unfold callResult
      cases fails : data.isError with
      | true =>
        rw [scope.skipBehind_of_isError live fails]
        exact .pure receiver
      | false =>
        rw [(scope.skipBehind_of_live live fails).1]
        dsimp only
        split
        · next called parameters body call =>
          split
          · next callable found =>
            have native {name : String} := @Scope.runsBuiltin_of_find? scope data operation live fails called name _ _ call _ found
            have fits : callable.Fits data arguments :=
              ⟨fun own named => selects (native own named), fun own named => told (native own named)⟩
            have unskipped : (scope.withSkip none).Shaped := shaped.withSkip fun _ => live
            have keeps := scope.find?_shapes shaped live found
            exact (invoke_shapes calls unskipped rfl fails keeps fits operation.id (receiver live) each).weaken fun _ known _ => known
          · exact made_shapes rfl rfl
        · exact made_shapes rfl rfl
        · exact made_shapes rfl rfl
  refine .bind made fun result known => ?_
  exact .bind (.update fun _ kept => kept.record false operation.id result) fun _ _ => .pure known

/-- A call is watched, and is left out where it could deceive. -/
theorem watchCall_shapes (calls : caller.KeepsShapes) (shaped : scope.Shaped) (receiver : scope.Yields data) (operation : Data)
    (each : ∀ argument ∈ arguments, argument.KeepsShapes) :
    Conserves (watchCall undefinedInstead caller scope data operation arguments) scope.Yields := by
  unfold watchCall
  split
  · exact undefinedInstead_shaped scope
  · next told =>
    rw [Bool.and_eq_true, not_and, Bool.not_eq_true] at told
    exact performCall_shapes calls shaped receiver (watchArguments_keep each) (watchArguments_select each) told

/-! ## Nodes -/

theorem evaluateCondition_shapes (shaped : scope.Shaped) {test whenTrue whenFalse : Pending} (tests : test.KeepsShapes)
    (trues : whenTrue.KeepsShapes) (falses : whenFalse.KeepsShapes) :
    Conserves (evaluateCondition scope test whenTrue whenFalse) scope.Yields := by
  refine .look fun world _ => .bind (tests _ shaped.contained.child) fun result known => ?_
  have inside (branch : Branch) (taken : Bool) :
      (((scope.withNarrowing (scope.checkStatement world.store test.statement)).enter branch).withSkip
        (scope.skipUnless taken)).Contained := by
    -- The branch that is not taken is skipped, so nothing is asked of its variables.
    refine ((shaped.contained.withNarrowing _).enter branch).withSkip fun runs => ?_
    rw [Scope.isSkipping_enter, Scope.isSkipping_withNarrowing]
    cases taken with
    | true => exact congrArg Option.isSome runs
    | false => cases runs
  dsimp only
  split
  · exact .pure known
  · refine .bind (trues _ (inside _ _)) fun onTrue first => .bind (falses _ (inside _ _)) fun onFalse second => .pure ?_
    intro live
    split
    · next taken => exact first (by rw [taken]; exact live)
    · next other => exact second (by rw [Bool.eq_false_iff.mpr other]; exact live)

theorem evaluateChild_shapes (contained : scope.Contained) (expected : Option DataType) {child : Pending} (keeps : child.KeepsShapes) :
    Conserves (evaluateChild scope expected child) fun statement => scope.Yields statement.data :=
  .bind (keeps _ (contained.child.expecting expected)) fun _ known => .pure known

theorem inferType_shapes (scope : Scope) {value : Value} (admits : ∀ hints, (value.inferType hints).admits value = true) :
    Conserves (scope.inferType value) fun type => type.admits value = true :=
  .look fun _ _ => .pure (admits _)

theorem rebuild_shapes (scope : Scope) (id : EntityId) (type : DataType) {value : Value}
    (admits : ∀ hints, (value.inferType hints).admits value = true) (inside : scope.isSkipping = false → value.wellShaped = true) :
    Conserves (rebuild scope id type value) scope.Yields :=
  .bind (inferType_shapes _ admits) fun _ admitted => .pure fun live => Data.wellShaped_iff.mpr ⟨admitted, inside live⟩

theorem admits_inferArray (hints : TypeHints) (items : List Statement) :
    ((Value.array items).inferType hints).admits (.array items) = true := by
  unfold Value.inferType Value.inferArray
  dsimp only
  split
  · rfl
  · split <;> rfl

theorem admits_inferRecord (hints : TypeHints) (entries : List (String × Statement)) :
    ((Value.record entries).inferType hints).admits (.record entries) = true := by
  unfold Value.inferType Value.inferRecord
  dsimp only
  split
  · split <;> rfl
  · rfl

theorem evaluateArray_shapes (contained : scope.Contained) (id : EntityId) (type : DataType) {items : List Pending}
    (each : ∀ item ∈ items, item.KeepsShapes) : Conserves (evaluateArray scope id type items) scope.Yields := by
  refine .bind (show Ensures _ _ fun (made : List Statement) => ∀ item ∈ made, scope.Yields item.data from ?_) fun statements all => ?_
  · exact .mapM fun entry among => evaluateChild_shapes contained _ (each entry.1 (List.fst_mem_of_mem_zipIdx among))
  · exact rebuild_shapes scope id type (admits_inferArray · statements) fun live =>
      itemsWellShaped_iff.mpr fun item among => all item among live

theorem evaluateRecord_shapes (contained : scope.Contained) (id : EntityId) (type : DataType) {entries : List (String × Pending)}
    (each : ∀ entry ∈ entries, entry.2.KeepsShapes) :
    Conserves (evaluateRecord scope id type entries) scope.Yields := by
  refine .bind (show Ensures _ _ fun (made : List (String × Statement)) => ∀ entry ∈ made, scope.Yields entry.2.data from ?_)
    fun statements all => ?_
  · refine .mapM fun entry among => ?_
    have keeps := each entry.1 (List.fst_mem_of_mem_zipIdx among)
    exact .bind (evaluateChild_shapes contained _ keeps) fun statement known => .pure known
  · exact rebuild_shapes scope id type (admits_inferRecord · statements) fun live =>
      entriesWellShaped_iff.mpr fun entry among => all entry among live

/-! ### Sequences of statements -/

/-- Well-shaped scopes in which code is run, or in which all of it is skipped. -/
def Scope.ShapedAlong (skipping : Bool) (scope : Scope) : Prop := scope.Shaped ∧ scope.isSkipping = skipping

theorem Scope.ShapedAlong.publishes (skipping : Bool) :
    Publishes (Scope.ShapedAlong skipping) fun result => skipping = false → result.wellShaped = true := by
  rintro scope name id data ⟨shaped, same⟩ new
  exact ⟨shaped.publish name id fun live => new (same.symm.trans live), (scope.isSkipping_publish name id data).trans same⟩

theorem Pending.KeepsShapes.comesTo {pending : Pending} (keeps : pending.KeepsShapes) (skipping : Bool) :
    pending.ComesTo Discipline.shapes.world (Scope.ShapedAlong skipping) fun result => skipping = false → result.wellShaped = true := by
  rintro scope ⟨shaped, rfl⟩
  exact keeps scope shaped.contained

theorem undefined_shapes (skipping : Bool) :
    Conserves (Run.draw Data.undefined) fun result => skipping = false → result.wellShaped = true :=
  made_shapes rfl rfl

theorem previewBody_shapes (shaped : scope.Shaped) {parameters body : List Pending}
    (first : ∀ pending ∈ parameters, pending.KeepsShapes) (second : ∀ pending ∈ body, pending.KeepsShapes) :
    Conserves (previewBody scope parameters body) scope.Yields := by
  have first' := fun pending among => (first pending among).comesTo scope.isSkipping
  have second' := fun pending among => (second pending among).comesTo scope.isSkipping
  exact previewBody_ensures (.publishes _) (undefined_shapes _) first' second' (fun _ => rfl) ⟨shaped.child, rfl⟩

theorem bindParameters_shapes (shaped : scope.ShapedAlong false) {parameters : List Pending}
    (each : ∀ parameter ∈ parameters, parameter.KeepsShapes) {values : List Data}
    (all : ∀ value ∈ values, value.wellShaped = true) : Conserves (bindParameters parameters values scope) (Scope.ShapedAlong false) := by
  have each' := fun parameter among => (each parameter among).comesTo false
  exact bindParameters_ensures (.publishes false) each' (fun value among _ => all value among) shaped

theorem runBody_shapes (shaped : scope.ShapedAlong false) {body : List Pending} (each : ∀ pending ∈ body, pending.KeepsShapes) :
    Conserves (runBody body scope) fun outcome => outcome.1.wellShaped = true ∧ outcome.2.ShapedAlong false := by
  have each' := fun pending among => (each pending among).comesTo false
  exact (runBody_ensures (.publishes false) (undefined_shapes false) each' shaped).weaken fun _ known => ⟨known.1 rfl, known.2⟩

/-! ### Programs -/

/-- Evaluation of data, and of the arguments when it is a call. -/
structure Data.KeepsShapes (caller : Caller) (data : Data) : Prop where
  evaluate : ∀ scope : Scope, scope.Shaped → Conserves (watchData undefinedInstead caller data scope) scope.Yields
  arguments : ∀ argument ∈ watchArguments undefinedInstead caller data, argument.KeepsShapes

def Statement.KeepsShapes (caller : Caller) (statement : Statement) : Prop :=
  Pending.KeepsShapes ⟨statement, watchStatement undefinedInstead caller statement⟩

theorem watchAll_shapes {statements : List Statement} (all : ∀ statement ∈ statements, statement.KeepsShapes caller) :
    ∀ pending ∈ watchAll undefinedInstead caller statements, pending.KeepsShapes := by
  rw [watchAll_eq_map, List.forall_mem_map]
  exact all

/-- Data that is no call has no arguments. -/
theorem Data.KeepsShapes.ofValue
    (evaluate : ∀ scope : Scope, scope.Shaped → Conserves (watchData undefinedInstead caller data scope) scope.Yields)
    (none : watchArguments undefinedInstead caller data = []) : data.KeepsShapes caller where
  evaluate := evaluate
  arguments := by rw [none]; simp

/-- What is handed out as it is written. -/
theorem leaf_shapes (id : EntityId) {type : DataType} {value : Value} (isLeaf : value.isLeaf = true) (admits : type.admits value = true) :
    Conserves (pure ⟨id, type, value⟩) scope.Yields :=
  .pure fun _ => Data.wellShaped_iff.mpr ⟨admits, Value.wellShaped_of_isLeaf isLeaf⟩

theorem evaluateHandle_shapes (id : EntityId) {type : DataType} {className : String} {arguments : List Statement}
    {instanceId : EntityId} (admits : type.admits (.handle className arguments instanceId) = true) :
    Conserves
      (evaluateHandle ⟨id, type, .handle className arguments instanceId⟩ className arguments instanceId) Discipline.shapes.data := by
  apply Attempt.Obeys.settle
  exact .bind (Operation.externalOf_obeys _ _ _) fun _ _ => .pure (Discipline.shapes.leaf id rfl admits)

theorem watchStages_shapes (calls : caller.KeepsShapes) (shaped : scope.Shaped) {operations : List Data}
    (all : ∀ operation ∈ operations, operation.KeepsShapes caller) :
    ∀ stage ∈ watchStages undefinedInstead caller operations, ∀ narrowing current, scope.Yields current →
      Conserves (stage current (scope.child.withNarrowing narrowing)) fun made => True ∧ scope.Yields made.2 := by
  induction operations with
  | nil => simp [watchStages]
  | cons operation rest ih =>
    rw [List.forall_mem_cons] at all
    rw [watchStages, List.forall_mem_cons]
    refine ⟨fun narrowing current start => ?_, ih all.2⟩
    have made := watchCall_shapes calls (shaped.child.withNarrowing narrowing) start operation all.1.arguments
    exact .bind made fun result known => .pure ⟨trivial, known⟩

/-- Evaluation goes by the nodes of the program: each keeps shapes when its parts do. -/
theorem watch_steps (calls : caller.KeepsShapes) :
    NodeSteps (fun value => ∀ type, value.wellWritten type = true → ∀ id, Data.KeepsShapes caller ⟨id, type, value⟩)
      (fun data => data.wellWritten = true → data.KeepsShapes caller)
      (fun statement => statement.wellWritten = true → statement.KeepsShapes caller) where
  undefined _ written id := .ofValue (fun _ _ => leaf_shapes id rfl written) rfl
  text _ _ written id := .ofValue (fun _ _ => leaf_shapes id rfl written) rfl
  number _ _ written id := .ofValue (fun _ _ => leaf_shapes id rfl written) rfl
  boolean _ _ written id := .ofValue (fun _ _ => leaf_shapes id rfl written) rfl
  error _ _ written id := .ofValue (fun _ _ => leaf_shapes id rfl written) rfl
  array items all type written id := by
    rw [Value.wellWritten, allWellWritten_iff] at written
    have each := watchAll_shapes fun item among => all item among (written item among)
    exact .ofValue (fun _ shaped => evaluateArray_shapes shaped.contained id type each) rfl
  record entries all type written id := by
    rw [Value.wellWritten, entriesWellWritten_iff] at written
    refine .ofValue (fun _ shaped => evaluateRecord_shapes shaped.contained id type ?_) rfl
    rw [watchEntries_eq_map, List.forall_mem_map]
    exact fun entry among => all entry among (written entry among)
  operation name parameters body first second type written id := by
    have inside : (Value.operation name parameters body).wellShaped = true := written
    rw [Value.wellWritten, Bool.and_eq_true, allWellWritten_iff, allWellWritten_iff] at written
    have first' := watchAll_shapes fun parameter among => first parameter among (written.1 parameter among)
    have second' := watchAll_shapes fun statement among => second statement among (written.2 statement among)
    refine ⟨fun scope shaped => ?_, first'⟩
    refine .bind (previewBody_shapes shaped first' second') fun _ _ => ?_
    refine .bind (inferType_shapes scope fun _ => rfl) fun inferred admitted => .pure fun _ => ?_
    exact Data.wellShaped_iff.mpr ⟨admitted, inside⟩
  condition test whenTrue whenFalse tests trues falses type written id := by
    rw [Value.wellWritten, Bool.and_eq_true, Bool.and_eq_true] at written
    obtain ⟨⟨test, onTrue⟩, onFalse⟩ := written
    exact .ofValue (fun _ shaped => evaluateCondition_shapes shaped (tests test) (trues onTrue) (falses onFalse)) rfl
  reference name target type _ id := .ofValue (fun _ shaped => shaped.resolve fun none => nomatch none) rfl
  handle className arguments instanceId _ type written id :=
    .ofValue (fun _ _ => (evaluateHandle_shapes id written).weaken fun _ known _ => known) rfl
  data id type value all written := all type written id
  statement id data operations name isOptional own all written := by
    rw [Statement.wellWritten, Bool.and_eq_true, callsWellWritten_iff] at written
    have each := fun operation among => all operation among (written.2 operation among)
    intro scope contained
    dsimp only
    rw [watchStatement]
    -- A check may have given the variables types that do not fit them. Where they do fit, the scope is well-shaped.
    split
    · exact undefinedInstead_shaped scope
    · next told =>
      have shaped := contained.shaped (Bool.eq_false_iff.mpr told)
      refine .bind ((own written.1).evaluate scope shaped) fun initial start => ?_
      refine .bind (runStages_ensures (fun _ => True) (watchStages_shapes calls shaped each) none data start) fun outcome known => ?_
      refine .bind (shaped.resolve fun _ => known.1) fun result final => ?_
      exact .bind (.update fun _ kept => kept.record false id result) fun _ _ => .pure final

/-! ## Callers -/

/-- By induction on the levels that are left: a body is evaluated with one level less. -/
theorem watchingCaller_shapes (levels : Nat) : (watchingCaller undefinedInstead levels).KeepsShapes := by
  induction levels with
  | zero => exact fun _ _ _ _ _ _ _ => .draw (.admitted rfl rfl)
  | succ levels ih =>
    intro scope shaped live operation arguments operates all
    unfold watchingCaller
    split
    · next name parameters body called =>
      have written := (Data.wellShaped_iff.mp operates).2
      rw [called, Value.wellShaped, Bool.and_eq_true, allWellWritten_iff, allWellWritten_iff] at written
      have statements := (watch_steps ih).ofStatement
      have first := watchAll_shapes fun parameter among => statements parameter (written.1 parameter among)
      have second := watchAll_shapes fun statement among => statements statement (written.2 statement among)
      have inner : Scope.ShapedAlong false { scope.child with callDepth := scope.callDepth + 1 } :=
        ⟨⟨shaped.bound, shaped.extensions⟩, live⟩
      refine .bind (bindParameters_shapes inner first all) fun bound known => ?_
      exact .bind (runBody_shapes known second) fun _ ends => .pure ends.1
    · exact .draw (.admitted rfl rfl)

/-- What watched statements come to is well-shaped: the result, the variables, and what the store may hand out again. -/
theorem evaluateWatched_shapes {statements : List Statement} (written : ∀ statement ∈ statements, statement.wellWritten = true)
    (shaped : scope.ShapedAlong false) :
    Conserves (scope.evaluateWatched undefinedInstead statements)
      fun outcome => outcome.1.wellShaped = true ∧ outcome.2.ShapedAlong false := by
  refine runBody_shapes shaped (watchAll_shapes fun statement among => ?_)
  exact (watch_steps (watchingCaller_shapes _)).ofStatement statement (written statement among)

end

/-! ## Results -/

/-- A run that is deceived nowhere comes to well-shaped data. -/
theorem results_well_shaped (scope : Scope) (statements : List Statement) (world : World) (live : scope.isSkipping = false)
    (bound : ∀ entry ∈ scope.bindings, entry.2.data.wellShaped = true)
    (extensions : ∀ extension ∈ scope.extensions, extension.KeepsShapes)
    (kept : world.WellShaped) (written : ∀ statement ∈ statements, statement.wellWritten = true)
    (undeceived : scope.Undeceived statements world) :
    let ended := scope.evaluateAll statements world
    ended.1.1.wellShaped = true ∧ (∀ entry ∈ ended.1.2.bindings, entry.2.data.wellShaped = true) ∧ ended.2.WellShaped := by
  have shaped : scope.ShapedAlong false := ⟨⟨fun _ => bound, extensions⟩, live⟩
  obtain ⟨kept', result, behind⟩ := evaluateWatched_shapes written shaped world kept
  rw [undeceived] at kept' result behind
  exact ⟨result, behind.1.bound behind.2, kept'⟩

/-- A variable that is used in the branch behind a check of its type. -/
theorem results_well_shaped_checked :
    let word (id text : String) : Statement := ⟨id, ⟨"text", .string, .text text⟩, [], none, false⟩
    let use (id : String) (operations : List Data) : Statement :=
      ⟨id, ⟨"use", .reference .string, .reference "x" "declared"⟩, operations, none, false⟩
    let test := use "test" [⟨"check", .unknown, .operation (some "isTypeOf") [word "sample" ""] []⟩]
    let statement : Statement := ⟨"statement", ⟨"choice", .condition .string, .condition test (use "kept" []) (word "other" "no")⟩,
      [], none, false⟩
    let scope : Scope := { bindings := [("x", ⟨"declared", ⟨"greeting", .union [.string, .number] (some 0), .text "hi"⟩⟩)] }
    let ended := scope.evaluateAll [statement] {}
    ended.1.1.wellShaped = true ∧ (∀ entry ∈ ended.1.2.bindings, entry.2.data.wellShaped = true) ∧ ended.2.WellShaped := by
  intro word use test statement scope
  have bound : ∀ entry ∈ scope.bindings, entry.2.data.wellShaped = true := by
    rw [List.forall_mem_singleton]
    rfl
  have written : ∀ only ∈ [statement], only.wellWritten = true := by
    rw [List.forall_mem_singleton]
    rfl
  -- Both sides are evaluated by themselves: compared step by step they take far longer.
  let result : Data := ⟨"greeting", .string, .text "hi"⟩
  let answer : Data := ⟨.drawn 1, .boolean, .boolean true⟩
  let results := [("sample", (word "sample" "").data), ("check", answer), ("test", answer), ("kept", result),
    ("other", (word "other" "no").data), ("statement", result)]
  let after : World := { nextId := 2, store := { results := results.map fun entry => (entry.1, ⟨entry.2, false⟩) } }
  have undeceived : scope.Undeceived [statement] {} := by
    intro instead
    apply Prod.ext
    · exact (rfl : _ = (result, scope)).trans rfl
    · exact (rfl : _ = after).trans rfl
  exact results_well_shaped scope [statement] {} rfl bound (List.forall_mem_nil _) .initial written undeceived

end LivePipeline
