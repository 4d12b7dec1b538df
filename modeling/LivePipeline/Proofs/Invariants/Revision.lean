import LivePipeline.Proofs.Invariants

/-! Revision preserves what evaluation preserves, and so does all that is asked of an engine. -/

namespace LivePipeline

section

variable {P : World → Prop} {inside : Scope → Prop} {scope : Scope}

/-- A kind of scopes that revision does not lead out of, and a property of the world that is kept by
what is evaluated in them. -/
structure World.KeptInside (inside : Scope → Prop) (P : World → Prop) : Prop where
  child : ∀ {scope : Scope}, inside scope → inside scope.child
  expecting : ∀ {scope : Scope} (type : Option DataType), inside scope → inside (scope.expecting type)
  withNarrowing : ∀ {scope : Scope} (narrowing : Option Narrowing), inside scope → inside (scope.withNarrowing narrowing)
  publish : ∀ {scope : Scope} (name : Option String) (id : EntityId) (data : Data), inside scope → inside (scope.publish name id data)
  branch : ∀ {scope : Scope} (narrowing : Option Narrowing) (branch : Branch) (live : Bool), inside scope →
    inside (((scope.withNarrowing narrowing).enter branch).withSkip (scope.skipUnless live))
  drawn : ∀ {α : Type} {build : Fresh α}, build.Grows → Run.Keeps P (Run.draw build)
  recorded : ∀ id data, Run.Keeps P (Run.setResult id data)
  evaluateNode : ∀ {scope : Scope}, inside scope → ∀ data, Run.Keeps P (scope.evaluateNode data)
  perform : ∀ {scope : Scope}, inside scope → ∀ data operation, Run.Keeps P (scope.perform data operation)

/-- Revision that keeps the property in scopes of the kind. -/
def Revisable.Keeps (P : World → Prop) (inside : Scope → Prop) (revisable : Revisable) : Prop :=
  ∀ inner, inside inner → Run.Keeps P (revisable.revise inner)

theorem withExecutedType_keeps (operation : Data) : Run.Keeps P (withExecutedType operation) := by
  unfold withExecutedType
  refine .look fun store => ?_
  split <;> exact .pure _

/-- Revision of data, and of the arguments when it is a call. -/
structure Data.Revises (P : World → Prop) (inside : Scope → Prop) (data : Data) : Prop where
  revise : ∀ scope, inside scope → Run.Keeps P (reviseData data scope)
  arguments : ∀ argument ∈ revisableArguments data, argument.Keeps P inside

theorem Data.Revises.ofValue {data : Data} (revise : ∀ scope, inside scope → Run.Keeps P (reviseData data scope))
    (none : revisableArguments data = []) : data.Revises P inside :=
  ⟨revise, by rw [none]; simp⟩

def Statement.Revises (P : World → Prop) (inside : Scope → Prop) (statement : Statement) : Prop :=
  Revisable.Keeps P inside ⟨statement, reviseStatement statement⟩

theorem revisables_keep {statements : List Statement} (all : ∀ statement ∈ statements, statement.Revises P inside) :
    ∀ revisable ∈ revisables statements, revisable.Keeps P inside := by
  rw [revisables_eq_map, List.forall_mem_map]
  exact all

namespace World.KeptInside

variable (kept : World.KeptInside inside P)

include kept

theorem reviseEach (within : inside scope) {revisables : List Revisable}
    (each : ∀ revisable ∈ revisables, revisable.Keeps P inside) :
    Run.Ensures P (reviseEach revisables scope) fun outcome => (∀ statement ∈ outcome.1, True) ∧ inside outcome.2 := by
  refine reviseEach_ensures (fun revisable among inner within => ?_) within
  exact (each revisable among inner within).ensures.weaken fun _ _ => ⟨trivial, kept.publish _ _ _ within⟩

theorem reviseCondition (within : inside scope) {test whenTrue whenFalse : Revisable} (tests : test.Keeps P inside)
    (trues : whenTrue.Keeps P inside) (falses : whenFalse.Keeps P inside) :
    Run.Keeps P (reviseCondition scope test whenTrue whenFalse) := by
  refine .look fun store => (tests scope.child (kept.child within)).bind fun _ => ?_
  exact .bind (trues _ (kept.branch _ _ _ within)) fun _ => .bind (falses _ (kept.branch _ _ _ within)) fun _ => .pure _

theorem reviseOperation (within : inside scope) (id : EntityId) (name : Option String) {parameters : List Revisable}
    (first : ∀ parameter ∈ parameters, parameter.Keeps P inside) {reviseBody : Scope → Run (List Statement)}
    (second : ∀ inner, inside inner → Run.Keeps P (reviseBody inner)) :
    Run.Keeps P (reviseOperation scope id name parameters reviseBody) := by
  have inner := kept.child within
  refine .behind (kept.reviseEach inner first) fun outcome bound => ?_
  exact (second outcome.2 bound.2).bind fun _ => (Run.Keeps.inferType _ _).bind fun _ => .pure _

theorem reviseArgument (within : inside scope) (isLazy : Bool) (parameter : Parameter) {argument : Revisable}
    (keeps : argument.Keeps P inside) : Run.Keeps P (reviseArgument scope isLazy parameter argument) := by
  unfold LivePipeline.reviseArgument
  split
  · exact .pure _
  · exact (keeps _ (kept.expecting _ (kept.child within))).bind fun _ => .pure _

theorem repairArguments (within : inside scope) (isLazy : Bool) (parameters : List Parameter)
    {arguments : List Revisable} (each : ∀ argument ∈ arguments, argument.Keeps P inside) :
    Run.Keeps P (repairArguments scope isLazy parameters arguments) := by
  induction parameters generalizing arguments with
  | nil => cases arguments <;> exact .pure _
  | cons parameter parameters ih =>
    cases arguments with
    | nil =>
      rw [LivePipeline.repairArguments]
      split
      · exact ih each
      · exact (kept.drawn (.defaultArgument _ _)).bind fun _ => (ih each).bind fun _ => .pure _
    | cons argument arguments =>
      rw [List.forall_mem_cons] at each
      refine (kept.reviseArgument within isLazy parameter each.1).bind fun revised => ?_
      dsimp only
      split
      · exact .bind (.pure _) fun _ => (ih each.2).bind fun _ => .pure _
      · exact .bind (.bind (kept.drawn (.defaultArgument _ _)) fun _ => .pure _) fun _ => (ih each.2).bind fun _ => .pure _

theorem repairCall (within : inside scope) (data operation : Data) {arguments : List Revisable}
    (each : ∀ argument ∈ arguments, argument.Keeps P inside) : Run.Keeps P (repairCall scope data operation arguments) := by
  unfold LivePipeline.repairCall
  split
  · exact .pure _
  · split
    · exact .pure _
    · exact (kept.repairArguments within _ _ each).bind fun _ => .pure _
  · exact .pure _

theorem resolved (scope : Scope) (data : Data) : Run.Keeps P (scope.resolve data) :=
  resolve_keeps (fun _ _ => kept.drawn (.error _ _)) scope data

theorem revisionSteps : NodeSteps (fun value => ∀ id type, Data.Revises P inside ⟨id, type, value⟩) (Data.Revises P inside)
    (Statement.Revises P inside) where
  undefined _ _ := .ofValue (fun _ _ => .pure _) rfl
  text _ _ _ := .ofValue (fun _ _ => .pure _) rfl
  number _ _ _ := .ofValue (fun _ _ => .pure _) rfl
  boolean _ _ _ := .ofValue (fun _ _ => .pure _) rfl
  error _ _ _ := .ofValue (fun _ _ => .pure _) rfl
  array items all id type := by
    refine .ofValue (fun scope within => ?_) rfl
    rw [reviseData]
    have inner := kept.child within
    exact .bind (.mapM fun item among => (revisables_keep all item among scope.child inner).bind fun _ => .pure _) fun _ => .pure _
  record entries all id type := by
    have each : ∀ entry ∈ revisableEntries entries, entry.2.Keeps P inside := by
      rw [revisableEntries_eq_map, List.forall_mem_map]
      exact all
    refine .ofValue (fun scope within => ?_) rfl
    rw [reviseData]
    have inner := kept.child within
    exact .bind (.mapM fun entry among => (each entry among scope.child inner).bind fun _ => .pure _) fun _ => .pure _
  operation name parameters body first second id type := by
    refine ⟨fun scope within => ?_, revisables_keep first⟩
    rw [reviseData_operation]
    exact kept.reviseOperation within id name (revisables_keep first) fun inner bound =>
      .behind (kept.reviseEach bound (revisables_keep second)) fun _ _ => .pure _
  condition test whenTrue whenFalse tests trues falses id type := by
    refine .ofValue (fun scope within => ?_) rfl
    rw [reviseData]
    exact (kept.reviseCondition within tests trues falses).bind fun _ => .pure _
  reference name target id type := .ofValue (fun _ _ => .pure _) rfl
  handle className arguments instanceId all id type := .ofValue (fun _ _ => .pure _) rfl
  data _ type value all := all _ type
  statement id data operations name isOptional own all := by
    have each : ∀ stage ∈ repairedStages operations, ∀ current inner, inside inner → Run.Keeps P (stage current inner) := by
      induction operations with
      | nil => simp [repairedStages]
      | cons operation rest ih =>
        rw [List.forall_mem_cons] at all
        rw [repairedStages, List.forall_mem_cons]
        refine ⟨fun current inner within => ?_, ih all.2⟩
        exact (kept.repairCall within current operation all.1.arguments).bind fun repaired =>
          (kept.perform within current repaired).bind fun _ => .pure _
    intro scope within
    change Run.Keeps P (reviseStatement ⟨id, data, operations, name, isOptional⟩ scope)
    rw [reviseStatement]
    refine (own.revise scope within).bind fun revised => (kept.evaluateNode within revised).bind fun initial => ?_
    have calls (narrowing : Option Narrowing) := kept.withNarrowing narrowing (kept.child within)
    refine (runStages_keeps calls each none revised initial).bind fun outcome => ?_
    have settled (calls : List Data) : Run.Keeps P (do
        let result ← scope.resolve outcome.1
        Run.setResult id result
        return ((⟨id, revised, calls, name, isOptional⟩ : Statement), result)) :=
      (kept.resolved scope outcome.1).bind fun result => (kept.recorded id result).bind fun _ => .pure _
    dsimp only
    split
    · exact settled outcome.2
    · exact .bind (.mapM fun operation _ => withExecutedType_keeps operation) settled

theorem statement (within : inside scope) (statement : Statement) : Run.Keeps P (reviseStatement statement scope) :=
  kept.revisionSteps.ofStatement statement scope within

theorem reviseAll (within : inside scope) (statements : List Statement) :
    Run.Keeps P (LivePipeline.reviseEach (revisables statements) scope) := fun world holds =>
  (kept.reviseEach within (revisables_keep fun statement _ => kept.revisionSteps.ofStatement statement) world holds).1

end World.KeptInside

end

/-! ## Invariants of all steps -/

namespace World.Invariant

variable {P : World → Prop} {transport : Option Transport} {scope : Scope} (invariant : World.Invariant transport P)

include invariant

theorem keptInside : World.KeptInside (fun scope => scope.transport = transport) P where
  child host := host
  expecting _ host := host
  withNarrowing _ host := host
  publish _ _ _ host := (Scope.transport_publish _ _ _ _).trans host
  branch _ branch _ host := (Scope.transport_enter _ branch).trans host
  drawn grows := invariant.drawn grows
  recorded id data := invariant.recorded false id data
  evaluateNode host data := (invariant.node _ data).evaluate _ host
  perform host data operation := invariant.perform host data operation

theorem carry (host : scope.transport = transport) (statements : List Statement) :
    Run.Ensures P (scope.carry statements) (·.transport = transport) := by
  induction statements generalizing scope with
  | nil => exact .pure host
  | cons statement rest ih =>
    refine .look fun world _ => ?_
    have later (result : Data) (known : True) := ih (transport_publishes scope statement.name statement.id result host known)
    split
    · exact .bind (.pure trivial) later
    · exact .bind (invariant.evaluate host statement).ensures later

theorem revise (host : scope.transport = transport) (statements : List Statement) (edit : Option Edit) :
    Run.Keeps P (scope.revise statements edit) := by
  have inner : scope.child.transport = transport := host
  refine .behind (invariant.carry inner _) fun behind same => ?_
  exact (invariant.keptInside.reviseAll same _).bind fun _ => .pure _

theorem reviseOperation (host : scope.transport = transport) (operation : Data) (edit : Option Edit) :
    Run.Keeps P (scope.reviseOperation operation edit) := by
  unfold Scope.reviseOperation
  split
  · exact invariant.keptInside.reviseOperation host _ _
      (revisables_keep fun statement _ => invariant.keptInside.revisionSteps.ofStatement statement)
      fun inner same => invariant.revise same _ edit
  · exact .pure _

end World.Invariant

end LivePipeline
