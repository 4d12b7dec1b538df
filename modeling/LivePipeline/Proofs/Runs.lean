import LivePipeline.Revision

/-! What runs ensure: the worlds that a run keeps to, and what is known of its outcome. Sequences of statements ensure what
each of them does, in whatever scopes stay fit when its result is published. -/

namespace LivePipeline

/-- From a world that is `kept` the run comes to one again, and to a good outcome. -/
def Run.Ensures (kept : World → Prop) (run : Run α) (good : α → Prop) : Prop :=
  ∀ world, kept world → kept (run world).2 ∧ good (run world).1

/-- What is known of an outcome, be it a value or an error. -/
def Meets (fails : ε → Prop) (good : α → Prop) : Except ε α → Prop
  | .ok value => good value
  | .error error => fails error

/-- Work that comes to a kept world and to a good outcome, whether it fails or comes to a value. -/
def Run.Assures (kept : World → Prop) (work : ExceptT ε Run α) (fails : ε → Prop) (good : α → Prop) : Prop :=
  Run.Ensures kept work.run (Meets fails good)

section

variable {kept : World → Prop}

namespace Run.Ensures

protected theorem pure {value : α} {good : α → Prop} (holds : good value) : Ensures kept (Pure.pure value) good :=
  fun _ remains => ⟨remains, holds⟩

protected theorem bind {run : Run α} {next : α → Run β} {middle : α → Prop} {good : β → Prop}
    (first : Ensures kept run middle) (second : ∀ value, middle value → Ensures kept (next value) good) :
    Ensures kept (run >>= next) good :=
  fun world holds => second _ (first world holds).2 _ (first world holds).1

theorem weaken {run : Run α} {good good' : α → Prop} (ensures : Ensures kept run good)
    (implied : ∀ value, good value → good' value) : Ensures kept run good' :=
  fun world holds => (ensures world holds).imp_right (implied _)

/-- Looking at the store. -/
theorem look {next : Store → Run α} {good : α → Prop}
    (second : ∀ world, kept world → Ensures kept (next world.store) good) : Ensures kept (Run.store >>= next) good :=
  fun world holds => second world holds world holds

/-- Changing the store in a way that keeps the world. -/
theorem update {change : Store → Store} (keeps : ∀ world, kept world → kept { world with store := change world.store }) :
    Ensures kept (Run.updateStore change) fun _ => True :=
  fun world holds => ⟨keeps world holds, trivial⟩

theorem mapM {work : α → Run β} {good : β → Prop} {items : List α} (each : ∀ item ∈ items, Ensures kept (work item) good) :
    Ensures kept (items.mapM work) fun values => ∀ value ∈ values, good value := by
  induction items with
  | nil => exact .pure (by simp)
  | cons item rest ih =>
    rw [List.forall_mem_cons] at each
    rw [List.mapM_cons]
    refine .bind each.1 fun value first => .bind (ih each.2) fun values others => .pure ?_
    exact List.forall_mem_cons.mpr ⟨first, others⟩

end Run.Ensures

namespace Run.Assures

variable {fails : ε → Prop}

protected theorem pure {value : α} {good : α → Prop} (holds : good value) :
    Assures kept (Pure.pure value : ExceptT ε Run α) fails good := fun _ remains => ⟨remains, holds⟩

protected theorem throw {error : ε} {good : α → Prop} (holds : fails error) :
    Assures kept (throw error : ExceptT ε Run α) fails good := fun _ remains => ⟨remains, holds⟩

protected theorem bind {work : ExceptT ε Run α} {next : α → ExceptT ε Run β} {middle : α → Prop} {good : β → Prop}
    (first : Assures kept work fails middle) (second : ∀ value, middle value → Assures kept (next value) fails good) :
    Assures kept (work >>= next) fails good := by
  change Run.Ensures kept (work.run >>= ExceptT.bindCont next) (Meets fails good)
  refine Run.Ensures.bind first fun outcome met => ?_
  cases outcome with
  | ok value => exact second value met
  | error error => exact Run.Ensures.pure met

theorem lift {run : Run α} {good : α → Prop} (ensures : Run.Ensures kept run good) :
    Assures kept (liftM run : ExceptT ε Run α) fails good :=
  Run.Ensures.bind ensures fun _ holds => Run.Ensures.pure holds

theorem mapM {work : α → ExceptT ε Run β} {good : β → Prop} {items : List α}
    (each : ∀ item ∈ items, Assures kept (work item) fails good) :
    Assures kept (items.mapM work) fails fun values => ∀ value ∈ values, good value := by
  induction items with
  | nil => exact .pure (by simp)
  | cons item rest ih =>
    rw [List.forall_mem_cons] at each
    rw [List.mapM_cons]
    refine .bind each.1 fun value first => .bind (ih each.2) fun values others => .pure ?_
    exact List.forall_mem_cons.mpr ⟨first, others⟩

/-- A value that is there already is passed on. -/
theorem after {value : α} {next : α → ExceptT ε Run β} {good : β → Prop} (second : Assures kept (next value) fails good) :
    Assures kept (Pure.pure value >>= next) fails good := fun world holds => second world holds

/-- Looking at the store. -/
theorem look {next : Store → ExceptT ε Run α} {good : α → Prop}
    (second : ∀ world, kept world → Assures kept (next world.store) fails good) :
    Assures kept (liftM Run.store >>= next) fails good := Run.Ensures.look second

/-- Behind work that only looks at data, what it has found is known. -/
theorem reading {outcome : Except Failure α} {next : α → Attempt β} {good : β → Prop}
    (second : ∀ value, outcome = .ok value → Assures kept (next value) (fun _ => True) good) :
    Assures kept (liftM outcome >>= next) (fun _ => True) good := by
  cases outcome with
  | ok value => exact second value rfl
  | error failure => exact .throw trivial

theorem fail (failure : Failure) {good : α → Prop} :
    Assures kept (throw failure : Attempt α) (fun _ => True) good := .throw trivial

/-- A failure under a condition. -/
theorem reject {condition : Prop} [Decidable condition] {error : ε} {next : PUnit → ExceptT ε Run α} {good : α → Prop}
    (holds : fails error) (continues : Assures kept (next ()) fails good) :
    Assures kept (if condition then throw error >>= next else next ()) fails good := by
  split
  · exact .throw holds
  · exact continues

end Run.Assures

/-! ## Sorting -/

/-- Sorting without effects only puts the items in order. -/
theorem mem_of_mem_merge {compare : α → α → Ordering} {left right : List α} {item : α}
    (among : item ∈ Id.run (mergeM (fun a b => pure (compare a b)) left right)) : item ∈ left ∨ item ∈ right := by
  induction left generalizing right with
  | nil => exact .inr (by simpa [mergeM] using among)
  | cons x xs ih =>
    induction right with
    | nil => exact .inl (by simpa [mergeM] using among)
    | cons y ys ih' =>
      rw [mergeM] at among
      simp only [pure_bind] at among
      split at among
      · rcases List.mem_cons.mp among with rfl | later
        · exact .inr List.mem_cons_self
        · exact (ih' later).imp_right (List.mem_cons_of_mem _)
      · rcases List.mem_cons.mp among with rfl | later
        · exact .inl List.mem_cons_self
        · exact (ih later).imp_left (List.mem_cons_of_mem _)

theorem mem_of_mem_mergeSort {compare : α → α → Ordering} {items : List α} {item : α}
    (among : item ∈ Id.run (mergeSortM (fun a b => pure (compare a b)) items)) : item ∈ items := by
  fun_induction mergeSortM (fun a b => (pure (compare a b) : Id Ordering)) items with
  | case1 items => exact among
  | case2 items long left right =>
    rcases @mem_of_mem_merge _ compare _ _ item among with first | second
    · exact List.mem_of_mem_take (left first)
    · exact List.mem_of_mem_drop (right second)

theorem mergeM_assures {compare : α → α → ExceptT ε Run Ordering} {fails : ε → Prop} {good : α → Prop}
    (each : ∀ a b, good a → good b → Run.Assures kept (compare a b) fails fun _ => True) (left right : List α)
    (lefts : ∀ item ∈ left, good item) (rights : ∀ item ∈ right, good item) :
    Run.Assures kept (mergeM compare left right) fails fun merged => ∀ item ∈ merged, good item := by
  fun_induction mergeM compare left right with
  | case1 right => exact .pure rights
  | case2 x xs => exact .pure lefts
  | case3 x xs y ys later earlier =>
    have heads := List.forall_mem_cons.mp lefts
    have heads' := List.forall_mem_cons.mp rights
    refine .bind (each x y heads.1 heads'.1) fun order _ => ?_
    cases order with
    | gt => exact .bind (later lefts heads'.2) fun _ all => .pure (List.forall_mem_cons.mpr ⟨heads'.1, all⟩)
    | _ => exact .bind (earlier heads.2 rights) fun _ all => .pure (List.forall_mem_cons.mpr ⟨heads.1, all⟩)

theorem mergeSortM_assures {compare : α → α → ExceptT ε Run Ordering} {fails : ε → Prop} {good : α → Prop}
    (each : ∀ a b, good a → good b → Run.Assures kept (compare a b) fails fun _ => True) (items : List α)
    (all : ∀ item ∈ items, good item) :
    Run.Assures kept (mergeSortM compare items) fails fun sorted => ∀ item ∈ sorted, good item := by
  fun_induction mergeSortM compare items with
  | case1 items => exact .pure all
  | case2 items long left right =>
    refine .bind (left fun item among => all item (List.mem_of_mem_take among)) fun lefts first => ?_
    refine .bind (right fun item among => all item (List.mem_of_mem_drop among)) fun rights second => ?_
    exact mergeM_assures each _ _ first second

/-! ## Calls -/

variable {good : Data → Prop} {scope : Scope}

open Run (Ensures Assures)

theorem evaluateArguments_assures (fails : ∀ kind reason, Ensures kept (Run.draw (Data.error kind reason)) good) (name : String)
    {arguments : List (Pending × Parameter)}
    (each : ∀ argument ∈ arguments, ∀ type, Ensures kept (argument.1.evaluate (scope.child.expecting type)) good) (index : Nat) :
    Assures kept (evaluateArguments scope name arguments index) good fun values => ∀ value ∈ values, good value := by
  induction arguments generalizing index with
  | nil => exact .pure (by simp)
  | cons argument rest ih =>
    rw [List.forall_mem_cons] at each
    refine .bind (.lift (each.1 _)) fun value known => .reject known ?_
    dsimp only
    split
    · exact .bind (.lift (fails _ _)) fun error made => .throw made
    · exact .bind (ih each.2 _) fun values all => .pure (List.forall_mem_cons.mpr ⟨known, all⟩)

theorem runCached_ensures (key : String) {operationId : EntityId}
    (remembered : ∀ world result, kept world → world.store.fingerprint? key = some result → good result)
    (records : ∀ world result, kept world → good result → kept { world with store := world.store.record true operationId result })
    (remembers : ∀ world result, kept world → good result → kept { world with store := world.store.setFingerprint key result })
    {run : Run Data} (ensures : Ensures kept run good) : Ensures kept (runCached key operationId run) good := by
  refine .look fun world remains => ?_
  cases found : world.store.fingerprint? key with
  | some cached =>
    have known := remembered world cached remains found
    exact .bind (.update fun world remains => records world cached remains known) fun _ _ => .pure known
  | none =>
    refine .bind ensures fun result known => ?_
    split
    · exact .pure known
    · exact .bind (.update fun world remains => records _ result (remembers world result remains known) known) fun _ _ => .pure known

theorem runStages_ensures (link : Data → Prop) {stages : List Stage}
    (each : ∀ stage ∈ stages, ∀ narrowing current, good current →
      Ensures kept (stage current (scope.child.withNarrowing narrowing)) fun made => link made.1 ∧ good made.2)
    (narrowing : Option Narrowing) (receiver : Data) {current : Data} (start : good current) :
    Ensures kept (runStages scope narrowing receiver current stages)
      fun outcome => good outcome.1 ∧ ∀ operation ∈ outcome.2, link operation := by
  induction stages generalizing narrowing receiver current with
  | nil => exact .pure ⟨start, by simp⟩
  | cons stage rest ih =>
    rw [List.forall_mem_cons] at each
    refine .bind (each.1 narrowing current start) fun made known => .look fun _ _ => ?_
    refine .bind (ih each.2 _ made.2 known.2) fun outcome final => .pure ⟨final.1, ?_⟩
    exact List.forall_mem_cons.mpr ⟨known.1, final.2⟩

/-! ## Sequences of statements -/

/-- In scopes that are fit for it the statement is evaluated to good data. -/
def Pending.ComesTo (kept : World → Prop) (fits : Scope → Prop) (good : Data → Prop) (pending : Pending) : Prop :=
  ∀ scope, fits scope → Run.Ensures kept (pending.evaluate scope) good

/-- Scopes stay fit when good data is published in them. -/
def Publishes (fits : Scope → Prop) (good : Data → Prop) : Prop :=
  ∀ scope name id data, fits scope → good data → fits (scope.publish name id data)

variable {fits : Scope → Prop}

theorem evaluateEach_ensures (publishes : Publishes fits good) {pendings : List Pending}
    (each : ∀ pending ∈ pendings, pending.ComesTo kept fits good) {last : Data} (start : good last) (fit : fits scope) :
    Ensures kept (evaluateEach last pendings scope) fun outcome => good outcome.1 ∧ fits outcome.2 := by
  induction pendings generalizing last scope with
  | nil => exact .pure ⟨start, fit⟩
  | cons pending rest ih =>
    rw [List.forall_mem_cons] at each
    refine .bind (each.1 scope fit) fun result known => ?_
    exact ih each.2 known (publishes scope _ _ _ fit known)

theorem evaluateUntilError_ensures (publishes : Publishes fits good) {pendings : List Pending}
    (each : ∀ pending ∈ pendings, pending.ComesTo kept fits good) {last : Data} (start : good last) (fit : fits scope) :
    Ensures kept (evaluateUntilError last pendings scope) fun outcome => good outcome.1 ∧ fits outcome.2 := by
  induction pendings generalizing last scope with
  | nil => exact .pure ⟨start, fit⟩
  | cons pending rest ih =>
    rw [List.forall_mem_cons] at each
    refine .bind (each.1 scope fit) fun result known => ?_
    have published := publishes scope pending.statement.name pending.statement.id _ fit known
    dsimp only
    split
    · exact .pure ⟨known, published⟩
    · exact ih each.2 known published

theorem previewBody_ensures (publishes : Publishes fits good) (begins : Ensures kept (Run.draw Data.undefined) good)
    {parameters body : List Pending} (first : ∀ pending ∈ parameters, pending.ComesTo kept fits good)
    (second : ∀ pending ∈ body, pending.ComesTo kept fits good) (start : good default) (fit : fits scope.child) :
    Ensures kept (previewBody scope parameters body) good := by
  refine .bind (evaluateEach_ensures publishes first start fit) fun bound known => ?_
  refine .bind begins fun last start => ?_
  exact .bind (evaluateEach_ensures publishes second start known.2) fun _ ends => .pure ends.1

theorem bindParameters_ensures (publishes : Publishes fits good) {parameters : List Pending}
    (each : ∀ parameter ∈ parameters, parameter.ComesTo kept fits good) {values : List Data} (all : ∀ value ∈ values, good value)
    (fit : fits scope) : Ensures kept (bindParameters parameters values scope) fits := by
  induction parameters generalizing values scope with
  | nil => exact .pure fit
  | cons parameter rest ih =>
    rw [List.forall_mem_cons] at each
    cases values with
    | nil => exact .bind (each.1 scope fit) fun value known => ih each.2 all (publishes scope _ _ _ fit known)
    | cons value values =>
      rw [List.forall_mem_cons] at all
      exact ih each.2 all.2 (publishes scope _ _ _ fit all.1)

theorem runBody_ensures (publishes : Publishes fits good) (begins : Ensures kept (Run.draw Data.undefined) good)
    {body : List Pending} (each : ∀ pending ∈ body, pending.ComesTo kept fits good) (fit : fits scope) :
    Ensures kept (runBody body scope) fun outcome => good outcome.1 ∧ fits outcome.2 :=
  .bind begins fun _ start => evaluateUntilError_ensures publishes each start fit

/-- What is known of a scope and stays known behind each statement is known of the scope that each is brought up to
date in. -/
theorem reviseEach_ensures {holds : Statement → Prop} {revisables : List Revisable}
    (each : ∀ revisable ∈ revisables, ∀ scope, fits scope → Ensures kept (revisable.revise scope) fun outcome =>
      holds outcome.1 ∧ fits (scope.publish outcome.1.name outcome.1.id outcome.2))
    (fit : fits scope) : Ensures kept (reviseEach revisables scope)
      fun outcome => (∀ statement ∈ outcome.1, holds statement) ∧ fits outcome.2 := by
  induction revisables generalizing scope with
  | nil => exact .pure ⟨by simp, fit⟩
  | cons revisable rest ih =>
    rw [List.forall_mem_cons] at each
    refine .bind (each.1 scope fit) fun first known => .bind (ih each.2 known.2) fun others final => .pure ⟨?_, final.2⟩
    exact List.forall_mem_cons.mpr ⟨known.1, final.1⟩

end

end LivePipeline
