import LivePipeline.Proofs.Hygiene

/-! The built-in operations see nothing of a scope but what its caller does in it, and how requests are
answered there: with callers that do the same, each of them does the same on normal data. -/

namespace LivePipeline

/-! ## Runs that are alike -/

/-- The runs are the same in every world whose store is in normal form. -/
def Run.Alike (left right : Run α) : Prop := ∀ world, world.store.Normal noResult → left world = right world

/-- Work that may fail and is the same in every such world. -/
abbrev Run.TryAlike (left right : ExceptT ε Run α) : Prop := Run.Alike left.run right.run

open Run (Upholds Secures)

namespace Run.Alike

protected theorem refl (run : Run α) : Alike run run := fun _ _ => rfl

protected theorem bind {left right : Run α} {next next' : α → Run β} {middle : α → Prop} (alike : Alike left right)
    (upholds : Upholds (.normal noResult) left middle) (continues : ∀ value, middle value → Alike (next value) (next' value)) :
    Alike (left >>= next) (right >>= next') := by
  intro world normal
  obtain ⟨kept, holds⟩ := upholds world normal
  have first := alike world normal
  change (next (left world).1 (left world).2) = (next' (right world).1 (right world).2)
  rw [← first]
  exact continues _ holds _ kept

/-- The same goes on behind both runs. -/
theorem andThen {left right : Run α} (alike : Alike left right) (next : α → Run β) : Alike (left >>= next) (right >>= next) := by
  intro world normal
  change (next (left world).1 (left world).2) = (next (right world).1 (right world).2)
  rw [alike world normal]

/-- Behind the same run. -/
theorem behind {run : Run α} {next next' : α → Run β} {middle : α → Prop} (upholds : Upholds (.normal noResult) run middle)
    (continues : ∀ value, middle value → Alike (next value) (next' value)) : Alike (run >>= next) (run >>= next') :=
  .bind (.refl run) upholds continues

/-- Looking at the store. -/
theorem look {next next' : Store → Run α} (continues : ∀ store, store.Normal noResult → Alike (next store) (next' store)) :
    Alike (Run.store >>= next) (Run.store >>= next') :=
  fun world normal => continues world.store normal world normal

/-- Two lists of work, one by one. -/
theorem mapM {work : α → Run γ} {work' : β → Run γ} (good : γ → Prop) {items : List α} {items' : List β}
    (each : List.Forall₂ (fun item item' => Alike (work item) (work' item')) items items')
    (upholds : ∀ item ∈ items, Upholds (.normal noResult) (work item) good) : Alike (items.mapM work) (items'.mapM work') := by
  induction each with
  | nil => exact .refl _
  | cons head _ ih =>
    rw [List.forall_mem_cons] at upholds
    rw [List.mapM_cons, List.mapM_cons]
    exact .bind head upholds.1 fun _ _ => .bind (ih upholds.2) (.mapM upholds.2) fun _ _ => .refl _

end Run.Alike

namespace Run.TryAlike

variable {fails : ε → Prop}

protected theorem bind {left right : ExceptT ε Run α} {next next' : α → ExceptT ε Run β} {middle : α → Prop}
    (alike : TryAlike left right) (secures : Secures (.normal noResult) left fails middle)
    (continues : ∀ value, middle value → TryAlike (next value) (next' value)) : TryAlike (left >>= next) (right >>= next') := by
  change Alike (left.run >>= ExceptT.bindCont next) (right.run >>= ExceptT.bindCont next')
  refine Alike.bind alike secures fun outcome met => ?_
  cases outcome with
  | ok value => exact continues value met
  | error error => exact .refl _

theorem andThen {left right : ExceptT ε Run α} (alike : TryAlike left right) (next : α → ExceptT ε Run β) :
    TryAlike (left >>= next) (right >>= next) := Alike.andThen alike (ExceptT.bindCont next)

theorem lift {left right : Run α} (alike : Alike left right) : TryAlike (liftM left : ExceptT ε Run α) (liftM right) :=
  alike.andThen fun value => pure (Except.ok value)

/-- Behind work that cannot fail. -/
theorem after {left right : Run α} {next next' : α → ExceptT ε Run β} {middle : α → Prop} (alike : Alike left right)
    (upholds : Upholds (.normal noResult) left middle) (continues : ∀ value, middle value → TryAlike (next value) (next' value)) :
    TryAlike (liftM left >>= next : ExceptT ε Run β) (liftM right >>= next') := by
  have secures : Secures (.normal noResult) (liftM left : ExceptT ε Run α) (fun _ => True) middle := .lift upholds
  exact .bind (lift alike) secures continues

/-- Behind work that only looks at data. -/
theorem reading {outcome : Except Failure α} {next next' : α → Attempt β}
    (continues : ∀ value, outcome = .ok value → TryAlike (next value) (next' value)) :
    TryAlike (liftM outcome >>= next : Attempt β) (liftM outcome >>= next') := by
  cases outcome with
  | ok value => exact continues value rfl
  | error failure => exact .refl _

/-- Nothing follows a failure. -/
theorem thrown (error : ε) (next next' : α → ExceptT ε Run β) : TryAlike (throw error >>= next) (throw error >>= next') := .refl _

/-- A failure under a condition. -/
theorem reject {condition : Prop} [Decidable condition] {error : ε} {next next' : PUnit → ExceptT ε Run α}
    (continues : TryAlike (next ()) (next' ())) :
    TryAlike (if condition then throw error >>= next else next ()) (if condition then throw error >>= next' else next' ()) := by
  split
  · exact thrown error next next'
  · exact continues

end Run.TryAlike

open Run (Alike TryAlike)

/-! ## Sorting -/

theorem mergeM_alike {compare compare' : α → α → ExceptT ε Run Ordering} {fails : ε → Prop} {good : α → Prop}
    (alike : ∀ a b, good a → good b → TryAlike (compare a b) (compare' a b))
    (each : ∀ a b, good a → good b → Secures (.normal noResult) (compare a b) fails fun _ => True) (left right : List α)
    (lefts : ∀ item ∈ left, good item) (rights : ∀ item ∈ right, good item) :
    TryAlike (mergeM compare left right) (mergeM compare' left right) := by
  fun_induction mergeM compare left right with
  | case1 right => rw [mergeM]; exact .refl _
  | case2 x xs => rw [mergeM]; exact .refl _
  | case3 x xs y ys later earlier =>
    have heads := List.forall_mem_cons.mp lefts
    have heads' := List.forall_mem_cons.mp rights
    have ordered := mergeM_assures each
    rw [mergeM]
    refine .bind (alike x y heads.1 heads'.1) (each x y heads.1 heads'.1) fun order _ => ?_
    cases order with
    | gt => exact .bind (later lefts heads'.2) (ordered _ _ lefts heads'.2) fun _ _ => .refl _
    | _ => exact .bind (earlier heads.2 rights) (ordered _ _ heads.2 rights) fun _ _ => .refl _

theorem mergeSortM_alike {compare compare' : α → α → ExceptT ε Run Ordering} {fails : ε → Prop} {good : α → Prop}
    (alike : ∀ a b, good a → good b → TryAlike (compare a b) (compare' a b))
    (each : ∀ a b, good a → good b → Secures (.normal noResult) (compare a b) fails fun _ => True) (items : List α)
    (all : ∀ item ∈ items, good item) : TryAlike (mergeSortM compare items) (mergeSortM compare' items) := by
  fun_induction mergeSortM compare items with
  | case1 items short => rw [mergeSortM, if_pos short]; exact .refl _
  | case2 items long left right =>
    have first := fun item (among : item ∈ items.take (items.length / 2)) => all item (List.mem_of_mem_take among)
    have second := fun item (among : item ∈ items.drop (items.length / 2)) => all item (List.mem_of_mem_drop among)
    rw [mergeSortM.eq_def compare', if_neg long]
    refine .bind (left first) (mergeSortM_assures each _ first) fun lefts sorted => ?_
    refine .bind (right second) (mergeSortM_assures each _ second) fun rights sorted' => ?_
    exact mergeM_alike alike each _ _ sorted sorted'

/-! ## Handlers -/

/-- Callers that do the same on normal arguments, each in its scope. -/
structure Caller.Alike (caller caller' : Caller) (inner outer : Scope) : Prop where
  same : ∀ operation arguments, (∀ argument ∈ arguments, argument.Normal) →
    Run.Alike (caller inner operation arguments) (caller' outer operation arguments)
  upholds : caller.Upholds (.normal noResult)
  normal : inner.Provides (.normal noResult)
  transport : outer.transport = inner.transport

/-- The evaluation of a statement on both sides. -/
structure Shelter.Twins (shelter : Shelter) (left right : Pending) : Prop where
  same : right.statement = left.statement
  upholds : left.Upholds (.normal noResult)
  alike : ∀ {hidden inner outer}, left.statement.avoids shelter.secret hidden = true → shelter.Scopes hidden inner outer →
    Run.Alike (left.evaluate inner) (right.evaluate outer)

/-- Arguments of a call that use no hidden name, on both sides. -/
abbrev Shelter.Arguments (shelter : Shelter) (hidden : String → Bool) (arguments arguments' : List Pending) : Prop :=
  List.Forall₂ (fun left right => shelter.Twins left right ∧ left.statement.avoids shelter.secret hidden = true) arguments arguments'

def EagerHandler.Alike (handler : EagerHandler) : Prop :=
  ∀ caller caller' inner outer data arguments, Caller.Alike caller caller' inner outer → data.Normal →
    (∀ argument ∈ arguments, argument.Normal) → TryAlike (handler caller inner data arguments) (handler caller' outer data arguments)

def LazyHandler.Alike (handler : LazyHandler) : Prop :=
  ∀ shelter hidden inner outer data arguments arguments', Shelter.Scopes shelter hidden inner outer → data.Normal →
    shelter.Arguments hidden arguments arguments' → TryAlike (handler inner data arguments) (handler outer data arguments')

def Handler.Alike : Handler → Prop
  | .eager run => EagerHandler.Alike run
  | .lazy run => LazyHandler.Alike run

/-- A handler that uses neither its caller nor its scope. -/
theorem EagerHandler.Alike.apart {handler : EagerHandler}
    (same : ∀ caller caller' scope scope' data arguments, handler caller scope data arguments = handler caller' scope' data arguments) :
    handler.Alike := by
  intro caller caller' inner outer data arguments _ _ _
  rw [same caller caller' inner outer]
  exact .refl _

namespace Operation

variable {caller caller' : Caller} {inner outer : Scope} {data : Data} {arguments : List Data}

theorem genericFamily_alike : ∀ builtin ∈ genericFamily, builtin.handler.Alike := by
  simp only [genericFamily, List.forall_mem_cons, List.not_mem_nil, false_implies, implies_true, and_true]
  and_intros <;> exact .apart fun _ _ _ _ _ _ => rfl

theorem numericFamily_alike : ∀ builtin ∈ numericFamily, builtin.handler.Alike := by
  simp only [numericFamily, List.forall_mem_cons, List.not_mem_nil, false_implies, implies_true, and_true]
  and_intros <;> exact .apart fun _ _ _ _ _ _ => rfl

theorem textualFamily_alike : ∀ builtin ∈ textualFamily, builtin.handler.Alike := by
  simp only [textualFamily, List.forall_mem_cons, List.not_mem_nil, false_implies, implies_true, and_true]
  and_intros <;> exact .apart fun _ _ _ _ _ _ => rfl

/-! ### Booleans -/

theorem branchArgument_alike {shelter : Shelter} {hidden : String → Bool} (name : String)
    (scopes : shelter.Scopes hidden inner outer) (receiver : data.Normal) (index : Nat) {left right : Pending}
    (twins : shelter.Twins left right) (avoids : left.statement.avoids shelter.secret hidden = true) (branch : Branch)
    (expected : Option DataType) :
    Run.Alike (branchArgument name inner data index left branch expected) (branchArgument name outer data index right branch expected) := by
  have failed := scopes.normal.skipBehind receiver (some (name, index))
  have inside := ((scopes.enter branch).withSkip failed).expecting expected
  unfold branchArgument
  rw [scopes.skipBehind, scopes.signature]
  exact .bind (twins.alike avoids inside) (twins.upholds _ inside.normal) fun _ _ => .refl _

theorem connective_alike (name : String) (decisive : Bool) (branch : Branch) : LazyHandler.Alike (connective name decisive branch) := by
  intro shelter hidden inner outer data arguments arguments' scopes receiver twins
  cases twins with
  | nil => exact .refl _
  | cons head tail =>
    refine .reading fun left _ => ?_
    exact .after (branchArgument_alike name scopes receiver 0 head.1 head.2 _ _)
      (branchArgument_upholds name scopes.normal receiver 0 head.1.upholds _ _) fun right _ => .refl _

theorem choose_alike : LazyHandler.Alike choose := by
  intro shelter hidden inner outer data arguments arguments' scopes receiver twins
  cases twins with
  | nil => exact .refl _
  | cons first rest =>
    cases rest with
    | nil => exact .refl _
    | cons second others =>
      refine .reading fun condition _ => ?_
      refine .after (branchArgument_alike _ scopes receiver 0 first.1 first.2 _ _)
        (branchArgument_upholds _ scopes.normal receiver 0 first.1.upholds _ _) fun onTrue _ => ?_
      exact .after (branchArgument_alike _ scopes receiver 1 second.1 second.2 _ _)
        (branchArgument_upholds _ scopes.normal receiver 1 second.1.upholds _ _) fun onFalse _ => .refl _

theorem logicFamily_alike : ∀ builtin ∈ logicFamily, builtin.handler.Alike := by
  simp only [logicFamily, List.forall_mem_cons, List.not_mem_nil, false_implies, implies_true, and_true]
  exact ⟨connective_alike _ _ _, connective_alike _ _ _, .apart fun _ _ _ _ _ _ => rfl, choose_alike⟩

/-! ### Sequences -/

theorem callEach_alike (callers : Caller.Alike caller caller' inner outer) {operation : Data} (operates : operation.Normal)
    {items : List Statement} (all : ∀ item ∈ items, item.Normal) :
    Run.Alike (callEach caller inner operation items) (callEach caller' outer operation items) := by
  have given (entry : Statement × Nat) (among : entry ∈ items.zipIdx) {index : Data} (known : index.Normal) :
      ∀ argument ∈ [entry.1.data, index], argument.Normal := by
    have item := (Standard.normal noResult).held (all entry.1 (List.fst_mem_of_mem_zipIdx among))
    simpa using ⟨Data.normal_iff.mp item, Data.normal_iff.mp known⟩
  refine .mapM Data.Normal (List.forall₂_same.mpr fun entry among => ?_) fun entry among => ?_
  · exact .behind (.draw (.leaf _ rfl)) fun index known => callers.same operation _ (given entry among known)
  · exact .bind (.draw (.leaf _ rfl)) fun index known => callers.upholds _ _ _ callers.normal operates (given entry among known)

/-- Work that calls an argument for each element and goes on with the answers. -/
theorem forEach_alike (name wanted : String) (callers : Caller.Alike caller caller' inner outer) (receiver : data.Normal)
    (every : ∀ argument ∈ arguments, argument.Normal) (finish : Data → List Statement → List Data → Attempt α) :
    TryAlike
      (do
        let argument ← first name arguments
        let operation ← expectOperation name argument
        let items ← expectItems wanted data
        let results ← callEach caller inner operation items
        finish operation items results : Attempt α)
      (do
        let argument ← first name arguments
        let operation ← expectOperation name argument
        let items ← expectItems wanted data
        let results ← callEach caller' outer operation items
        finish operation items results) := by
  refine .reading fun argument given => .reading fun operation given' => .reading fun items found => ?_
  have all := @expectItems_good (Standard.normal noResult).discipline _ _ _ receiver found
  have operates := expectOperation_good (first_good every given) given'
  exact .after (callEach_alike callers operates all) (callEach_obeys (callers.upholds.obeys callers.normal) operates all).upholds fun _ _ => .refl _

theorem answered_alike (name : String) (callers : Caller.Alike caller caller' inner outer) (receiver : data.Normal)
    (every : ∀ argument ∈ arguments, argument.Normal) :
    TryAlike (answered name caller inner data arguments) (answered name caller' outer data arguments) :=
  forEach_alike name name callers receiver every _

theorem mapSequence_alike : EagerHandler.Alike mapSequence := fun _ _ _ _ _ _ callers receiver every =>
  forEach_alike "map" "callback" callers receiver every _

theorem someElement_alike : EagerHandler.Alike someElement := fun _ _ _ _ _ _ callers receiver every =>
  forEach_alike "some" "callback" callers receiver every _

theorem everyElement_alike : EagerHandler.Alike everyElement := fun _ _ _ _ _ _ callers receiver every =>
  forEach_alike "every" "callback" callers receiver every _

theorem filterSequence_alike : EagerHandler.Alike filterSequence := fun _ _ _ _ _ _ callers receiver every =>
  .bind (answered_alike _ callers receiver every) (answered_obeys _ (callers.upholds.obeys callers.normal) receiver every).secures fun _ _ => .refl _

theorem findElement_alike : EagerHandler.Alike findElement := fun _ _ _ _ _ _ callers receiver every =>
  .bind (answered_alike _ callers receiver every) (answered_obeys _ (callers.upholds.obeys callers.normal) receiver every).secures fun _ _ => .refl _

theorem compareBy_alike (callers : Caller.Alike caller caller' inner outer) {comparator : Data} (compares : comparator.Normal) {a b : Statement}
    (left : a.Normal) (right : b.Normal) :
    TryAlike (compareBy caller inner comparator a b) (compareBy caller' outer comparator a b) := by
  have both : ∀ argument ∈ [a.data, b.data], argument.Normal := by
    simpa using ⟨(Statement.normal_iff.mp left).2, (Statement.normal_iff.mp right).2⟩
  exact .after (callers.same comparator _ both) (callers.upholds _ _ _ callers.normal compares both) fun _ _ => .refl _

theorem sortSequence_alike : EagerHandler.Alike sortSequence := by
  intro caller caller' inner outer data arguments callers receiver every
  refine .reading fun items found => ?_
  have all := @expectItems_good (Standard.normal noResult).discipline _ _ _ receiver found
  split
  · exact .refl _
  · next argument given =>
    refine .reading fun comparator given' => ?_
    have compares := expectOperation_good (optional_good every given) given'
    have each (a b : Statement) (left : a.Normal) (right : b.Normal) :=
      compareBy_assures (callers.upholds.obeys callers.normal) compares left right
    have sorts := mergeSortM_alike (fun a b left right => compareBy_alike (a := a) (b := b) callers compares left right) each items all
    exact .after sorts (mergeSortM_assures each items all) fun _ _ => .refl _

theorem reduceFrom_alike (callers : Caller.Alike caller caller' inner outer) {operation : Data} (operates : operation.Normal)
    {items : List (Statement × Nat)} (all : ∀ item ∈ items, item.1.Normal) {accumulator : Data} (start : accumulator.Normal) :
    Run.Alike (reduceFrom caller inner operation items accumulator) (reduceFrom caller' outer operation items accumulator) := by
  induction items generalizing accumulator with
  | nil => exact .refl _
  | cons item rest ih =>
    rw [List.forall_mem_cons] at all
    refine .behind (.draw (.leaf _ rfl)) fun index known => ?_
    have three : ∀ argument ∈ [accumulator, item.1.data, index], argument.Normal := by
      simpa using ⟨Data.normal_iff.mp start, (Statement.normal_iff.mp all.1).2, Data.normal_iff.mp known⟩
    refine .bind (callers.same operation _ three) (callers.upholds _ _ _ callers.normal operates three) fun result made => ?_
    split
    · exact .refl _
    · exact ih all.2 made

theorem reduceSequence_alike : EagerHandler.Alike reduceSequence := by
  intro caller caller' inner outer data arguments callers receiver all
  refine .reading fun pair given => .reading fun operation given' => .reading fun items found => ?_
  have two := firstTwo_good all given
  refine .lift (reduceFrom_alike callers (expectOperation_good two.1 given') (fun entry among => ?_) two.2)
  exact @expectItems_good (Standard.normal noResult).discipline _ _ _ receiver found _ (List.fst_mem_of_mem_zipIdx among)

theorem sequenceFamily_alike : ∀ builtin ∈ sequenceFamily, builtin.handler.Alike := by
  simp only [sequenceFamily, List.forall_mem_cons, List.not_mem_nil, false_implies, implies_true, and_true]
  refine ⟨?_, ?_, ?_, ?_, ?_, ?_, ?_, ?_, ?_, mapSequence_alike, filterSequence_alike, findElement_alike, someElement_alike,
    everyElement_alike, sortSequence_alike, reduceSequence_alike⟩ <;> exact .apart fun _ _ _ _ _ _ => rfl

/-! ### All others -/

theorem recordFamily_alike : ∀ builtin ∈ recordFamily, builtin.handler.Alike := by
  simp only [recordFamily, List.forall_mem_cons, List.not_mem_nil, false_implies, implies_true, and_true]
  and_intros <;> exact .apart fun _ _ _ _ _ _ => rfl

theorem dictionaryFamily_alike : ∀ builtin ∈ dictionaryFamily, builtin.handler.Alike := by
  simp only [dictionaryFamily, List.forall_mem_cons, List.not_mem_nil, false_implies, implies_true, and_true]
  and_intros <;> exact .apart fun _ _ _ _ _ _ => rfl

theorem optionalFamily_alike : ∀ builtin ∈ optionalFamily, builtin.handler.Alike := by
  simp only [optionalFamily, List.forall_mem_cons, List.not_mem_nil, false_implies, implies_true, and_true]
  exact .apart fun _ _ _ _ _ _ => rfl

theorem callingFamily_alike : ∀ builtin ∈ callingFamily, builtin.handler.Alike := by
  simp only [callingFamily, List.forall_mem_cons, List.not_mem_nil, false_implies, implies_true, and_true]
  exact fun _ _ _ _ _ _ callers _ all => .reading fun operation _ => .lift (callers.same operation _ all)

theorem dateFamily_alike : ∀ builtin ∈ dateFamily, builtin.handler.Alike := by
  simp only [dateFamily, List.forall_mem_cons, List.not_mem_nil, false_implies, implies_true, and_true]
  and_intros <;> exact .apart fun _ _ _ _ _ _ => rfl

theorem locatorFamily_alike : ∀ builtin ∈ locatorFamily, builtin.handler.Alike := by
  simp only [locatorFamily, List.forall_mem_cons, List.not_mem_nil, false_implies, implies_true, and_true]
  and_intros <;> exact .apart fun _ _ _ _ _ _ => rfl

theorem send_alike (same : outer.transport = inner.transport) (request : Request) :
    send inner data request = send outer data request := by
  unfold send
  rw [same]

theorem httpFamily_alike : ∀ builtin ∈ httpFamily, builtin.handler.Alike := by
  simp only [httpFamily, List.forall_mem_cons, List.not_mem_nil, false_implies, implies_true, and_true]
  constructor
  · intro caller caller' inner outer data arguments callers _ _
    refine .reading fun _ _ => .reading fun _ _ => ?_
    rw [send_alike callers.transport]
    exact .refl _
  · intro caller caller' inner outer data arguments callers _ _
    refine .reading fun _ _ => .reading fun _ _ => .reading fun _ _ => ?_
    rw [send_alike callers.transport]
    exact .refl _

theorem promiseFamily_alike : ∀ builtin ∈ promiseFamily, builtin.handler.Alike := by
  simp only [promiseFamily, List.forall_mem_cons, List.not_mem_nil, false_implies, implies_true, and_true]
  exact .apart fun _ _ _ _ _ _ => rfl

end Operation

/-- Every built-in operation does the same. -/
theorem builtins_alike : ∀ builtin ∈ builtins, builtin.handler.Alike := by
  simp only [builtins, List.forall_mem_append]
  exact ⟨⟨⟨⟨⟨⟨⟨⟨⟨⟨⟨⟨Operation.genericFamily_alike, Operation.textualFamily_alike⟩,
    Operation.numericFamily_alike⟩, Operation.logicFamily_alike⟩, Operation.sequenceFamily_alike⟩,
    Operation.recordFamily_alike⟩, Operation.dictionaryFamily_alike⟩, Operation.optionalFamily_alike⟩,
    Operation.callingFamily_alike⟩, Operation.dateFamily_alike⟩, Operation.locatorFamily_alike⟩,
    Operation.httpFamily_alike⟩, Operation.promiseFamily_alike⟩

end LivePipeline
