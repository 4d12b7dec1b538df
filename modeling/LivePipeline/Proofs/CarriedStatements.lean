import Mathlib.Data.List.Pairwise
import LivePipeline.Proofs.Agreement
import LivePipeline.Proofs.Standards.Revision
import LivePipeline.Proofs.Standards.Sparing

/-! The statements before an edit. They stay as they are: what is recorded for them is carried over, and what an update runs
for the statements behind them does not evaluate them again, unless they have got into an operation value that it calls. -/

namespace LivePipeline

/-! ## Edits -/

/-- An edit of a program is one of the first statement that it concerns. -/
theorem Edit.split_of_contains {before behind : List Statement} {target : Statement} {edit : Edit}
    (apart : ∀ statement ∈ before, statement.containsId edit.changed.id = false)
    (contains : target.containsId edit.changed.id = true) :
    edit.split (before ++ target :: behind) = (before, edit.list [target] ++ behind) := by
  simp [Edit.split, findIdx?_containsId apart contains]

namespace Edit

variable {edit : Edit} {id : EntityId}

theorem mem_ids_list {statements : List Statement}
    (all : ∀ statement ∈ statements, id ∈ (edit.statement statement).ids → id ∈ statement.ids ∨ id ∈ edit.changed.ids)
    (within : id ∈ (edit.list statements).flatMap Statement.ids) :
    id ∈ statements.flatMap Statement.ids ∨ id ∈ edit.changed.ids := by
  induction statements with
  | nil => cases within
  | cons statement rest ih =>
    rw [List.forall_mem_cons] at all
    have later (within : id ∈ (edit.list rest).flatMap Statement.ids) :=
      (ih all.2 within).imp_left (List.mem_append_right statement.ids)
    rw [Edit.list] at within
    split at within
    · exact later within
    · rw [List.flatMap_cons, List.mem_append] at within
      exact within.elim (fun first => (all.1 first).imp_left (List.mem_append_left _)) later

theorem mem_ids_entries {entries : List (String × Statement)}
    (all : ∀ entry ∈ entries, id ∈ (edit.statement entry.2).ids → id ∈ entry.2.ids ∨ id ∈ edit.changed.ids)
    (within : id ∈ (edit.entries entries).flatMap (·.2.ids)) : id ∈ entries.flatMap (·.2.ids) ∨ id ∈ edit.changed.ids := by
  induction entries with
  | nil => cases within
  | cons entry rest ih =>
    rw [List.forall_mem_cons] at all
    have later (within : id ∈ (edit.entries rest).flatMap (·.2.ids)) :=
      (ih all.2 within).imp_left (List.mem_append_right entry.2.ids)
    rw [Edit.entries] at within
    split at within
    · exact later within
    · rw [List.flatMap_cons, List.mem_append] at within
      exact within.elim (fun first => (all.1 first).imp_left (List.mem_append_left _)) later

/-- What an edit leaves has the nodes that were there and those of the statement that is put in. -/
theorem mem_ids_steps :
    NodeSteps (fun value => id ∈ (edit.value value).ids → id ∈ value.ids ∨ id ∈ edit.changed.ids)
      (fun data => id ∈ (edit.data data).ids → id ∈ data.ids ∨ id ∈ edit.changed.ids)
      (fun statement => id ∈ (edit.statement statement).ids → id ∈ statement.ids ∨ id ∈ edit.changed.ids) where
  undefined := .inl
  text _ := .inl
  number _ := .inl
  boolean _ := .inl
  error _ := .inl
  reference _ _ := .inl
  array items all := by simpa only [Edit.value, Value.ids_array] using mem_ids_list all
  record entries all := by simpa only [Edit.value, Value.ids_record] using mem_ids_entries all
  operation name parameters body first second := by
    simp only [Edit.value, Value.ids_operation, List.mem_append]
    rintro (within | within)
    · exact (mem_ids_list first within).imp_left .inl
    · exact (mem_ids_list second within).imp_left .inr
  condition test whenTrue whenFalse tests trues falses := by
    simp only [Edit.value, Value.ids_condition, List.mem_append]
    rintro ((within | within) | within)
    · exact (tests within).imp_left fun old => .inl (.inl old)
    · exact (trues within).imp_left fun old => .inl (.inr old)
    · exact (falses within).imp_left .inr
  handle className arguments instanceId all := by simpa only [Edit.value, Value.ids_handle] using mem_ids_list all
  data own type value all := by
    simp only [Edit.data, Data.ids_mk, List.mem_cons]
    rintro (same | within)
    · exact .inl (.inl same)
    · exact (all within).imp_left .inr
  statement own data operations name isOptional inner all := by
    rw [Edit.statement]
    split
    · exact .inr
    · simp only [Statement.ids_mk, calls_eq_map, List.mem_cons, List.mem_append, List.mem_flatMap, List.mem_map]
      rintro (same | within | ⟨_, ⟨call, among, rfl⟩, within⟩)
      · exact .inl (.inl same)
      · exact (inner within).imp_left fun old => .inr (.inl old)
      · exact (all call among within).imp_left fun old => .inr (.inr ⟨call, among, old⟩)

theorem mem_ids_of_list {statements : List Statement} (within : id ∈ (edit.list statements).flatMap Statement.ids) :
    id ∈ statements.flatMap Statement.ids ∨ id ∈ edit.changed.ids :=
  mem_ids_list (fun statement _ => mem_ids_steps.ofStatement statement) within

end Edit

/-! ## What is carried over -/

/-- The statements that have a result, and the calls in their chains. -/
def World.settledNodes (world : World) (statements : List Statement) : List EntityId :=
  (statements.filter fun statement => (world.store.result? statement.id).isSome).flatMap fun statement =>
    statement.id :: statement.operations.map (·.id)

/-- Extensions hand out no operation values with nodes in them, and nothing else in the scope hands out these nodes. -/
structure Scope.Withholds (scope : Scope) (nodes : List EntityId) : Prop where
  bound : ∀ entry ∈ scope.bindings, entry.2.data.Withholds nodes
  extensions : ∀ extension ∈ scope.extensions, ∀ receiver arguments result,
    extension.handler receiver arguments = .ok result → result.handed = []
  failed : ∀ error, scope.skip = some (.failed error) → error.Withholds nodes

/-- Nothing that is remembered for the statements, for calls that may be made again, and behind promises hands out the
nodes; and none of them will be drawn. -/
structure World.Withholds (world : World) (nodes : List EntityId) (statements : List Statement) : Prop where
  results : ∀ statement ∈ statements, ∀ result, world.store.result? statement.id = some result → result.Withholds nodes
  fingerprints : ∀ key result, world.store.fingerprint? key = some result → result.Withholds nodes
  instances : ∀ id external, world.store.instance? id = some external → external.Holds (·.Withholds nodes)
  below : ∀ id ∈ nodes, id.Below world.nextId

/-- Where the first statement has a result, the second takes its place under the same name, whatever it is; else it is the
same. -/
structure World.Replaces (world : World) (first second : Statement) : Prop where
  id : second.id = first.id
  name : second.name = first.name
  other : world.store.result? first.id = none → second = first

section

open Run (Upholds)

variable {scope : Scope} {world : World} {statements : List Statement}

theorem External.holds_of_forall {good : Data → Prop} (all : ∀ data, good data) (external : External) : external.Holds good := by
  cases external with
  | promise state =>
    cases state with
    | resolved value => exact all value
    | rejected reason => trivial
  | _ => trivial

/-- Everything withholds no nodes. -/
theorem Scope.provides_unbarred (scope : Scope) (spared : List EntityId) (before : EntityId → Option Data) :
    scope.Provides (.sparing spared [] nofun before) :=
  ⟨fun _ _ => .none _, fun _ _ _ _ _ _ _ _ => .none _, fun _ _ => .none _⟩

theorem World.sparing_unbarred {spared : List EntityId} (below : ∀ id ∈ spared, id.Below world.nextId) :
    world.Sparing spared [] world.store.result? :=
  ⟨below, fun _ _ => rfl, fun _ had => had, fun _ _ _ _ => .none _, fun _ _ _ => .none _,
    fun _ external _ => external.holds_of_forall Data.Withholds.none⟩

/-- Evaluation forgets no result. -/
theorem Scope.evaluate_keeps_results (scope : Scope) (statement : Statement) (world : World) {id : EntityId}
    (had : (world.store.result? id).isSome) : ((scope.evaluate statement world).2.store.result? id).isSome := by
  let std := Standard.sparing [] [] nofun world.store.result?
  have calls : scope.caller.Upholds std := callerWithin_upholds (Standard.sparing_nothing_opens _) _
  have admits : std.Admits statement.mentions := fun _ _ => List.not_mem_nil
  have upholds := (upholds_steps calls).ofStatement statement admits scope (scope.provides_unbarred _ _)
  exact (upholds world (World.sparing_unbarred nofun)).1.keeps id had

/-- Of a statement that has a result, nothing but its identity and its name plays a part. -/
theorem Scope.carry_replaced {first second : List Statement} (replaced : List.Forall₂ world.Replaces first second) {later : World}
    (kept : ∀ id, (world.store.result? id).isSome → (later.store.result? id).isSome) (scope : Scope) :
    scope.carry second later = scope.carry first later := by
  induction replaced generalizing scope later with
  | nil => rfl
  | @cons statement statement' rest rest' head _ ih =>
    rw [Scope.carry, Scope.carry, Run.store_bind, Run.store_bind, head.id, head.name]
    cases found : later.store.result? statement.id with
    | some result => exact ih kept _
    | none =>
      have new : world.store.result? statement.id = none :=
        Option.not_isSome_iff_eq_none.mp fun had => Option.not_isSome_iff_eq_none.mpr found (kept _ had)
      rw [head.other new]
      have stays (id : EntityId) (had : (world.store.result? id).isSome) :=
        scope.evaluate_keeps_results statement later (kept id had)
      exact ih stays _

/-! ## Nodes that are spared -/

theorem World.of_mem_settledNodes {id : EntityId} (settled : id ∈ world.settledNodes statements) :
    ∃ statement ∈ statements, (world.store.result? statement.id).isSome ∧ id ∈ statement.ids := by
  simp only [settledNodes, List.mem_flatMap, List.mem_filter, List.mem_cons, List.mem_map] at settled
  obtain ⟨⟨own, data, operations, name, isOptional⟩, ⟨among, had⟩, within⟩ := settled
  refine ⟨_, among, had, ?_⟩
  rw [Statement.ids_mk, List.mem_cons, List.mem_append, List.mem_flatMap]
  rcases within with rfl | ⟨call, listed, rfl⟩
  · exact .inl rfl
  · refine .inr (.inr ⟨call, listed, ?_⟩)
    rw [Data.ids, Data.mentions_eta]
    exact List.mem_cons_self

theorem World.id_mem_settledNodes {statement : Statement} (among : statement ∈ statements)
    (had : (world.store.result? statement.id).isSome) : statement.id ∈ world.settledNodes statements :=
  List.mem_flatMap.mpr ⟨statement, List.mem_filter.mpr ⟨among, had⟩, List.mem_cons_self⟩

/-- Where every node has an identity of its own, statements without a result have no nodes of those with one. -/
theorem World.not_mem_ids_of_settled (distinct : (statements.flatMap Statement.ids).Nodup) {statement : Statement}
    (among : statement ∈ statements) (new : world.store.result? statement.id = none) {id : EntityId}
    (settled : id ∈ world.settledNodes statements) : id ∉ statement.ids := by
  obtain ⟨other, member, had, within⟩ := World.of_mem_settledNodes settled
  have apart : other ≠ statement := by
    rintro rfl
    rw [new] at had
    cases had
  have symmetric : Std.Symm (Function.onFun List.Disjoint Statement.ids) :=
    ⟨fun _ _ disjoint _ second first => disjoint first second⟩
  exact (List.nodup_flatMap.mp distinct).2.forall member among apart within

theorem admits_sparing {spared barred : List EntityId} {among : ∀ id ∈ barred, id ∈ spared} {before : EntityId → Option Data}
    {statement : Statement} (absent : ∀ id ∈ spared, id ∉ statement.ids) :
    (Standard.sparing spared barred among before).Admits statement.mentions :=
  fun id within listed => absent id listed (Mention.mem_filterMap_node?.mpr within)

section

variable {nodes : List EntityId}

theorem Scope.Withholds.provides (withholds : scope.Withholds nodes) (before : EntityId → Option Data) :
    scope.Provides (.sparing nodes nodes (fun _ listed => listed) before) := by
  refine ⟨withholds.bound, fun extension among data arguments result _ _ given id _ within => ?_, withholds.failed⟩
  rw [withholds.extensions extension among data arguments result given] at within
  cases within

theorem World.Withholds.sparing (withholds : world.Withholds nodes statements) : world.Sparing nodes nodes world.store.result? where
  below := withholds.below
  spares _ _ := rfl
  keeps _ had := had
  results _ _ new found := by
    rw [new] at found
    cases found
  fingerprints := withholds.fingerprints
  instances := withholds.instances

theorem World.Withholds.carried (withholds : world.Withholds (world.settledNodes statements) statements)
    (distinct : (statements.flatMap Statement.ids).Nodup) :
    ∀ statement ∈ statements, statement.Carried (.sparing (world.settledNodes statements) (world.settledNodes statements)
      (fun _ listed => listed) world.store.result?) := by
  refine fun statement among => ⟨fun {later result} sparing found => ?_, fun sparing new => ?_⟩
  · cases had : world.store.result? statement.id with
    | none => exact sparing.results _ _ had found
    | some data =>
      have same := sparing.spares _ (World.id_mem_settledNodes among (by rw [had]; rfl))
      rw [found, had] at same
      cases same
      exact withholds.results statement among result had
  · exact admits_sparing fun id listed => World.not_mem_ids_of_settled distinct among (sparing.unrecorded new) listed

end

/-- What is declared in place of the statements. -/
theorem Scope.carry_publishes {spared barred : List EntityId} {among : ∀ id ∈ barred, id ∈ spared} {before : EntityId → Option Data}
    (calls : ∀ scope : Scope, scope.caller.Upholds (.sparing spared barred among before))
    (each : ∀ statement ∈ statements, statement.Carried (.sparing spared barred among before))
    (settled : ∀ statement ∈ statements, (before statement.id).isSome → statement.id ∈ spared)
    (provides : scope.Provides (.sparing spared barred among before)) (sparing : world.Sparing spared barred before) :
    ∃ results, (scope.carry statements world).1 = scope.publishAll statements results
      ∧ List.Forall₂ (fun statement result => ∀ data, before statement.id = some data → result = data) statements results := by
  induction statements generalizing scope world with
  | nil => exact ⟨[], rfl, .nil⟩
  | cons statement rest ih =>
    rw [List.forall_mem_cons] at each settled
    rw [Scope.carry, Run.store_bind]
    cases found : world.store.result? statement.id with
    | some result =>
      have good := each.1.recorded sparing found
      obtain ⟨results, same, all⟩ := ih each.2 settled.2 (provides.publish statement.name statement.id good) sparing
      refine ⟨result :: results, same, .cons (fun data had => ?_) all⟩
      have spared := sparing.spares _ (settled.1 (by rw [had]; rfl))
      rw [found, had] at spared
      exact Option.some.inj spared
    | none =>
      have upholds := (upholds_steps (calls scope)).ofStatement statement (each.1.otherwise sparing found) scope provides
      obtain ⟨kept, good⟩ := upholds world sparing
      obtain ⟨results, same, all⟩ := ih each.2 settled.2 (provides.publish statement.name statement.id good) kept
      refine ⟨(scope.evaluate statement world).1 :: results, same, .cons (fun data had => ?_) all⟩
      rw [sparing.unrecorded found] at had
      cases had

end

/-! ## Updates -/

/-- In this world no operation value with the node is called while the statements are brought up to date: it makes no
difference what is done instead of such calls. -/
def Scope.LeavesUncalled (scope : Scope) (id : EntityId) (statements : List Statement) (edit : Edit) (world : World) : Prop :=
  ∀ instead, let callers (inner : Scope) := callerSparing [id] instead (inner.options.maxCallDepth - inner.callDepth)
    scope.reviseBy callers (edit.split statements).1 (edit.split statements).2 world = scope.revise statements (some edit) world

section

variable {scope : Scope} {world : World} {statements : List Statement} {edit : Edit}

theorem Scope.reviseBy_keeps_before (scope : Scope) (callers : Scope → Caller) (before behind : List Statement) (world : World) :
    ∃ revised, (scope.reviseBy callers before behind world).1 = before ++ revised := ⟨_, rfl⟩

/-- Results are recorded for nodes of the statements that are rebuilt or were never evaluated, for new nodes, and for nodes
of operation values that are called. -/
theorem Scope.revise_spares {id : EntityId} (below : id.Below world.nextId)
    (behind : id ∉ (edit.split statements).2.flatMap Statement.ids)
    (before : ∀ statement ∈ (edit.split statements).1, world.store.result? statement.id = none → id ∉ statement.ids)
    (uncalled : scope.LeavesUncalled id statements edit world) :
    (scope.revise statements (some edit) world).2.store.result? id = world.store.result? id := by
  let std := Standard.sparing [id] [] nofun world.store.result?
  have calls (inner : Scope) : (callerSparing [id] (fun _ _ _ _ => pure default)
      (inner.options.maxCallDepth - inner.callDepth)).Upholds std :=
    callerSparing_upholds (fun _ _ _ _ _ _ _ => .pure (.none _)) _
  have alone {statement : Statement} (absent : id ∉ statement.ids) : std.Admits statement.mentions :=
    admits_sparing (List.forall_mem_singleton.mpr absent)
  have carried : ∀ statement ∈ (edit.split statements).1, statement.Carried std := by
    exact fun statement among => ⟨fun _ _ => .none _, fun sparing new => alone (before statement among (sparing.unrecorded new))⟩
  have rebuilt : ∀ statement ∈ (edit.split statements).2, std.Admits statement.mentions :=
    fun statement among => alone fun within => behind (List.mem_flatMap.mpr ⟨statement, among, within⟩)
  have start : world.Sparing [id] [] world.store.result? := World.sparing_unbarred (List.forall_mem_singleton.mpr below)
  obtain ⟨sparing, -⟩ := reviseBy_upholds calls carried rebuilt (scope.provides_unbarred _ _) world start
  rw [uncalled (fun _ _ _ _ => pure default)] at sparing
  exact sparing.spares id List.mem_cons_self

/-- Results of statements before an edit stay as they were, and those of the calls in their chains, where nothing hands out
their nodes. They are declared for the statements behind. -/
theorem Scope.revise_spares_settled (distinct : ((edit.split statements).1.flatMap Statement.ids).Nodup)
    (absent : ∀ id ∈ (edit.split statements).1.flatMap Statement.ids, id ∉ (edit.split statements).2.flatMap Statement.ids)
    (hidden : scope.Withholds (world.settledNodes (edit.split statements).1))
    (withholds : world.Withholds (world.settledNodes (edit.split statements).1) (edit.split statements).1) :
    (∀ id ∈ world.settledNodes (edit.split statements).1,
        (scope.revise statements (some edit) world).2.store.result? id = world.store.result? id)
      ∧ ∃ results, (scope.child.carry (edit.split statements).1 world).1 = scope.child.publishAll (edit.split statements).1 results
        ∧ List.Forall₂ (fun statement result => ∀ data, world.store.result? statement.id = some data → result = data)
          (edit.split statements).1 results := by
  generalize nodes_eq : world.settledNodes (edit.split statements).1 = nodes at *
  let std := Standard.sparing nodes nodes (fun _ listed => listed) world.store.result?
  have calls (inner : Scope) : inner.caller.Upholds std := callerWithin_upholds (Standard.sparing_opens _) _
  have carried : ∀ statement ∈ (edit.split statements).1, statement.Carried std := by
    subst nodes_eq
    exact withholds.carried distinct
  have rebuilt : ∀ statement ∈ (edit.split statements).2, std.Admits statement.mentions := by
    refine fun statement among => admits_sparing fun id listed within => ?_
    obtain ⟨other, member, -, own⟩ := World.of_mem_settledNodes (nodes_eq ▸ listed)
    exact absent id (List.mem_flatMap.mpr ⟨other, member, own⟩) (List.mem_flatMap.mpr ⟨statement, among, within⟩)
  have provides := hidden.provides world.store.result?
  constructor
  · obtain ⟨sparing, -⟩ := reviseBy_upholds calls carried rebuilt provides world withholds.sparing
    rw [scope.revise_eq_reviseBy]
    exact sparing.spares
  · refine Scope.carry_publishes calls carried (fun statement among had => ?_) provides.child withholds.sparing
    exact nodes_eq ▸ World.id_mem_settledNodes among had

/-- Where every node has an identity of its own, no node before an edit is behind it. -/
theorem Edit.not_mem_behind {before behind : List Statement} {target : Statement}
    (distinct : ((before ++ target :: behind).flatMap Statement.ids).Nodup)
    (others : ∀ id ∈ edit.changed.ids, id ∉ before.flatMap Statement.ids) :
    ∀ id ∈ before.flatMap Statement.ids, id ∉ (edit.list [target] ++ behind).flatMap Statement.ids := by
  intro id within
  rw [List.flatMap_append] at distinct
  have apart : id ∉ (target :: behind).flatMap Statement.ids := List.disjoint_of_nodup_append distinct within
  rw [List.flatMap_cons, List.mem_append, not_or] at apart
  rw [List.flatMap_append, List.mem_append]
  rintro (edited | later)
  · rcases edit.mem_ids_of_list edited with old | new
    · exact apart.1 (by simpa using old)
    · exact others id new within
  · exact apart.2 later

/-- An update does not revisit the statements before the one that is edited. They are returned as they are. Of a statement
with a result, nothing but its identity and its name plays a part: its chain is not run. Where every node has an identity of
its own, and neither variables and extensions nor what is remembered hand out the nodes of such statements, their results
stay as they were, and are what their names stand for from there on. Other results are recorded for nodes of the
statements that are rebuilt or were never evaluated, for new nodes, and for nodes of operation values that are called. -/
theorem statements_before_edit_not_revisited {scope : Scope} {before behind : List Statement} {target : Statement} {edit : Edit}
    {world : World} (apart : ∀ statement ∈ before, statement.containsId edit.changed.id = false)
    (contains : target.containsId edit.changed.id = true) :
    let statements := before ++ target :: behind
    let rebuilt := edit.list [target] ++ behind
    let update := (scope.revise statements (some edit)).run world
    (∃ revised, update.1 = before ++ revised)
      ∧ (∀ replaced, List.Forall₂ world.Replaces before replaced → scope.child.carry replaced world = scope.child.carry before world)
      ∧ ((statements.flatMap Statement.ids).Nodup → (∀ id ∈ edit.changed.ids, id ∉ before.flatMap Statement.ids) →
        scope.Withholds (world.settledNodes before) → world.Withholds (world.settledNodes before) before →
          (∀ id ∈ world.settledNodes before, update.2.store.result? id = world.store.result? id)
            ∧ ∃ results, (scope.child.carry before world).1 = scope.child.publishAll before results
              ∧ List.Forall₂ (fun statement result => ∀ data, world.store.result? statement.id = some data → result = data)
                before results)
      ∧ ∀ id, id.Below world.nextId → id ∉ rebuilt.flatMap Statement.ids →
        (∀ statement ∈ before, world.store.result? statement.id = none → id ∉ statement.ids) →
        scope.LeavesUncalled id statements edit world → update.2.store.result? id = world.store.result? id := by
  intro statements rebuilt update
  have split : edit.split statements = (before, rebuilt) := Edit.split_of_contains apart contains
  have runs := congrArg (fun run : Run (List Statement) => run world) (scope.revise_eq_reviseBy statements edit)
  rw [split] at runs
  refine ⟨?_, fun replaced alike => Scope.carry_replaced alike (fun _ had => had) _, fun distinct others hidden withholds => ?_,
    fun id below new unsettled uncalled => ?_⟩
  · exact (Scope.reviseBy_keeps_before scope Scope.caller before rebuilt world).imp fun revised same =>
      (congrArg Prod.fst runs).trans same
  · have first : (before.flatMap Statement.ids).Nodup := by
      rw [List.flatMap_append] at distinct
      exact (List.nodup_append.mp distinct).1
    have spared := @Scope.revise_spares_settled scope world statements edit
    rw [split] at spared
    exact spared first (edit.not_mem_behind distinct others) hidden withholds
  · exact scope.revise_spares below (by rwa [split]) (by rwa [split]) uncalled

/-- A statement with a chain is carried over with the result that it had, and one without a result is evaluated. Behind them the
call of an operation that is declared before is changed: its body is evaluated again, and that of another one is not. -/
theorem greeting_before_edit_not_revisited :
    let text (id value : String) : Data := ⟨id, .string, .text value⟩
    let operation (id : String) : Data := ⟨id ++ "-data", .operation [.named "x" .string] .string,
      .operation none [⟨id ++ "-x", text (id ++ "-default") "", [], some "x", false⟩]
        [⟨id ++ "-body", text (id ++ "-text") "called", [], none, false⟩]⟩
    let declared (id : String) : Statement := ⟨id, operation id, [], some id, false⟩
    let greeting : Statement := ⟨"a", text "a-text" "b", [⟨"a-call", .unknown, .operation (some "toUpperCase") [] []⟩], some "a", false⟩
    let other : Statement := ⟨"n", text "n-text" "c", [], some "n", false⟩
    let calling (use name : String) : Statement := ⟨"last", ⟨use, .reference .string, .reference name name⟩,
      [⟨use ++ "-call", .operation [] .string, .operation (some "f") [] []⟩], none, false⟩
    let before : List Statement := [declared "f", declared "g", greeting, other]
    let edit : Edit := ⟨calling "second" "n", false⟩
    let world : World := { store := { results := [("f", ⟨operation "f", false⟩), ("f-body", ⟨text "f-old" "old", false⟩),
      ("g", ⟨operation "g", false⟩), ("g-body", ⟨text "g-old" "old", false⟩), ("a", ⟨text "stored" "a", false⟩),
      ("a-call", ⟨text "stored-call" "a", false⟩)] } }
    let update := (Scope.revise {} (before ++ [calling "first" "a"]) (some edit)).run world
    let shown (id : String) := (update.2.store.result? id).map Data.plain
    update.1.take 4 = before ∧ shown "a" = some (.text "a") ∧ shown "a-call" = some (.text "a")
      ∧ shown "g-body" = some (.text "old") ∧ shown "f-body" = some (.text "called") ∧ shown "n" = some (.text "c") := by
  intro text operation declared greeting other calling before edit world
  obtain ⟨⟨revised, same⟩, -, settled, others⟩ := @statements_before_edit_not_revisited {} before [] (calling "first" "a") edit world
    (by decide) (by decide)
  have known : world.settledNodes before = ["f", "g", "a", "a-call"] := by decide
  have hidden : Scope.Withholds {} (world.settledNodes before) := ⟨by simp, by simp, by simp⟩
  have recorded : ∀ statement ∈ before, ∀ result ∈ world.store.result? statement.id, result.Withholds (world.settledNodes before) := by
    decide
  have given : ∀ id ∈ "g-body" :: world.settledNodes before, EntityId.number? id = none := by decide
  have below (id : EntityId) (among : id ∈ "g-body" :: world.settledNodes before) : id.Below world.nextId :=
    EntityId.below_of_number?_eq_none (given id among)
  have withholds : world.Withholds (world.settledNodes before) before := by
    refine ⟨recorded, ?_, ?_, fun id among => below id (List.mem_cons_of_mem _ among)⟩
    · intro key result found
      cases found
    · intro id external found
      cases found
  obtain ⟨spared, -⟩ := settled (by decide) (by decide) hidden withholds
  let given : List Statement × World := (before ++ [calling "second" "n"],
    { store := { results := [("f", ⟨operation "f", false⟩), ("f-body", ⟨text "f-text" "called", false⟩), ("g", ⟨operation "g", false⟩),
        ("g-body", ⟨text "g-old" "old", false⟩), ("a", ⟨text "stored" "a", false⟩), ("a-call", ⟨text "stored-call" "a", false⟩),
        ("n", ⟨text "n-text" "c", false⟩), ("second-call", ⟨text "f-text" "called", false⟩),
        ("last", ⟨text "f-text" "called", false⟩)] }, nextId := 1 })
  have uncalled : Scope.LeavesUncalled {} "g-body" (before ++ [calling "first" "a"]) edit world := by
    intro instead
    -- Compared with each other, the two runs are unfolded side by side, which takes far longer than evaluating each of them.
    refine Eq.trans (b := given) ?_ ?_
    all_goals dsimp +zetaDelta only
    · rfl
    · rfl
  rw [known] at spared
  refine ⟨?_, ?_, ?_, ?_, ?_, ?_⟩
  · exact (congrArg (List.take 4) same).trans rfl
  · exact congrArg (Option.map Data.plain) (spared "a" (by decide))
  · exact congrArg (Option.map Data.plain) (spared "a-call" (by decide))
  · exact congrArg (Option.map Data.plain) (others "g-body" (below _ List.mem_cons_self) (by decide) (by decide) uncalled)
  · rfl
  · rfl

/-- A statement that was evaluated as something else before may have left an operation value. It is what its name stands for,
and the call behind evaluates the nodes of its body, which are in none of the statements that are brought up to date, in place of
a statement that is carried over. -/
theorem carried_operation_revisits_statement :
    let text (id value : String) : Data := ⟨id, .string, .text value⟩
    let stored : Data := ⟨"stored", .operation [.named "x" .string] .string,
      .operation none [⟨"x", text "x-text" "", [], some "x", false⟩] [⟨"a", text "stored-text" "again", [], none, false⟩]⟩
    let before : List Statement := [⟨"f", text "f-text" "now", [], some "f", false⟩, ⟨"a", text "a-text" "once", [], none, false⟩]
    let last (use : String) : Statement :=
      ⟨"last", text use use, [⟨use ++ "-call", .operation [] .string, .operation (some "f") [] []⟩], none, false⟩
    let edit : Edit := ⟨last "second", false⟩
    let world : World := { store := { results := [("f", ⟨stored, false⟩), ("a", ⟨text "old" "once", false⟩)] } }
    let update := (Scope.revise {} (before ++ [last "first"]) (some edit)).run world
    ((before ++ [last "first"]).flatMap Statement.ids).Nodup ∧ (∀ id ∈ edit.changed.ids, id ∉ before.flatMap Statement.ids)
      ∧ edit.split (before ++ [last "first"]) = (before, [last "second"])
      ∧ (world.store.result? "a").map Data.plain = some (.text "once")
      ∧ (update.2.store.result? "a").map Data.plain = some (.text "again") :=
  ⟨by decide, by decide, rfl, rfl, rfl⟩

end

end LivePipeline
