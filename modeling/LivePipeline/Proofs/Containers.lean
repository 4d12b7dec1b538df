import LivePipeline.Proofs.Hygiene
import LivePipeline.Proofs.Invariants
import LivePipeline.Proofs.Reachability

/-! Types of evaluated containers. An array or an object is typed by the results that are recorded for its elements,
when all of them have been evaluated. These are the elements in it unless a result was replaced on the way; and
only a call that evaluates the same container again can replace it. -/

namespace LivePipeline

/-! ## Runs that spare the result of a node -/

/-- What is recorded for the node: a result, or none. -/
def World.Shows (id : EntityId) (shown : Option Data) (world : World) : Prop := world.store.result? id = shown

section

variable {id : EntityId} {shown : Option Data} {transport : Option Transport}

open Run (Acts Keeps)

theorem recorded_spares {other : EntityId} (apart : other ≠ id) (cacheable : Bool) (data : Data) :
    Keeps (World.Shows id shown) (Run.updateStore (·.record cacheable other data)) := by
  intro world holds
  change (world.store.record cacheable other data).result? id = shown
  rw [Store.result?_record, if_neg (Ne.symm apart)]
  exact holds

/-- Operations record nothing themselves. -/
theorem Run.Acts.spares {calls : Run Data → Prop} (each : ∀ run, calls run → Keeps (World.Shows id shown) run) {run : Run α}
    (acts : Acts True calls run) : Keeps (World.Shows id shown) run := by
  have drawn {β : Type} (build : Fresh β) : Keeps (World.Shows id shown) (Run.draw build) := fun _ holds => holds
  induction acts with
  | pure value => exact .pure value
  | bind first second ih ih' => exact .bind ih ih'
  | draw grows => exact drawn _
  | find className arguments instanceId =>
    intro world holds
    rw [Operation.externalOf_run]
    cases world.store.instance? instanceId with
    | some external => exact holds
    | none => cases Operation.materialize className arguments <;> exact holds
  | create className type arguments external =>
    refine .bind (.mapM fun _ _ => drawn _) fun arguments => .bind (drawn _) fun instanceId => ?_
    exact .bind (fun _ holds => holds) fun _ => drawn _
  | observe allowed event => exact fun _ holds => holds
  | call made => exact each _ made

theorem built_spares {build : Fresh α} (grows : build.Grows) : Keeps (World.Shows id shown) (Run.draw build) :=
  Run.Acts.spares (fun _ keeps => keeps) (.draw grows)

/-- A cached result is recorded for the call only. -/
theorem runCached_spares {operationId : EntityId} (apart : operationId ≠ id) (key : String) {run : Run Data}
    (keeps : Keeps (World.Shows id shown) run) : Keeps (World.Shows id shown) (runCached key operationId run) := by
  refine .look fun store => ?_
  split
  · exact (recorded_spares apart true _).bind fun _ => .pure _
  · refine keeps.bind fun result => ?_
    split
    · exact .pure result
    · refine Run.Keeps.bind ?_ fun _ => .pure result
      intro world holds
      exact recorded_spares apart true result { world with store := world.store.setFingerprint key result } holds

/-! ### Calls -/

section

variable {caller : Caller} {scope : Scope}

theorem runEager_spares (calls : caller.Keeps (World.Shows id shown) transport) (host : scope.transport = transport)
    {receiver : Scope} {data : Data} {name : String} {callable : Callable} (known : receiver.find? data name = some callable)
    {operationId : EntityId} (apart : operationId ≠ id) (arguments : List Data) :
    Keeps (World.Shows id shown) (runEager caller scope callable operationId data arguments) := by
  cases callable with
  | builtin builtin =>
    have confined := Scope.find?_confined known
    rw [runEager]
    cases handler : builtin.handler with
    | eager run =>
      rw [handler] at confined
      have work : Keeps (World.Shows id shown) (Attempt.settle (run caller scope data arguments)) := by
        apply Run.Acts.spares _ (Attempt.settle_acts (confined caller scope data arguments))
        rintro run ⟨operation, values, rfl⟩
        exact calls scope host operation values
      dsimp only
      split
      · exact runCached_spares apart _ work
      · exact work
    | lazy run =>
      rw [handler] at confined
      dsimp only
      apply Run.Acts.spares _ (Attempt.settle_acts (confined scope data []))
      rintro run ⟨argument, among, _⟩
      cases among
  | extension extension =>
    refine .bind (fun _ holds => holds) fun _ => ?_
    cases extension.handler data arguments with
    | ok result => exact .pure result
    | error reason => exact built_spares (.error _ _)
  | userDefined name operation => exact calls scope host operation (data :: arguments)

theorem invoke_spares (calls : caller.Keeps (World.Shows id shown) transport) (host : scope.transport = transport)
    {receiver : Scope} {data : Data} {name : String} {callable : Callable} (known : receiver.find? data name = some callable)
    {operationId : EntityId} (apart : operationId ≠ id) {arguments : List Pending}
    (each : ∀ argument ∈ arguments, argument.Keeps (World.Shows id shown) transport) :
    Keeps (World.Shows id shown) (invoke caller scope callable operationId data arguments) := by
  unfold invoke
  dsimp only
  split
  · exact built_spares (.fault _)
  · split
    · apply Run.Acts.spares (fun _ keeps => keeps)
      exact skipCall_acts scope callable data fun argument among inner same => each argument among inner (same.2.trans host)
    · split
      · have confined := Scope.find?_confined known
        apply Run.Acts.spares _ (Attempt.settle_acts (confined scope data arguments))
        rintro run ⟨argument, among, inner, same, rfl⟩
        exact each argument among inner (same.2.trans host)
      · have evaluated : Keeps (World.Shows id shown)
            (evaluateArguments scope callable.name (arguments.zip (callable.expected data)) 0).run := by
          apply Run.Acts.spares (fun _ keeps => keeps)
          apply evaluateArguments_tries
          intro entry among inner same
          exact each entry.1 (List.of_mem_zip among).1 inner (same.2.trans host)
        refine evaluated.bind fun outcome => ?_
        cases outcome with
        | error error => exact .pure error
        | ok values => exact runEager_spares calls host known apart values

/-- Evaluation spares the result of every identity that no evaluated node has, as far as calls do. -/
theorem spares_keptBy (calls : caller.Keeps (World.Shows id shown) transport) :
    World.KeptBy (· ≠ id) transport caller (World.Shows id shown) where
  drawn := built_spares
  recorded apart data := recorded_spares apart false data
  handle _ _ _ _ := Run.Acts.spares (fun _ keeps => keeps) (evaluateHandle_acts _ _ _ _)
  invoke host known apart each := invoke_spares calls host known apart each

/-- Calls operations with the given number of levels left. An operation that holds one of the nodes is left to `instead`. -/
def callerSparing (spared : List EntityId) (instead : Nat → Caller) : Nat → Caller
  | 0 => callerWithin 0
  | levels + 1 => fun scope operation arguments =>
    if spared.any fun id => operation.mentions.contains (.node id) then instead (levels + 1) scope operation arguments
    else enterOperation (callerSparing spared instead levels) scope operation arguments

theorem enterOperation_spares (calls : caller.Keeps (World.Shows id shown) transport) (host : scope.transport = transport)
    {operation : Data} (absent : Mention.node id ∉ operation.mentions) (arguments : List Data) :
    Keeps (World.Shows id shown) (enterOperation caller scope operation arguments) := by
  unfold enterOperation
  split
  · next called => exact (spares_keptBy calls).body (fun _ within same => absent (same ▸ within)) called host arguments
  · exact built_spares (.fault _)

end

/-- By induction on the levels that are left. -/
theorem callerSparing_spares {spared : List EntityId} (among : id ∈ spared) {instead : Nat → Caller}
    (others : ∀ levels, (instead levels).Keeps (World.Shows id shown) transport) (levels : Nat) :
    (callerSparing spared instead levels).Keeps (World.Shows id shown) transport := by
  induction levels with
  | zero => exact fun _ _ _ _ => built_spares (.fault _)
  | succ levels ih =>
    intro scope host operation arguments
    unfold callerSparing
    split
    · exact others (levels + 1) scope host operation arguments
    · next free =>
      have absent : Mention.node id ∉ operation.mentions := by
        intro within
        exact free (List.any_eq_true.mpr ⟨id, among, by simpa using within⟩)
      exact enterOperation_spares ih host absent arguments

end

/-! ## Elements -/

/-- The statement's data is what is recorded for it. -/
def World.Records (world : World) (statement : Statement) : Prop := world.store.result? statement.id = some statement.data

/-- When each work records its outcome and spares those before it, all outcomes are recorded behind them. -/
theorem mapM_records {work : α → Run β} {item : β → Statement} {ident : α → EntityId} {items : List α}
    (each : ∀ entry ∈ items, ∀ world, (work entry world).2.Records (item (work entry world).1)
      ∧ (item (work entry world).1).id = ident entry)
    (spares : items.Pairwise fun earlier later => ∀ shown, Run.Keeps (World.Shows (ident earlier) shown) (work later))
    (world : World) : let outcome := items.mapM work world
      (∀ value ∈ outcome.1, outcome.2.Records (item value)) ∧ outcome.1.map (fun value => (item value).id) = items.map ident := by
  induction items generalizing world with
  | nil =>
    refine ⟨?_, rfl⟩
    intro value among
    cases among
  | cons entry rest ih =>
    rw [List.forall_mem_cons] at each
    obtain ⟨first, later⟩ := List.pairwise_cons.mp spares
    obtain ⟨records, same⟩ := each.1 world
    obtain ⟨others, idents⟩ := ih each.2 later (work entry world).2
    have kept (shown : Option Data) : Run.Keeps (World.Shows (ident entry) shown) (rest.mapM work) :=
      .mapM fun other among => first other among shown
    have run : (entry :: rest).mapM work world
        = (((work entry world).1 :: (rest.mapM work (work entry world).2).1), (rest.mapM work (work entry world).2).2) := by
      rw [List.mapM_cons]
      rfl
    dsimp only
    rw [run]
    refine ⟨?_, ?_⟩
    · intro value among
      rcases List.mem_cons.mp among with rfl | among
      · rw [World.Records, same]
        rw [World.Records, same] at records
        exact kept _ _ records
      · exact others value among
    · rw [List.map_cons, List.map_cons, same, idents]

/-- Elements of a container. While one of them is evaluated, operations that hold one of those before it are left
to `instead`. -/
def sparingPendings (instead : Nat → Caller) (levels : Nat) : List EntityId → List Statement → List Pending
  | _, [] => []
  | spared, statement :: rest =>
    ⟨statement, evaluateStatement (callerSparing spared instead levels) statement⟩
      :: sparingPendings instead levels (statement.id :: spared) rest

section

variable {instead : Nat → Caller} {levels : Nat} {transport : Option Transport}

theorem sparingPendings_statements (spared : List EntityId) (items : List Statement) :
    (sparingPendings instead levels spared items).map (·.statement) = items := by
  induction items generalizing spared with
  | nil => rfl
  | cons item rest ih => rw [sparingPendings, List.map_cons, ih]

theorem sparingPendings_records (spared : List EntityId) (items : List Statement) (expected : Option DataType) (scope : Scope)
    (world : World) : ∀ pending ∈ sparingPendings instead levels spared items,
      let outcome := evaluateChild scope expected pending world
      outcome.2.Records outcome.1 ∧ outcome.1.id = pending.statement.id := by
  induction items generalizing spared with
  | nil => exact List.forall_mem_nil _
  | cons item rest ih =>
    rw [sparingPendings, List.forall_mem_cons]
    refine ⟨?_, ih _⟩
    obtain ⟨id, data, operations, name, isOptional⟩ := item
    refine ⟨?_, rfl⟩
    exact (Store.result?_record _ false id id _).trans (if_pos rfl)

variable (others : ∀ id shown levels, (instead levels).Keeps (World.Shows id shown) transport)

include others

theorem sparingPendings_keep {spared : List EntityId} {items : List Statement} {id : EntityId} (among : id ∈ spared)
    (absent : ∀ item ∈ items, Mention.node id ∉ item.mentions) (shown : Option Data) :
    ∀ pending ∈ sparingPendings instead levels spared items, pending.Keeps (World.Shows id shown) transport := by
  induction items generalizing spared with
  | nil => exact List.forall_mem_nil _
  | cons item rest ih =>
    rw [List.forall_mem_cons] at absent
    rw [sparingPendings, List.forall_mem_cons]
    have calls := callerSparing_spares among (others id shown) levels
    refine ⟨?_, ih (List.mem_cons_of_mem _ among) absent.2⟩
    exact (spares_keptBy calls).steps.ofStatement item fun _ within same => absent.1 (same ▸ within)

/-- Each element spares the results of those before it. -/
theorem sparingPendings_pairwise (spared : List EntityId) {items : List Statement}
    (distinct : items.Pairwise fun earlier later => Mention.node earlier.id ∉ later.mentions) :
    (sparingPendings instead levels spared items).Pairwise fun earlier later =>
      ∀ shown, later.Keeps (World.Shows earlier.statement.id shown) transport := by
  induction items generalizing spared with
  | nil => exact .nil
  | cons item rest ih =>
    obtain ⟨first, later⟩ := List.pairwise_cons.mp distinct
    rw [sparingPendings, List.pairwise_cons]
    refine ⟨?_, ih _ later⟩
    intro pending among shown
    exact sparingPendings_keep others List.mem_cons_self first shown pending among

end

/-- Evaluates a container with `instead` in place of the calls that would evaluate an earlier element of it again. -/
def evaluateSparing (instead : Nat → Caller) (levels : Nat) (scope : Scope) : Data → Run Data
  | ⟨id, type, .array items⟩ => evaluateArray scope id type (sparingPendings instead levels [] items)
  | ⟨id, type, .record entries⟩ =>
    evaluateRecord scope id type ((Table.keys entries).zip (sparingPendings instead levels [] (Table.values entries)))
  | data => evaluateData (callerWithin levels) data scope

/-- In this world it makes no difference what is done instead of calls that would evaluate an element of the container
again, behind which another one is being evaluated: there are none. -/
def Data.Undisturbed (data : Data) (levels : Nat) (scope : Scope) (world : World) : Prop :=
  ∀ instead, evaluateSparing instead levels scope data world = evaluateData (callerWithin levels) data scope world

/-! ## Types -/

section

variable {world : World} {elements : List Statement}

theorem child_of_records {statement : Statement} (records : world.Records statement) (scope : Scope) :
    (scope.hints world.store).child statement = statement.data.type := by
  change ((world.store.result? statement.id).map (·.type)).getD statement.resultType = _
  rw [records, Option.map_some, Option.getD_some]

theorem inferArray_of_records (records : ∀ element ∈ elements, world.Records element) (scope : Scope) {type : DataType}
    (declared : type.dereference.kind ≠ .tuple) :
    Value.inferArray ((scope.expecting (some type)).hints world.store) elements
      = .array (if elements.isEmpty then type.elementOr .unknown else .unionOf (elements.map (·.data.type))) := by
  have types : elements.map ((scope.expecting (some type)).hints world.store).child = elements.map (·.data.type) :=
    List.map_congr_left fun element among => child_of_records (records element among) _
  have asked : ((scope.expecting (some type)).hints world.store).expected = some type := rfl
  have element : type.dereference.element? = type.element? := by
    rw [DataType.element?, DataType.element?, DataType.dereference_dereference]
  rw [Value.inferArray, types, asked, Option.map_some, Option.bind_some, element, List.isEmpty_map]
  split
  · next found =>
    rw [Option.some.inj found] at declared
    exact absurd rfl declared
  · split <;> rfl

theorem inferRecord_of_records {entries : Table Statement} (records : ∀ entry ∈ entries, world.Records entry.2) (scope : Scope)
    {type : DataType} (declared : type.dereference.kind ≠ .dictionary) :
    Value.inferRecord ((scope.expecting (some type)).hints world.store) entries
      = .object (entries.map fun (key, element) => (key, element.data.type))
        ((entries.filter fun (_, element) => !element.isOptional).map (·.1)) := by
  have types : entries.map (fun (key, element) => (key, ((scope.expecting (some type)).hints world.store).child element))
      = entries.map fun (key, element) => (key, element.data.type) := by
    apply List.map_congr_left
    intro entry among
    exact congrArg (Prod.mk entry.1) (child_of_records (records entry among) _)
  have asked : ((scope.expecting (some type)).hints world.store).expected = some type := rfl
  rw [Value.inferRecord, types, asked, Option.map_some]
  split
  · next found =>
    rw [Option.some.inj found] at declared
    exact absurd rfl declared
  · rfl

end

section

variable {instead : Nat → Caller} {scope : Scope} {levels : Nat}

theorem map_fst_zipIdx (items : List α) (change : α → β) : items.zipIdx.map (fun entry => change entry.1) = items.map change := by
  have whole := congrArg (List.map change) (List.zipIdx_map_fst 0 items)
  rwa [List.map_map] at whole

/-- Evaluates a child and puts it in its place. -/
def evaluatePlaced (scope : Scope) (expected : Option DataType) (child : Pending) (place : Statement → β) : Run β := do
  return place (← evaluateChild scope expected child)

/-- Evaluated children are what is recorded for them, in the places of the children. -/
theorem evaluatePlaced_records {children : List α} {child : α → Pending} (expected : α → Option DataType)
    (place : α → Statement → β) (item : β → Statement) (placed : ∀ entry statement, item (place entry statement) = statement)
    {items : List Statement} (same : children.map child = sparingPendings instead levels [] items)
    (others : ∀ id shown levels, (instead levels).Keeps (World.Shows id shown) scope.transport)
    (distinct : items.Pairwise fun earlier later => Mention.node earlier.id ∉ later.mentions) (world : World) :
    let outcome := children.mapM (fun entry => evaluatePlaced scope (expected entry) (child entry) (place entry)) world
    (∀ value ∈ outcome.1, outcome.2.Records (item value)) ∧ outcome.1.map (fun value => (item value).id) = items.map (·.id) := by
  have idents : children.map (fun entry => (child entry).statement.id) = items.map (·.id) := by
    rw [← sparingPendings_statements [] items, ← same, List.map_map, List.map_map]
    rfl
  rw [← idents]
  apply mapM_records
  · intro entry among world
    have listed : child entry ∈ sparingPendings instead levels [] items := same ▸ List.mem_map_of_mem among
    have recorded := sparingPendings_records [] items (expected entry) scope world (child entry) listed
    change (evaluateChild scope (expected entry) (child entry) world).2.Records (item (place entry _)) ∧ (item (place entry _)).id = _
    rw [placed]
    exact recorded
  · have pairs : (sparingPendings instead levels [] items).Pairwise _ := sparingPendings_pairwise others [] distinct
    rw [← same, List.pairwise_map] at pairs
    refine pairs.imp ?_
    intro earlier later keeps shown
    exact (evaluateChild_keeps rfl _ (keeps shown)).bind fun _ => .pure _

end

/-- A container says of itself what is in it. The elements of an evaluated array have the union of their types as the
type of the array's elements, and an empty one has the type that was declared; the properties of an evaluated object have
the types of the entries, in their order. It takes that no call which is made for an element evaluates an earlier
one of the same container again. -/
theorem containers_typed_by_elements (levels : Nat) (scope : Scope) (data : Data) (world : World)
    (distinct : data.value.parts.Pairwise fun earlier later => Mention.node earlier.id ∉ later.mentions)
    (undisturbed : data.Undisturbed levels scope world) :
    (∀ items, data.value = .array items → data.type.dereference.kind ≠ .tuple →
      ∃ elements : List Statement, elements.map (·.id) = items.map (·.id)
        ∧ (evaluateData (callerWithin levels) data scope world).1 = ⟨data.id,
          .array (if elements.isEmpty then data.type.elementOr .unknown else .unionOf (elements.map (·.data.type))),
          .array elements⟩)
    ∧ ∀ entries, data.value = .record entries → data.type.dereference.kind ≠ .dictionary →
      ∃ elements : Table Statement, Table.keys elements = Table.keys entries
        ∧ (Table.values elements).map (·.id) = (Table.values entries).map (·.id)
        ∧ (evaluateData (callerWithin levels) data scope world).1 = ⟨data.id,
          .object (elements.map fun (key, element) => (key, element.data.type))
            ((elements.filter fun (_, element) => !element.isOptional).map (·.1)),
          .record elements⟩ := by
  let instead (_ : Nat) : Caller := fun _ _ _ => pure default
  have others (id : EntityId) (shown : Option Data) (levels : Nat) : (instead levels).Keeps (World.Shows id shown) scope.transport :=
    fun _ _ _ _ => .pure default
  have same := undisturbed instead
  obtain ⟨own, type, value⟩ := data
  constructor
  · rintro items rfl declared
    let pendings := sparingPendings instead levels [] items
    let expected (entry : Pending × Nat) := type.expectedChild entry.2 none
    let outcome := pendings.zipIdx.mapM (fun entry => evaluatePlaced scope (expected entry) entry.1 id) world
    have children : pendings.zipIdx.map (·.1) = pendings := List.zipIdx_map_fst 0 pendings
    obtain ⟨records, idents⟩ := evaluatePlaced_records expected (fun _ => id) id (fun _ _ => rfl) children others distinct world
    refine ⟨outcome.1, idents, ?_⟩
    rw [← inferArray_of_records records scope declared, ← same]
    rfl
  · rintro entries rfl declared
    let pendings := sparingPendings instead levels [] (Table.values entries)
    let named := (Table.keys entries).zip pendings
    let expected (entry : (String × Pending) × Nat) := type.expectedChild entry.2 (some entry.1.1)
    let place (entry : (String × Pending) × Nat) (statement : Statement) : String × Statement := (entry.1.1, statement)
    let outcome := named.zipIdx.mapM (fun entry => evaluatePlaced scope (expected entry) entry.1.2 (place entry)) world
    have length : (Table.keys entries).length = pendings.length := by
      have statements : pendings.map (·.statement) = Table.values entries := sparingPendings_statements [] _
      have counted := congrArg List.length statements
      rw [List.length_map] at counted
      rw [counted, Table.keys, Table.values, List.length_map, List.length_map]
    have children : named.zipIdx.map (·.1.2) = pendings :=
      (map_fst_zipIdx named (·.2)).trans (List.map_snd_zip (Nat.le_of_eq length.symm))
    have keys : named.zipIdx.map (·.1.1) = Table.keys entries :=
      (map_fst_zipIdx named (·.1)).trans (List.map_fst_zip (Nat.le_of_eq length))
    have kept (entry : (String × Pending) × Nat) :
        (evaluatePlaced scope (expected entry) entry.1.2 (place entry)).Yields fun value => value.1 = entry.1.1 := fun _ => rfl
    obtain ⟨records, idents⟩ := evaluatePlaced_records expected place (·.2) (fun _ _ => rfl) children others distinct world
    refine ⟨outcome.1, ?_, ?_, ?_⟩
    · exact (Run.Yields.mapM kept named.zipIdx world).trans keys
    · rw [Table.values, List.map_map]
      exact idents
    · rw [← inferRecord_of_records records scope declared, ← same]
      rfl

/-- Two elements that come from calls of an operation, which holds neither of them. -/
theorem containers_typed_by_elements_echo :
    let word (id text : String) : Data := ⟨id, .string, .text text⟩
    let plain (id : EntityId) (data : Data) (calls : List Data) (name : Option String) : Statement := ⟨id, data, calls, name, false⟩
    let echo : Data := ⟨"echo", .operation [.named "n" .string] .string,
      .operation none [plain "n-in" (word "n-default" "") [] (some "n")]
        [plain "body" ⟨"use", .reference .string, .reference "n" "n-in"⟩ [] none]⟩
    let call (id : String) : Data := ⟨id, .unknown, .operation (some "echo") [] []⟩
    let pair : Data := ⟨"pair", .array .unknown,
      .array [plain "first" (word "a" "a") [call "one"] none, plain "second" (word "b" "b") [call "two"] none]⟩
    let scope : Scope := { bindings := [("echo", ⟨"declared", echo⟩)] }
    ∃ elements : List Statement, elements.map (·.id) = ["first", "second"]
      ∧ (evaluateData (callerWithin 2) pair scope {}).1 = ⟨"pair",
        .array (if elements.isEmpty then .unknown else .unionOf (elements.map (·.data.type))), .array elements⟩ := by
  intro word plain echo call pair scope
  have distinct : pair.value.parts.Pairwise fun earlier later => Mention.node earlier.id ∉ later.mentions := by decide
  -- Both sides are evaluated by themselves: compared step by step they take far longer.
  let given : Data := ⟨"pair", .array .string, .array [plain "first" (word "a" "a") [] none, plain "second" (word "b" "b") [] none]⟩
  let after : World := { store := { results := [("body", ⟨word "b" "b", false⟩), ("one", ⟨word "a" "a", false⟩),
    ("first", ⟨word "a" "a", false⟩), ("two", ⟨word "b" "b", false⟩), ("second", ⟨word "b" "b", false⟩)] }, nextId := 2 }
  have undisturbed : pair.Undisturbed 2 scope {} := by
    intro instead
    apply Prod.ext
    · exact (rfl : _ = given).trans rfl
    · exact (rfl : _ = after).trans rfl
  exact (containers_typed_by_elements 2 scope pair {} distinct undisturbed).1 _ rfl (by decide)

/-- An operation that calls itself for the second element of its own container records the first one anew. What is typed as
a text in the outcome is the truth value that the operation was called on, in the array as well as in the object. -/
theorem earlier_element_typed_anew :
    let word (id text : String) : Data := ⟨id, .string, .text text⟩
    let plain (id : EntityId) (data : Data) (calls : List Data) : Statement := ⟨id, data, calls, none, false⟩
    let use (id : String) : Data := ⟨id, .reference .unknown, .reference "n" "n-in"⟩
    let call (id name : String) (arguments : List Statement) : Data := ⟨id, .unknown, .operation (some name) arguments []⟩
    let test := plain "test" (use "tested") [call "check" "isTypeOf" [plain "sample" (word "empty" "") []]]
    let again := plain "again" (word "s" "s") [call "recurs" "f" []]
    let first := plain "first" (use "used") []
    let second := plain "second" ⟨"choice", .condition .unknown, .condition test (plain "stop" (word "end" "stop") []) again⟩ []
    let outcome (literal : Data) : Data :=
      let f : Data := ⟨"f", .operation [.named "n" .unknown] .unknown,
        .operation none [⟨"n-in", ⟨"n-default", .unknown, .text ""⟩, [], some "n", false⟩] [plain "body" literal []]⟩
      let scope : Scope := { bindings := [("f", ⟨"declared", f⟩)] }
      (scope.evaluate (plain "statement" ⟨"truth", .boolean, .boolean true⟩ [call "start" "f" []]) {}).1
    let array := outcome ⟨"pair", .array .unknown, .array [first, second]⟩
    let object := outcome ⟨"pair", .object [] [], .record [("one", first), ("two", second)]⟩
    array.items?.map (fun elements => array.type.beq (.array (.unionOf (elements.map (·.data.type))))) = some false
      ∧ object.entries?.map (fun entries => entries.map fun (key, element) => (key, element.data.type.kind))
        = some [("one", .boolean), ("two", .object)]
      ∧ (match object.type with
        | .object properties _ => properties.map fun (key, type) => (key, type.kind)
        | _ => []) = [("one", .string), ("two", .object)] := by
  dsimp only
  refine ⟨?_, ?_, ?_⟩ <;> decide +kernel

end LivePipeline
