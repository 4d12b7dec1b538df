import LivePipeline.Proofs.Containers
import LivePipeline.Proofs.Loading.Types

/-! Data that is made from JSON. It shows the JSON again, its type is what is inferred from its value, and it is what it
evaluates to: the identities that are drawn for its elements keep their results apart, so every container finds the results
of its own elements. -/

namespace LivePipeline

/-! ## JSON that is kept as it is -/

mutual

/-- Numbers are what is shown for the doubles that they are read as, and no object has a key twice. -/
def Json.Exact : Json → Prop
  | .int value => Json.ofNumber (floatOfInt value) = .int value
  | .float value => Json.ofNumber value = .float value
  | .array items => itemsExact items
  | .object fields => (Table.keys fields).Nodup ∧ fieldsExact fields
  | .null | .bool _ | .text _ => True
termination_by structural json => json

def itemsExact : List Json → Prop
  | [] => True
  | item :: rest => item.Exact ∧ itemsExact rest
termination_by structural items => items

def fieldsExact : List (String × Json) → Prop
  | [] => True
  | (_, value) :: rest => value.Exact ∧ fieldsExact rest
termination_by structural fields => fields

end

/-! ## Data that evaluates to itself -/

/-- The results of other nodes are as they were. -/
def World.AgreesOutside (inner : EntityId → Prop) (world after : World) : Prop :=
  ∀ id, ¬ inner id → after.store.result? id = world.store.result? id

theorem World.AgreesOutside.trans {inner : EntityId → Prop} {first second third : World} (one : first.AgreesOutside inner second)
    (other : second.AgreesOutside inner third) : first.AgreesOutside inner third :=
  fun id outside => (other id outside).trans (one id outside)

theorem World.AgreesOutside.mono {inner more : EntityId → Prop} {world after : World} (agrees : world.AgreesOutside inner after)
    (within : ∀ id, inner id → more id) : world.AgreesOutside more after :=
  fun id outside => agrees id fun among => outside (within id among)

/-- The data is what it evaluates to, in every scope and world, and only results of the given nodes are recorded on the way. -/
structure Data.Fixed (inner : EntityId → Prop) (data : Data) : Prop where
  firm : data.reference? = none
  evaluates : ∀ caller scope world, ∃ after, evaluateData caller data scope world = (data, after) ∧ world.AgreesOutside inner after

/-- A statement that only has data, which is fixed, and whose identity is none of those inside. -/
structure Statement.Fixed (inner : EntityId → Prop) (statement : Statement) : Prop where
  data : statement.data.Fixed inner
  bare : statement.operations = []
  apart : ¬ inner statement.id

section

variable {inner : EntityId → Prop} {caller : Caller} {scope : Scope}

/-- Data without a chain is recorded as it is. -/
theorem Statement.Fixed.evaluates {statement : Statement} (fixed : statement.Fixed inner) (caller : Caller) (scope : Scope)
    (world : World) : ∃ after, evaluateStatement caller statement scope world = (statement.data, after)
      ∧ after.Records statement ∧ world.AgreesOutside (fun id => inner id ∨ id = statement.id) after := by
  obtain ⟨id, data, operations, name, isOptional⟩ := statement
  obtain ⟨⟨firm, evaluates⟩, rfl, apart⟩ := fixed
  obtain ⟨after, evaluated, agrees⟩ := evaluates caller scope world
  refine ⟨{ after with store := after.store.setResult id data }, ?_, ?_, ?_⟩
  · have chained : evaluateChain caller data [] scope world = (data, after) := by
      rw [evaluateChain, Run.bind_eq evaluated]
      change scope.resolve data after = _
      rw [scope.resolve_eq firm]
      rfl
    rw [evaluateStatement_eq, Run.bind_eq chained]
    rfl
  · exact (Store.result?_record _ false id id _).trans (if_pos rfl)
  · intro other outside
    rw [not_or] at outside
    exact ((Store.result?_record _ false id other _).trans (if_neg outside.2)).trans (agrees other outside.1)

/-- A child that is fixed stays in its place as it is. -/
theorem evaluatePlaced_fixed {statement : Statement} (fixed : statement.Fixed inner) (caller : Caller) (scope : Scope)
    (expected : Option DataType) (place : Statement → β) (world : World) :
    ∃ after, evaluatePlaced scope expected ⟨statement, evaluateStatement caller statement⟩ place world = (place statement, after)
      ∧ after.Records statement ∧ world.AgreesOutside (fun id => inner id ∨ id = statement.id) after := by
  obtain ⟨after, evaluated, rest⟩ := fixed.evaluates caller (scope.child.expecting expected) world
  refine ⟨after, ?_, rest⟩
  have child : evaluateChild scope expected ⟨statement, evaluateStatement caller statement⟩ world = (statement, after) := by
    rw [evaluateChild, Run.bind_eq evaluated]
    obtain ⟨id, data, operations, name, isOptional⟩ := statement
    obtain rfl : operations = [] := fixed.bare
    rfl
  rw [evaluatePlaced, Run.bind_eq child]
  rfl

/-- Children with identities of their own, evaluated one after the other, are all recorded behind the last one. -/
theorem mapM_fixed {children : List α} {child : α → Statement} (fixed : ∀ entry ∈ children, (child entry).Fixed inner)
    (distinct : (children.map fun entry => (child entry).id).Nodup) (caller : Caller) (scope : Scope)
    (expected : α → Option DataType) (place : α → Statement → β) (world : World) : ∃ after,
      children.mapM (fun entry => evaluatePlaced scope (expected entry) ⟨child entry, evaluateStatement caller (child entry)⟩ (place entry)) world
        = (children.map fun entry => place entry (child entry), after)
      ∧ (∀ entry ∈ children, after.Records (child entry))
      ∧ world.AgreesOutside (fun id => inner id ∨ id ∈ children.map fun entry => (child entry).id) after := by
  induction children generalizing world with
  | nil => exact ⟨world, rfl, nofun, fun _ _ => rfl⟩
  | cons entry rest ih =>
    rw [List.forall_mem_cons] at fixed
    rw [List.map_cons, List.nodup_cons] at distinct
    obtain ⟨middle, first, records, agrees⟩ :=
      evaluatePlaced_fixed fixed.1 caller scope (expected entry) (place entry) world
    obtain ⟨after, others, recorded, agrees'⟩ := ih fixed.2 distinct.2 middle
    refine ⟨after, ?_, List.forall_mem_cons.mpr ⟨?_, recorded⟩, ?_⟩
    · rw [List.mapM_cons, Run.bind_eq first, Run.bind_eq others]
      rfl
    · exact (agrees' _ (not_or.mpr ⟨fixed.1.apart, distinct.1⟩)).trans records
    · refine .trans (agrees.mono fun id => ?_) (agrees'.mono fun id => ?_)
      · exact Or.imp_right fun same => same ▸ .head _
      · exact Or.imp_right fun among => .tail _ among

/-- An array of fixed elements that is typed by them. -/
theorem Data.Fixed.array {items : List Statement} (fixed : ∀ item ∈ items, item.Fixed inner)
    (distinct : (items.map Statement.id).Nodup) (id : EntityId) :
    Data.Fixed (fun other => inner other ∨ other ∈ items.map Statement.id)
      ⟨id, .array (if items.isEmpty then .unknown else .unionOf (items.map (·.data.type))), .array items⟩ := by
  refine ⟨rfl, fun caller scope world => ?_⟩
  generalize typed : DataType.array (if items.isEmpty then .unknown else .unionOf (items.map (·.data.type))) = type
  have runs : evaluateArray scope id type (pendings caller items) = (do
      let items ← items.zipIdx.mapM fun entry =>
        evaluatePlaced scope (type.expectedChild entry.2 none) ⟨entry.1, evaluateStatement caller entry.1⟩ fun statement => statement
      rebuild scope id type (.array items)) := by
    rw [evaluateArray, pendings_eq_map, List.zipIdx_map, List.mapM_map]
    rfl
  have apart : (items.zipIdx.map fun entry => entry.1.id).Nodup := by rwa [map_fst_zipIdx]
  obtain ⟨after, evaluated, recorded, agrees⟩ := mapM_fixed (fun entry among => fixed entry.1 (List.fst_mem_of_mem_zipIdx among))
    apart caller scope (fun entry => type.expectedChild entry.2 none) (fun _ statement => statement) world
  rw [List.zipIdx_map_fst 0 items] at evaluated
  rw [map_fst_zipIdx items Statement.id] at agrees
  have records : ∀ item ∈ items, after.Records item := by
    rw [← List.zipIdx_map_fst 0 items]
    exact List.forall_mem_map.mpr recorded
  refine ⟨after, ?_, agrees⟩
  change evaluateArray scope id type (pendings caller items) world = _
  rw [runs, Run.bind_eq evaluated, rebuild]
  change ((⟨id, Value.inferArray ((scope.expecting (some type)).hints after.store) items, .array items⟩ : Data), after) = _
  rw [inferArray_of_records records scope (by rw [← typed]; exact nofun), ← typed]
  cases items <;> rfl

/-- An object of fixed entries that is typed by them. -/
theorem Data.Fixed.record {entries : Table Statement} (fixed : ∀ entry ∈ entries, entry.2.Fixed inner)
    (required : ∀ entry ∈ entries, entry.2.isOptional = false)
    (distinct : (entries.map fun entry => entry.2.id).Nodup) (id : EntityId) :
    Data.Fixed (fun other => inner other ∨ other ∈ entries.map fun entry => entry.2.id)
      ⟨id, .record (entries.map fun entry => (entry.1, entry.2.data.type)), .record entries⟩ := by
  refine ⟨rfl, fun caller scope world => ?_⟩
  generalize typed : DataType.record (entries.map fun entry => (entry.1, entry.2.data.type)) = type
  have runs : evaluateRecord scope id type (pendingEntries caller entries) = (do
      let entries ← entries.zipIdx.mapM fun entry =>
        evaluatePlaced scope (type.expectedChild entry.2 (some entry.1.1)) ⟨entry.1.2, evaluateStatement caller entry.1.2⟩
          fun statement => (entry.1.1, statement)
      rebuild scope id type (.record entries)) := by
    rw [evaluateRecord, pendingEntries_eq_map, List.zipIdx_map, List.mapM_map]
    rfl
  have apart : (entries.zipIdx.map fun entry => entry.1.2.id).Nodup := by rwa [map_fst_zipIdx entries fun entry => entry.2.id]
  obtain ⟨after, evaluated, recorded, agrees⟩ := mapM_fixed (fun entry among => fixed entry.1 (List.fst_mem_of_mem_zipIdx among))
    apart caller scope (fun entry => type.expectedChild entry.2 (some entry.1.1)) (fun entry statement => (entry.1.1, statement)) world
  rw [map_fst_zipIdx entries fun entry => (entry.1, entry.2), List.map_id'] at evaluated
  rw [map_fst_zipIdx entries fun entry => entry.2.id] at agrees
  have records : ∀ entry ∈ entries, after.Records entry.2 := by
    rw [← List.zipIdx_map_fst 0 entries]
    exact List.forall_mem_map.mpr recorded
  have all : entries.filter (fun entry => !entry.2.isOptional) = entries := by
    refine List.filter_eq_self.mpr fun entry among => ?_
    rw [required entry among]
    rfl
  refine ⟨after, ?_, agrees⟩
  change evaluateRecord scope id type (pendingEntries caller entries) world = _
  rw [runs, Run.bind_eq evaluated, rebuild]
  change ((⟨id, Value.inferRecord ((scope.expecting (some type)).hints after.store) entries, .record entries⟩ : Data), after) = _
  rw [inferRecord_of_records records scope (by rw [← typed]; exact nofun), all, ← typed, DataType.record, List.map_map]
  rfl

end

theorem Data.Fixed.mono {inner more : EntityId → Prop} {data : Data} (fixed : data.Fixed inner) (within : ∀ id, inner id → more id) :
    data.Fixed more := by
  refine ⟨fixed.firm, fun caller scope world => ?_⟩
  obtain ⟨after, evaluated, agrees⟩ := fixed.evaluates caller scope world
  exact ⟨after, evaluated, agrees.mono within⟩

/-- What needs no evaluation is fixed. -/
theorem Data.Fixed.scalar {data : Data} (firm : data.reference? = none)
    (stays : ∀ caller scope, evaluateData caller data scope = pure data) (inner : EntityId → Prop) : data.Fixed inner :=
  ⟨firm, fun caller scope world => ⟨world, by rw [stays]; rfl, fun _ _ => rfl⟩⟩

/-! ## Data made from JSON -/

/-- An identity that was drawn when the counter stood between the two numbers. -/
def DrawnWithin (low high : Nat) (id : EntityId) : Prop := ∃ number, low ≤ number ∧ number < high ∧ id = EntityId.drawn number

theorem DrawnWithin.mono {low high low' high' : Nat} (below : low' ≤ low) (above : high ≤ high') {id : EntityId}
    (drawn : DrawnWithin low high id) : DrawnWithin low' high' id := by
  obtain ⟨number, least, most, same⟩ := drawn
  exact ⟨number, below.trans least, most.trans_le above, same⟩

theorem DrawnWithin.drawn_iff {low high number : Nat} : DrawnWithin low high (.drawn number) ↔ low ≤ number ∧ number < high := by
  refine ⟨?_, fun ⟨least, most⟩ => ⟨number, least, most, rfl⟩⟩
  rintro ⟨other, least, most, same⟩
  exact EntityId.drawn_injective same ▸ ⟨least, most⟩

/-- The data is fixed, and its type is what its value is inferred to have as long as nothing has a result. -/
structure Data.Literal (inner : EntityId → Prop) (data : Data) : Prop where
  direct : data.type.dereference = data.type
  declared : ∀ hints : TypeHints, hints.child = Statement.resultType → hints.expected = none → data.value.inferType hints = data.type
  fixed : data.Fixed inner

/-- A statement that is only its data. -/
def Statement.bare (id : EntityId) (data : Data) : Statement := ⟨id, data, [], none, false⟩

/-- Statements for the items, with identities that are drawn one after the other. -/
def numbered (data : α → Data) (items : List α) (next : Nat) : List (α × Statement) :=
  (items.zipIdx next).map fun entry => (entry.1, .bare (.drawn entry.2) (data entry.1))

theorem mapM_make (data : α → Data) (place : α → Statement → β) (items : List α) (next : Nat) :
    (items.mapM fun item => (do return place item (← Statement.make (data item)) : Fresh β)).run next
      = ((numbered data items next).map fun entry => place entry.1 entry.2, next + items.length) := by
  induction items generalizing next with
  | nil => rfl
  | cons item rest ih =>
    rw [List.mapM_cons]
    let others := (rest.mapM fun item => (do return place item (← Statement.make (data item)) : Fresh β)).run (next + 1)
    change (place item (.bare (.drawn next) (data item)) :: others.1, others.2) = _
    rw [show others = _ from ih (next + 1), List.length_cons, Nat.add_assoc, Nat.add_comm 1]
    rfl

section

variable {data : α → Data} {items : List α} {next : Nat}

theorem mem_numbered {entry : α × Statement} (among : entry ∈ numbered data items next) :
    entry.1 ∈ items ∧ ∃ number, next ≤ number ∧ number < next + items.length ∧ entry.2 = .bare (.drawn number) (data entry.1) := by
  obtain ⟨⟨item, number⟩, listed, rfl⟩ := List.mem_map.mp among
  have within := List.mem_zipIdx listed
  exact ⟨List.fst_mem_of_mem_zipIdx listed, number, within.1, by simpa [Nat.add_comm] using within.2.1, rfl⟩

theorem numbered_distinct : ((numbered data items next).map fun entry => entry.2.id).Nodup := by
  have ids : (numbered data items next).map (fun entry => entry.2.id) = (List.range' next items.length).map EntityId.drawn := by
    rw [numbered, List.map_map, ← List.zipIdx_map_snd next items, List.map_map]
    rfl
  rw [ids]
  exact (List.nodup_range').map EntityId.drawn_injective

theorem numbered_fixed {low : Nat} (fixed : ∀ item ∈ items, (data item).Fixed (DrawnWithin low next)) :
    ∀ entry ∈ numbered data items next, entry.2.Fixed (DrawnWithin low next) := by
  intro entry among
  obtain ⟨inItems, number, least, _, made⟩ := mem_numbered among
  rw [made]
  refine ⟨fixed entry.1 inItems, rfl, fun drawn => ?_⟩
  exact absurd (DrawnWithin.drawn_iff.mp drawn).2 (Nat.not_lt.mpr least)

/-- What is recorded for numbered statements and inside of them was drawn before the counter that they leave. -/
theorem numbered_within (data : α → Data) {low : Nat} (grows : low ≤ next) {id : EntityId}
    (within : DrawnWithin low next id ∨ id ∈ (numbered data items next).map fun entry => entry.2.id) :
    DrawnWithin low (next + items.length + 1) id := by
  rcases within with drawn | among
  · exact drawn.mono (Nat.le_refl _) (by omega)
  · obtain ⟨entry, listed, rfl⟩ := List.mem_map.mp among
    obtain ⟨_, number, least, most, made⟩ := mem_numbered listed
    rw [made]
    exact ⟨number, grows.trans least, by omega, rfl⟩

/-- What is the same for every identity that a statement may get is read off the items. -/
theorem numbered_map {shape : α × Statement → β} {direct : α → β}
    (same : ∀ item ∈ items, ∀ number, shape (item, .bare (.drawn number) (data item)) = direct item) :
    (numbered data items next).map shape = items.map direct := by
  have whole := congrArg (List.map direct) (List.zipIdx_map_fst next items)
  rw [List.map_map] at whole
  rw [← whole, numbered, List.map_map]
  exact List.map_congr_left fun entry among => same entry.1 (List.fst_mem_of_mem_zipIdx among) entry.2

end

theorem plainItems_eq_map (statements : List Statement) : plainItems statements = statements.map (·.data.plain) := by
  induction statements with
  | nil => rfl
  | cons statement rest ih =>
    obtain ⟨_, ⟨_, _, value⟩, _, _, _⟩ := statement
    rw [plainItems, ih]
    rfl

theorem plainEntries_eq_map (entries : List (String × Statement)) :
    plainEntries entries = entries.map fun entry => (entry.1, entry.2.data.plain) := by
  induction entries with
  | nil => rfl
  | cons entry rest ih =>
    obtain ⟨_, _, ⟨_, _, value⟩, _, _, _⟩ := entry
    rw [plainEntries, ih]
    rfl

namespace Data.Literal

variable {inner : EntityId → Prop} {low next : Nat}

theorem mono {more : EntityId → Prop} {data : Data} (known : data.Literal inner) (within : ∀ id, inner id → more id) :
    data.Literal more :=
  { known with fixed := known.fixed.mono within }

theorem scalar {data : Data} (direct : data.type.dereference = data.type) (declared : ∀ hints, data.value.inferType hints = data.type)
    (firm : data.reference? = none) (stays : ∀ caller scope, evaluateData caller data scope = pure data) : data.Literal inner :=
  ⟨direct, fun hints _ _ => declared hints, .scalar firm stays inner⟩

theorem array {made : List Data} (grows : low ≤ next) (all : ∀ data ∈ made, data.Literal (DrawnWithin low next)) :
    let built := (Data.array made .unknown).run next
    built.1.Literal (DrawnWithin low built.2) ∧ built.1.plain = .array (made.map Data.plain) := by
  let entries := numbered (fun data => data) made next
  let statements := entries.map fun entry => entry.2
  have types : statements.map (·.data.type) = made.map (·.type) := by
    rw [List.map_map]
    exact numbered_map fun _ _ _ => rfl
  have empty : made.isEmpty = statements.isEmpty := by
    rw [← List.isEmpty_map, ← types, List.isEmpty_map]
  have drawn : (made.mapM Statement.make).run next = (statements, next + made.length) :=
    mapM_make (fun data => data) (fun _ statement => statement) made next
  have build : (Data.array made .unknown).run next = ((⟨.drawn (next + made.length),
      .array (if statements.isEmpty then .unknown else .unionOf (statements.map (·.data.type))), .array statements⟩ : Data),
      next + made.length + 1) := by
    have behind : (Data.array made .unknown).run next
        = (Data.make (.array (if made.isEmpty then .unknown else .unionOf (made.map (·.type))))
          (.array ((made.mapM Statement.make).run next).1)).run ((made.mapM Statement.make).run next).2 := rfl
    rw [behind, drawn, types, empty]
    rfl
  rw [build]
  refine ⟨⟨rfl, fun hints children expected => ?_, ?_⟩, ?_⟩
  · have hinted : statements.map hints.child = statements.map (·.data.type) := by
      rw [types, List.map_map]
      exact numbered_map fun data among number => (congrFun children _).trans (all data among).direct
    rw [Value.inferType, Value.inferArray, hinted, expected, List.isEmpty_map]
    cases statements.isEmpty <;> rfl
  · have fixed : ∀ statement ∈ statements, statement.Fixed (DrawnWithin low next) :=
      List.forall_mem_map.mpr (numbered_fixed fun data among => (all data among).fixed)
    have distinct : (statements.map Statement.id).Nodup := by
      rw [List.map_map]
      exact numbered_distinct
    refine (Data.Fixed.array fixed distinct _).mono fun id within => numbered_within (fun data => data) grows ?_
    rwa [List.map_map] at within
  · change Json.array (plainItems statements) = _
    rw [plainItems_eq_map, List.map_map]
    exact congrArg Json.array (numbered_map fun _ _ _ => rfl)

theorem object {made : List (String × Data)} (grows : low ≤ next) (distinct : (Table.keys made).Nodup)
    (all : ∀ entry ∈ made, entry.2.Literal (DrawnWithin low next)) :
    let built := (Data.object made).run next
    built.1.Literal (DrawnWithin low built.2) ∧ built.1.plain = .object (made.map fun entry => (entry.1, entry.2.plain)) := by
  let numbers := numbered (fun entry : String × Data => entry.2) made next
  let entries : Table Statement := numbers.map fun entry => (entry.1.1, entry.2)
  have types : entries.map (fun entry => (entry.1, entry.2.data.type)) = made.map fun entry => (entry.1, entry.2.type) := by
    rw [List.map_map]
    exact numbered_map fun _ _ _ => rfl
  have keys : Table.keys entries = Table.keys made := by
    rw [Table.keys, List.map_map]
    exact numbered_map fun _ _ _ => rfl
  have properties : Table.ofEntries (made.map fun entry => (entry.1, entry.2.type)) = entries.map fun entry => (entry.1, entry.2.data.type) := by
    rw [types]
    refine Table.ofEntries_of_nodup ?_
    rwa [Table.keys, List.map_map]
  have written : Table.ofEntries entries = entries := Table.ofEntries_of_nodup (keys ▸ distinct)
  have drawn : (made.mapM fun entry => (do return (entry.1, ← Statement.make entry.2) : Fresh (String × Statement))).run next
      = (entries, next + made.length) :=
    mapM_make (fun entry => entry.2) (fun entry statement => (entry.1, statement)) made next
  have build : (Data.object made).run next = ((⟨.drawn (next + made.length),
      .record (entries.map fun entry => (entry.1, entry.2.data.type)), .record entries⟩ : Data), next + made.length + 1) := by
    let work (entry : String × Data) : Fresh (String × Statement) := do return (entry.1, ← Statement.make entry.2)
    have behind : (Data.object made).run next
        = (Data.make (.record (Table.ofEntries (made.map fun entry => (entry.1, entry.2.type))))
          (.record (Table.ofEntries ((made.mapM work).run next).1))).run ((made.mapM work).run next).2 := rfl
    rw [behind, drawn, properties, written]
    rfl
  rw [build]
  have optional : ∀ entry ∈ entries, entry.2.isOptional = false := by
    refine List.forall_mem_map.mpr fun entry among => ?_
    obtain ⟨_, number, _, _, bare⟩ := mem_numbered among
    rw [bare]
    rfl
  refine ⟨⟨rfl, fun hints children expected => ?_, ?_⟩, ?_⟩
  · have hinted : entries.map (fun entry => (entry.1, hints.child entry.2)) = entries.map fun entry => (entry.1, entry.2.data.type) := by
      rw [types, List.map_map]
      exact numbered_map fun entry among number => congrArg (Prod.mk entry.1) ((congrFun children _).trans (all entry among).direct)
    have required : entries.filter (fun entry => !entry.2.isOptional) = entries := by
      refine List.filter_eq_self.mpr fun entry among => ?_
      rw [optional entry among]
      rfl
    have names : (entries.map fun entry => (entry.1, entry.2.data.type)).map (·.1) = entries.map (·.1) := List.map_map
    rw [Value.inferType, Value.inferRecord, hinted, expected, required, ← names]
    rfl
  · have fixed : ∀ entry ∈ entries, entry.2.Fixed (DrawnWithin low next) :=
      List.forall_mem_map.mpr (numbered_fixed fun entry among => (all entry among).fixed)
    have apart : (entries.map fun entry => entry.2.id).Nodup := by
      rw [List.map_map]
      exact numbered_distinct
    refine (Data.Fixed.record fixed optional apart _).mono fun id within => numbered_within (fun entry : String × Data => entry.2) grows ?_
    rwa [List.map_map] at within
  · change Json.object (plainEntries entries) = _
    rw [plainEntries_eq_map, List.map_map]
    exact congrArg Json.object (numbered_map fun _ _ _ => rfl)

end Data.Literal

mutual

theorem ofPlain_literal : ∀ (json : Json) (start : Nat), json.Exact →
    let built := (Data.ofPlain json).run start
    built.1.Literal (DrawnWithin start built.2) ∧ built.1.plain = json
  | .null, _, _ => ⟨.scalar rfl (fun _ => rfl) rfl (fun _ _ => rfl), rfl⟩
  | .bool _, _, _ => ⟨.scalar rfl (fun _ => rfl) rfl (fun _ _ => rfl), rfl⟩
  | .int _, _, exact => ⟨.scalar rfl (fun _ => rfl) rfl (fun _ _ => rfl), exact⟩
  | .float _, _, exact => ⟨.scalar rfl (fun _ => rfl) rfl (fun _ _ => rfl), exact⟩
  | .text _, _, _ => ⟨.scalar rfl (fun _ => rfl) rfl (fun _ _ => rfl), rfl⟩
  | .array items, start, exact => by
    obtain ⟨all, shown⟩ := dataOfItems_literal items start exact
    obtain ⟨known, plain⟩ := Data.Literal.array (Fresh.Grows.ofItems items start) all
    exact ⟨known, plain.trans (congrArg Json.array shown)⟩
  | .object fields, start, exact => by
    obtain ⟨all, shown⟩ := dataOfFields_literal fields start exact.2
    have keys : Table.keys ((dataOfFields fields).run start).1 = Table.keys fields := by
      have names := congrArg (List.map Prod.fst) shown
      rwa [List.map_map] at names
    obtain ⟨known, plain⟩ := Data.Literal.object (Fresh.Grows.ofFields fields start) (keys ▸ exact.1) all
    exact ⟨known, plain.trans (congrArg Json.object shown)⟩

theorem dataOfItems_literal : ∀ (items : List Json) (start : Nat), itemsExact items →
    let built := (dataOfItems items).run start
    (∀ data ∈ built.1, data.Literal (DrawnWithin start built.2)) ∧ built.1.map Data.plain = items
  | [], _, _ => ⟨nofun, rfl⟩
  | item :: rest, start, exact => by
    let middle := ((Data.ofPlain item).run start).2
    obtain ⟨known, plain⟩ := ofPlain_literal item start exact.1
    obtain ⟨all, shown⟩ := dataOfItems_literal rest middle exact.2
    have before := Fresh.Grows.ofPlain item start
    have behind := Fresh.Grows.ofItems rest middle
    refine ⟨List.forall_mem_cons.mpr ⟨known.mono fun id => ?_, fun data among => (all data among).mono fun id => ?_⟩, ?_⟩
    · exact DrawnWithin.mono (Nat.le_refl _) behind
    · exact DrawnWithin.mono before (Nat.le_refl _)
    · exact congrArg₂ List.cons plain shown

theorem dataOfFields_literal : ∀ (fields : List (String × Json)) (start : Nat), fieldsExact fields →
    let built := (dataOfFields fields).run start
    (∀ entry ∈ built.1, entry.2.Literal (DrawnWithin start built.2)) ∧ built.1.map (fun entry => (entry.1, entry.2.plain)) = fields
  | [], _, _ => ⟨nofun, rfl⟩
  | (key, value) :: rest, start, exact => by
    let middle := ((Data.ofPlain value).run start).2
    obtain ⟨known, plain⟩ := ofPlain_literal value start exact.1
    obtain ⟨all, shown⟩ := dataOfFields_literal rest middle exact.2
    have before := Fresh.Grows.ofPlain value start
    have behind := Fresh.Grows.ofFields rest middle
    refine ⟨List.forall_mem_cons.mpr ⟨known.mono fun id => ?_, fun entry among => (all entry among).mono fun id => ?_⟩, ?_⟩
    · exact DrawnWithin.mono (Nat.le_refl _) behind
    · exact DrawnWithin.mono before (Nat.le_refl _)
    · exact congrArg₂ List.cons (congrArg (Prod.mk key) plain) shown

end

/-- Data that is made from JSON shows this JSON, with the fields of objects in their order. Where nothing has been evaluated
and nothing is asked for, what is inferred for its value is its type; and a statement of it evaluates to just this data, in
every scope and world, whether things are skipped or not. The JSON is one whose numbers are read as they are written. -/
theorem plain_data_is_fixed (json : Json) (exact : json.Exact) (start : Nat) :
    let made := (Data.ofPlain json).run start
    made.1.plain = json ∧
    (∀ (scope : Scope) (world : World), scope.expectedType = none → (∀ id, world.store.result? id = none) →
      (scope.inferType made.1.value world).1 = made.1.type) ∧
    ∀ (scope : Scope) (world : World), (scope.evaluate ((Statement.make made.1).run made.2).1 world).1 = made.1 := by
  obtain ⟨known, shown⟩ := ofPlain_literal json start exact
  refine ⟨shown, fun scope world unasked empty => ?_, fun scope world => ?_⟩
  · refine known.declared _ (funext fun statement => ?_) unasked
    change ((world.store.result? statement.id).map (·.type)).getD _ = _
    rw [empty]
    rfl
  · have fixed : ((Statement.make ((Data.ofPlain json).run start).1).run ((Data.ofPlain json).run start).2).1.Fixed
        (DrawnWithin start ((Data.ofPlain json).run start).2) :=
      ⟨known.fixed, rfl, fun drawn => absurd (DrawnWithin.drawn_iff.mp drawn).2 (Nat.lt_irrefl _)⟩
    obtain ⟨after, evaluated, -⟩ := fixed.evaluates scope.caller scope world
    exact congrArg Prod.fst evaluated

/-- An object with a mixed array and an empty object. -/
theorem plain_data_is_fixed_mixed :
    let json : Json := .object [("list", .array [.float 1e300, .text "x", .null]), ("none", .object [])]
    let made := (Data.ofPlain json).run 0
    json.Exact ∧ made.1.plain = json ∧ (({} : Scope).inferType made.1.value {}).1 = made.1.type
      ∧ (({ skip := some .unreachable } : Scope).evaluate ((Statement.make made.1).run made.2).1 {}).1 = made.1 := by
  intro json made
  have large : Json.ofNumber 1e300 = .float 1e300 := by
    have beyond : decide ((1e300 : Float).abs < 9007199254740992.0) = false := by decide +kernel
    rw [Json.ofNumber, beyond, Bool.and_false, if_neg Bool.false_ne_true, if_pos (by decide +kernel)]
  have exact : json.Exact := ⟨by decide, ⟨large, trivial, trivial, trivial⟩, ⟨List.nodup_nil, trivial⟩, trivial⟩
  obtain ⟨shown, inferred, evaluated⟩ := plain_data_is_fixed json exact 0
  exact ⟨exact, shown, inferred {} {} rfl (fun _ => rfl), evaluated { skip := some .unreachable } {}⟩

end LivePipeline
