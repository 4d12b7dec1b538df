import LivePipeline.Proofs.SelfCalls

/-! Editing a program in one place. A statement inside of another one stands in a gap that the rest leaves for
it: in a list, in a table, or as a part of a condition. An edit looks for a statement by its identity. Where
every node has an identity of its own, there is one such gap at most, and the edit changes what stands in it and
nothing else. -/

namespace LivePipeline

/-! ## The identities of nodes -/

def Mention.node? : Mention → Option EntityId
  | .node id => some id
  | .target _ | .object .. => none

/-- The identities of all the nodes inside of a value. -/
def Value.ids (value : Value) : List EntityId := value.mentions.filterMap Mention.node?

def Data.ids (data : Data) : List EntityId := data.mentions.filterMap Mention.node?

/-- The identities of a statement, its data, its calls, and all the nodes inside of them. -/
def Statement.ids (statement : Statement) : List EntityId := statement.mentions.filterMap Mention.node?

namespace Value

@[simp] theorem ids_array (items : List Statement) : (Value.array items).ids = items.flatMap Statement.ids := by
  simp only [ids, mentions, allMentions_eq_flatMap, List.filterMap_flatMap]
  rfl

@[simp] theorem ids_record (entries : List (String × Statement)) :
    (Value.record entries).ids = entries.flatMap (·.2.ids) := by
  simp only [ids, mentions, entryMentions_eq_flatMap, List.filterMap_flatMap, Statement.ids]

@[simp] theorem ids_operation (name : Option String) (parameters body : List Statement) :
    (Value.operation name parameters body).ids = parameters.flatMap Statement.ids ++ body.flatMap Statement.ids := by
  simp only [ids, mentions, allMentions_eq_flatMap, List.filterMap_append, List.filterMap_flatMap]
  rfl

@[simp] theorem ids_condition (test whenTrue whenFalse : Statement) :
    (Value.condition test whenTrue whenFalse).ids = test.ids ++ whenTrue.ids ++ whenFalse.ids := by
  simp only [ids, mentions, List.filterMap_append, Statement.ids]

@[simp] theorem ids_handle (className : String) (arguments : List Statement) (instanceId : EntityId) :
    (Value.handle className arguments instanceId).ids = arguments.flatMap Statement.ids := by
  simp only [ids, mentions, List.filterMap_cons, Mention.node?, allMentions_eq_flatMap, List.filterMap_flatMap]
  rfl

end Value

@[simp] theorem Data.ids_mk (id : EntityId) (type : DataType) (value : Value) :
    (Data.mk id type value).ids = id :: value.ids := rfl

@[simp] theorem Statement.ids_mk (id : EntityId) (data : Data) (operations : List Data) (name : Option String)
    (isOptional : Bool) :
    (Statement.mk id data operations name isOptional).ids = id :: (data.ids ++ operations.flatMap Data.ids) := by
  simp only [ids, mentions, callMentions_eq_flatMap, List.filterMap_cons, Mention.node?, List.filterMap_append,
    List.filterMap_flatMap]
  rfl

theorem Statement.id_mem_ids (statement : Statement) : statement.id ∈ statement.ids := by
  obtain ⟨id, data, operations, name, isOptional⟩ := statement
  rw [Statement.ids_mk]
  exact List.mem_cons_self

@[simp] theorem anyContainsId_eq_any (id : EntityId) (statements : List Statement) :
    anyContainsId id statements = statements.any (·.containsId id) := by
  induction statements with
  | nil => rfl
  | cons statement rest ih => simp [anyContainsId, ih]

@[simp] theorem callsContainId_eq_any (id : EntityId) (calls : List Data) :
    callsContainId id calls = calls.any (·.containsId id) := by
  induction calls with
  | nil => rfl
  | cons call rest ih => simp [callsContainId, ih]

@[simp] theorem entriesContainId_eq_any (id : EntityId) (entries : List (String × Statement)) :
    entriesContainId id entries = entries.any (·.2.containsId id) := by
  induction entries with
  | nil => rfl
  | cons entry rest ih => simp [entriesContainId, ih]

private theorem contains_steps (id : EntityId) :
    NodeSteps (fun value => value.containsId id = true ↔ id ∈ value.ids)
      (fun data => data.containsId id = true ↔ id ∈ data.ids)
      (fun statement => statement.containsId id = true ↔ id ∈ statement.ids) where
  undefined := by simp [Value.containsId, Value.ids, Value.mentions]
  text _ := by simp [Value.containsId, Value.ids, Value.mentions]
  number _ := by simp [Value.containsId, Value.ids, Value.mentions]
  boolean _ := by simp [Value.containsId, Value.ids, Value.mentions]
  array items all := by
    simp only [Value.containsId, anyContainsId_eq_any, List.any_eq_true, Value.ids_array, List.mem_flatMap]
    exact exists_congr fun item => and_congr_right (all item)
  record entries all := by
    simp only [Value.containsId, entriesContainId_eq_any, List.any_eq_true, Value.ids_record, List.mem_flatMap]
    exact exists_congr fun entry => and_congr_right (all entry)
  operation name parameters body inParameters inBody := by
    simp only [Value.containsId, anyContainsId_eq_any, Bool.or_eq_true, List.any_eq_true, Value.ids_operation,
      List.mem_append, List.mem_flatMap]
    exact or_congr (exists_congr fun parameter => and_congr_right (inParameters parameter))
      (exists_congr fun statement => and_congr_right (inBody statement))
  condition test whenTrue whenFalse inTest inTrue inFalse := by
    simp only [Value.containsId, Bool.or_eq_true, Value.ids_condition, List.mem_append, inTest, inTrue, inFalse]
  reference _ _ := by simp [Value.containsId, Value.ids, Value.mentions, Mention.node?]
  error _ := by simp [Value.containsId, Value.ids, Value.mentions]
  handle className arguments instanceId all := by
    simp only [Value.containsId, anyContainsId_eq_any, List.any_eq_true, Value.ids_handle, List.mem_flatMap]
    exact exists_congr fun argument => and_congr_right (all argument)
  data own type value inside := by
    simp only [Data.containsId, Bool.or_eq_true, beq_iff_eq, Data.ids_mk, List.mem_cons, inside]
    exact or_congr_left eq_comm
  statement own data operations name isOptional inData inCalls := by
    simp only [Statement.containsId, callsContainId_eq_any, Bool.or_eq_true, beq_iff_eq, List.any_eq_true,
      Statement.ids_mk, List.mem_cons, List.mem_append, List.mem_flatMap, inData, or_assoc]
    exact or_congr eq_comm (or_congr_right (exists_congr fun call => and_congr_right (inCalls call)))

/-- A statement contains the identities of its nodes. -/
theorem Statement.containsId_iff {statement : Statement} {id : EntityId} :
    statement.containsId id = true ↔ id ∈ statement.ids :=
  (contains_steps id).ofStatement statement

/-! ## Places -/

/-- What holds a list of statements inside of a value. -/
inductive Shelf where
  | items
  | parameters (name : Option String) (others : List Statement)
  | body (name : Option String) (others : List Statement)
  | arguments (className : String) (instanceId : EntityId)

namespace Shelf

def hold (statements : List Statement) : Shelf → Value
  | items => .array statements
  | parameters name others => .operation name statements others
  | body name others => .operation name others statements
  | arguments className instanceId => .handle className statements instanceId

/-- The statements of the value that are not in the list. -/
def beside : Shelf → List Statement
  | items | arguments _ _ => []
  | parameters _ others | body _ others => others

theorem ids_hold (shelf : Shelf) (statements : List Statement) :
    (shelf.hold statements).ids.Perm (statements.flatMap Statement.ids ++ shelf.beside.flatMap Statement.ids) := by
  cases shelf with
  | items => simp [hold, beside]
  | parameters name others => simp [hold, beside]
  | body name others => simpa [hold, beside] using List.perm_append_comm
  | arguments className instanceId => simp [hold, beside]

end Shelf

/-- A value with a gap where one of its statements stands. -/
inductive Gap where
  | listed (shelf : Shelf) (before behind : List Statement)
  | entry (before : List (String × Statement)) (key : String) (behind : List (String × Statement))
  | test (first second : Statement)
  | whenTrue (first second : Statement)
  | whenFalse (first second : Statement)

namespace Gap

def fill (part : Statement) : Gap → Value
  | listed shelf before behind => shelf.hold (before ++ part :: behind)
  | entry before key behind => .record (before ++ (key, part) :: behind)
  | test first second => .condition part first second
  | whenTrue first second => .condition first part second
  | whenFalse first second => .condition first second part

/-- The value without the gap. A condition needs all of its parts. -/
def close? : Gap → Option Value
  | listed shelf before behind => some (shelf.hold (before ++ behind))
  | entry before _ behind => some (.record (before ++ behind))
  | test _ _ | whenTrue _ _ | whenFalse _ _ => none

/-- The other statements of the value. -/
def beside : Gap → List Statement
  | listed shelf before behind => before ++ behind ++ shelf.beside
  | entry before _ behind => (before ++ behind).map (·.2)
  | test first second | whenTrue first second | whenFalse first second => [first, second]

theorem ids_fill (gap : Gap) (part : Statement) :
    (gap.fill part).ids.Perm (part.ids ++ gap.beside.flatMap Statement.ids) := by
  rw [List.perm_iff_count]
  intro id
  cases gap with
  | listed shelf before behind =>
    have held := (shelf.ids_hold (before ++ part :: behind)).count_eq id
    simp only [fill, beside, List.flatMap_append, List.flatMap_cons, List.count_append] at held ⊢
    omega
  | entry before key behind =>
    simp only [fill, beside, Value.ids_record, List.flatMap_append, List.flatMap_cons, List.map_append, List.flatMap_map,
      List.count_append]
    omega
  | _ =>
    simp only [fill, beside, Value.ids_condition, List.flatMap_cons, List.flatMap_nil, List.count_append, List.count_nil]
    omega

theorem ids_close {gap : Gap} {rest : Value} (closed : gap.close? = some rest) :
    rest.ids.Perm (gap.beside.flatMap Statement.ids) := by
  cases gap with
  | listed shelf before behind =>
    cases closed
    simpa only [beside, List.flatMap_append] using shelf.ids_hold (before ++ behind)
  | entry before key behind =>
    cases closed
    simp [beside, List.flatMap_map]
  | _ => cases closed

end Gap

/-- A statement with a gap where one of its values stands: that of its data, or that of one of its calls. -/
inductive Host where
  | data (id dataId : EntityId) (type : DataType) (operations : List Data) (name : Option String) (isOptional : Bool)
  | call (id : EntityId) (origin : Data) (before : List Data) (callId : EntityId) (type : DataType) (behind : List Data)
    (name : Option String) (isOptional : Bool)

namespace Host

def hold (value : Value) : Host → Statement
  | data id dataId type operations name isOptional => ⟨id, ⟨dataId, type, value⟩, operations, name, isOptional⟩
  | call id origin before callId type behind name isOptional =>
    ⟨id, origin, before ++ ⟨callId, type, value⟩ :: behind, name, isOptional⟩

/-- The identities of the statement, its data, its calls, and the nodes in its other values. -/
def ids : Host → List EntityId
  | data id dataId _ operations _ _ => id :: dataId :: operations.flatMap Data.ids
  | call id origin before callId _ behind _ _ => id :: callId :: (origin.ids ++ (before ++ behind).flatMap Data.ids)

theorem ids_hold (host : Host) (value : Value) : (host.hold value).ids.Perm (value.ids ++ host.ids) := by
  rw [List.perm_iff_count]
  intro id
  cases host <;>
    simp only [hold, ids, Statement.ids_mk, Data.ids_mk, List.flatMap_append, List.flatMap_cons, List.count_append,
      List.count_cons]
  · omega
  · omega

end Host

/-- The way from a statement to one inside of it, with everything that is passed on it. -/
inductive Place where
  | here
  | inside (host : Host) (gap : Gap) (place : Place)

namespace Place

/-- Puts a statement in the place. -/
def fill (part : Statement) : Place → Statement
  | here => part
  | inside host gap place => host.hold (gap.fill (place.fill part))

/-- What is left without the place. Only places in lists and in tables can go. -/
def close? : Place → Option Statement
  | here => none
  | inside host gap here => gap.close?.map host.hold
  | inside host gap (inside inner next place) => (inside inner next place).close?.map fun rest => host.hold (gap.fill rest)

/-- The identities of all the nodes around the place. -/
def ids : Place → List EntityId
  | here => []
  | inside host gap place => host.ids ++ gap.beside.flatMap Statement.ids ++ place.ids

theorem ids_fill (place : Place) (part : Statement) : (place.fill part).ids.Perm (part.ids ++ place.ids) := by
  induction place with
  | here => simp [fill, ids]
  | inside host gap place ih =>
    rw [List.perm_iff_count] at ih ⊢
    intro id
    have held := (host.ids_hold (gap.fill (place.fill part))).count_eq id
    have filled := (gap.ids_fill (place.fill part)).count_eq id
    have below := ih id
    simp only [fill, ids, List.count_append] at held filled below ⊢
    omega

theorem ids_close {place : Place} {rest : Statement} (closed : place.close? = some rest) : rest.ids.Perm place.ids := by
  induction place generalizing rest with
  | here => cases closed
  | inside host gap place ih =>
    rw [List.perm_iff_count]
    intro id
    cases place with
    | here =>
      obtain ⟨value, shut, rfl⟩ := Option.map_eq_some_iff.mp closed
      have held := (host.ids_hold value).count_eq id
      have left := (Gap.ids_close shut).count_eq id
      simp only [ids, List.count_append, List.count_nil] at held left ⊢
      omega
    | inside inner next place =>
      obtain ⟨below, shut, rfl⟩ := Option.map_eq_some_iff.mp closed
      have held := (host.ids_hold (gap.fill below)).count_eq id
      have filled := (gap.ids_fill below).count_eq id
      have left := (ih shut).count_eq id
      simp only [ids, List.count_append] at held filled left ⊢
      omega

end Place

/-- Every statement inside of a value stands in a gap of it, or in a place behind one. -/
private theorem place_steps :
    NodeSteps (fun value => ∀ part ∈ value.nested, ∃ gap place, value = Gap.fill (Place.fill part place) gap)
      (fun data => ∀ part ∈ data.value.nested, ∃ gap place, data.value = Gap.fill (Place.fill part place) gap)
      (fun statement => ∀ part ∈ statement.nested, ∃ place, statement = Place.fill part place) where
  undefined := nofun
  text _ := nofun
  number _ := nofun
  boolean _ := nofun
  array items all part inside := by
    rw [Value.nested, allNested_eq_flatMap, List.mem_flatMap] at inside
    obtain ⟨item, among, inside⟩ := inside
    obtain ⟨place, rfl⟩ := all item among part inside
    obtain ⟨before, behind, rfl⟩ := List.append_of_mem among
    exact ⟨.listed .items before behind, place, rfl⟩
  record entries all part inside := by
    rw [Value.nested, entriesNested_eq_flatMap, List.mem_flatMap] at inside
    obtain ⟨⟨key, statement⟩, among, inside⟩ := inside
    obtain ⟨place, rfl⟩ := all (key, statement) among part inside
    obtain ⟨before, behind, rfl⟩ := List.append_of_mem among
    exact ⟨.entry before key behind, place, rfl⟩
  operation name parameters body inParameters inBody part inside := by
    simp only [Value.nested, allNested_eq_flatMap, List.mem_append, List.mem_flatMap] at inside
    obtain ⟨parameter, among, inside⟩ | ⟨statement, among, inside⟩ := inside
    · obtain ⟨place, rfl⟩ := inParameters parameter among part inside
      obtain ⟨before, behind, rfl⟩ := List.append_of_mem among
      exact ⟨.listed (.parameters name body) before behind, place, rfl⟩
    · obtain ⟨place, rfl⟩ := inBody statement among part inside
      obtain ⟨before, behind, rfl⟩ := List.append_of_mem among
      exact ⟨.listed (.body name parameters) before behind, place, rfl⟩
  condition test whenTrue whenFalse inTest inTrue inFalse part inside := by
    simp only [Value.nested, List.mem_append] at inside
    obtain (inside | inside) | inside := inside
    · obtain ⟨place, rfl⟩ := inTest part inside
      exact ⟨.test whenTrue whenFalse, place, rfl⟩
    · obtain ⟨place, rfl⟩ := inTrue part inside
      exact ⟨.whenTrue test whenFalse, place, rfl⟩
    · obtain ⟨place, rfl⟩ := inFalse part inside
      exact ⟨.whenFalse test whenTrue, place, rfl⟩
  reference _ _ := nofun
  error _ := nofun
  handle className arguments instanceId all part inside := by
    rw [Value.nested, allNested_eq_flatMap, List.mem_flatMap] at inside
    obtain ⟨argument, among, inside⟩ := inside
    obtain ⟨place, rfl⟩ := all argument among part inside
    obtain ⟨before, behind, rfl⟩ := List.append_of_mem among
    exact ⟨.listed (.arguments className instanceId) before behind, place, rfl⟩
  data _ _ _ inside := inside
  statement id data operations name isOptional inData inCalls part inside := by
    simp only [Statement.nested, callsNested_eq_flatMap, List.mem_cons, List.mem_append, List.mem_flatMap] at inside
    obtain rfl | inside | ⟨call, among, inside⟩ := inside
    · exact ⟨.here, rfl⟩
    · obtain ⟨dataId, type, value⟩ := data
      obtain ⟨gap, place, rfl⟩ := inData part inside
      exact ⟨.inside (.data id dataId type operations name isOptional) gap place, rfl⟩
    · obtain ⟨callId, type, value⟩ := call
      obtain ⟨gap, place, rfl⟩ := inCalls _ among part inside
      obtain ⟨before, behind, rfl⟩ := List.append_of_mem among
      exact ⟨.inside (.call id data before callId type behind name isOptional) gap place, rfl⟩

/-- Every statement inside of another one has a place there. -/
theorem Statement.exists_place {statement part : Statement} (inside : part ∈ statement.nested) :
    ∃ place : Place, statement = place.fill part :=
  place_steps.ofStatement statement part inside

theorem Statement.id_mem_of_nested {statement part : Statement} (inside : part ∈ statement.nested) : part.id ∈ statement.ids := by
  obtain ⟨place, rfl⟩ := Statement.exists_place inside
  exact (place.ids_fill part).mem_iff.mpr (List.mem_append_left _ part.id_mem_ids)

theorem Value.id_mem_of_nested {value : Value} {part : Statement} (inside : part ∈ value.nested) : part.id ∈ value.ids := by
  obtain ⟨gap, place, rfl⟩ := place_steps.value value part inside
  have within := (place.ids_fill part).mem_iff.mpr (List.mem_append_left _ part.id_mem_ids)
  exact (gap.ids_fill _).mem_iff.mpr (List.mem_append_left _ within)

/-! ## Where nothing is to be edited -/

namespace Edit

variable (edit : Edit)

@[simp] theorem calls_eq_map (calls : List Data) : edit.calls calls = calls.map edit.data := by
  induction calls with
  | nil => rfl
  | cons call rest ih => simp [Edit.calls, ih]

theorem list_append (before behind : List Statement) : edit.list (before ++ behind) = edit.list before ++ edit.list behind := by
  induction before with
  | nil => rfl
  | cons statement rest ih =>
    simp only [List.cons_append, Edit.list, ih]
    split <;> rfl

theorem entries_append (before behind : List (String × Statement)) :
    edit.entries (before ++ behind) = edit.entries before ++ edit.entries behind := by
  induction before with
  | nil => rfl
  | cons entry rest ih =>
    simp only [List.cons_append, Edit.entries, ih]
    split <;> rfl

variable {edit}

/-- A statement in a list is kept, unless it is the one to be removed. -/
theorem list_cons_of_kept {statement : Statement} (kept : edit.removes = false ∨ statement.id ≠ edit.changed.id)
    (rest : List Statement) : edit.list (statement :: rest) = edit.statement statement :: edit.list rest := by
  rw [Edit.list, if_neg]
  simpa [imp_iff_not_or] using kept

theorem entries_cons_of_kept {key : String} {statement : Statement}
    (kept : edit.removes = false ∨ statement.id ≠ edit.changed.id) (rest : List (String × Statement)) :
    edit.entries ((key, statement) :: rest) = (key, edit.statement statement) :: edit.entries rest := by
  rw [Edit.entries, if_neg]
  simpa [imp_iff_not_or] using kept

theorem statement_of_ne {id : EntityId} {data : Data} {operations : List Data} {name : Option String} {isOptional : Bool}
    (other : id ≠ edit.changed.id) : edit.statement ⟨id, data, operations, name, isOptional⟩
      = ⟨id, edit.data data, operations.map edit.data, name, isOptional⟩ := by
  rw [Edit.statement, if_neg other, calls_eq_map]

theorem statement_of_eq {statement : Statement} (same : statement.id = edit.changed.id) :
    edit.statement statement = edit.changed := by
  obtain ⟨id, data, operations, name, isOptional⟩ := statement
  exact if_pos same

theorem list_eq_self {statements : List Statement}
    (all : ∀ statement ∈ statements, statement.id ≠ edit.changed.id ∧ edit.statement statement = statement) :
    edit.list statements = statements := by
  induction statements with
  | nil => rfl
  | cons statement rest ih =>
    obtain ⟨⟨other, same⟩, behind⟩ := List.forall_mem_cons.mp all
    rw [list_cons_of_kept (.inr other), same, ih behind]

theorem entries_eq_self {entries : List (String × Statement)}
    (all : ∀ entry ∈ entries, entry.2.id ≠ edit.changed.id ∧ edit.statement entry.2 = entry.2) :
    edit.entries entries = entries := by
  induction entries with
  | nil => rfl
  | cons entry rest ih =>
    obtain ⟨⟨other, same⟩, behind⟩ := List.forall_mem_cons.mp all
    rw [entries_cons_of_kept (.inr other), same, ih behind]

/-- The statement with the identity is not among the parts. -/
def Misses (edit : Edit) (parts : List Statement) : Prop := ∀ part ∈ parts, part.id ≠ edit.changed.id

theorem misses_append {first second : List Statement} :
    edit.Misses (first ++ second) ↔ edit.Misses first ∧ edit.Misses second := List.forall_mem_append

theorem misses_flatMap {items : List α} {parts : α → List Statement} :
    edit.Misses (items.flatMap parts) ↔ ∀ item ∈ items, edit.Misses (parts item) := List.forall_mem_flatMap

/-- Lists whose statements are missed, and left as they are, are left as they are. -/
private theorem list_missed {statements : List Statement}
    (all : ∀ statement ∈ statements, edit.Misses statement.nested → edit.statement statement = statement)
    (missed : edit.Misses (allNested statements)) : edit.list statements = statements := by
  rw [allNested_eq_flatMap, misses_flatMap] at missed
  exact list_eq_self fun statement among =>
    ⟨missed statement among statement statement.mem_nested, all statement among (missed statement among)⟩

private theorem missed_steps :
    NodeSteps (fun value => edit.Misses value.nested → edit.value value = value)
      (fun data => edit.Misses data.nested → edit.data data = data)
      (fun statement => edit.Misses statement.nested → edit.statement statement = statement) where
  undefined _ := rfl
  text _ _ := rfl
  number _ _ := rfl
  boolean _ _ := rfl
  array items all missed := by rw [Edit.value, list_missed all missed]
  record entries all missed := by
    rw [Value.nested, entriesNested_eq_flatMap, misses_flatMap] at missed
    rw [Edit.value, entries_eq_self fun entry among =>
      ⟨missed entry among entry.2 entry.2.mem_nested, all entry among (missed entry among)⟩]
  operation name parameters body inParameters inBody missed := by
    rw [Value.nested, misses_append] at missed
    rw [Edit.value, list_missed inParameters missed.1, list_missed inBody missed.2]
  condition test whenTrue whenFalse inTest inTrue inFalse missed := by
    rw [Value.nested, misses_append, misses_append] at missed
    rw [Edit.value, inTest missed.1.1, inTrue missed.1.2, inFalse missed.2]
  reference _ _ _ := rfl
  error _ _ := rfl
  handle className arguments instanceId all missed := by rw [Edit.value, list_missed all missed]
  data id type value inside missed := by rw [Edit.data, inside missed]
  statement id data operations name isOptional inData inCalls missed := by
    obtain ⟨other, missed⟩ := List.forall_mem_cons.mp missed
    obtain ⟨inside, calls⟩ := misses_append.mp missed
    rw [callsNested_eq_flatMap, misses_flatMap] at calls
    rw [statement_of_ne other, inData inside, List.map_congr_left fun call among => inCalls call among (calls call among),
      List.map_id']

/-- Where the statement with the identity does not stand, nothing is edited. -/
theorem statement_missed {statement : Statement} (missed : edit.Misses statement.nested) : edit.statement statement = statement :=
  missed_steps.ofStatement statement missed

theorem misses_of_not_mem {statement : Statement} (absent : edit.changed.id ∉ statement.ids) : edit.Misses statement.nested :=
  fun _ inside same => absent (same ▸ Statement.id_mem_of_nested inside)

/-- A statement without the identity may be passed over. -/
theorem statement_of_not_mem {statement : Statement} (absent : edit.changed.id ∉ statement.ids) :
    edit.statement statement = statement :=
  statement_missed (misses_of_not_mem absent)

theorem data_of_not_mem {data : Data} (absent : edit.changed.id ∉ data.ids) : edit.data data = data := by
  obtain ⟨id, type, value⟩ := data
  refine missed_steps.ofData _ fun part inside same => absent ?_
  exact List.mem_cons_of_mem _ (same ▸ Value.id_mem_of_nested inside)

theorem list_of_not_mem {statements : List Statement} (absent : edit.changed.id ∉ statements.flatMap Statement.ids) :
    edit.list statements = statements := by
  simp only [List.mem_flatMap, not_exists, not_and] at absent
  exact list_eq_self fun statement among =>
    ⟨fun same => absent statement among (same ▸ statement.id_mem_ids), statement_of_not_mem (absent statement among)⟩

theorem entries_of_not_mem {entries : List (String × Statement)} (absent : edit.changed.id ∉ entries.flatMap (·.2.ids)) :
    edit.entries entries = entries := by
  simp only [List.mem_flatMap, not_exists, not_and] at absent
  exact entries_eq_self fun entry among =>
    ⟨fun same => absent entry among (same ▸ entry.2.id_mem_ids), statement_of_not_mem (absent entry among)⟩

theorem calls_of_not_mem {calls : List Data} (absent : edit.changed.id ∉ calls.flatMap Data.ids) : calls.map edit.data = calls := by
  simp only [List.mem_flatMap, not_exists, not_and] at absent
  rw [List.map_congr_left fun call among => data_of_not_mem (absent call among), List.map_id']

end Edit

/-! ## Where something is -/

section

variable {edit : Edit}

theorem Shelf.edit_hold {shelf : Shelf} (absent : edit.changed.id ∉ shelf.beside.flatMap Statement.ids) (statements : List Statement) :
    edit.value (shelf.hold statements) = shelf.hold (edit.list statements) := by
  cases shelf with
  | items | arguments => rfl
  | parameters name others | body name others =>
    have missed : edit.list others = others := Edit.list_of_not_mem absent
    rw [hold, Edit.value, missed, hold]

namespace Gap

variable {gap : Gap} {part : Statement}

/-- What stands in the gap is edited, unless it has to leave. -/
theorem edit_fill (absent : edit.changed.id ∉ gap.beside.flatMap Statement.ids)
    (kept : edit.removes = false ∨ part.id ≠ edit.changed.id) : edit.value (gap.fill part) = gap.fill (edit.statement part) := by
  cases gap with
  | listed shelf before behind =>
    simp only [beside, List.flatMap_append, List.mem_append, not_or] at absent
    obtain ⟨⟨notBefore, notBehind⟩, notBeside⟩ := absent
    rw [fill, Shelf.edit_hold notBeside, Edit.list_append, Edit.list_cons_of_kept kept, Edit.list_of_not_mem notBefore,
      Edit.list_of_not_mem notBehind, fill]
  | entry before key behind =>
    simp only [beside, List.map_append, List.flatMap_append, List.flatMap_map, List.mem_append, not_or] at absent
    rw [fill, Edit.value, Edit.entries_append, Edit.entries_cons_of_kept kept, Edit.entries_of_not_mem absent.1,
      Edit.entries_of_not_mem absent.2, fill]
  | test first second | whenTrue first second | whenFalse first second =>
    simp only [beside, List.flatMap_cons, List.flatMap_nil, List.append_nil, List.mem_append, not_or] at absent
    rw [fill, Edit.value, Edit.statement_of_not_mem absent.1, Edit.statement_of_not_mem absent.2, fill]

/-- The statement with the identity leaves its gap. As a part of a condition, it is exchanged even then. -/
theorem edit_close (absent : edit.changed.id ∉ gap.beside.flatMap Statement.ids) (removes : edit.removes = true)
    (same : part.id = edit.changed.id) : edit.value (gap.fill part) = gap.close?.getD (gap.fill edit.changed) := by
  cases gap with
  | listed shelf before behind =>
    simp only [beside, List.flatMap_append, List.mem_append, not_or] at absent
    obtain ⟨⟨notBefore, notBehind⟩, notBeside⟩ := absent
    rw [fill, Shelf.edit_hold notBeside, Edit.list_append, Edit.list, Edit.list_of_not_mem notBefore,
      Edit.list_of_not_mem notBehind]
    simp [removes, same, close?]
  | entry before key behind =>
    simp only [beside, List.map_append, List.flatMap_append, List.flatMap_map, List.mem_append, not_or] at absent
    rw [fill, Edit.value, Edit.entries_append, Edit.entries, Edit.entries_of_not_mem absent.1,
      Edit.entries_of_not_mem absent.2]
    simp [removes, same, close?]
  | test first second | whenTrue first second | whenFalse first second =>
    simp only [beside, List.flatMap_cons, List.flatMap_nil, List.append_nil, List.mem_append, not_or] at absent
    rw [fill, Edit.value, Edit.statement_of_not_mem absent.1, Edit.statement_of_not_mem absent.2, Edit.statement_of_eq same]
    rfl

end Gap

theorem Host.edit_hold {host : Host} (absent : edit.changed.id ∉ host.ids) (value : Value) :
    edit.statement (host.hold value) = host.hold (edit.value value) := by
  cases host with
  | data id dataId type operations name isOptional =>
    simp only [ids, List.mem_cons, not_or] at absent
    rw [hold, Edit.statement_of_ne (Ne.symm absent.1), Edit.data, Edit.calls_of_not_mem absent.2.2, hold]
  | call id origin before callId type behind name isOptional =>
    simp only [ids, List.flatMap_append, List.mem_cons, List.mem_append, not_or] at absent
    obtain ⟨other, _, notOrigin, notBefore, notBehind⟩ := absent
    rw [hold, Edit.statement_of_ne (Ne.symm other), Edit.data_of_not_mem notOrigin, List.map_append, List.map_cons,
      Edit.calls_of_not_mem notBefore, Edit.calls_of_not_mem notBehind, Edit.data, hold]

namespace Place

variable {place : Place} {part : Statement}

/-- A step on the way has an identity of its own. -/
theorem id_fill_inside_mem (host : Host) (gap : Gap) (place : Place) (part : Statement) :
    ((inside host gap place).fill part).id ∈ (inside host gap place).ids := by
  cases host with
  | data | call => exact List.mem_append_left _ (List.mem_append_left _ List.mem_cons_self)

/-- Only what stands in the place is edited. -/
theorem edit_fill (absent : edit.changed.id ∉ place.ids) (kept : edit.removes = false ∨ part.id ≠ edit.changed.id) :
    edit.statement (place.fill part) = place.fill (edit.statement part) := by
  induction place with
  | here => rfl
  | inside host gap place ih =>
    simp only [ids, List.mem_append, not_or] at absent
    obtain ⟨⟨notHost, notBeside⟩, notBelow⟩ := absent
    have passed : edit.removes = false ∨ (place.fill part).id ≠ edit.changed.id := by
      cases place with
      | here => exact kept
      | inside inner next place => exact .inr fun same => notBelow (same ▸ id_fill_inside_mem inner next place part)
    rw [fill, Host.edit_hold notHost, Gap.edit_fill notBeside passed, ih notBelow, fill]

/-- An edit that removes the statement in the place leaves the rest. -/
theorem edit_close (absent : edit.changed.id ∉ place.ids) (removes : edit.removes = true) (same : part.id = edit.changed.id) :
    edit.statement (place.fill part) = place.close?.getD (place.fill edit.changed) := by
  induction place with
  | here => exact Edit.statement_of_eq same
  | inside host gap place ih =>
    simp only [ids, List.mem_append, not_or] at absent
    obtain ⟨⟨notHost, notBeside⟩, notBelow⟩ := absent
    cases place with
    | here =>
      rw [fill, Host.edit_hold notHost, fill, Gap.edit_close notBeside removes same]
      cases closed : gap.close? <;> simp [close?, closed, fill]
    | inside inner next place =>
      have passed : ((inside inner next place).fill part).id ≠ edit.changed.id :=
        fun same => notBelow (same ▸ id_fill_inside_mem inner next place part)
      rw [fill, Host.edit_hold notHost, Gap.edit_fill notBeside (.inr passed), ih notBelow]
      cases closed : (inside inner next place).close? <;> simp [close?, closed, fill]

end Place

end

theorem Place.id_not_mem {place : Place} {part : Statement} (distinct : (place.fill part).ids.Nodup) : part.id ∉ place.ids := by
  have apart := (List.nodup_append.mp ((place.ids_fill part).nodup_iff.mp distinct)).2.2
  exact fun around => apart _ part.id_mem_ids _ around rfl

/-- A statement in a place is exchanged there. -/
theorem Place.exchange {place : Place} {part changed : Statement} (absent : changed.id ∉ place.ids) (same : part.id = changed.id) :
    Edit.statement ⟨changed, false⟩ (place.fill part) = place.fill changed := by
  rw [Place.edit_fill absent (.inl rfl), Edit.statement_of_eq same]

/-- What leaves takes the identities of its nodes along. -/
theorem Place.containsId_close {place : Place} {part rest : Statement} (distinct : (place.fill part).ids.Nodup)
    (closed : place.close? = some rest) (id : EntityId) :
    rest.containsId id = ((place.fill part).containsId id && !part.containsId id) := by
  have apart := (List.nodup_append.mp ((place.ids_fill part).nodup_iff.mp distinct)).2.2
  rw [Bool.eq_iff_iff, Bool.and_eq_true, Bool.not_eq_true', ← Bool.not_eq_true, Statement.containsId_iff,
    Statement.containsId_iff, Statement.containsId_iff, (Place.ids_close closed).mem_iff, (place.ids_fill part).mem_iff,
    List.mem_append]
  constructor
  · exact fun around => ⟨.inr around, fun within => apart _ within _ around rfl⟩
  · rintro ⟨within | around, without⟩
    · exact absurd within without
    · exact around

/-- An edit of a program is an edit of one of its statements. It is the first one that contains the identity, and
where every node has an identity of its own, the others are as the edit leaves them. -/
theorem Edit.split_joined (edit : Edit) {statements : List Statement} (distinct : (statements.flatMap Statement.ids).Nodup) :
    (edit.split statements).1 ++ (edit.split statements).2 = edit.list statements := by
  by_cases among : edit.changed.id ∈ statements.flatMap Statement.ids
  · obtain ⟨target, member, contains⟩ := List.mem_flatMap.mp among
    obtain ⟨before, behind, rfl⟩ := List.append_of_mem member
    rw [List.flatMap_append, List.flatMap_cons, List.nodup_append, List.nodup_append] at distinct
    obtain ⟨_, ⟨_, _, notBehind⟩, notBefore⟩ := distinct
    have before_missed : edit.changed.id ∉ before.flatMap Statement.ids :=
      fun within => notBefore _ within _ (List.mem_append_left _ contains) rfl
    have behind_missed : edit.changed.id ∉ behind.flatMap Statement.ids := fun within => notBehind _ contains _ within rfl
    have apart : ∀ statement ∈ before, statement.containsId edit.changed.id = false := by
      intro statement within
      rw [← Bool.not_eq_true, Statement.containsId_iff]
      exact fun contains => before_missed (List.mem_flatMap.mpr ⟨statement, within, contains⟩)
    have whole : edit.list (target :: behind) = edit.list [target] ++ behind := by
      rw [← List.singleton_append, Edit.list_append, Edit.list_of_not_mem behind_missed]
    rw [Edit.list_append, Edit.list_of_not_mem before_missed, whole]
    simp [Edit.split, findIdx?_containsId apart (Statement.containsId_iff.mpr contains)]
  · have first : edit.list (statements.take 1) = statements.take 1 := by
      refine Edit.list_of_not_mem fun within => among ?_
      obtain ⟨statement, member, contains⟩ := List.mem_flatMap.mp within
      exact List.mem_flatMap.mpr ⟨statement, List.mem_of_mem_take member, contains⟩
    have unfound : statements.findIdx? (·.containsId edit.changed.id) = none := by
      refine List.findIdx?_eq_none_iff.mpr fun statement member => ?_
      rw [← Bool.not_eq_true, Statement.containsId_iff]
      exact fun contains => among (List.mem_flatMap.mpr ⟨statement, member, contains⟩)
    rw [Edit.list_of_not_mem among]
    simpa [Edit.split, unfound, first] using List.take_append_drop 1 statements

/-- Edits of a statement whose nodes have an identity each. Where no statement has the identity of the edit, nothing
changes. A statement that has it can be exchanged for itself, and one that is exchanged can be exchanged again.
Around its place everything stays as it is. A place in a list or in a table can go, and the statement takes the
identities of its nodes along. -/
theorem Edit.changes_one_place {statement : Statement} (distinct : statement.ids.Nodup) (changed : Statement) :
    ((∀ part ∈ statement.nested, part.id ≠ changed.id) →
      ∀ removes, Edit.statement ⟨changed, removes⟩ statement = statement)
    ∧ ∀ part ∈ statement.nested, part.id = changed.id →
      Edit.statement ⟨part, false⟩ statement = statement
      ∧ (∀ again : Statement, again.id = changed.id →
        Edit.statement ⟨again, false⟩ (Edit.statement ⟨changed, false⟩ statement) = Edit.statement ⟨again, false⟩ statement)
      ∧ (∃ place : Place, statement = place.fill part)
      ∧ ∀ place : Place, statement = place.fill part →
        Edit.statement ⟨changed, false⟩ statement = place.fill changed
        ∧ ∀ rest, place.close? = some rest →
          Edit.statement ⟨changed, true⟩ statement = rest
          ∧ ∀ id, rest.containsId id = (statement.containsId id && !part.containsId id) := by
  refine ⟨fun missed removes => Edit.statement_missed missed, fun part inside same => ?_⟩
  obtain ⟨place, rfl⟩ := Statement.exists_place inside
  have absent := Place.id_not_mem distinct
  refine ⟨Place.exchange absent rfl, fun again known => ?_, ⟨place, rfl⟩, fun other stands => ?_⟩
  · have absent : again.id ∉ place.ids := known.trans same.symm ▸ absent
    rw [Place.exchange (same ▸ Place.id_not_mem distinct) same, Place.exchange absent known.symm,
      Place.exchange absent (same.trans known.symm)]
  · rw [stands] at distinct ⊢
    have absent : changed.id ∉ other.ids := same ▸ Place.id_not_mem distinct
    refine ⟨Place.exchange absent same, fun rest closed => ⟨?_, Place.containsId_close distinct closed⟩⟩
    rw [Place.edit_close absent rfl same, closed, Option.getD_some]

/-- An entry of a record is exchanged, and leaves. -/
theorem Edit.changes_one_place_entry :
    let text (id own : EntityId) (shown : String) : Statement := ⟨id, ⟨own, .string, .text shown⟩, [], none, false⟩
    let whole (entries : List (String × Statement)) : Statement :=
      ⟨"whole", ⟨"object", .object [] [], .record entries⟩, [], none, false⟩
    let statement := whole [("first", text "old" "was" "a"), ("second", text "kept" "is" "b")]
    statement.ids.Nodup ∧ text "old" "was" "a" ∈ statement.nested
    ∧ Edit.statement ⟨text "old" "new" "c", false⟩ statement
      = whole [("first", text "old" "new" "c"), ("second", text "kept" "is" "b")]
    ∧ Edit.statement ⟨text "old" "new" "c", true⟩ statement = whole [("second", text "kept" "is" "b")]
    ∧ statement.containsId "was" = true ∧ (whole [("second", text "kept" "is" "b")]).containsId "was" = false := by
  intro text whole statement
  have distinct : statement.ids.Nodup := by decide
  have inside : text "old" "was" "a" ∈ statement.nested := List.mem_cons_of_mem _ List.mem_cons_self
  obtain ⟨_, laws⟩ := Edit.changes_one_place distinct (text "old" "new" "c")
  obtain ⟨_, _, _, places⟩ := laws _ inside rfl
  let place : Place := .inside (.data "whole" "object" (.object [] []) [] none false)
    (.entry [] "first" [("second", text "kept" "is" "b")]) .here
  obtain ⟨exchanged, leaves⟩ := places place rfl
  obtain ⟨left, without⟩ := leaves _ rfl
  exact ⟨distinct, inside, exchanged, left, rfl, without "was"⟩

end LivePipeline
