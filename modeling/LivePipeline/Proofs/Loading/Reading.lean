import LivePipeline.Proofs.Loading.Unions

/-! What nodes that were read from JSON are like. Their types name no property twice, their entries have
distinct keys, and what is written for a value without content tells where it was read. From this it
follows, node by node, that the written form is read back. -/

namespace LivePipeline

/-! ## JSON with finite numbers -/

mutual

/-- Every number in it is a finite double. -/
def Json.Finite : Json → Prop
  | .int value => (floatOfInt value).isFinite
  | .float value => value.isFinite
  | .array items => itemsFinite items
  | .object fields => fieldsFinite fields
  | .null | .bool _ | .text _ => True
termination_by structural json => json

def itemsFinite : List Json → Prop
  | [] => True
  | item :: rest => item.Finite ∧ itemsFinite rest
termination_by structural items => items

def fieldsFinite : List (String × Json) → Prop
  | [] => True
  | (_, value) :: rest => value.Finite ∧ fieldsFinite rest
termination_by structural fields => fields

end

/-! ## Data nodes at every depth -/

mutual

/-- The data nodes inside of a value, at every depth. -/
def Value.nodes : Value → List Data
  | .array items => itemNodes items
  | .record entries => entryNodes entries
  | .operation _ parameters body => itemNodes parameters ++ itemNodes body
  | .condition test whenTrue whenFalse => test.nodes ++ (whenTrue.nodes ++ whenFalse.nodes)
  | .handle _ arguments _ => itemNodes arguments
  | .undefined | .text _ | .number _ | .boolean _ | .reference _ _ | .error _ => []
termination_by structural value => value

/-- The data node and those inside of it. -/
def Data.nodes : Data → List Data
  | ⟨id, type, value⟩ => ⟨id, type, value⟩ :: value.nodes
termination_by structural data => data

/-- The data nodes of a statement: its data and its calls, and those inside of them. -/
def Statement.nodes : Statement → List Data
  | ⟨_, data, operations, _, _⟩ => data.nodes ++ callNodes operations
termination_by structural statement => statement

def itemNodes : List Statement → List Data
  | [] => []
  | statement :: rest => statement.nodes ++ itemNodes rest
termination_by structural statements => statements

def callNodes : List Data → List Data
  | [] => []
  | call :: rest => call.nodes ++ callNodes rest
termination_by structural calls => calls

def entryNodes : List (String × Statement) → List Data
  | [] => []
  | (_, statement) :: rest => statement.nodes ++ entryNodes rest
termination_by structural entries => entries

end

theorem itemNodes_eq (items : List Statement) : itemNodes items = items.flatMap Statement.nodes := by
  induction items with
  | nil => rfl
  | cons item rest ih => rw [itemNodes, List.flatMap_cons, ih]

theorem callNodes_eq (calls : List Data) : callNodes calls = calls.flatMap Data.nodes := by
  induction calls with
  | nil => rfl
  | cons call rest ih => rw [callNodes, List.flatMap_cons, ih]

theorem entryNodes_eq (entries : List (String × Statement)) :
    entryNodes entries = (Table.values entries).flatMap Statement.nodes := by
  induction entries with
  | nil => rfl
  | cons entry rest ih => rw [entryNodes, ih]; rfl

theorem Value.nodes_eq (value : Value) : value.nodes = value.parts.flatMap Statement.nodes := by
  cases value <;> simp [nodes, parts, itemNodes_eq, entryNodes_eq]

theorem Data.nodes_eq (data : Data) : data.nodes = data :: data.value.nodes := by cases data; rfl

theorem Statement.nodes_eq (statement : Statement) :
    statement.nodes = statement.data.nodes ++ statement.operations.flatMap Data.nodes := by
  cases statement; rw [nodes, callNodes_eq]

/-! ## What was read -/

/-- The numbers of these nodes are finite, but for what null is read as. -/
def Regular (nodes : List Data) : Prop := ∀ node ∈ nodes, ∀ x, node.value = .number x → x.isFinite ∨ x = 0.0 / 0.0

/-- None of the nodes has a union for its type that confuses its value. -/
def Clear (nodes : List Data) : Prop := ∀ node ∈ nodes, node.type.confuses node.value = false

/-- A statement as it comes from JSON. Its written form is read back if no union in it confuses a value. -/
structure Statement.Loaded (statement : Statement) : Prop where
  keyed : statement.Keyed
  regular : Regular statement.nodes
  reloads : Clear statement.nodes → statement.Reloads

structure Data.Loaded (data : Data) : Prop where
  keyed : data.type.Keyed
  regular : Regular data.nodes
  reloads : Clear data.nodes → data.value.Reloads data.type

/-- A value as it comes from this JSON. -/
structure Value.LoadedFrom (json : Json) (value : Value) : Prop where
  parts : ∀ part ∈ value.parts, part.Loaded
  distinct : ∀ entries, value = .record entries → (Table.keys entries).Nodup
  null : value = .undefined → json = .null
  number : ∀ x, value = .number x → x.isFinite ∨ json = .null ∧ x = 0.0 / 0.0
  noItems : value = .array [] → json = .array []
  noEntries : value = .record [] → json = .array [] ∨ json = .object []

namespace Value.LoadedFrom

variable {json : Json} {value : Value}

theorem regular (loaded : value.LoadedFrom json) : Regular value.nodes := by
  intro node among
  rw [Value.nodes_eq] at among
  obtain ⟨part, member, within⟩ := List.mem_flatMap.mp among
  exact (loaded.parts part member).regular node within

theorem reloads (loaded : value.LoadedFrom json) (clear : Clear value.nodes) : ∀ part ∈ value.parts, part.Reloads := by
  intro part member
  refine (loaded.parts part member).reloads fun node within => clear node ?_
  rw [Value.nodes_eq]
  exact List.mem_flatMap.mpr ⟨part, member, within⟩

theorem statements {items : List Statement} (all : ∀ item ∈ items, item.Loaded) (some : items = [] → json = .array []) :
    (Value.array items).LoadedFrom json where
  parts := all
  distinct _ same := nomatch same
  null same := nomatch same
  number _ same := nomatch same
  noItems same := by cases same; exact some rfl
  noEntries same := nomatch same

theorem entries {entries : Table Statement} (all : ∀ entry ∈ entries, entry.2.Loaded)
    (distinct : (Table.keys entries).Nodup) (some : entries = [] → json = .array [] ∨ json = .object []) :
    (Value.record entries).LoadedFrom json where
  parts := List.forall_mem_map.mpr all
  distinct _ same := by cases same; exact distinct
  null same := nomatch same
  number _ same := nomatch same
  noItems same := nomatch same
  noEntries same := by cases same; exact some rfl

theorem undefined : Value.undefined.LoadedFrom .null where
  parts := by simp [Value.parts]
  distinct _ same := nomatch same
  null _ := rfl
  number _ same := nomatch same
  noItems same := nomatch same
  noEntries same := nomatch same

theorem notNumber : (Value.number (0.0 / 0.0)).LoadedFrom .null where
  parts := by simp [Value.parts]
  distinct _ same := nomatch same
  null same := nomatch same
  number _ same := by cases same; exact .inr ⟨rfl, rfl⟩
  noItems same := nomatch same
  noEntries same := nomatch same

/-- Of a value that tells itself apart only the parts need to be known. -/
theorem distinctive (form : value.Distinctive) (noRecord : ∀ entries, value ≠ .record entries)
    (parts : ∀ part ∈ value.parts, part.Loaded) : value.LoadedFrom json where
  parts := parts
  distinct entries same := absurd same (noRecord entries)
  null same := by subst same; exact form.elim
  number _ same := by subst same; exact .inl form
  noItems same := by subst same; exact absurd rfl form
  noEntries same := absurd same (noRecord [])

end Value.LoadedFrom

/-! ## Values -/

/-- What can be read from the JSON by the shapes of structured values. -/
structure Shapes.LoadsFrom (json : Json) (shapes : Shapes) : Prop where
  statements : shapes.statements.Yields fun value => Kind.array.reads value = true ∧ value.LoadedFrom json
  entries : shapes.entries.Yields fun value => Kind.object.reads value = true ∧ value.LoadedFrom json
  operation : shapes.operation.Yields fun value => Kind.operation.reads value = true ∧ value.LoadedFrom json
  condition : shapes.condition.Yields fun value => Kind.condition.reads value = true ∧ value.LoadedFrom json
  reference : shapes.reference.Yields fun value => Kind.reference.reads value = true ∧ value.LoadedFrom json
  error : shapes.error.Yields fun value => Kind.error.reads value = true ∧ value.LoadedFrom json
  handle : shapes.handle.Yields fun value => Kind.instanceOf.reads value = true ∧ value.LoadedFrom json

namespace Decoder.Yields

variable {good : α → Prop} {good' : β → Prop}

protected theorem pure {value : α} (holds : good value) : Yields (pure value) good := fun _ _ _ read => by cases read; exact holds

protected theorem throw (failure : DecodeError) : Yields (throw failure : Decoder α) good := fun _ _ _ read => nomatch read

theorem malformed : Yields (malformed : Decoder α) good := .throw _

protected theorem bind {reading : Decoder α} {next : α → Decoder β} (first : Yields reading good)
    (second : ∀ value, good value → Yields (next value) good') : Yields (reading >>= next) good' := by
  intro state value after read
  change (reading state >>= fun made => next made.1 made.2) = _ at read
  cases made : reading state with
  | error failure => rw [made] at read; cases read
  | ok result =>
    rw [made] at read
    exact second result.1 (first state result.1 result.2 made) result.2 value after read

/-- What was read before does not matter. -/
theorem behind (reading : Decoder α) {next : α → Decoder β} (second : ∀ value, Yields (next value) good') :
    Yields (reading >>= next) good' := by
  have anything : Yields reading fun _ => True := fun _ _ _ _ => trivial
  exact .bind anything fun value _ => second value

theorem weaken {reading : Decoder α} {good' : α → Prop} (yields : Yields reading good)
    (implied : ∀ value, good value → good' value) : Yields reading good' :=
  fun next value after read => implied value (yields next value after read)

protected theorem and {reading : Decoder α} {other : α → Prop} (first : Yields reading good) (second : Yields reading other) :
    Yields reading fun value => good value ∧ other value :=
  fun next value after read => ⟨first next value after read, second next value after read⟩

theorem ofOption {result : Option α} (holds : ∀ value, result = some value → good value) : Yields (ofOption result) good := by
  cases result with
  | none => exact malformed
  | some value => exact .pure (holds value rfl)

end Decoder.Yields

section

open Decoder (Yields)

variable {json : Json} {shapes : Shapes}

theorem Kind.mistakes_of_reads {kind : Kind} {value : Value} (reads : kind.reads value = true) (some : value ≠ .record []) :
    kind.mistakes value = false := by
  cases value with
  | record entries =>
    cases entries with
    | nil => exact absurd rfl some
    | cons entry rest => cases kind <;> rfl
  | operation name parameters body => cases name <;> cases kind <;> first | rfl | cases reads
  | _ => cases kind <;> first | rfl | cases reads

theorem Shapes.LoadsFrom.untyped (loads : shapes.LoadsFrom json) (finite : json.Finite) :
    (shapes.untyped json).Yields fun value => value ≠ .record [] ∧ value.LoadedFrom json := by
  have other {kind : Kind} (differs : kind.reads (.record []) = false) {value : Value}
      (known : kind.reads value = true ∧ value.LoadedFrom json) : value ≠ .record [] ∧ value.LoadedFrom json := by
    refine ⟨?_, known.2⟩
    rintro rfl
    rw [known.1] at differs
    cases differs
  unfold Shapes.untyped
  cases json with
  | null => exact .pure ⟨Value.noConfusion, .undefined⟩
  | bool value => exact .pure ⟨Value.noConfusion, .distinctive trivial (fun _ => Value.noConfusion) (by simp [Value.parts])⟩
  | int value => exact .pure ⟨Value.noConfusion, .distinctive finite (fun _ => Value.noConfusion) (by simp [Value.parts])⟩
  | float value => exact .pure ⟨Value.noConfusion, .distinctive finite (fun _ => Value.noConfusion) (by simp [Value.parts])⟩
  | text value => exact .pure ⟨Value.noConfusion, .distinctive trivial (fun _ => Value.noConfusion) (by simp [Value.parts])⟩
  | array items =>
    dsimp only
    split
    · next likely =>
      refine loads.entries.weaken fun value known => ⟨?_, known.2⟩
      rintro rfl
      rcases known.2.noEntries rfl with same | same
      · cases same
        cases likely
      · cases same
    · exact loads.statements.weaken fun _ => other rfl
  | object fields =>
    dsimp only
    split
    · exact loads.error.weaken fun _ => other rfl
    · split
      · exact loads.condition.weaken fun _ => other rfl
      · split
        · exact loads.handle.weaken fun _ => other rfl
        · split
          · exact loads.operation.weaken fun _ => other rfl
          · split
            · exact loads.reference.weaken fun _ => other rfl
            · exact .throw _

/-- Under any type but a union a value is read that the type reads back and does not mistake. -/
theorem Shapes.LoadsFrom.leaf (loads : shapes.LoadsFrom json) (finite : json.Finite) (leaf : DataType) (notUnion : leaf.kind ≠ .union) :
    (shapes.typed json leaf).Yields fun value =>
      leaf.kind.reads value = true ∧ leaf.kind.mistakes value = false ∧ value.LoadedFrom json := by
  have text (value : String) : (Value.text value).LoadedFrom json :=
    .distinctive trivial (fun _ => Value.noConfusion) (by simp [Value.parts])
  have boolean (value : Bool) : (Value.boolean value).LoadedFrom json :=
    .distinctive trivial (fun _ => Value.noConfusion) (by simp [Value.parts])
  have number (x : Float) (finite : x.isFinite) : (Value.number x).LoadedFrom json :=
    .distinctive finite (fun _ => Value.noConfusion) (by simp [Value.parts])
  cases leaf with
  | union _ _ => exact absurd rfl notUnion
  | unknown | never | undefined =>
    exact (loads.untyped finite).weaken fun value known => ⟨rfl, Kind.mistakes_of_reads rfl known.1, known.2⟩
  | string =>
    cases json with
    | text value => exact .pure ⟨rfl, rfl, text value⟩
    | _ => exact .throw _
  | number =>
    cases json with
    | int value => exact .pure ⟨rfl, rfl, number _ finite⟩
    | float value => exact .pure ⟨rfl, rfl, number _ finite⟩
    | null => exact .pure ⟨rfl, rfl, .notNumber⟩
    | _ => exact .throw _
  | boolean =>
    cases json with
    | bool value => exact .pure ⟨rfl, rfl, boolean value⟩
    | _ => exact .throw _
  | array _ | tuple _ =>
    refine loads.statements.weaken fun value known => ?_
    cases value with
    | array _ => exact ⟨rfl, rfl, known.2⟩
    | _ => cases known.1
  | object _ _ | dictionary _ =>
    cases json with
    | array _ | object _ =>
      refine loads.entries.weaken fun value known => ?_
      cases value with
      | record _ => exact ⟨rfl, rfl, known.2⟩
      | _ => cases known.1
    | _ => exact .throw _
  | operation _ _ =>
    refine loads.operation.weaken fun value known => ?_
    cases value with
    | operation _ _ _ => exact ⟨rfl, rfl, known.2⟩
    | _ => cases known.1
  | condition _ =>
    refine loads.condition.weaken fun value known => ?_
    cases value with
    | condition _ _ _ => exact ⟨rfl, rfl, known.2⟩
    | _ => cases known.1
  | reference _ =>
    refine loads.reference.weaken fun value known => ?_
    cases value with
    | reference _ _ => exact ⟨rfl, rfl, known.2⟩
    | _ => cases known.1
  | error _ =>
    refine loads.error.weaken fun value known => ?_
    cases value with
    | error _ => exact ⟨rfl, rfl, known.2⟩
    | _ => cases known.1
  | instanceOf _ _ =>
    refine loads.handle.weaken fun value known => ?_
    cases value with
    | handle _ _ _ => exact ⟨rfl, rfl, known.2⟩
    | _ => cases known.1

end

/-! ### Reading again -/

open Decoder (Yields Settles Recovers)

/-- What is written as null or as an empty list is read in the same way from any state. -/
theorem typed_settles {json : Json} (blank : json = .null ∨ json = .array []) (type : DataType) :
    ((shapesOf json).typed json type).Settles fun _ => True := by
  refine typed_of_each Decoder.firstOf_settles type fun leaf among => ?_
  have notUnion := type.flatten_kind leaf among
  rcases blank with rfl | rfl
  · cases leaf with
    | union _ _ => exact absurd rfl notUnion
    | unknown | never | undefined | number => exact .of_pure trivial
    | _ => exact .inl (.throw _)
  · cases leaf with
    | union _ _ => exact absurd rfl notUnion
    | unknown | never | undefined | array _ | tuple _ | object _ _ | dictionary _ => exact .of_pure trivial
    | _ => exact .inl (.throw _)

theorem typed_loads {json : Json} {shapes : Shapes} (loads : shapes.LoadsFrom json) (finite : json.Finite) (type : DataType) :
    (shapes.typed json type).Yields fun value => value.LoadedFrom json := by
  refine typed_of_each Decoder.firstOf_yields type fun leaf among => ?_
  exact (loads.leaf finite leaf (type.flatten_kind leaf among)).weaken fun value known => known.2.2

/-- A value that is written as null or as an empty list was read from just that. -/
theorem Value.LoadedFrom.blank {json : Json} {value : Value} (loaded : value.LoadedFrom json) (plain : ¬value.Distinctive) :
    (json = .null ∨ json = .array []) ∧ value.encode = json ∧ value.mapNumbers rewritten = value := by
  cases value with
  | undefined =>
    cases loaded.null rfl
    exact ⟨.inl rfl, rfl, rfl⟩
  | number x =>
    obtain ⟨rfl, rfl⟩ := (loaded.number x rfl).resolve_left plain
    exact ⟨.inl rfl, rfl, rfl⟩
  | array items =>
    obtain rfl := not_ne_iff.mp plain
    cases loaded.noItems rfl
    exact ⟨.inr rfl, rfl, rfl⟩
  | _ => exact absurd trivial plain

/-- What was read under a type is read back under it, if the type is no union that confuses the value. -/
theorem typed_reloads {json : Json} (loads : (shapesOf json).LoadsFrom json) (finite : json.Finite) (type : DataType) :
    ((shapesOf json).typed json type).Yields fun value =>
      type.confuses value = false → Clear value.nodes → value.Reloads type := by
  intro next value after read unconfused clear
  have loaded := typed_loads loads finite type next value after read
  by_cases form : value.Distinctive
  · have known (leaf : DataType) (among : leaf ∈ type.flatten) : leaf.kind.mistakes value = false := by
      cases type with
      | union members active => exact Bool.eq_false_iff.mpr (List.any_eq_false.mp unconfused leaf among)
      | _ =>
        cases List.mem_singleton.mp among
        exact (loads.leaf finite _ Kind.noConfusion next value after read).2.1
    have leaves (leaf : DataType) (among : leaf ∈ type.flatten) :
        Recovers value (value.mapNumbers rewritten) ((shapesOf json).typed json leaf)
          ((shapesOf value.encode).typed value.encode leaf) := by
      have notUnion := type.flatten_kind leaf among
      have decides := decodeAs_decides notUnion form (loaded.reloads clear) loaded.distinct (known leaf among)
      refine ⟨?_, fun next after read => ?_⟩
      · exact decides.elim (fun own => .inr ⟨_, rfl, own.2⟩) fun other => .inl other.2
      · rcases decides with own | other
        · exact own.2
        · rw [(loads.leaf finite leaf notUnion next value after read).1] at other
          cases other.1
    have kept : Decoder.KeptByFirst (Recovers value (value.mapNumbers rewritten)) :=
      fun failure failure' all => Decoder.firstOf_recovers all failure failure'
    exact (typed_of_leaves kept type leaves).success next after read
  · obtain ⟨blank, written, same⟩ := loaded.blank form
    have settled := (typed_settles blank type).eq_pure read
    rw [Value.Reloads, Value.decodeAs, written, same]
    exact settled

/-- A value that was read without a type is read back under the type that is inferred for it. -/
theorem Value.LoadedFrom.inferred {json : Json} {value : Value} (loaded : value.LoadedFrom json) (clear : Clear value.nodes) :
    value.Reloads (value.inferType .declared) := by
  have parts := loaded.reloads clear
  cases value with
  | number x =>
    rcases loaded.number x rfl with finite | ⟨_, rfl⟩
    · exact (number_decides Kind.noConfusion finite).elim (fun own => own.2) fun other => nomatch other.1
    · rfl
  | array items =>
    change (Value.array items).Reloads (Value.inferArray .declared items)
    unfold Value.inferArray
    dsimp only [TypeHints.declared, Option.map_none]
    split <;> exact statements_encode parts
  | record entries => exact entries_encode (loaded.distinct entries rfl) fun entry among => parts entry.2 (List.mem_map_of_mem among)
  | operation name parameters body =>
    exact operation_encode name (fun parameter among => parts parameter (List.mem_append_left _ among))
      fun statement among => parts statement (List.mem_append_right _ among)
  | condition test whenTrue whenFalse =>
    exact condition_encode (parts test (by simp [Value.parts])) (parts whenTrue (by simp [Value.parts]))
      (parts whenFalse (by simp [Value.parts]))
  | handle className arguments instanceId => exact handle_encode className instanceId parts
  | _ => rfl

/-! ## Drafts -/

/-- A draft of data that was read from JSON with finite numbers. -/
structure DataDraft.Loads (draft : DataDraft) : Prop where
  keyed : ∀ type, draft.type = some type → type.Keyed
  finite : draft.value.Finite
  shapes : draft.shapes = shapesOf draft.value
  loads : draft.shapes.LoadsFrom draft.value

theorem Data.Loaded.of_value {id : EntityId} {type : DataType} {json : Json} {value : Value} (keyed : type.Keyed)
    (loaded : value.LoadedFrom json)
    (reloads : type.confuses value = false → Clear value.nodes → value.Reloads type) : Data.Loaded ⟨id, type, value⟩ where
  keyed := keyed
  regular := by
    rw [Data.nodes_eq]
    intro node among x given
    rcases List.mem_cons.mp among with rfl | within
    · exact (loaded.number x given).imp_right (·.2)
    · exact loaded.regular node within x given
  reloads := by
    rw [Data.nodes_eq]
    intro clear
    have both := List.forall_mem_cons.mp clear
    exact reloads both.1 both.2

theorem DataDraft.Loads.finish {draft : DataDraft} (loads : draft.Loads) : draft.finish.Yields Data.Loaded := by
  have shapes := loads.loads
  rw [loads.shapes] at shapes
  unfold DataDraft.finish
  refine .behind _ fun id => ?_
  rw [loads.shapes]
  cases given : draft.type with
  | some type =>
    refine .bind ((typed_loads shapes loads.finite type).and (typed_reloads shapes loads.finite type)) fun value known => ?_
    exact .pure (.of_value (loads.keyed type given) known.1 known.2)
  | none =>
    refine .bind (shapes.untyped loads.finite) fun value known => .pure ?_
    have keyed := Value.keyed_inferType (fun part among => (known.2.parts part among).keyed) known.2.distinct
    exact .of_value keyed known.2 fun _ clear => known.2.inferred clear

theorem DataDraft.Loads.finishCall {draft : DataDraft} (loads : draft.Loads) : draft.finishCall.Yields Data.Loaded := by
  unfold DataDraft.finishCall
  cases given : draft.type with
  | some type => exact loads.finish
  | none =>
    refine .behind _ fun id => .bind loads.loads.operation fun value known => .pure ?_
    have keyed : (DataType.operation [] .unknown).Keyed := ⟨trivial, trivial⟩
    refine .of_value keyed known.2 fun _ clear => ?_
    have parts := known.2.reloads clear
    cases value with
    | operation name parameters body =>
      exact operation_encode name (fun parameter among => parts parameter (List.mem_append_left _ among))
        fun statement among => parts statement (List.mem_append_right _ among)
    | _ => cases known.1

theorem mapM_yields {reading : α → Decoder β} {good : β → Prop} {items : List α} (each : ∀ item ∈ items, (reading item).Yields good) :
    (items.mapM reading).Yields fun values => ∀ value ∈ values, good value := by
  induction items with
  | nil => exact .pure (by simp)
  | cons item rest ih =>
    rw [List.forall_mem_cons] at each
    rw [List.mapM_cons]
    exact .bind each.1 fun _ first => .bind (ih each.2) fun _ others => .pure (List.forall_mem_cons.mpr ⟨first, others⟩)

/-- A draft of a statement: what has been read of it is loaded. -/
structure StatementDraft.Loads (draft : StatementDraft) : Prop where
  data : ∀ data, draft.data = some data → data.Loaded
  operations : ∀ operation ∈ draft.operations, operation.Loaded

theorem StatementDraft.Loads.finish {draft : StatementDraft} (loads : draft.Loads) :
    draft.finish.Yields Statement.Loaded := by
  refine .bind (.ofOption loads.data) fun data known => .behind _ fun id => .pure ?_
  refine ⟨⟨known.keyed, fun operation among => (loads.operations operation among).keyed⟩, ?_, fun clear => ?_⟩
  · rw [Statement.nodes_eq, Regular, List.forall_mem_append]
    refine ⟨known.regular, fun node among => ?_⟩
    obtain ⟨operation, member, within⟩ := List.mem_flatMap.mp among
    exact (loads.operations operation member).regular node within
  · rw [Statement.nodes_eq, Clear, List.forall_mem_append] at clear
    refine Statement.reloads (Data.reloads known.keyed (known.reloads clear.1)) fun operation among => ?_
    have loaded := loads.operations operation among
    exact ⟨loaded.keyed, loaded.reloads fun node within => clear.2 node (List.mem_flatMap.mpr ⟨operation, among, within⟩)⟩

/-- A draft of a structured value: the statements that have been read of it are loaded. -/
structure ValueDraft.Loads (draft : ValueDraft) : Prop where
  parameters : ∀ statement ∈ draft.parameters, statement.Loaded
  body : ∀ statement ∈ draft.body, statement.Loaded
  arguments : ∀ statement ∈ draft.arguments, statement.Loaded
  test : ∀ statement, draft.test = some statement → statement.Loaded
  whenTrue : ∀ statement, draft.whenTrue = some statement → statement.Loaded
  whenFalse : ∀ statement, draft.whenFalse = some statement → statement.Loaded
  entry : ∀ statement, draft.entry = some statement → statement.Loaded

theorem ValueDraft.Loads.condition {draft : ValueDraft} (loads : draft.Loads) (json : Json) :
    draft.condition.Yields fun value => Kind.condition.reads value = true ∧ value.LoadedFrom json := by
  refine .bind (.ofOption loads.test) fun test first => .bind (.ofOption loads.whenTrue) fun whenTrue second => ?_
  refine .bind (.ofOption loads.whenFalse) fun whenFalse third => .pure ⟨rfl, ?_⟩
  exact .distinctive trivial (fun _ => Value.noConfusion) (by simpa [Value.parts] using ⟨first, second, third⟩)

theorem ValueDraft.Loads.handle {draft : ValueDraft} (loads : draft.Loads) (json : Json) :
    draft.handle.Yields fun value => Kind.instanceOf.reads value = true ∧ value.LoadedFrom json :=
  .behind _ fun _ => .behind _ fun _ => .pure ⟨rfl, .distinctive trivial (fun _ => Value.noConfusion) loads.arguments⟩

theorem ValueDraft.Loads.operation {draft : ValueDraft} (loads : draft.Loads) (json : Json) :
    (Value.operation draft.name draft.parameters draft.body).LoadedFrom json :=
  .distinctive trivial (fun _ => Value.noConfusion) (List.forall_mem_append.mpr ⟨loads.parameters, loads.body⟩)

theorem decodeReference_loads (fields : Table Json) (json : Json) :
    (decodeReference fields).Yields fun value => Kind.reference.reads value = true ∧ value.LoadedFrom json :=
  .behind _ fun _ => .behind _ fun _ => .pure ⟨rfl, .distinctive trivial (fun _ => Value.noConfusion) (by simp [Value.parts])⟩

theorem decodeReason_loads (fields : Table Json) (json : Json) :
    (decodeReason fields).Yields fun value => Kind.error.reads value = true ∧ value.LoadedFrom json :=
  .behind _ fun _ => .pure ⟨rfl, .distinctive trivial (fun _ => Value.noConfusion) (by simp [Value.parts])⟩

/-! ## All nodes -/

theorem noShapes_loads (json : Json) : ({} : Shapes).LoadsFrom json :=
  ⟨.malformed, .malformed, .malformed, .malformed, .malformed, .malformed, .malformed⟩

theorem DataDraft.Loads.start : DataDraft.Loads {} where
  keyed _ same := nomatch same
  finite := trivial
  shapes := rfl
  loads := noShapes_loads _

theorem StatementDraft.Loads.start : StatementDraft.Loads {} := ⟨nofun, by simp⟩

theorem ValueDraft.Loads.start : ValueDraft.Loads {} := ⟨by simp, by simp, by simp, nofun, nofun, nofun, nofun⟩

mutual

theorem shapesOf_loads : ∀ json : Json, json.Finite → (shapesOf json).LoadsFrom json
  | .null, _ | .bool _, _ | .int _, _ | .float _, _ | .text _, _ => noShapes_loads _
  | .array items, finite =>
    { noShapes_loads (.array items) with
      statements := .bind (decodeAll_loads items finite) fun statements known =>
        .pure ⟨rfl, .statements known.1 fun none => by rw [known.2 none]⟩
      entries := .bind (decodeEntries_loads items finite) fun entries known =>
        .pure ⟨rfl, .entries (Table.all_ofEntries known.1) (Table.nodup_ofEntries entries) fun none =>
          .inl (by rw [known.2 (Table.ofEntries_eq_nil none)])⟩ }
  | .object fields, finite =>
    { statements := .malformed
      entries := .bind (decodeFields_loads fields finite) fun entries known =>
        .pure ⟨rfl, .entries (Table.all_ofEntries known.1) (Table.nodup_ofEntries entries) fun none =>
          .inr (by rw [known.2 (Table.ofEntries_eq_nil none)])⟩
      operation := .bind (readOperation_loads fields finite {} .start) fun draft known => .pure ⟨rfl, known.operation _⟩
      condition := .bind (readCondition_loads fields finite {} .start) fun draft known => known.condition _
      reference := decodeReference_loads fields _
      error := decodeReason_loads fields _
      handle := .bind (readHandle_loads fields finite {} .start) fun draft known => known.handle _ }
termination_by structural json => json

theorem readData_loads : ∀ fields : List (String × Json), fieldsFinite fields → ∀ draft : DataDraft, draft.Loads →
    (readData fields draft).Yields DataDraft.Loads
  | [], _, draft, loads => .pure loads
  | (key, json) :: rest, ⟨finite, others⟩, draft, loads => by
    have shapes := shapesOf_loads json finite
    have continues := readData_loads rest others
    unfold readData
    dsimp only
    split
    · exact .behind _ fun id => .bind (.pure { loads with }) continues
    · split
      · exact .bind (.pure loads) continues
      · refine .bind (.ofOption fun type given => DataType.keyed_of_decode? _ given) fun type keyed => .bind (.pure ?_) continues
        exact { loads with keyed := fun other same => by cases same; exact keyed }
    · exact .bind (.pure { loads with finite := finite, shapes := rfl, loads := shapes }) continues
    · exact .bind (.pure loads) continues
termination_by structural fields => fields

theorem Data.decode_loads : ∀ json : Json, json.Finite → (Data.decode json).Yields Data.Loaded
  | .object fields, finite => .bind (readData_loads fields finite {} .start) fun _ known => known.finish
  | .null, _ | .bool _, _ | .int _, _ | .float _, _ | .text _, _ | .array _, _ => .malformed
termination_by structural json => json

theorem readCalls_loads : ∀ items : List Json, itemsFinite items →
    (readCalls items).Yields fun drafts => ∀ draft ∈ drafts, draft.Loads
  | [], _ => .pure (by simp)
  | .object fields :: rest, ⟨finite, others⟩ =>
    .bind (readData_loads fields finite {} .start) fun _ first => .bind (readCalls_loads rest others) fun _ later =>
      .pure (List.forall_mem_cons.mpr ⟨first, later⟩)
  | .null :: _, _ | .bool _ :: _, _ | .int _ :: _, _ | .float _ :: _, _ | .text _ :: _, _ | .array _ :: _, _ => .malformed
termination_by structural items => items

theorem readStatement_loads : ∀ fields : List (String × Json), fieldsFinite fields → ∀ draft : StatementDraft, draft.Loads →
    (readStatement fields draft).Yields StatementDraft.Loads
  | [], _, draft, loads => .pure loads
  | (key, json) :: rest, ⟨finite, others⟩, draft, loads => by
    have data := Data.decode_loads json finite
    have continues := readStatement_loads rest others
    unfold readStatement
    dsimp only
    split
    · exact .behind _ fun id => .bind (.pure { loads with }) continues
    · exact .bind data fun _ known => .bind (.pure { loads with data := fun _ same => by cases same; exact known }) continues
    · cases json with
      | array items =>
        refine .bind (readCalls_loads items finite) fun drafts known => ?_
        refine .bind (mapM_yields fun draft among => (known draft among).finishCall) fun operations all => ?_
        exact .bind (.pure { loads with operations := all }) continues
      | _ => exact .bind .malformed continues
    · exact .behind _ fun name => .bind (.pure { loads with }) continues
    · exact .behind _ fun isOptional => .bind (.pure { loads with }) continues
    · exact .bind (.pure loads) continues
termination_by structural fields => fields

theorem Statement.decode_loads : ∀ json : Json, json.Finite → (Statement.decode json).Yields Statement.Loaded
  | .object fields, finite => .bind (readStatement_loads fields finite {} .start) fun _ known => known.finish
  | .null, _ | .bool _, _ | .int _, _ | .float _, _ | .text _, _ | .array _, _ => .malformed
termination_by structural json => json

theorem decodeAll_loads : ∀ items : List Json, itemsFinite items →
    (decodeAll items).Yields fun statements => (∀ statement ∈ statements, statement.Loaded) ∧ (statements = [] → items = [])
  | [], _ => .pure ⟨by simp, fun _ => rfl⟩
  | json :: rest, ⟨finite, others⟩ =>
    .bind (Statement.decode_loads json finite) fun _ first => .bind (decodeAll_loads rest others) fun _ later =>
      .pure ⟨List.forall_mem_cons.mpr ⟨first, later.1⟩, fun none => nomatch none⟩
termination_by structural items => items

theorem decodeListed_loads : ∀ json : Json, json.Finite →
    (decodeListed json).Yields fun statements => ∀ statement ∈ statements, statement.Loaded
  | .array items, finite => (decodeAll_loads items finite).weaken fun _ known => known.1
  | .null, _ | .bool _, _ | .int _, _ | .float _, _ | .text _, _ | .object _, _ => .malformed
termination_by structural json => json

theorem decodeFields_loads : ∀ fields : List (String × Json), fieldsFinite fields →
    (decodeFields fields).Yields fun entries => (∀ entry ∈ entries, entry.2.Loaded) ∧ (entries = [] → fields = [])
  | [], _ => .pure ⟨by simp, fun _ => rfl⟩
  | (key, json) :: rest, ⟨finite, others⟩ =>
    .bind (Statement.decode_loads json finite) fun _ first => .bind (decodeFields_loads rest others) fun _ later =>
      .pure ⟨List.forall_mem_cons.mpr ⟨first, later.1⟩, fun none => nomatch none⟩
termination_by structural fields => fields

theorem decodeEntries_loads : ∀ items : List Json, itemsFinite items →
    (decodeEntries items).Yields fun entries => (∀ entry ∈ entries, entry.2.Loaded) ∧ (entries = [] → items = [])
  | [], _ => .pure ⟨by simp, fun _ => rfl⟩
  | .object fields :: rest, ⟨finite, others⟩ =>
    .bind (readEntry_loads fields finite {} .start) fun draft known => .behind _ fun key =>
      .bind (.ofOption known.entry) fun _ first => .bind (decodeEntries_loads rest others) fun _ later =>
        .pure ⟨List.forall_mem_cons.mpr ⟨first, later.1⟩, fun none => nomatch none⟩
  | .null :: _, _ | .bool _ :: _, _ | .int _ :: _, _ | .float _ :: _, _ | .text _ :: _, _ | .array _ :: _, _ => .malformed
termination_by structural items => items

theorem readEntry_loads : ∀ fields : List (String × Json), fieldsFinite fields → ∀ draft : ValueDraft, draft.Loads →
    (readEntry fields draft).Yields ValueDraft.Loads
  | [], _, draft, loads => .pure loads
  | (key, json) :: rest, ⟨finite, others⟩, draft, loads => by
    have statement := Statement.decode_loads json finite
    have continues := readEntry_loads rest others
    unfold readEntry
    dsimp only
    split
    · exact .behind _ fun key => .bind (.pure { loads with }) continues
    · exact .bind statement fun _ known => .bind (.pure { loads with entry := fun _ same => by cases same; exact known }) continues
    · exact .bind (.pure loads) continues
termination_by structural fields => fields

theorem readOperation_loads : ∀ fields : List (String × Json), fieldsFinite fields → ∀ draft : ValueDraft, draft.Loads →
    (readOperation fields draft).Yields ValueDraft.Loads
  | [], _, draft, loads => .pure loads
  | (key, json) :: rest, ⟨finite, others⟩, draft, loads => by
    have listed := decodeListed_loads json finite
    have continues := readOperation_loads rest others
    unfold readOperation
    dsimp only
    split
    · exact .behind _ fun name => .bind (.pure { loads with }) continues
    · exact .bind listed fun _ all => .bind (.pure { loads with parameters := all }) continues
    · exact .bind listed fun _ all => .bind (.pure { loads with body := all }) continues
    · exact .bind (.pure loads) continues
termination_by structural fields => fields

theorem readCondition_loads : ∀ fields : List (String × Json), fieldsFinite fields → ∀ draft : ValueDraft, draft.Loads →
    (readCondition fields draft).Yields ValueDraft.Loads
  | [], _, draft, loads => .pure loads
  | (key, json) :: rest, ⟨finite, others⟩, draft, loads => by
    have statement := Statement.decode_loads json finite
    have continues := readCondition_loads rest others
    unfold readCondition
    dsimp only
    split
    · exact .bind statement fun _ known => .bind (.pure { loads with test := fun _ same => by cases same; exact known }) continues
    · exact .bind statement fun _ known => .bind (.pure { loads with whenTrue := fun _ same => by cases same; exact known }) continues
    · exact .bind statement fun _ known => .bind (.pure { loads with whenFalse := fun _ same => by cases same; exact known }) continues
    · exact .bind (.pure loads) continues
termination_by structural fields => fields

theorem readHandle_loads : ∀ fields : List (String × Json), fieldsFinite fields → ∀ draft : ValueDraft, draft.Loads →
    (readHandle fields draft).Yields ValueDraft.Loads
  | [], _, draft, loads => .pure loads
  | (key, json) :: rest, ⟨finite, others⟩, draft, loads => by
    have listed := decodeListed_loads json finite
    have continues := readHandle_loads rest others
    unfold readHandle
    dsimp only
    split
    · exact .behind _ fun className => .bind (.pure { loads with }) continues
    · exact .bind listed fun _ all => .bind (.pure { loads with arguments := all }) continues
    · exact .behind _ fun instanceId => .bind (.pure { loads with }) continues
    · exact .bind (.pure loads) continues
termination_by structural fields => fields

end

end LivePipeline
