import LivePipeline.Node.Decoding
import LivePipeline.Node.Encoding
import LivePipeline.Proofs.Loading.Types

/-! The written form of nodes is read back as what was written, given the same of the statements inside.
Numbers are the exception: each is replaced by the one that is read where it was written. -/

namespace LivePipeline

/-! ## Numbers that were written -/

/-- The number that is read where `x` was written. -/
def rewritten (x : Float) : Float :=
  match Json.ofNumber x with
  | .int value => floatOfInt value
  | .float value => value
  | _ => 0.0 / 0.0

mutual

/-- The value with its numbers replaced, at every depth. -/
def Value.mapNumbers (change : Float → Float) : Value → Value
  | .number x => .number (change x)
  | .array items => .array (mapItems change items)
  | .record entries => .record (mapEntries change entries)
  | .operation name parameters body => .operation name (mapItems change parameters) (mapItems change body)
  | .condition test whenTrue whenFalse =>
    .condition (test.mapNumbers change) (whenTrue.mapNumbers change) (whenFalse.mapNumbers change)
  | .handle className arguments instanceId => .handle className (mapItems change arguments) instanceId
  | .undefined => .undefined
  | .text value => .text value
  | .boolean value => .boolean value
  | .reference name id => .reference name id
  | .error reason => .error reason
termination_by structural value => value

def Data.mapNumbers (change : Float → Float) : Data → Data
  | ⟨id, type, value⟩ => ⟨id, type, value.mapNumbers change⟩
termination_by structural data => data

def Statement.mapNumbers (change : Float → Float) : Statement → Statement
  | ⟨id, data, operations, name, isOptional⟩ =>
    ⟨id, data.mapNumbers change, mapCalls change operations, name, isOptional⟩
termination_by structural statement => statement

def mapItems (change : Float → Float) : List Statement → List Statement
  | [] => []
  | statement :: rest => statement.mapNumbers change :: mapItems change rest
termination_by structural statements => statements

def mapCalls (change : Float → Float) : List Data → List Data
  | [] => []
  | call :: rest => call.mapNumbers change :: mapCalls change rest
termination_by structural calls => calls

def mapEntries (change : Float → Float) : List (String × Statement) → List (String × Statement)
  | [] => []
  | (key, statement) :: rest => (key, statement.mapNumbers change) :: mapEntries change rest
termination_by structural entries => entries

end

@[simp] theorem keys_mapEntries (change : Float → Float) (entries : List (String × Statement)) :
    Table.keys (mapEntries change entries) = Table.keys entries := by
  induction entries with
  | nil => rfl
  | cons entry rest ih => exact congrArg (entry.1 :: ·) ih

/-! ## What is read back -/

/-- The written statement is read back, and nothing is drawn for it. -/
def Statement.Reloads (statement : Statement) : Prop :=
  Statement.decode statement.encode = pure (statement.mapNumbers rewritten)

def Data.Reloads (data : Data) : Prop := Data.decode data.encode = pure (data.mapNumbers rewritten)

/-- The written value is read back under the type. -/
def Value.Reloads (type : DataType) (value : Value) : Prop :=
  Value.decodeAs type value.encode = pure (value.mapNumbers rewritten)

theorem decodeAll_encode {statements : List Statement} (all : ∀ statement ∈ statements, statement.Reloads) :
    decodeAll (encodeStatements statements) = pure (mapItems rewritten statements) := by
  induction statements with
  | nil => rfl
  | cons statement rest ih =>
    rw [List.forall_mem_cons] at all
    have first : Statement.decode statement.encode = _ := all.1
    simp only [encodeStatements, decodeAll, first, ih all.2, pure_bind, mapItems]

theorem decodeEntries_encode {entries : List (String × Statement)} (all : ∀ entry ∈ entries, entry.2.Reloads) :
    decodeEntries (encodeEntries entries) = pure (mapEntries rewritten entries) := by
  induction entries with
  | nil => rfl
  | cons entry rest ih =>
    obtain ⟨key, statement⟩ := entry
    rw [List.forall_mem_cons] at all
    have first : Statement.decode statement.encode = _ := all.1
    simp only [encodeEntries, decodeEntries, readEntry, Json.text?, Decoder.ofOption, first, ih all.2, pure_bind, mapEntries]

/-! ### Values by their shape -/

theorem statements_encode {items : List Statement} (all : ∀ item ∈ items, item.Reloads) :
    (shapesOf (Value.array items).encode).statements = pure ((Value.array items).mapNumbers rewritten) := by
  simp only [Value.encode, shapesOf, decodeAll_encode all, pure_bind, Value.mapNumbers]

theorem entries_encode {entries : Table Statement} (distinct : (Table.keys entries).Nodup)
    (all : ∀ entry ∈ entries, entry.2.Reloads) :
    (shapesOf (Value.record entries).encode).entries = pure ((Value.record entries).mapNumbers rewritten) := by
  rw [← keys_mapEntries rewritten] at distinct
  simp only [Value.encode, shapesOf, decodeEntries_encode all, pure_bind, Table.ofEntries_of_nodup distinct, Value.mapNumbers]

theorem operation_encode (name : Option String) {parameters body : List Statement}
    (first : ∀ parameter ∈ parameters, parameter.Reloads) (second : ∀ statement ∈ body, statement.Reloads) :
    (shapesOf (Value.operation name parameters body).encode).operation
      = pure ((Value.operation name parameters body).mapNumbers rewritten) := by
  cases name <;>
    simp only [Value.encode, shapesOf, readOperation, Option.toList, List.map_cons, List.map_nil, List.nil_append,
      List.cons_append, Decoder.optionalText, Json.text?, Decoder.ofOption, decodeListed, decodeAll_encode first,
      decodeAll_encode second, pure_bind, map_pure, Value.mapNumbers]

theorem condition_encode {test whenTrue whenFalse : Statement} (tests : test.Reloads) (trues : whenTrue.Reloads)
    (falses : whenFalse.Reloads) :
    (shapesOf (Value.condition test whenTrue whenFalse).encode).condition
      = pure ((Value.condition test whenTrue whenFalse).mapNumbers rewritten) := by
  have first : Statement.decode test.encode = _ := tests
  have second : Statement.decode whenTrue.encode = _ := trues
  have third : Statement.decode whenFalse.encode = _ := falses
  simp only [Value.encode, shapesOf, readCondition, first, second, third, ValueDraft.condition, Decoder.ofOption,
    pure_bind, Value.mapNumbers]

theorem handle_encode (className : String) {arguments : List Statement} (instanceId : EntityId)
    (all : ∀ argument ∈ arguments, argument.Reloads) :
    (shapesOf (Value.handle className arguments instanceId).encode).handle
      = pure ((Value.handle className arguments instanceId).mapNumbers rewritten) := by
  simp only [Value.encode, shapesOf, readHandle, Json.text?, decodeListed, decodeAll_encode all, ValueDraft.handle,
    Decoder.ofOption, Decoder.idOrFresh, pure_bind, Value.mapNumbers]

/-! ### Data and statements -/

theorem DataType.encode_object (type : DataType) : ∃ fields, type.encode = .object fields := by
  cases type <;> exact ⟨_, rfl⟩

/-- The draft that the written form of a data node is read to. -/
def Data.draft (data : Data) : DataDraft :=
  { id := some data.id, type := some data.type, value := data.value.encode, shapes := shapesOf data.value.encode }

theorem readData_encode {data : Data} (keyed : data.type.Keyed) :
    readData [("id", .text data.id), ("type", data.type.encode), ("value", data.value.encode)] {} = pure data.draft := by
  obtain ⟨fields, form⟩ := data.type.encode_object
  have known : DataType.decode? (.object fields) = some data.type := by rw [← form, DataType.decode?_encode _ keyed]
  simp only [form, readData, Json.text?, Decoder.ofOption, known, pure_bind, Data.draft]

theorem Data.finish_draft {data : Data} (reloads : data.value.Reloads data.type) :
    data.draft.finish = pure (data.mapNumbers rewritten) := by
  have value : (shapesOf data.value.encode).typed data.value.encode data.type = _ := reloads
  obtain ⟨id, type, written⟩ := data
  simp only [DataDraft.finish, Data.draft, Decoder.idOrFresh, value, pure_bind, Data.mapNumbers]

theorem Data.reloads {data : Data} (keyed : data.type.Keyed) (reloads : data.value.Reloads data.type) : data.Reloads := by
  have read := readData_encode keyed
  have finished := Data.finish_draft reloads
  obtain ⟨id, type, value⟩ := data
  simp only [Data.Reloads, Data.encode, Data.decode, read, finished, pure_bind]

/-- A written call has a type, so that it is read as any data node. -/
theorem readCalls_encode {calls : List Data} (all : ∀ call ∈ calls, call.type.Keyed ∧ call.value.Reloads call.type) :
    (do (← readCalls (encodeCalls calls)).mapM DataDraft.finishCall) = pure (mapCalls rewritten calls) := by
  induction calls with
  | nil => rfl
  | cons call rest ih =>
    rw [List.forall_mem_cons] at all
    have read := readData_encode all.1.1
    have finished : call.draft.finishCall = _ := Data.finish_draft all.1.2
    have later := ih all.2
    obtain ⟨id, type, value⟩ := call
    simp only [encodeCalls, Data.encode, readCalls, read, bind_assoc, pure_bind, List.mapM_cons, finished, mapCalls]
    simp only [← bind_assoc, later, pure_bind]

theorem Statement.reloads {statement : Statement} (data : statement.data.Reloads)
    (calls : ∀ call ∈ statement.operations, call.type.Keyed ∧ call.value.Reloads call.type) : statement.Reloads := by
  have own : Data.decode statement.data.encode = _ := data
  have chain := readCalls_encode calls
  obtain ⟨id, data, operations, name, isOptional⟩ := statement
  simp only [Statement.Reloads, Statement.encode, Statement.decode]
  cases name <;> cases isOptional <;>
    simp only [List.cons_append, List.nil_append, List.append_nil, Option.toList, List.map_cons, List.map_nil, ↓reduceIte,
      Bool.false_eq_true, readStatement, Json.text?, Json.bool?, Decoder.optionalText, Decoder.ofOption, own, bind_assoc,
      pure_bind, map_pure]
  all_goals
    rw [← bind_assoc, chain, pure_bind]
    rfl

end LivePipeline
