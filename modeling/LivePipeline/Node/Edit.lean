import LivePipeline.Node

/-! Edits of a program tree: finding a node by its identity, and exchanging or removing one
statement wherever it stands. -/

namespace LivePipeline

mutual

/-- Whether a node with the identity stands inside the value. -/
def Value.containsId (id : EntityId) : Value → Bool
  | .array items => anyContainsId id items
  | .record entries => entriesContainId id entries
  | .operation _ parameters body => anyContainsId id parameters || anyContainsId id body
  | .condition test whenTrue whenFalse =>
    test.containsId id || whenTrue.containsId id || whenFalse.containsId id
  | .handle _ arguments _ => anyContainsId id arguments
  | _ => false

def Data.containsId (id : EntityId) : Data → Bool
  | ⟨own, _, value⟩ => own == id || value.containsId id

def Statement.containsId (id : EntityId) : Statement → Bool
  | ⟨own, data, operations, _, _⟩ =>
    own == id || data.containsId id || callsContainId id operations

def anyContainsId (id : EntityId) : List Statement → Bool
  | [] => false
  | statement :: rest => statement.containsId id || anyContainsId id rest

def callsContainId (id : EntityId) : List Data → Bool
  | [] => false
  | call :: rest => call.containsId id || callsContainId id rest

def entriesContainId (id : EntityId) : List (String × Statement) → Bool
  | [] => false
  | (_, statement) :: rest => statement.containsId id || entriesContainId id rest

end

/-- One change of a program: the statement with the identity of `changed` is exchanged for it, or
leaves the list it stands in. -/
structure Edit where
  changed : Statement
  removes : Bool

namespace Edit

mutual

def value (edit : Edit) : Value → Value
  | .array items => .array (edit.list items)
  | .record entries => .record (edit.entries entries)
  | .operation name parameters body => .operation name (edit.list parameters) (edit.list body)
  | .condition test whenTrue whenFalse =>
    .condition (edit.statement test) (edit.statement whenTrue) (edit.statement whenFalse)
  | .handle className arguments instanceId => .handle className (edit.list arguments) instanceId
  | value => value

def data (edit : Edit) : Data → Data
  | ⟨id, type, value⟩ => ⟨id, type, edit.value value⟩

/-- A statement that stands alone, as a branch of a condition does, is exchanged even when it
should be removed. -/
def statement (edit : Edit) : Statement → Statement
  | ⟨id, data, operations, name, isOptional⟩ =>
    if id = edit.changed.id then edit.changed
    else ⟨id, edit.data data, edit.calls operations, name, isOptional⟩

def list (edit : Edit) : List Statement → List Statement
  | [] => []
  | statement :: rest =>
    if edit.removes && statement.id == edit.changed.id then edit.list rest
    else edit.statement statement :: edit.list rest

def calls (edit : Edit) : List Data → List Data
  | [] => []
  | call :: rest => edit.data call :: edit.calls rest

def entries (edit : Edit) : List (String × Statement) → List (String × Statement)
  | [] => []
  | (key, statement) :: rest =>
    if edit.removes && statement.id == edit.changed.id then edit.entries rest
    else (key, edit.statement statement) :: edit.entries rest

end

end Edit

end LivePipeline
