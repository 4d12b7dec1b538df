import LivePipeline.Proofs.Standards.Builtins

/-! Well-shaped data: its type admits its value, and so it is inside of containers. Operations keep to this
discipline, but for those that give a value another type. Programs are asked for less: evaluation types
containers and operations anew, so only what it hands out as it is written needs the right type. -/

namespace LivePipeline

/-! ## Programs -/

mutual

/-- What evaluation hands out as it is written has a type that admits it. What handles are made from is not looked into:
it is never run. -/
def Value.wellWritten (type : DataType) : Value → Bool
  | .array items => allWellWritten items
  | .record entries => entriesWellWritten entries
  | .operation _ parameters body => allWellWritten parameters && allWellWritten body
  | .condition test whenTrue whenFalse => test.wellWritten && whenTrue.wellWritten && whenFalse.wellWritten
  | .reference _ _ => true
  | .undefined => type.admits .undefined
  | .text value => type.admits (.text value)
  | .number value => type.admits (.number value)
  | .boolean value => type.admits (.boolean value)
  | .error reason => type.admits (.error reason)
  | .handle className arguments instanceId => type.admits (.handle className arguments instanceId)
termination_by structural value => value

def Data.wellWritten : Data → Bool
  | ⟨_, type, value⟩ => value.wellWritten type
termination_by structural data => data

def Statement.wellWritten : Statement → Bool
  | ⟨_, data, operations, _, _⟩ => data.wellWritten && callsWellWritten operations
termination_by structural statement => statement

def allWellWritten : List Statement → Bool
  | [] => true
  | statement :: rest => statement.wellWritten && allWellWritten rest
termination_by structural statements => statements

def callsWellWritten : List Data → Bool
  | [] => true
  | operation :: rest => operation.wellWritten && callsWellWritten rest
termination_by structural operations => operations

def entriesWellWritten : List (String × Statement) → Bool
  | [] => true
  | (_, statement) :: rest => statement.wellWritten && entriesWellWritten rest
termination_by structural entries => entries

end

@[simp] theorem allWellWritten_iff {statements : List Statement} :
    allWellWritten statements = true ↔ ∀ statement ∈ statements, statement.wellWritten = true := by
  induction statements with
  | nil => simp [allWellWritten]
  | cons statement rest ih => simp [allWellWritten, ih]

@[simp] theorem callsWellWritten_iff {operations : List Data} :
    callsWellWritten operations = true ↔ ∀ operation ∈ operations, operation.wellWritten = true := by
  induction operations with
  | nil => simp [callsWellWritten]
  | cons operation rest ih => simp [callsWellWritten, ih]

@[simp] theorem entriesWellWritten_iff {entries : List (String × Statement)} :
    entriesWellWritten entries = true ↔ ∀ entry ∈ entries, entry.2.wellWritten = true := by
  induction entries with
  | nil => simp [entriesWellWritten]
  | cons entry rest ih => simp [entriesWellWritten, ih]

/-! ## Data -/

mutual

/-- What is inside of the value is well-shaped: the data of a container's children, and the program of an operation. -/
def Value.wellShaped : Value → Bool
  | .array items => itemsWellShaped items
  | .record entries => entriesWellShaped entries
  | .operation _ parameters body => allWellWritten parameters && allWellWritten body
  | .undefined | .text _ | .number _ | .boolean _ | .condition _ _ _ | .reference _ _ | .error _ | .handle _ _ _ => true
termination_by structural value => value

def Data.wellShaped : Data → Bool
  | ⟨_, type, value⟩ => type.admits value && value.wellShaped
termination_by structural data => data

/-- A child of a container stands for its data. -/
def Statement.wellShaped : Statement → Bool
  | ⟨_, data, _, _, _⟩ => data.wellShaped
termination_by structural statement => statement

def itemsWellShaped : List Statement → Bool
  | [] => true
  | statement :: rest => statement.wellShaped && itemsWellShaped rest
termination_by structural items => items

def entriesWellShaped : List (String × Statement) → Bool
  | [] => true
  | (_, statement) :: rest => statement.wellShaped && entriesWellShaped rest
termination_by structural entries => entries

end

theorem Data.wellShaped_iff {data : Data} :
    data.wellShaped = true ↔ data.type.admits data.value = true ∧ data.value.wellShaped = true := by
  cases data
  rw [Data.wellShaped, Bool.and_eq_true]

theorem Statement.wellShaped_eq (statement : Statement) : statement.wellShaped = statement.data.wellShaped := by
  cases statement
  rfl

theorem itemsWellShaped_iff {items : List Statement} :
    itemsWellShaped items = true ↔ ∀ item ∈ items, item.data.wellShaped = true := by
  induction items with
  | nil => simp [itemsWellShaped]
  | cons item rest ih => simp [itemsWellShaped, Statement.wellShaped_eq, ih]

theorem entriesWellShaped_iff {entries : List (String × Statement)} :
    entriesWellShaped entries = true ↔ ∀ entry ∈ entries, entry.2.data.wellShaped = true := by
  induction entries with
  | nil => simp [entriesWellShaped]
  | cons entry rest ih => simp [entriesWellShaped, Statement.wellShaped_eq, ih]

theorem Value.wellShaped_of_isLeaf {value : Value} (isLeaf : value.isLeaf = true) : value.wellShaped = true := by
  cases value with
  | array _ | record _ | operation _ _ _ | reference _ _ => cases isLeaf
  | _ => rfl

/-! ## Worlds -/

/-- What may be handed out again is well-shaped: results that are kept for the same inputs, and what promises hold. -/
structure World.WellShaped (world : World) : Prop where
  fingerprints : ∀ key result, world.store.fingerprint? key = some result → result.wellShaped = true
  instances : ∀ id external, world.store.instance? id = some external → external.Holds (·.wellShaped = true)

namespace World.WellShaped

variable {world : World}

/-- Nothing is held at first. -/
theorem initial : World.WellShaped {} where
  fingerprints _ _ given := by cases given
  instances _ _ given := by cases given

theorem record (shaped : world.WellShaped) (cacheable : Bool) (id : EntityId) (result : Data) :
    World.WellShaped { world with store := world.store.record cacheable id result } := ⟨shaped.fingerprints, shaped.instances⟩

theorem remember (shaped : world.WellShaped) (key : String) {result : Data} (new : result.wellShaped = true) :
    World.WellShaped { world with store := world.store.setFingerprint key result } where
  fingerprints other found given := by
    rw [Store.fingerprint?_setFingerprint] at given
    split at given
    · cases given; exact new
    · exact shaped.fingerprints other found given
  instances := shaped.instances

theorem place (shaped : world.WellShaped) (id : EntityId) {external : External} (new : external.Holds (·.wellShaped = true)) :
    World.WellShaped { world with store := world.store.setInstance id external } where
  fingerprints := shaped.fingerprints
  instances other found given := by
    rw [Store.instance?_setInstance] at given
    split at given
    · cases given; exact new
    · exact shaped.instances other found given

end World.WellShaped

/-! ## The discipline -/

/-- A type admits an array whatever is in it. -/
theorem DataType.admits_array {type : DataType} {items : List Statement} (admits : type.admits (.array items) = true)
    (others : List Statement) : type.dereference.admits (.array others) = true := by
  have same (kind : Kind) : kind.names (.array others) = kind.names (.array items) := by cases kind <;> rfl
  rw [DataType.admits_dereference, DataType.admits]
  simp only [same]
  exact admits

theorem DataType.admits_record {type : DataType} {entries : List (String × Statement)} (admits : type.admits (.record entries) = true)
    (others : List (String × Statement)) : type.dereference.admits (.record others) = true := by
  have same (kind : Kind) : kind.names (.record others) = kind.names (.record entries) := by cases kind <;> rfl
  rw [DataType.admits_dereference, DataType.admits]
  simp only [same]
  exact admits

/-- All data that is handed around is well-shaped, in the store as well. -/
def Discipline.shapes : Discipline where
  data data := data.wellShaped = true
  child statement := statement.data.wellShaped = true
  code _ := True
  world := World.WellShaped
  leaf _ _ _ isLeaf admits := Data.wellShaped_iff.mpr ⟨admits, Value.wellShaped_of_isLeaf isLeaf⟩
  array _ _ _ admits all := Data.wellShaped_iff.mpr ⟨admits, itemsWellShaped_iff.mpr all⟩
  record _ _ _ admits all := Data.wellShaped_iff.mpr ⟨admits, entriesWellShaped_iff.mpr all⟩
  items shaped := itemsWellShaped_iff.mp (Data.wellShaped_iff.mp shaped).2
  entries shaped := entriesWellShaped_iff.mp (Data.wellShaped_iff.mp shaped).2
  refilled shaped _ items' all :=
    Data.wellShaped_iff.mpr ⟨DataType.admits_array (Data.wellShaped_iff.mp shaped).1 items', itemsWellShaped_iff.mpr all⟩
  rewritten shaped _ entries' all :=
    Data.wellShaped_iff.mpr ⟨DataType.admits_record (Data.wellShaped_iff.mp shaped).1 entries', entriesWellShaped_iff.mpr all⟩
  held shaped := shaped
  bare _ _ _ _ shaped := shaped
  drawn _ _ := trivial
  draws shaped _ := ⟨shaped.fingerprints, shaped.instances⟩
  observes _ shaped := ⟨shaped.fingerprints, shaped.instances⟩
  places id shaped holds := shaped.place id holds
  answers shaped found := shaped.instances _ _ found

/-- From a well-shaped world the run comes to one again, and to a good outcome. -/
abbrev Run.Conserves (run : Run α) (good : α → Prop) : Prop := Run.Ensures Discipline.shapes.world run good

end LivePipeline
