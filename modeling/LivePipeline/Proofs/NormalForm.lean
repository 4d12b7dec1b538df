import LivePipeline.Node.Plain
import LivePipeline.Proofs.Standards

/-! Data in normal form: nothing in it is left to be done. Everything that evaluation hands out, records,
keeps for reuse or puts into a promise has this form. An operation makes its result of data that is
normal already, so the form is a standard that runs keep to. -/

namespace LivePipeline

/-! ## Normal data -/

mutual

/-- The value refers to no variable, and the children of a container have no calls left to be made and
are normal themselves. Bodies of operations, the parts of conditions and what handles are made from
are code and not looked into. -/
def Value.Normal : Value → Prop
  | .array items => itemsNormal items
  | .record entries => entriesNormal entries
  | .reference _ _ => False
  | .undefined | .text _ | .number _ | .boolean _ | .operation _ _ _ | .condition _ _ _ | .error _
  | .handle _ _ _ => True
termination_by structural value => value

def Data.Normal : Data → Prop
  | ⟨_, _, value⟩ => value.Normal
termination_by structural data => data

/-- A child that its container may have: its data is its result. -/
def Statement.Normal : Statement → Prop
  | ⟨_, data, operations, _, _⟩ => operations = [] ∧ data.Normal
termination_by structural statement => statement

def itemsNormal : List Statement → Prop
  | [] => True
  | statement :: rest => statement.Normal ∧ itemsNormal rest
termination_by structural statements => statements

def entriesNormal : List (String × Statement) → Prop
  | [] => True
  | (_, statement) :: rest => statement.Normal ∧ entriesNormal rest
termination_by structural entries => entries

end

@[simp] theorem Data.normal_iff {data : Data} : data.Normal ↔ data.value.Normal := by cases data; rfl

@[simp] theorem Statement.normal_iff {statement : Statement} :
    statement.Normal ↔ statement.operations = [] ∧ statement.data.value.Normal := by
  obtain ⟨_, ⟨_, _, _⟩, _, _, _⟩ := statement; rfl

@[simp] theorem itemsNormal_iff {items : List Statement} : itemsNormal items ↔ ∀ item ∈ items, item.Normal := by
  induction items with
  | nil => simp [itemsNormal]
  | cons item rest ih => simp [itemsNormal, ih]

@[simp] theorem entriesNormal_iff {entries : List (String × Statement)} :
    entriesNormal entries ↔ ∀ entry ∈ entries, entry.2.Normal := by
  induction entries with
  | nil => simp [entriesNormal]
  | cons entry rest ih => simp [entriesNormal, ih]

theorem Value.normal_array {items : List Statement} : (Value.array items).Normal ↔ ∀ item ∈ items, item.Normal := by
  rw [Value.Normal, itemsNormal_iff]

theorem Value.normal_record {entries : List (String × Statement)} :
    (Value.record entries).Normal ↔ ∀ entry ∈ entries, entry.2.Normal := by
  rw [Value.Normal, entriesNormal_iff]

/-! ### Normal data and its plain view -/

mutual

/-- The plain view of a value, given only if it shows all of it: there is none where it would pass over a
call that is left to be made, or show a variable instead of its value. -/
def Value.exactPlain? : Value → Option Json
  | .array items => (exactItems? items).map .array
  | .record entries => (exactEntries? entries).map .object
  | .reference _ _ => none
  | .undefined => some .null
  | .text value => some (.text value)
  | .number value => some (Json.ofNumber value)
  | .boolean value => some (.bool value)
  | .operation name parameters body => some (Value.operation name parameters body).plain
  | .condition test whenTrue whenFalse => some (Value.condition test whenTrue whenFalse).plain
  | .error reason => some (Value.error reason).plain
  | .handle className arguments instanceId => some (Value.handle className arguments instanceId).plain
termination_by structural value => value

def exactItems? : List Statement → Option (List Json)
  | [] => some []
  | ⟨_, ⟨_, _, value⟩, [], _, _⟩ :: rest => return (← value.exactPlain?) :: (← exactItems? rest)
  | _ :: _ => none
termination_by structural items => items

def exactEntries? : List (String × Statement) → Option (List (String × Json))
  | [] => some []
  | (key, ⟨_, ⟨_, _, value⟩, [], _, _⟩) :: rest => return (key, ← value.exactPlain?) :: (← exactEntries? rest)
  | _ :: _ => none
termination_by structural entries => entries

end

mutual

/-- The plain view of a normal value leaves nothing out. -/
theorem Value.Normal.exactPlain? : ∀ {value : Value}, value.Normal → value.exactPlain? = some value.plain
  | .array items, normal => by rw [Value.exactPlain?, itemsNormal_exact normal, Option.map_some, Value.plain]
  | .record entries, normal => by rw [Value.exactPlain?, entriesNormal_exact normal, Option.map_some, Value.plain]
  | .undefined, _ | .text _, _ | .number _, _ | .boolean _, _ | .operation _ _ _, _ | .condition _ _ _, _
  | .error _, _ | .handle _ _ _, _ => rfl

theorem itemsNormal_exact : ∀ {items : List Statement}, itemsNormal items → exactItems? items = some (plainItems items)
  | [], _ => rfl
  | ⟨_, ⟨_, _, value⟩, _, _, _⟩ :: rest, ⟨⟨rfl, first⟩, others⟩ => by
    simp only [exactItems?, Value.Normal.exactPlain? first, itemsNormal_exact others, plainItems]
    rfl

theorem entriesNormal_exact : ∀ {entries : List (String × Statement)}, entriesNormal entries →
    exactEntries? entries = some (plainEntries entries)
  | [], _ => rfl
  | (_, ⟨_, ⟨_, _, value⟩, _, _, _⟩) :: rest, ⟨⟨rfl, first⟩, others⟩ => by
    simp only [exactEntries?, Value.Normal.exactPlain? first, entriesNormal_exact others, plainEntries]
    rfl

end

/-! ## Stores in normal form -/

/-- A promise that has come to a value holds a normal one. -/
def External.Normal : External → Prop
  | .promise (.resolved value) => value.Normal
  | .promise (.rejected _) | .date _ | .url _ | .http => True

theorem External.normal_iff {external : External} : external.Normal ↔ external.Holds Data.Normal := by
  cases external with
  | promise state => cases state <;> rfl
  | _ => rfl

/-- What the store remembers is normal. A result may also be one that was there `earlier`. -/
structure Store.Normal (earlier : EntityId → Option Data) (store : Store) : Prop where
  results : ∀ id data, store.result? id = some data → data.Normal ∨ earlier id = some data
  fingerprints : ∀ key data, store.fingerprint? key = some data → data.Normal
  instances : ∀ id external, store.instance? id = some external → external.Normal

namespace Store.Normal

variable {earlier : EntityId → Option Data} {store : Store}

theorem record (normal : store.Normal earlier) (cacheable : Bool) (id : EntityId) {data : Data} (new : data.Normal) :
    (store.record cacheable id data).Normal earlier := by
  refine { normal with results := fun other found given => ?_ }
  rw [result?_record] at given
  split at given
  · cases given; exact .inl new
  · exact normal.results other found given

theorem remember (normal : store.Normal earlier) (key : String) {data : Data} (new : data.Normal) :
    (store.setFingerprint key data).Normal earlier := by
  refine { normal with fingerprints := fun other found given => ?_ }
  rw [fingerprint?_setFingerprint] at given
  split at given
  · cases given; exact new
  · exact normal.fingerprints other found given

theorem place (normal : store.Normal earlier) (id : EntityId) {external : External} (new : external.Normal) :
    (store.setInstance id external).Normal earlier := by
  refine { normal with instances := fun other found given => ?_ }
  rw [instance?_setInstance] at given
  split at given
  · cases given; exact new
  · exact normal.instances other found given

end Store.Normal

/-! ## The standard -/

theorem Value.Normal.of_isLeaf {value : Value} (isLeaf : value.isLeaf = true) : value.Normal := by
  cases value with
  | array _ | record _ | operation _ _ _ | reference _ _ => cases isLeaf
  | _ => trivial

/-- No result was there before. -/
abbrev noResult (_ : EntityId) : Option Data := none

/-- Data is normal, in the store as well. Code is not looked into. -/
abbrev Standard.normal (earlier : EntityId → Option Data) : Standard where
  data := Data.Normal
  child := Statement.Normal
  code _ := True
  world world := world.store.Normal earlier
  leaf _ _ := Value.Normal.of_isLeaf
  array := Value.normal_array
  record := Value.normal_record
  operation _ _ _ _ _ _ := trivial
  retyped normal _ _ := Data.normal_iff.mp normal
  held normal := Data.normal_iff.mpr (Statement.normal_iff.mp normal).2
  bare _ _ _ _ normal := Statement.normal_iff.mpr ⟨rfl, Data.normal_iff.mp normal⟩
  drawn _ _ := trivial
  draws normal _ := normal
  observes _ normal := normal
  records cacheable normal _ new := normal.record cacheable _ new
  remembers key normal new := normal.remember key new
  places id normal new := normal.place id (External.normal_iff.mpr new)
  remembered normal found := normal.fingerprints _ _ found
  answers normal found := External.normal_iff.mp (normal.instances _ _ found)

/-! ## Scopes in normal form -/

/-- The extension gives normal data when it is given normal data. -/
def Extension.Normal (extension : Extension) : Prop :=
  ∀ data arguments result, data.Normal → (∀ argument ∈ arguments, argument.Normal) →
    extension.handler data arguments = .ok result → result.Normal

/-- All data that a scope provides is normal: that of its variables, that of its extensions, and the error
because of which nothing is run. -/
structure Scope.Normal (scope : Scope) : Prop where
  bound : ∀ entry ∈ scope.bindings, entry.2.data.Normal
  extensions : ∀ extension ∈ scope.extensions, extension.Normal
  failed : ∀ error, scope.skip = some (.failed error) → error.Normal

theorem Scope.Normal.provides {scope : Scope} (normal : scope.Normal) (earlier : EntityId → Option Data) :
    scope.Provides (.normal earlier) := ⟨normal.bound, normal.extensions, normal.failed⟩

end LivePipeline
