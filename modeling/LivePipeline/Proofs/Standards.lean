import LivePipeline.Operation.Lookup
import LivePipeline.Proofs.Correspondence.Scope
import LivePipeline.Proofs.Drawing
import LivePipeline.Proofs.Making
import LivePipeline.Proofs.Runs
import LivePipeline.Proofs.Shapes

/-! Standards that runs keep to. A standard says which data may be handed around, for which nodes results may be recorded,
and in which worlds a run may find itself. Operations make their results of data that they are given, so a standard
that agrees with the few ways to take data apart and to put it together is kept by whole runs. Most operations need less
for this: a discipline may look at the types of data as long as it allows those that admit the value. -/

namespace LivePipeline

/-! ## Standards -/

/-- Nothing that is inside of the value is handed out. -/
def Value.isLeaf : Value → Bool
  | .array _ | .record _ | .operation _ _ _ | .reference _ _ => false
  | .undefined | .text _ | .number _ | .boolean _ | .condition _ _ _ | .error _ | .handle _ _ _ => true

/-- The data that an object answers with is good. -/
def External.Holds (good : Data → Prop) : External → Prop
  | .promise (.resolved value) => good value
  | .promise (.rejected _) | .date _ | .url _ | .http => True

/-- What operations keep to when they make data with types that admit its value. -/
structure Discipline where
  /-- Data that may be handed around. -/
  data : Data → Prop
  /-- Statements that containers may have for children. -/
  child : Statement → Prop
  /-- Identities that may be drawn. -/
  code : EntityId → Prop
  world : World → Prop
  leaf : ∀ id {type value}, value.isLeaf = true → type.admits value = true → data ⟨id, type, value⟩
  array : ∀ id {type items}, type.admits (.array items) = true → (∀ item ∈ items, child item) → data ⟨id, type, .array items⟩
  record : ∀ id {type entries}, type.admits (.record entries) = true → (∀ entry ∈ entries, child entry.2) →
    data ⟨id, type, .record entries⟩
  items : ∀ {id type items}, data ⟨id, type, .array items⟩ → ∀ item ∈ items, child item
  entries : ∀ {id type entries}, data ⟨id, type, .record entries⟩ → ∀ entry ∈ entries, child entry.2
  /-- A container may have other children under its type. -/
  refilled : ∀ {id type items}, data ⟨id, type, .array items⟩ → ∀ id' items', (∀ item ∈ items', child item) →
    data ⟨id', type.dereference, .array items'⟩
  rewritten : ∀ {id type entries}, data ⟨id, type, .record entries⟩ → ∀ id' entries', (∀ entry ∈ entries', child entry.2) →
    data ⟨id', type.dereference, .record entries'⟩
  held : ∀ {statement}, child statement → data statement.data
  bare : ∀ id {held} name isOptional, data held → child ⟨id, held, [], name, isOptional⟩
  drawn : ∀ {current number}, world current → current.nextId ≤ number → code (.drawn number)
  draws : ∀ {current next}, world current → current.nextId ≤ next → world { current with nextId := next }
  observes : ∀ {current} event, world current → world { current with events := event :: current.events }
  places : ∀ {current external} id, world current → external.Holds data →
    world { current with store := current.store.setInstance id external }
  answers : ∀ {current id external}, world current → current.store.instance? id = some external → external.Holds data

structure Standard where
  /-- Data that may be handed around. -/
  data : Data → Prop
  /-- Statements that containers may have for children. -/
  child : Statement → Prop
  /-- Nodes for which results may be recorded. -/
  code : EntityId → Prop
  world : World → Prop
  leaf : ∀ id type {value}, value.isLeaf = true → data ⟨id, type, value⟩
  array : ∀ {id type items}, data ⟨id, type, .array items⟩ ↔ ∀ item ∈ items, child item
  record : ∀ {id type entries}, data ⟨id, type, .record entries⟩ ↔ ∀ entry ∈ entries, child entry.2
  operation : ∀ id type {name parameters body},
    (∀ node, .node node ∈ (Value.operation name parameters body).mentions → code node) →
      data ⟨id, type, .operation name parameters body⟩
  retyped : ∀ {held}, data held → ∀ id type, data ⟨id, type, held.value⟩
  held : ∀ {statement}, child statement → data statement.data
  bare : ∀ id {held} name isOptional, data held → child ⟨id, held, [], name, isOptional⟩
  drawn : ∀ {current number}, world current → current.nextId ≤ number → code (.drawn number)
  draws : ∀ {current next}, world current → current.nextId ≤ next → world { current with nextId := next }
  observes : ∀ {current} event, world current → world { current with events := event :: current.events }
  records : ∀ {current id result} cacheable, world current → code id → data result →
    world { current with store := current.store.record cacheable id result }
  remembers : ∀ {current result} key, world current → data result →
    world { current with store := current.store.setFingerprint key result }
  places : ∀ {current external} id, world current → external.Holds data →
    world { current with store := current.store.setInstance id external }
  remembered : ∀ {current key result}, world current → current.store.fingerprint? key = some result → data result
  answers : ∀ {current id external}, world current → current.store.instance? id = some external → external.Holds data

namespace Standard

variable (std : Standard)

/-- Results may be recorded for the nodes that are mentioned. -/
def Admits (mentions : List Mention) : Prop := ∀ id, .node id ∈ mentions → std.code id

/-- A standard allows data with any types. -/
def discipline : Discipline where
  data := std.data
  child := std.child
  code := std.code
  world := std.world
  leaf id _ _ isLeaf _ := std.leaf id _ isLeaf
  array _ _ _ _ := std.array.mpr
  record _ _ _ _ := std.record.mpr
  items := std.array.mp
  entries := std.record.mp
  refilled _ _ _ := std.array.mpr
  rewritten _ _ _ := std.record.mpr
  held := std.held
  bare := std.bare
  drawn := std.drawn
  draws := std.draws
  observes := std.observes
  places := std.places
  answers := std.answers

/-- Of the operation values that are handed around, each may be called. -/
def Opens : Prop := ∀ operation, std.data operation → operation.isOperation = true → std.Admits operation.value.mentions

variable {std : Standard}

@[simp] theorem admits_nil : std.Admits [] := nofun

@[simp] theorem admits_cons {mention : Mention} {mentions : List Mention} :
    std.Admits (mention :: mentions) ↔ (∀ id, mention = .node id → std.code id) ∧ std.Admits mentions := by
  simp [Admits, or_imp, forall_and, eq_comm]

@[simp] theorem admits_append {first second : List Mention} : std.Admits (first ++ second) ↔ std.Admits first ∧ std.Admits second := by
  simp [Admits, or_imp, forall_and]

@[simp] theorem admits_flatMap {items : List α} {mentions : α → List Mention} :
    std.Admits (items.flatMap mentions) ↔ ∀ item ∈ items, std.Admits (mentions item) := by
  simp only [Admits, List.mem_flatMap]
  exact ⟨fun all item among id within => all id ⟨item, among, within⟩, fun all id ⟨item, among, within⟩ => all item among id within⟩

end Standard

/-! ## Making nodes -/

namespace Fresh.Makes

theorem leaf {std : Standard} (type : DataType) {value : Value} (isLeaf : value.isLeaf = true) :
    Makes std.code (Data.make type value) std.data := .bind .freshId fun _ _ => .pure (std.leaf _ _ isLeaf)

theorem retyped {std : Standard} {data : Data} (good : std.data data) (type : DataType) :
    Makes std.code (Data.make type data.value) std.data := .bind .freshId fun _ _ => .pure (std.retyped good _ _)

variable {way : Discipline}

theorem make (type : DataType) {value : Value} (good : ∀ id, way.data ⟨id, type, value⟩) :
    Makes way.code (Data.make type value) way.data := .bind .freshId fun _ _ => .pure (good _)

theorem admitted {type : DataType} {value : Value} (isLeaf : value.isLeaf = true) (admits : type.admits value = true) :
    Makes way.code (Data.make type value) way.data := .make type fun id => way.leaf id isLeaf admits

theorem statement {data : Data} (good : way.data data) : Makes way.code (Statement.make data) way.child :=
  .bind .freshId fun _ _ => .pure (way.bare _ _ _ good)

theorem array {items : List Data} (good : ∀ item ∈ items, way.data item) (fallback : DataType) :
    Makes way.code (Data.array items fallback) way.data := by
  refine .bind (.mapM fun item member => .statement (good item member)) fun statements all => ?_
  exact .make _ fun id => way.array id rfl all

theorem object {entries : List (String × Data)} (good : ∀ entry ∈ entries, way.data entry.2) :
    Makes way.code (Data.object entries) way.data := by
  refine .bind (show Makes _ _ fun (statements : List (String × Statement)) => ∀ entry ∈ statements, way.child entry.2 from ?_)
    fun statements made => .make _ fun id => way.record id rfl (Table.all_ofEntries made)
  refine .mapM fun entry member => ?_
  exact .bind (.statement (good entry member)) fun statement made => .pure made

/-! ### Data from plain JSON -/

mutual

theorem ofPlain : ∀ json : Json, Makes way.code (Data.ofPlain json) way.data
  | .null | .bool _ | .int _ | .float _ | .text _ => .admitted rfl rfl
  | .array items => .bind (dataOfItems items) fun _ all => .array all _
  | .object fields => .bind (dataOfFields fields) fun _ all => .object all
termination_by structural json => json

theorem dataOfItems : ∀ items : List Json, Makes way.code (LivePipeline.dataOfItems items) fun all => ∀ data ∈ all, way.data data
  | [] => .pure (by simp)
  | item :: rest => .bind (ofPlain item) fun _ first => .bind (dataOfItems rest) fun _ others =>
    .pure (List.forall_mem_cons.mpr ⟨first, others⟩)
termination_by structural items => items

theorem dataOfFields : ∀ fields : List (String × Json),
    Makes way.code (LivePipeline.dataOfFields fields) fun all => ∀ entry ∈ all, way.data entry.2
  | [] => .pure (by simp)
  | (_, value) :: rest => .bind (ofPlain value) fun _ first => .bind (dataOfFields rest) fun _ others =>
    .pure (List.forall_mem_cons.mpr ⟨first, others⟩)
termination_by structural fields => fields

end

end Fresh.Makes

/-! ### Defaults -/

/-- Data of the value may be handed around and evaluated. -/
def Value.Suits (std : Standard) (value : Value) : Prop := (∀ id type, std.data ⟨id, type, value⟩) ∧ std.Admits value.mentions

/-- The statement may be a child of a container and be evaluated. -/
def Statement.Suits (std : Standard) (statement : Statement) : Prop := std.child statement ∧ std.Admits statement.mentions

theorem Standard.default_steps (std : Standard) : DefaultSteps std.code (Value.Suits std) (Statement.Suits std) where
  undefined := ⟨fun _ _ => std.leaf _ _ rfl, std.admits_nil⟩
  text := ⟨fun _ _ => std.leaf _ _ rfl, std.admits_nil⟩
  number := ⟨fun _ _ => std.leaf _ _ rfl, std.admits_nil⟩
  boolean := ⟨fun _ _ => std.leaf _ _ rfl, std.admits_nil⟩
  array _ all := ⟨fun _ _ => std.array.mpr fun item among => (all item among).1,
    by simpa [Value.mentions] using fun item among => (all item among).2⟩
  record _ all := ⟨fun _ _ => std.record.mpr fun entry among => (all entry among).1,
    by simpa [Value.mentions] using fun key item among => (all (key, item) among).2⟩
  operation parameters all := by
    have admits : std.Admits (Value.operation none parameters []).mentions := by
      simpa [Value.mentions] using fun item among => (all item among).2
    exact ⟨fun id type => std.operation id type admits, admits⟩
  condition _ _ _ test whenTrue whenFalse :=
    ⟨fun _ _ => std.leaf _ _ rfl, by simpa [Value.mentions] using ⟨test.2, whenTrue.2, whenFalse.2⟩⟩
  error _ := ⟨fun _ _ => std.leaf _ _ rfl, std.admits_nil⟩
  handle _ _ _ all := ⟨fun _ _ => std.leaf _ _ rfl, by simpa [Value.mentions] using fun item among => (all item among).2⟩
  statement id data name isOptional own inner holds := by
    obtain ⟨dataId, type, value⟩ := data
    refine ⟨std.bare id name isOptional (holds.1 _ _), ?_⟩
    simpa [Statement.mentions, Data.mentions] using ⟨own, inner, holds.2⟩

theorem Fresh.Makes.defaultData {std : Standard} (full : Bool) (type : DataType) :
    Fresh.Makes std.code (type.defaultData full) std.data :=
  (std.default_steps.data full type).weaken fun ⟨id, type, _⟩ suits => suits.2.1 id type

/-! ## Runs -/

/-- An attempt may fail for any reason. -/
abbrev Attempt.Obeys (way : Discipline) (attempt : Attempt α) (good : α → Prop) : Prop :=
  Run.Assures way.world attempt (fun _ => True) good

section

variable {way : Discipline}

namespace Run.Ensures

theorem draw {build : Fresh α} {good : α → Prop} (makes : build.Makes way.code good) : Ensures way.world (Run.draw build) good :=
  fun world holds => (makes world.nextId fun _ => way.drawn holds).imp_left (way.draws holds)

/-- What is made plays no part. -/
theorem drawAny {build : Fresh α} (grows : build.Grows) : Ensures way.world (Run.draw build) fun _ => True :=
  draw fun number _ => ⟨grows number, trivial⟩

theorem observe (event : Event) : Ensures way.world (Run.observe event) fun _ => True :=
  fun _ holds => ⟨way.observes event holds, trivial⟩

end Run.Ensures

theorem Run.Assures.build {fails : ε → Prop} {work : Fresh α} {good : α → Prop} (makes : work.Makes way.code good) :
    Run.Assures way.world (liftM work : ExceptT ε Run α) fails good := .lift (.draw makes)

/-! ### Runs of a standard -/

/-- From a world of the standard the run comes to one again, and to a good outcome. -/
def Run.Upholds (std : Standard) (run : Run α) (good : α → Prop) : Prop :=
  ∀ world, std.world world → std.world (run world).2 ∧ good (run world).1

/-- Work that keeps to the standard, whether it fails or comes to a value. -/
def Run.Secures (std : Standard) (work : ExceptT ε Run α) (fails : ε → Prop) (good : α → Prop) : Prop :=
  Run.Upholds std work.run (Meets fails good)

/-- An attempt may fail for any reason. -/
abbrev Attempt.Upholds (std : Standard) (attempt : Attempt α) (good : α → Prop) : Prop :=
  Run.Secures std attempt (fun _ => True) good

variable {std : Standard}

theorem Run.Ensures.upholds {run : Run α} {good : α → Prop} (ensures : Run.Ensures std.discipline.world run good) :
    Run.Upholds std run good := ensures

theorem Run.Assures.secures {work : ExceptT ε Run α} {fails : ε → Prop} {good : α → Prop}
    (assures : Run.Assures std.discipline.world work fails good) : Run.Secures std work fails good := assures

namespace Run.Upholds

protected theorem pure {value : α} {good : α → Prop} (holds : good value) : Upholds std (Pure.pure value) good :=
  Ensures.pure holds

protected theorem bind {run : Run α} {next : α → Run β} {middle : α → Prop} {good : β → Prop}
    (first : Upholds std run middle) (second : ∀ value, middle value → Upholds std (next value) good) :
    Upholds std (run >>= next) good := Ensures.bind first second

theorem draw {build : Fresh α} {good : α → Prop} (makes : build.Makes std.code good) : Upholds std (Run.draw build) good :=
  (@Ensures.draw std.discipline _ _ _ makes).upholds

/-- What is made plays no part. -/
theorem drawAny {build : Fresh α} (grows : build.Grows) : Upholds std (Run.draw build) fun _ => True :=
  (@Ensures.drawAny std.discipline _ _ grows).upholds

/-- Looking at the store. -/
theorem look {next : Store → Run α} {good : α → Prop}
    (second : ∀ world, std.world world → Upholds std (next world.store) good) : Upholds std (Run.store >>= next) good :=
  Ensures.look second

/-- Changing the store in a way that the standard allows. -/
theorem update {change : Store → Store} (keeps : ∀ world, std.world world → std.world { world with store := change world.store }) :
    Upholds std (Run.updateStore change) fun _ => True := Ensures.update keeps

theorem observe (event : Event) : Upholds std (Run.observe event) fun _ => True := (@Ensures.observe std.discipline event).upholds

theorem mapM {work : α → Run β} {good : β → Prop} {items : List α} (each : ∀ item ∈ items, Upholds std (work item) good) :
    Upholds std (items.mapM work) fun values => ∀ value ∈ values, good value := Ensures.mapM each

end Run.Upholds

namespace Run.Secures

variable {fails : ε → Prop}

protected theorem pure {value : α} {good : α → Prop} (holds : good value) :
    Secures std (Pure.pure value : ExceptT ε Run α) fails good := Assures.pure holds

protected theorem throw {error : ε} {good : α → Prop} (holds : fails error) :
    Secures std (throw error : ExceptT ε Run α) fails good := Assures.throw holds

protected theorem bind {work : ExceptT ε Run α} {next : α → ExceptT ε Run β} {middle : α → Prop} {good : β → Prop}
    (first : Secures std work fails middle) (second : ∀ value, middle value → Secures std (next value) fails good) :
    Secures std (work >>= next) fails good := Assures.bind first second

theorem lift {run : Run α} {good : α → Prop} (upholds : Run.Upholds std run good) :
    Secures std (liftM run : ExceptT ε Run α) fails good := Assures.lift upholds

theorem build {work : Fresh α} {good : α → Prop} (makes : work.Makes std.code good) :
    Secures std (liftM work : ExceptT ε Run α) fails good := lift (.draw makes)

/-- Behind work that only looks at data, what it has found is known. -/
theorem reading {outcome : Except Failure α} {next : α → Attempt β} {good : β → Prop}
    (second : ∀ value, outcome = .ok value → Secures std (next value) (fun _ => True) good) :
    Secures std (liftM outcome >>= next) (fun _ => True) good := Assures.reading second

theorem fail (failure : Failure) {good : α → Prop} :
    Secures std (throw failure : Attempt α) (fun _ => True) good := .throw trivial

end Run.Secures

end

/-! ## Scopes -/

/-- The extension gives good data when it is given good data. -/
def Extension.Provides (std : Standard) (extension : Extension) : Prop :=
  ∀ data arguments result, std.data data → (∀ argument ∈ arguments, std.data argument) →
    extension.handler data arguments = .ok result → std.data result

/-- All data that a scope provides is good: that of its variables, that of its extensions, and the error because of
which nothing is run. -/
structure Scope.Provides (std : Standard) (scope : Scope) : Prop where
  bound : ∀ entry ∈ scope.bindings, std.data entry.2.data
  extensions : ∀ extension ∈ scope.extensions, extension.Provides std
  failed : ∀ error, scope.skip = some (.failed error) → std.data error

namespace Scope.Provides

variable {std : Standard} {scope : Scope}

theorem child (provides : scope.Provides std) : scope.child.Provides std := ⟨provides.bound, provides.extensions, provides.failed⟩

theorem expecting (provides : scope.Provides std) (type : Option DataType) : (scope.expecting type).Provides std :=
  ⟨provides.bound, provides.extensions, provides.failed⟩

theorem withNarrowing (provides : scope.Provides std) (narrowing : Option Narrowing) : (scope.withNarrowing narrowing).Provides std :=
  ⟨provides.bound, provides.extensions, provides.failed⟩

theorem withSkip (provides : scope.Provides std) {skip : Option Skip} (failed : ∀ error, skip = some (.failed error) → std.data error) :
    (scope.withSkip skip).Provides std := ⟨provides.bound, provides.extensions, failed⟩

theorem publish (provides : scope.Provides std) (name : Option String) (id : EntityId) {data : Data} (new : std.data data) :
    (scope.publish name id data).Provides std := by
  cases name with
  | none => exact provides
  | some name =>
    refine ⟨?_, provides.extensions, provides.failed⟩
    exact Table.all_insert (P := fun (found : Variable) => std.data found.data) provides.bound name new

/-- A check changes the types of variables only. -/
theorem enter (provides : scope.Provides std) (branch : Branch) : (scope.enter branch).Provides std := by
  unfold Scope.enter
  split
  · exact provides.child
  · refine ⟨?_, provides.extensions, provides.failed⟩
    exact Scope.Settled.retype (P := fun found => std.data found.data) (fun found type known => std.retyped known _ _) _ provides.bound

theorem skipBehind (provides : scope.Provides std) {data : Data} (receiver : std.data data) (branch : Option (String × Nat)) :
    ∀ error, scope.skipBehind data branch = some (.failed error) → std.data error := by
  intro error given
  unfold Scope.skipBehind at given
  split at given
  · next skip found => exact provides.failed error (found.trans given)
  · split at given
    · cases given; exact receiver
    · cases (Option.ite_none_right_eq_some.mp given).2

theorem skipUnless (provides : scope.Provides std) (live : Bool) :
    ∀ error, scope.skipUnless live = some (.failed error) → std.data error := by
  intro error given
  unfold Scope.skipUnless at given
  split at given
  · exact provides.failed error given
  · cases found : scope.skip with
    | none => rw [found] at given; cases given
    | some skip => rw [found] at given; exact provides.failed error (found.trans given)

theorem resolve (provides : scope.Provides std) {data : Data}
    (otherwise : data.reference? = none → std.data data) : Run.Upholds std (scope.resolve data) std.data := by
  obtain ⟨id, type, value⟩ := data
  unfold Scope.resolve
  cases value with
  | reference name target =>
    dsimp only
    split
    · next found given => exact .pure (Table.of_get? (P := fun (found : Variable) => std.data found.data) provides.bound given)
    · exact .draw (.leaf _ rfl)
  | _ => exact .pure (otherwise rfl)

end Scope.Provides

/-! ## Handlers -/

/-- Calls of good operation values on good data give good data. -/
def Caller.Upholds (std : Standard) (caller : Caller) : Prop :=
  ∀ scope operation arguments, scope.Provides std → std.data operation → (∀ argument ∈ arguments, std.data argument) →
    Run.Upholds std (caller scope operation arguments) std.data

/-- The statement is evaluated to good data. -/
def Pending.Upholds (std : Standard) (pending : Pending) : Prop :=
  ∀ scope, scope.Provides std → Run.Upholds std (pending.evaluate scope) std.data

/-- Calls in the scope, of good operation values on good data, give good data. -/
def Caller.Obeys (way : Discipline) (caller : Caller) (scope : Scope) : Prop :=
  ∀ operation arguments, way.data operation → (∀ argument ∈ arguments, way.data argument) →
    Run.Ensures way.world (caller scope operation arguments) way.data

theorem Caller.Upholds.obeys {std : Standard} {caller : Caller} (calls : caller.Upholds std) {scope : Scope}
    (provides : scope.Provides std) : caller.Obeys std.discipline scope :=
  fun operation arguments operates all => calls scope operation arguments provides operates all

/-- The handler keeps to every discipline. -/
def EagerHandler.Obeys (handler : EagerHandler) : Prop :=
  ∀ way caller scope data arguments, caller.Obeys way scope → way.data data → (∀ argument ∈ arguments, way.data argument) →
    Attempt.Obeys way (handler caller scope data arguments) way.data

def EagerHandler.Upholds (handler : EagerHandler) : Prop :=
  ∀ std caller scope data arguments, caller.Upholds std → scope.Provides std → std.data data →
    (∀ argument ∈ arguments, std.data argument) → Attempt.Upholds std (handler caller scope data arguments) std.data

theorem EagerHandler.Obeys.upholds {handler : EagerHandler} (obeys : handler.Obeys) : EagerHandler.Upholds handler :=
  fun std caller scope data arguments calls provides receiver all =>
    obeys std.discipline caller scope data arguments (calls.obeys provides) receiver all

/-- An eager handler that keeps to every discipline. -/
def Handler.Obeys : Handler → Prop
  | .eager run => run.Obeys
  | .lazy _ => False

def LazyHandler.Upholds (handler : LazyHandler) : Prop :=
  ∀ std scope data arguments, scope.Provides std → std.data data → (∀ argument ∈ arguments, argument.Upholds std) →
    Attempt.Upholds std (handler scope data arguments) std.data

def Handler.Upholds : Handler → Prop
  | .eager run => EagerHandler.Upholds run
  | .lazy run => LazyHandler.Upholds run

end LivePipeline
