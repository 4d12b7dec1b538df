import LivePipeline.Proofs.Files
import LivePipeline.Proofs.NormalForm.Evaluation

/-! What an operation takes from the place that it is called at. An operation carries no variables with
it: its body is run behind those of its caller, and a name that it leaves open stands for what the
caller has declared under it. -/

namespace LivePipeline

/-! ## Open names -/

/-- The names that are still hidden behind the statements. -/
def Statement.behind (statements : List Statement) (hidden : String → Bool) (name : String) : Bool :=
  hidden name && !statements.any (·.name == some name)

mutual

/-- No hidden name is used, be it for a variable or for a call. In an operation a name may be used once the
operation has declared it, and nothing is declared under a secret identity. What handles are made
from is not looked into: it is never run. -/
def Value.avoids (secret : EntityId → Bool) : Value → (String → Bool) → Bool
  | .reference name _, hidden => !hidden name
  | .array items, hidden => allAvoid secret items hidden
  | .record entries, hidden => entriesAvoid secret entries hidden
  | .condition test whenTrue whenFalse, hidden =>
    test.avoids secret hidden && whenTrue.avoids secret hidden && whenFalse.avoids secret hidden
  | .operation _ parameters body, hidden =>
    sequenceAvoids secret parameters hidden && sequenceAvoids secret body (Statement.behind parameters hidden)
  | .undefined, _ | .text _, _ | .number _, _ | .boolean _, _ | .error _, _ | .handle _ _ _, _ => true
termination_by structural value => value

def Data.avoids (secret : EntityId → Bool) : Data → (String → Bool) → Bool
  | ⟨_, _, value⟩, hidden => value.avoids secret hidden
termination_by structural data => data

def Statement.avoids (secret : EntityId → Bool) : Statement → (String → Bool) → Bool
  | ⟨_, data, operations, _, _⟩, hidden => data.avoids secret hidden && callsAvoid secret operations hidden
termination_by structural statement => statement

/-- The call has no hidden name, and its arguments use none. -/
def Data.callAvoids (secret : EntityId → Bool) : Data → (String → Bool) → Bool
  | ⟨_, _, .operation name arguments _⟩, hidden => !name.any hidden && allAvoid secret arguments hidden
  | _, _ => true
termination_by structural data => data

def callsAvoid (secret : EntityId → Bool) : List Data → (String → Bool) → Bool
  | [], _ => true
  | operation :: rest, hidden => operation.callAvoids secret hidden && callsAvoid secret rest hidden
termination_by structural operations => operations

def allAvoid (secret : EntityId → Bool) : List Statement → (String → Bool) → Bool
  | [], _ => true
  | statement :: rest, hidden => statement.avoids secret hidden && allAvoid secret rest hidden
termination_by structural statements => statements

def entriesAvoid (secret : EntityId → Bool) : List (String × Statement) → (String → Bool) → Bool
  | [], _ => true
  | (_, statement) :: rest, hidden => statement.avoids secret hidden && entriesAvoid secret rest hidden
termination_by structural entries => entries

/-- Statements of which each declares its name for those behind it. -/
def sequenceAvoids (secret : EntityId → Bool) : List Statement → (String → Bool) → Bool
  | [], _ => true
  | statement :: rest, hidden =>
    statement.avoids secret hidden && (statement.name.isNone || !secret statement.id)
      && sequenceAvoids secret rest (Statement.behind [statement] hidden)
termination_by structural statements => statements

end

section

variable {secret : EntityId → Bool} {hidden : String → Bool}

@[simp] theorem allAvoid_iff {statements : List Statement} :
    allAvoid secret statements hidden = true ↔ ∀ statement ∈ statements, statement.avoids secret hidden = true := by
  induction statements with
  | nil => simp [allAvoid]
  | cons statement rest ih => simp [allAvoid, ih]

@[simp] theorem entriesAvoid_iff {entries : List (String × Statement)} :
    entriesAvoid secret entries hidden = true ↔ ∀ entry ∈ entries, entry.2.avoids secret hidden = true := by
  induction entries with
  | nil => simp [entriesAvoid]
  | cons entry rest ih => simp [entriesAvoid, ih]

@[simp] theorem callsAvoid_iff {operations : List Data} :
    callsAvoid secret operations hidden = true ↔ ∀ operation ∈ operations, operation.callAvoids secret hidden = true := by
  induction operations with
  | nil => simp [callsAvoid]
  | cons operation rest ih => simp [callsAvoid, ih]

theorem Data.avoids_eta (data : Data) : data.avoids secret hidden = data.value.avoids secret hidden := by
  cases data
  rfl

end

/-! Where nothing is hidden and nothing secret, everything avoids it. -/

abbrev noIdentity (_ : EntityId) : Bool := false

abbrev noName (_ : String) : Bool := false

theorem Statement.behind_noName (statements : List Statement) : Statement.behind statements noName = noName := rfl

theorem sequenceAvoids_noName {statements : List Statement} (all : ∀ statement ∈ statements, statement.avoids noIdentity noName = true) :
    sequenceAvoids noIdentity statements noName = true := by
  induction statements with
  | nil => rfl
  | cons statement rest ih =>
    rw [List.forall_mem_cons] at all
    simp [sequenceAvoids, Statement.behind_noName, all.1, ih all.2]

theorem avoids_noName_steps : NodeSteps (fun value => ∀ id type, Data.avoids noIdentity ⟨id, type, value⟩ noName = true
      ∧ Data.callAvoids noIdentity ⟨id, type, value⟩ noName = true)
    (fun data => data.avoids noIdentity noName = true ∧ data.callAvoids noIdentity noName = true)
    (fun statement => statement.avoids noIdentity noName = true) where
  undefined _ _ := ⟨rfl, rfl⟩
  text _ _ _ := ⟨rfl, rfl⟩
  number _ _ _ := ⟨rfl, rfl⟩
  boolean _ _ _ := ⟨rfl, rfl⟩
  error _ _ _ := ⟨rfl, rfl⟩
  reference _ _ _ _ := ⟨rfl, rfl⟩
  handle _ _ _ _ _ _ := ⟨rfl, rfl⟩
  array _ all _ _ := ⟨allAvoid_iff.mpr all, rfl⟩
  record _ all _ _ := ⟨entriesAvoid_iff.mpr all, rfl⟩
  operation name _ _ first second _ _ := by
    constructor
    · simp [Data.avoids, Value.avoids, Statement.behind_noName, sequenceAvoids_noName first, sequenceAvoids_noName second]
    · simpa [Data.callAvoids] using first
  condition _ _ _ tests trues falses _ _ := by simp [Data.avoids, Value.avoids, Data.callAvoids, tests, trues, falses]
  data _ _ value all := all _ _
  statement _ _ _ _ _ own all := by
    simp only [Statement.avoids, own.1, callsAvoid_iff, Bool.true_and]
    exact fun call among => (all call among).2

/-! ## Calls that use nothing of their caller -/

/-- The scope's variable of that name is declared under a secret identity. -/
def Scope.hides (scope : Scope) (secret : EntityId → Bool) (name : String) : Bool :=
  (scope.variableNamed? name).any (secret ·.id)

/-- Calls operations with the given number of levels left. Where no level is left, and where the operation leaves
a name open that is hidden in the scope of the call, the call is left to `instead`. -/
def callerAvoiding (secret : EntityId → Bool) (instead : Nat → Caller) : Nat → Caller
  | 0 => instead 0
  | levels + 1 => fun scope operation arguments =>
    if operation.avoids secret (scope.hides secret) then
      enterOperation (callerAvoiding secret instead levels) scope operation arguments
    else instead (levels + 1) scope operation arguments

/-! ## Scopes on both sides -/

namespace Table

variable {α : Type u}

theorem get?_modify (table : Table α) (key name : String) (change : α → α) :
    get? (modify table key change) name = if name = key then (get? table key).map change else get? table name := by
  induction table with
  | nil => simp [modify, get?]
  | cons entry rest ih =>
    obtain ⟨other, value⟩ := entry
    by_cases same : other = key
    · subst same
      by_cases own : name = other
      · subst own; simp [modify, get?]
      · simp [modify, get?, own, Ne.symm own]
    · by_cases own : name = key
      · subst own; simpa [modify, get?, same] using ih
      · by_cases found : other = name
        · subst found; simp [modify, get?, same]
        · simpa [modify, get?, same, found, own] using ih

theorem keys_modify (table : Table α) (key : String) (change : α → α) : keys (modify table key change) = keys table := by
  induction table with
  | nil => rfl
  | cons entry rest ih =>
    simp only [modify, keys, List.map_cons] at ih ⊢
    split
    · rfl
    · rw [List.map_cons, ih]

end Table

/-- How a scope behind the declarations of a caller differs from the one without them. -/
structure Shelter where
  /-- The identities under which the caller has declared its variables. -/
  secret : EntityId → Bool
  /-- What the names of the caller stand for without it. -/
  home : Table Variable
  /-- How many calls the caller is further in. -/
  deeper : Nat

/-- The variable of a name, or what stands for the name without the caller if the variable is the caller's. -/
def Shelter.origin (shelter : Shelter) (name : String) (found : Variable) : Option Variable :=
  if shelter.secret found.id then Table.get? shelter.home name else some found

/-- What a name stands for when nothing of the caller is seen. -/
def Shelter.seen (shelter : Shelter) (outer : Table Variable) (name : String) : Option Data :=
  ((Table.get? outer name).bind (shelter.origin name)).map (·.data)

/-- The variables without the caller and behind it. All names under which the caller's are visible are `hidden`. -/
structure Shelter.Tables (shelter : Shelter) (hidden : String → Bool) (inner outer : Table Variable) : Prop where
  distinct : (Table.keys inner).Nodup ∧ (Table.keys outer).Nodup
  shown : ∀ name, (Table.get? inner name).map (·.data) = shelter.seen outer name
  covered : ∀ name found, Table.get? outer name = some found → shelter.secret found.id = true → hidden name = true

/-- A check says nothing about hidden names. -/
def Narrowing.Avoids (narrowing : Narrowing) (hidden : String → Bool) : Prop :=
  (∀ entry ∈ narrowing.narrowed, hidden entry.1 = false) ∧ ∀ entry ∈ narrowing.inverse, hidden entry.1 = false

/-- The scope without the caller, all of whose data is normal, and the scope behind it. -/
structure Shelter.Scopes (shelter : Shelter) (hidden : String → Bool) (inner outer : Scope) : Prop where
  same : outer = { inner with bindings := outer.bindings, callDepth := inner.callDepth + shelter.deeper }
  tables : shelter.Tables hidden inner.bindings outer.bindings
  clear : ∀ narrowing, inner.narrowing = some narrowing → narrowing.Avoids hidden
  normal : inner.Provides (.normal noResult)

namespace Shelter.Tables

variable {shelter : Shelter} {hidden : String → Bool} {inner outer : Table Variable}

theorem not_secret (tables : shelter.Tables hidden inner outer) {name : String} (visible : hidden name = false) {found : Variable}
    (given : Table.get? outer name = some found) : shelter.secret found.id = false := by
  cases secret : shelter.secret found.id with
  | false => rfl
  | true =>
    rw [tables.covered name found given secret] at visible
    cases visible

/-- A name that is not hidden stands for the same data on both sides. -/
theorem get? (tables : shelter.Tables hidden inner outer) {name : String} (visible : hidden name = false) :
    (Table.get? inner name).map (·.data) = (Table.get? outer name).map (·.data) := by
  rw [tables.shown, Shelter.seen]
  cases found : Table.get? outer name with
  | none => rfl
  | some bound => simp [Shelter.origin, tables.not_secret visible found]

theorem insert (tables : shelter.Tables hidden inner outer) (name : String) (id' : EntityId) {id : EntityId}
    (own : shelter.secret id = false) (data : Data) :
    shelter.Tables (fun other => hidden other && !(name == other)) (Table.insert inner name ⟨id', data⟩)
      (Table.insert outer name ⟨id, data⟩) where
  distinct := ⟨Table.nodup_insert tables.distinct.1 _ _, Table.nodup_insert tables.distinct.2 _ _⟩
  shown other := by
    by_cases same : other = name
    · subst same
      simp [Shelter.seen, Shelter.origin, own]
    · simpa [Shelter.seen, Table.get?_insert_of_ne _ _ same] using tables.shown other
  covered other found given secret := by
    by_cases same : other = name
    · subst same
      rw [Table.get?_insert_self] at given
      cases given
      rw [own] at secret
      cases secret
    · rw [Table.get?_insert_of_ne _ _ same] at given
      simp [tables.covered other found given secret, Ne.symm same]

/-- The type of a variable that is not hidden may change. -/
theorem modify (tables : shelter.Tables hidden inner outer) {name : String} (visible : hidden name = false) (type : DataType) :
    shelter.Tables hidden (Table.modify inner name fun v => { v with data := { v.data with type := type } })
      (Table.modify outer name fun v => { v with data := { v.data with type := type } }) where
  distinct := by simpa only [Table.keys_modify] using tables.distinct
  shown other := by
    by_cases same : other = name
    · subst same
      have shown := congrArg (Option.map fun data : Data => { data with type := type }) (tables.get? visible)
      rw [Option.map_map, Option.map_map] at shown
      simp only [Shelter.seen, Table.get?_modify, if_true, Option.map_map]
      refine shown.trans ?_
      cases found : Table.get? outer other with
      | none => rfl
      | some bound => simp [Shelter.origin, tables.not_secret visible found]
    · simpa only [Shelter.seen, Table.get?_modify, same, if_false] using tables.shown other
  covered other found given secret := by
    rw [Table.get?_modify] at given
    split at given
    · next same =>
      subst same
      obtain ⟨bound, before, rfl⟩ := Option.map_eq_some_iff.mp given
      rw [tables.not_secret visible before] at secret
      cases secret
    · exact tables.covered other found given secret

theorem retype (tables : shelter.Tables hidden inner outer) {types : Table DataType} (visible : ∀ entry ∈ types, hidden entry.1 = false) :
    shelter.Tables hidden (Scope.retype inner types) (Scope.retype outer types) := by
  induction types generalizing inner outer with
  | nil => exact tables
  | cons entry rest ih =>
    rw [List.forall_mem_cons] at visible
    exact ih (tables.modify visible.1 entry.2) visible.2

end Shelter.Tables

/-! ### Checks -/

namespace Narrowing.Avoids

variable {hidden : String → Bool} {left right : Narrowing}

theorem insert {types : Table DataType} (all : ∀ entry ∈ types, hidden entry.1 = false) {name : String} (visible : hidden name = false)
    (type : DataType) : ∀ entry ∈ Table.insert types name type, hidden entry.1 = false := by
  intro entry among
  rcases Table.of_mem_insert among with rfl | old
  · exact visible
  · exact all entry old

theorem insertAll {left later : Table DataType} (first : ∀ entry ∈ left, hidden entry.1 = false)
    (second : ∀ entry ∈ later, hidden entry.1 = false) : ∀ entry ∈ Table.insertAll left later, hidden entry.1 = false := by
  induction later generalizing left with
  | nil => exact first
  | cons entry rest ih =>
    rw [List.forall_mem_cons] at second
    exact ih (insert first second.1 entry.2) second.2

theorem mergeWith (combine : DataType → DataType → DataType) {left right : Table DataType}
    (first : ∀ entry ∈ left, hidden entry.1 = false) (second : ∀ entry ∈ right, hidden entry.1 = false) :
    ∀ entry ∈ Narrowing.mergeWith combine left right, hidden entry.1 = false :=
  insertAll first (List.forall_mem_map.mpr second)

theorem intersectWith (combine : DataType → DataType → DataType) {left : Table DataType} (right : Table DataType)
    (first : ∀ entry ∈ left, hidden entry.1 = false) :
    ∀ entry ∈ Narrowing.intersectWith combine left right, hidden entry.1 = false := by
  intro entry among
  obtain ⟨before, member, made⟩ := List.mem_filterMap.mp among
  obtain ⟨other, _, rfl⟩ := Option.map_eq_some_iff.mp made
  exact first before member

theorem both (first : left.Avoids hidden) (second : right.Avoids hidden) : (left.both right).Avoids hidden :=
  ⟨mergeWith _ first.1 second.1, intersectWith _ _ first.2⟩

theorem either (first : left.Avoids hidden) (second : right.Avoids hidden) : (left.either right).Avoids hidden :=
  ⟨intersectWith _ _ first.1, mergeWith _ first.2 second.2⟩

theorem swap (avoids : left.Avoids hidden) : left.swap.Avoids hidden := ⟨avoids.2, avoids.1⟩

end Narrowing.Avoids

/-- Data that refers to no hidden name. Results never refer to a name. -/
def Data.Clear (data : Data) (hidden : String → Bool) : Prop :=
  ∀ name id, data.reference? = some (name, id) → hidden name = false

theorem Data.Clear.of_normal {data : Data} (normal : data.Normal) (hidden : String → Bool) : data.Clear hidden := by
  obtain ⟨id, type, value⟩ := data
  intro name target refers
  cases value with
  | reference other found => exact normal.elim
  | _ => cases refers

theorem Data.Clear.of_avoids {data : Data} {secret : EntityId → Bool} {hidden : String → Bool}
    (avoids : data.avoids secret hidden = true) : data.Clear hidden := by
  obtain ⟨id, type, value⟩ := data
  intro name target refers
  cases value with
  | reference other found => cases refers; simpa [Data.avoids, Value.avoids] using avoids
  | _ => cases refers

namespace Shelter.Scopes

variable {shelter : Shelter} {hidden : String → Bool} {inner outer : Scope}

theorem variableNamed? (scopes : shelter.Scopes hidden inner outer) {name : String} (visible : hidden name = false) :
    (outer.variableNamed? name).map (·.data) = (inner.variableNamed? name).map (·.data) :=
  (scopes.tables.get? visible).symm

theorem variableType (scopes : shelter.Scopes hidden inner outer) {name : String} (visible : hidden name = false)
    (fallback : DataType) : outer.variableType name fallback = inner.variableType name fallback := by
  have seen := congrArg (Option.map fun data : Data => data.type.dereference) (scopes.variableNamed? visible)
  simp only [Scope.variableType]
  cases first : outer.variableNamed? name <;> cases second : inner.variableNamed? name <;> simp_all

theorem checkOf (scopes : shelter.Scopes hidden inner outer) {receiver : Data} (clear : receiver.Clear hidden) (isTypeTest : Bool)
    (target : DataType) : outer.checkOf receiver isTypeTest target = inner.checkOf receiver isTypeTest target
      ∧ ∀ narrowing, inner.checkOf receiver isTypeTest target = some narrowing → narrowing.Avoids hidden := by
  simp only [Scope.checkOf]
  cases refers : receiver.reference? with
  | none => exact ⟨rfl, fun _ given => by cases given⟩
  | some named =>
    obtain ⟨name, id⟩ := named
    have visible := clear name id refers
    refine ⟨by simp [scopes.variableType visible], fun narrowing given => ?_⟩
    cases given
    refine ⟨by simpa using visible, ?_⟩
    split
    · simpa using visible
    · simp

/-- The empty check says nothing about any name. -/
theorem getD_avoids {current : Option Narrowing} (known : ∀ narrowing, current = some narrowing → narrowing.Avoids hidden) :
    (current.getD {}).Avoids hidden := by
  cases current with
  | none => exact ⟨by simp, by simp⟩
  | some narrowing => exact known narrowing rfl

mutual

theorem checkCall (scopes : shelter.Scopes hidden inner outer) {results : EntityId → Option Data}
    (normal : ∀ id data, results id = some data → data.Normal) {receiver : Data} (clear : receiver.Clear hidden)
    {current : Option Narrowing} (known : ∀ narrowing, current = some narrowing → narrowing.Avoids hidden) :
    ∀ operation : Data, operation.callAvoids shelter.secret hidden = true →
      outer.checkCall results receiver current operation = inner.checkCall results receiver current operation
        ∧ ∀ narrowing, inner.checkCall results receiver current operation = some narrowing → narrowing.Avoids hidden
  | ⟨_, _, .operation (some name) parameters _⟩, avoids => by
    have first := checkFirst scopes normal parameters (Bool.and_eq_true_iff.mp avoids).2
    simp only [Scope.checkCall]
    split
    · cases parameters with
      | nil => exact ⟨rfl, fun _ given => by cases given⟩
      | cons argument rest => exact scopes.checkOf clear true argument.resultType
    · cases parameters with
      | nil => exact ⟨rfl, fun _ given => by cases given⟩
      | cons argument rest => exact scopes.checkOf clear false argument.resultType
    · refine ⟨rfl, fun narrowing given => ?_⟩
      obtain ⟨before, found, rfl⟩ := Option.map_eq_some_iff.mp given
      exact (known before found).swap
    · refine ⟨by rw [first.1], fun narrowing given => ?_⟩
      obtain ⟨right, found, rfl⟩ := Option.map_eq_some_iff.mp given
      exact (getD_avoids known).both (getD_avoids fun narrowing same => first.2 narrowing (by rw [found, same]))
    · refine ⟨by rw [first.1], fun narrowing given => ?_⟩
      obtain ⟨right, found, rfl⟩ := Option.map_eq_some_iff.mp given
      exact (getD_avoids known).either (getD_avoids fun narrowing same => first.2 narrowing (by rw [found, same]))
    · exact ⟨rfl, fun _ given => by cases given⟩
  | ⟨_, _, .operation none _ _⟩, _ | ⟨_, _, .undefined⟩, _ | ⟨_, _, .text _⟩, _ | ⟨_, _, .number _⟩, _
  | ⟨_, _, .boolean _⟩, _ | ⟨_, _, .array _⟩, _ | ⟨_, _, .record _⟩, _ | ⟨_, _, .condition _ _ _⟩, _
  | ⟨_, _, .reference _ _⟩, _ | ⟨_, _, .error _⟩, _ | ⟨_, _, .handle _ _ _⟩, _ => ⟨rfl, fun _ given => by cases given⟩
termination_by structural operation => operation

theorem checkFirst (scopes : shelter.Scopes hidden inner outer) {results : EntityId → Option Data}
    (normal : ∀ id data, results id = some data → data.Normal) :
    ∀ arguments : List Statement, allAvoid shelter.secret arguments hidden = true →
      LivePipeline.checkFirst outer results arguments = LivePipeline.checkFirst inner results arguments
        ∧ ∀ narrowing, LivePipeline.checkFirst inner results arguments = some (some narrowing) → narrowing.Avoids hidden
  | [], _ => ⟨rfl, fun _ given => by cases given⟩
  | ⟨_, data, operations, _, _⟩ :: _, avoids => by
    obtain ⟨own, calls⟩ := Bool.and_eq_true_iff.mp (Bool.and_eq_true_iff.mp avoids).1
    have begun : ∀ narrowing, (none : Option Narrowing) = some narrowing → narrowing.Avoids hidden := fun _ given => nomatch given
    have chain := checkChain scopes normal (.of_avoids own) begun operations calls
    refine ⟨congrArg some chain.1, fun narrowing given => chain.2 narrowing ?_⟩
    exact Option.some_inj.mp given
termination_by structural arguments => arguments

theorem checkChain (scopes : shelter.Scopes hidden inner outer) {results : EntityId → Option Data}
    (normal : ∀ id data, results id = some data → data.Normal) {receiver : Data} (clear : receiver.Clear hidden)
    {current : Option Narrowing} (known : ∀ narrowing, current = some narrowing → narrowing.Avoids hidden) :
    ∀ operations : List Data, callsAvoid shelter.secret operations hidden = true →
      LivePipeline.checkChain outer results receiver current operations = LivePipeline.checkChain inner results receiver current operations
        ∧ ∀ narrowing, LivePipeline.checkChain inner results receiver current operations = some narrowing → narrowing.Avoids hidden
  | [], _ => ⟨rfl, known⟩
  | operation :: rest, avoids => by
    obtain ⟨own, others⟩ := Bool.and_eq_true_iff.mp avoids
    have head := checkCall scopes normal clear known operation own
    have result : ((results operation.id).getD default).Normal := by
      cases found : results operation.id with
      | none => trivial
      | some data => exact normal _ data found
    simp only [LivePipeline.checkChain, head.1]
    exact checkChain scopes normal (.of_normal result hidden) head.2 rest others
termination_by structural operations => operations

end

theorem checkStatement (scopes : shelter.Scopes hidden inner outer) {store : Store}
    (normal : ∀ id data, store.result? id = some data → data.Normal) {statement : Statement}
    (avoids : statement.avoids shelter.secret hidden = true) :
    outer.checkStatement store statement = inner.checkStatement store statement
      ∧ ∀ narrowing, inner.checkStatement store statement = some narrowing → narrowing.Avoids hidden := by
  obtain ⟨id, data, operations, name, isOptional⟩ := statement
  obtain ⟨own, calls⟩ := Bool.and_eq_true_iff.mp avoids
  exact scopes.checkChain normal (.of_avoids own) (fun _ given => by cases given) operations calls

/-! ### Scopes that are derived -/

theorem child (scopes : shelter.Scopes hidden inner outer) : shelter.Scopes hidden inner.child outer.child :=
  ⟨by rw [scopes.same]; rfl, scopes.tables, fun _ given => (by cases given), scopes.normal.child⟩

theorem expecting (scopes : shelter.Scopes hidden inner outer) (type : Option DataType) :
    shelter.Scopes hidden (inner.expecting type) (outer.expecting type) :=
  ⟨by rw [scopes.same]; rfl, scopes.tables, scopes.clear, scopes.normal.expecting type⟩

theorem withNarrowing (scopes : shelter.Scopes hidden inner outer) {narrowing : Option Narrowing}
    (clear : ∀ known, narrowing = some known → known.Avoids hidden) :
    shelter.Scopes hidden (inner.withNarrowing narrowing) (outer.withNarrowing narrowing) :=
  ⟨by rw [scopes.same]; rfl, scopes.tables, clear, scopes.normal.withNarrowing narrowing⟩

theorem withSkip (scopes : shelter.Scopes hidden inner outer) {skip : Option Skip}
    (failed : ∀ error, skip = some (.failed error) → error.Normal) :
    shelter.Scopes hidden (inner.withSkip skip) (outer.withSkip skip) :=
  ⟨by rw [scopes.same]; rfl, scopes.tables, scopes.clear, scopes.normal.withSkip failed⟩

theorem enter (scopes : shelter.Scopes hidden inner outer) (branch : Branch) :
    shelter.Scopes hidden (inner.enter branch) (outer.enter branch) := by
  have narrowed : outer.narrowing = inner.narrowing := by rw [scopes.same]
  have normal := scopes.normal.enter branch
  unfold Scope.enter at normal ⊢
  rw [narrowed]
  cases given : inner.narrowing with
  | none => exact scopes.child
  | some narrowing =>
    rw [given] at normal
    have clear := scopes.clear narrowing given
    refine ⟨by rw [scopes.same]; rfl, scopes.tables.retype ?_, fun _ given => (by cases given), normal⟩
    cases branch with
    | narrowed => exact clear.1
    | inverse => exact clear.2

/-- A name is no longer hidden once something is declared under it. -/
theorem publish (scopes : shelter.Scopes hidden inner outer) {statement : Statement} {data : Data} (normal : data.Normal)
    (own : (statement.name.isNone || !shelter.secret statement.id) = true) :
    shelter.Scopes (Statement.behind [statement] hidden) (inner.publish statement.name statement.id data)
      (outer.publish statement.name statement.id data) := by
  have kept := scopes.normal.publish statement.name statement.id normal
  unfold Statement.behind
  cases named : statement.name with
  | none => simpa [named, Scope.publish] using scopes
  | some name =>
    rw [named] at own kept
    have tables := scopes.tables.insert name statement.id (by simpa using own) data
    simp only [List.any_cons, List.any_nil, Bool.or_false, named]
    refine ⟨by rw [scopes.same]; rfl, tables, fun narrowing given => ?_, kept⟩
    obtain ⟨first, second⟩ := scopes.clear narrowing given
    exact ⟨fun entry among => by simp [first entry among], fun entry among => by simp [second entry among]⟩

/-- Where a body is run, one call further in. -/
theorem inside (scopes : shelter.Scopes hidden inner outer) :
    shelter.Scopes hidden { inner.child with callDepth := inner.callDepth + 1 } { outer.child with callDepth := outer.callDepth + 1 } := by
  refine ⟨?_, scopes.tables, fun _ given => (by cases given), ⟨scopes.normal.bound, scopes.normal.extensions, scopes.normal.failed⟩⟩
  rw [scopes.same]
  simp only [Scope.child, Nat.add_right_comm]

/-- Names that are hidden in the scope, and no others. -/
theorem narrow (scopes : shelter.Scopes hidden inner outer) : shelter.Scopes (outer.hides shelter.secret) inner outer := by
  have fewer {name : String} (visible : hidden name = false) : outer.hides shelter.secret name = false := by
    simp only [Scope.hides, Scope.variableNamed?]
    cases found : Table.get? outer.bindings name with
    | none => rfl
    | some bound => exact scopes.tables.not_secret visible found
  refine ⟨scopes.same, ⟨scopes.tables.distinct, scopes.tables.shown, fun name found given secret => ?_⟩, fun narrowing given => ?_,
    scopes.normal⟩
  · simp [Scope.hides, Scope.variableNamed?, given, secret]
  · exact ⟨fun entry among => fewer ((scopes.clear narrowing given).1 entry among),
      fun entry among => fewer ((scopes.clear narrowing given).2 entry among)⟩

/-! ### What scopes answer -/

theorem callDepth (scopes : shelter.Scopes hidden inner outer) : outer.callDepth = inner.callDepth + shelter.deeper := by
  rw [scopes.same]

theorem options (scopes : shelter.Scopes hidden inner outer) : outer.options = inner.options := by rw [scopes.same]

theorem transport (scopes : shelter.Scopes hidden inner outer) : outer.transport = inner.transport := by rw [scopes.same]

theorem signature (scopes : shelter.Scopes hidden inner outer) : outer.signature = inner.signature := by rw [scopes.same]; rfl

theorem skipUnless (scopes : shelter.Scopes hidden inner outer) : outer.skipUnless = inner.skipUnless := by rw [scopes.same]; rfl

theorem skipBehind (scopes : shelter.Scopes hidden inner outer) : outer.skipBehind = inner.skipBehind := by rw [scopes.same]; rfl

theorem isSkipping (scopes : shelter.Scopes hidden inner outer) : outer.isSkipping = inner.isSkipping := by rw [scopes.same]; rfl

end Shelter.Scopes

/-! ### Operations by name -/

theorem Scope.mem_userOperations {scope : Scope} {callable : Callable} : callable ∈ scope.userOperations
    ↔ ∃ entry ∈ scope.bindings, entry.2.data.type.dereference.kind = .operation ∧ callable = .userDefined entry.1 entry.2.data := by
  simp only [userOperations, List.mem_filterMap, List.mem_reverse]
  refine exists_congr fun entry => and_congr_right fun _ => ?_
  cases entry.2.data.type.dereference <;> simp [DataType.kind, eq_comm]

/-- In a scope with distinct names an operation of the program is found under a name if the variable of that name is one. -/
theorem Scope.find?_userOperations {scope : Scope} (distinct : (Table.keys scope.bindings).Nodup) (data : Data) (name : String)
    (callable : Callable) :
    scope.userOperations.find? (fun callable => callable.name == name && data.supports (callable.parameters data)) = some callable
      ↔ ∃ operation, (scope.variableNamed? name).map (·.data) = some operation ∧ operation.type.dereference.kind = .operation
        ∧ data.supports (callable.parameters data) = true ∧ callable = .userDefined name operation := by
  have forward {callable : Callable} (found : scope.userOperations.find?
      (fun callable => callable.name == name && data.supports (callable.parameters data)) = some callable) :
      ∃ operation, (scope.variableNamed? name).map (·.data) = some operation ∧ operation.type.dereference.kind = .operation
        ∧ data.supports (callable.parameters data) = true ∧ callable = .userDefined name operation := by
    obtain ⟨⟨other, bound⟩, among, kind, rfl⟩ := mem_userOperations.mp (List.mem_of_find?_eq_some found)
    have fits := List.find?_some found
    obtain ⟨named, supported⟩ := Bool.and_eq_true_iff.mp fits
    have same : other = name := by simpa [Callable.name] using named
    subst same
    exact ⟨bound.data, by rw [variableNamed?, Table.get?_of_mem distinct among]; rfl, kind, supported, rfl⟩
  refine ⟨forward, ?_⟩
  rintro ⟨operation, shown, kind, supported, rfl⟩
  obtain ⟨bound, given, rfl⟩ := Option.map_eq_some_iff.mp shown
  have among := mem_userOperations.mpr ⟨_, Table.mem_of_get? given, kind, rfl⟩
  cases found : scope.userOperations.find? (fun callable => callable.name == name && data.supports (callable.parameters data)) with
  | none => exact absurd supported (by simpa [Callable.name] using List.find?_eq_none.mp found _ among)
  | some callable =>
    obtain ⟨other, shown', _, _, rfl⟩ := forward found
    rw [shown] at shown'
    cases shown'
    rfl

theorem Shelter.Scopes.find? {shelter : Shelter} {hidden : String → Bool} {inner outer : Scope}
    (scopes : shelter.Scopes hidden inner outer) (data : Data) {name : String} (visible : hidden name = false) :
    outer.find? data name = inner.find? data name := by
  have user : outer.userOperations.find? (fun callable => callable.name == name && data.supports (callable.parameters data))
      = inner.userOperations.find? (fun callable => callable.name == name && data.supports (callable.parameters data)) := by
    refine Option.ext fun callable => ?_
    rw [Scope.find?_userOperations scopes.tables.distinct.1, Scope.find?_userOperations scopes.tables.distinct.2,
      scopes.variableNamed? visible]
  have hosts : outer.extensions = inner.extensions := by rw [scopes.same]
  simp only [Scope.find?, Scope.callables, List.find?_append, user, hosts]

end LivePipeline
