import LivePipeline.Proofs.Edits
import LivePipeline.Proofs.Effects
import LivePipeline.Proofs.ErrorPassing
import LivePipeline.Proofs.Making

/-! Renaming a variable. A statement gets a new name, and the statements behind it are brought up to date:
every reference to it that revision looks at comes to carry the name. It does not look at all of them. Arguments of
operations that run them on demand have only their own data pointed to its variable, and a call that finds
no operation stays as it was. -/

namespace LivePipeline

/-! ## Nested statements -/

mutual

/-- The statements inside of a value, at every depth. -/
def Value.nested : Value → List Statement
  | .array items => allNested items
  | .record entries => entriesNested entries
  | .operation _ parameters body => allNested parameters ++ allNested body
  | .condition test whenTrue whenFalse => test.nested ++ whenTrue.nested ++ whenFalse.nested
  | .handle _ arguments _ => allNested arguments
  | _ => []
termination_by structural value => value

def Data.nested : Data → List Statement
  | ⟨_, _, value⟩ => value.nested
termination_by structural data => data

/-- A statement and the statements inside of it. -/
def Statement.nested : Statement → List Statement
  | ⟨id, data, operations, name, isOptional⟩ =>
    ⟨id, data, operations, name, isOptional⟩ :: (data.nested ++ callsNested operations)
termination_by structural statement => statement

def allNested : List Statement → List Statement
  | [] => []
  | statement :: rest => statement.nested ++ allNested rest
termination_by structural statements => statements

def callsNested : List Data → List Statement
  | [] => []
  | call :: rest => call.nested ++ callsNested rest
termination_by structural calls => calls

def entriesNested : List (String × Statement) → List Statement
  | [] => []
  | (_, statement) :: rest => statement.nested ++ entriesNested rest
termination_by structural entries => entries

end

@[simp] theorem allNested_eq_flatMap (statements : List Statement) : allNested statements = statements.flatMap Statement.nested := by
  induction statements with
  | nil => rfl
  | cons statement rest ih => simp [allNested, ih]

@[simp] theorem callsNested_eq_flatMap (calls : List Data) : callsNested calls = calls.flatMap Data.nested := by
  induction calls with
  | nil => rfl
  | cons call rest ih => simp [callsNested, ih]

@[simp] theorem entriesNested_eq_flatMap (entries : List (String × Statement)) :
    entriesNested entries = entries.flatMap fun entry => entry.2.nested := by
  induction entries with
  | nil => rfl
  | cons entry rest ih => simp [entriesNested, ih]

/-! ## References that carry a name -/

/-- The operations that evaluate their arguments on demand. -/
def Operation.lazyNames : List String := ["and", "or", "thenElse"]

/-- A statement with the name that it is known by. Some calls are left as they are. -/
structure Naming where
  id : EntityId
  name : String
  left : Value → Prop

/-- If the data is a reference to the statement, then it carries the name. -/
def Naming.Points (naming : Naming) (data : Data) : Prop :=
  ∀ name, data.value = .reference name naming.id → name = naming.name

mutual

/-- The references to the statement inside of the value carry its name. What handles are made from is not
looked at. -/
def Value.Carries (naming : Naming) : Value → Prop
  | .array items => allCarry naming items
  | .record entries => entriesCarry naming entries
  | .operation _ parameters body => allCarry naming parameters ∧ allCarry naming body
  | .condition test whenTrue whenFalse => test.Carries naming ∧ whenTrue.Carries naming ∧ whenFalse.Carries naming
  | .reference name id => id = naming.id → name = naming.name
  | _ => True
termination_by structural value => value

def Data.Carries (naming : Naming) : Data → Prop
  | ⟨_, _, value⟩ => value.Carries naming
termination_by structural data => data

def Statement.Carries (naming : Naming) : Statement → Prop
  | ⟨_, data, operations, _, _⟩ => data.Carries naming ∧ callsCarry naming operations
termination_by structural statement => statement

/-- The references in the arguments of a call carry the name. Of an argument that is evaluated on demand this
is said of its own data only, and nothing is said of calls that are left as they are. -/
def Data.CallCarries (naming : Naming) : Data → Prop
  | ⟨_, _, .operation name arguments body⟩ =>
    naming.left (.operation name arguments body) ∨ allCarry naming arguments
      ∨ (∃ lazy ∈ Operation.lazyNames, name = some lazy) ∧ ∀ argument ∈ arguments, naming.Points argument.data
  | ⟨_, _, value⟩ => naming.left value
termination_by structural call => call

def allCarry (naming : Naming) : List Statement → Prop
  | [] => True
  | statement :: rest => statement.Carries naming ∧ allCarry naming rest
termination_by structural statements => statements

def callsCarry (naming : Naming) : List Data → Prop
  | [] => True
  | call :: rest => call.CallCarries naming ∧ callsCarry naming rest
termination_by structural calls => calls

def entriesCarry (naming : Naming) : List (String × Statement) → Prop
  | [] => True
  | (_, statement) :: rest => statement.Carries naming ∧ entriesCarry naming rest
termination_by structural entries => entries

end

section

variable {naming : Naming}

@[simp] theorem allCarry_iff {statements : List Statement} :
    allCarry naming statements ↔ ∀ statement ∈ statements, statement.Carries naming := by
  induction statements with
  | nil => simp [allCarry]
  | cons statement rest ih => simp [allCarry, ih]

/-- A call on which an operation was found: its arguments were brought up to date, or pointed to their variables. -/
def Data.IsRepaired (naming : Naming) (call : Data) : Prop :=
  ∃ name arguments body, call.value = .operation (some name) arguments body
    ∧ ((∀ argument ∈ arguments, argument.Carries naming)
      ∨ name ∈ Operation.lazyNames ∧ ∀ argument ∈ arguments, naming.Points argument.data)

theorem Data.IsRepaired.carries {call : Data} (repaired : call.IsRepaired naming) : call.CallCarries naming := by
  obtain ⟨id, type, value⟩ := call
  obtain ⟨name, arguments, body, rfl, carry | ⟨known, points⟩⟩ := repaired
  · exact .inr (.inl (allCarry_iff.mpr carry))
  · exact .inr (.inr ⟨⟨name, known, rfl⟩, points⟩)

/-- The type of a call does not matter. -/
theorem Data.CallCarries.retype {call : Data} (carries : call.CallCarries naming) (type : DataType) :
    Data.CallCarries naming { call with type := type } := by
  obtain ⟨id, type, value⟩ := call
  cases value <;> exact carries

theorem Value.Carries.points {data : Data} (carries : data.value.Carries naming) : naming.Points data := by
  intro name same
  rw [same] at carries
  exact carries rfl

end

/-! ## Scopes that know a statement by its name -/

namespace Table

variable {α : Type u}

theorem of_mem_insert {table : Table α} {key : String} {value : α} {entry : String × α}
    (among : entry ∈ insert table key value) : entry = (key, value) ∨ entry ∈ table := by
  induction table with
  | nil => exact .inl (List.mem_singleton.mp among)
  | cons first rest ih =>
    simp only [insert] at among
    split at among
    · next same =>
      rcases List.mem_cons.mp among with rfl | behind
      · exact .inl (by rw [same])
      · exact .inr (List.mem_cons_of_mem _ behind)
    · rcases List.mem_cons.mp among with rfl | behind
      · exact .inr List.mem_cons_self
      · exact (ih behind).imp_right (List.mem_cons_of_mem _)

theorem mem_of_get? {table : Table α} {key : String} {value : α} (found : get? table key = some value) :
    (key, value) ∈ table := by
  induction table with
  | nil => cases found
  | cons first rest ih =>
    simp only [get?] at found
    split at found
    · next same =>
      cases found
      cases same
      exact List.mem_cons_self
    · exact List.mem_cons_of_mem _ (ih found)

end Table

namespace Scope

/-- The names in a scope, with the statements that declare them. -/
def declared (scope : Scope) : Table EntityId := Table.mapValues (·.id) scope.bindings

theorem declared_declare (scope : Scope) (name : String) (id : EntityId) (data : Data) :
    (scope.declare name id data).declared = Table.insert scope.declared name id :=
  (Table.insert_mapValues (fun found : Variable => found.id) scope.bindings name ⟨id, data⟩).symm

/-- A check changes the types of variables only. -/
theorem declared_enter (scope : Scope) (branch : Branch) : (scope.enter branch).declared = scope.declared := by
  have modified (bindings : Table Variable) (name : String) (type : DataType) :
      Table.mapValues (·.id) (Table.modify bindings name fun found => { found with data := { found.data with type := type } })
        = Table.mapValues (·.id) bindings := by
    induction bindings with
    | nil => rfl
    | cons entry rest ih =>
      simp only [Table.mapValues, Table.modify] at ih ⊢
      split
      · rfl
      · rw [List.map_cons, List.map_cons, ih]
  have retyped (types : Table DataType) (bindings : Table Variable) :
      Table.mapValues (·.id) (retype bindings types) = Table.mapValues (·.id) bindings := by
    induction types generalizing bindings with
    | nil => rfl
    | cons entry rest ih => exact (ih _).trans (modified bindings entry.1 entry.2)
  unfold enter
  split
  · rfl
  · exact retyped _ scope.bindings

/-- What is declared behind a statement was declared before, or by the statement. -/
theorem of_mem_declared_publish {scope : Scope} {name : Option String} {id : EntityId} {data : Data} {entry : String × EntityId}
    (among : entry ∈ (scope.publish name id data).declared) : name = some entry.1 ∧ entry.2 = id ∨ entry ∈ scope.declared := by
  cases name with
  | none => exact .inr among
  | some name =>
    have declares := declared_declare scope name id data
    have among : entry ∈ Table.insert scope.declared name id := declares ▸ among
    rcases Table.of_mem_insert among with rfl | before
    · exact .inl ⟨rfl, rfl⟩
    · exact .inr before

/-- The statement has a name in the scope, and it has no other one. -/
structure Knows (scope : Scope) (naming : Naming) : Prop where
  bound : Table.get? scope.declared naming.name = some naming.id
  only : ∀ entry ∈ scope.declared, entry.2 = naming.id → entry.1 = naming.name

namespace Knows

variable {scope : Scope} {naming : Naming}

theorem enter (knows : scope.Knows naming) (branch : Branch) : (scope.enter branch).Knows naming := by
  have same := declared_enter scope branch
  exact ⟨by rw [same]; exact knows.bound, by rw [same]; exact knows.only⟩

/-- Another statement declares a variable of another name, or none. -/
theorem publish (knows : scope.Knows naming) {name : Option String} {id : EntityId} (named : name ≠ some naming.name)
    (apart : id ≠ naming.id) (data : Data) : (scope.publish name id data).Knows naming := by
  constructor
  · cases name with
    | none => exact knows.bound
    | some name =>
      have other : naming.name ≠ name := fun same => named (congrArg some same.symm)
      have kept := (Table.get?_insert_of_ne scope.declared id other).trans knows.bound
      exact (congrArg (Table.get? · naming.name) (declared_declare scope name id data)).trans kept
  · intro entry among same
    rcases of_mem_declared_publish among with new | before
    · exact absurd (new.2.symm.trans same) apart
    · exact knows.only entry before same

end Knows

end Scope

/-! ## Revision -/

namespace Run.Yields

theorem draw {build : Fresh α} {good : α → Prop} (gives : build.Gives good) : Yields (Run.draw build) good :=
  fun world => gives world.nextId

theorem forall_mapM {work : α → Run β} {good : β → Prop} {items : List α} (each : ∀ item ∈ items, Yields (work item) good) :
    Yields (items.mapM work) fun values => ∀ value ∈ values, good value := by
  induction items with
  | nil => exact .pure (by simp)
  | cons item rest ih =>
    rw [List.forall_mem_cons] at each
    rw [List.mapM_cons]
    refine .bind each.1 fun value first => .bind (ih each.2) fun values others => .pure ?_
    exact List.forall_mem_cons.mpr ⟨first, others⟩

theorem and {run : Run α} {first second : α → Prop} (left : Yields run first) (right : Yields run second) :
    Yields run fun value => first value ∧ second value :=
  fun world => ⟨left world, right world⟩

end Run.Yields

section

variable {naming : Naming} {scope : Scope}

/-- A variable that the statement declares is found under its name only. -/
theorem Scope.Knows.referent?_name (knows : scope.Knows naming) {name found : String} {id : EntityId} {target : Variable}
    (means : scope.referent? name id = some (found, target)) (same : target.id = naming.id) : found = naming.name := by
  have member : (found, target) ∈ scope.bindings := by
    simp only [Scope.referent?] at means
    rcases Option.or_eq_some_iff.mp means with byId | ⟨-, byName⟩
    · split at byId
      · cases byId
      · exact List.mem_of_find?_eq_some byId
    · obtain ⟨known, named, pair⟩ := Option.map_eq_some_iff.mp byName
      cases pair
      exact Table.mem_of_get? named
  exact knows.only (found, target.id) (List.mem_map_of_mem member) same

/-- A reference to the statement is never left without its variable. -/
theorem Scope.Knows.referent?_isSome (knows : scope.Knows naming) (given : naming.id ≠ "") (name : String) :
    (scope.referent? name naming.id).isSome := by
  have among := Table.mem_of_get? knows.bound
  obtain ⟨⟨found, target⟩, member, same⟩ := List.mem_map.mp among
  have declares : target.id = naming.id := congrArg Prod.snd same
  have found : (scope.variableById? naming.id).isSome := by
    rw [Scope.variableById?, List.find?_isSome]
    exact ⟨_, member, by simpa using declares⟩
  have nonempty : naming.id.isEmpty = false := by simpa [String.isEmpty_iff] using given
  simp [Scope.referent?, nonempty, found]

theorem Scope.Knows.rebind (knows : scope.Knows naming) (given : naming.id ≠ "") (data : Data) :
    naming.Points (scope.rebind data) := by
  intro name carried
  unfold Scope.rebind at carried
  split at carried
  · next named id seen =>
    split at carried
    · next found target means =>
      rw [Value.reference.injEq] at carried
      exact carried.1.symm.trans (knows.referent?_name means carried.2)
    · next missing =>
      cases seen.symm.trans carried
      have some := knows.referent?_isSome given name
      rw [missing] at some
      cases some
  · next other => exact absurd carried (other name naming.id)

/-- The statement is another one, and takes another name. -/
def Naming.Spares (naming : Naming) (statement : Statement) : Prop :=
  statement.id ≠ naming.id ∧ statement.name ≠ some naming.name

/-- Brought up to date where the statement is known, it refers to it by its name. -/
def Revisable.Follows (naming : Naming) (revisable : Revisable) : Prop :=
  ∀ scope, scope.Knows naming → (revisable.revise scope).Yields fun outcome =>
    outcome.1.Carries naming ∧ naming.Spares outcome.1

/-- Data comes to refer to the statement by its name, and so do the arguments when it is a call. -/
structure Data.Follows (naming : Naming) (data : Data) : Prop where
  revise : ∀ scope, scope.Knows naming → (reviseData data scope).Yields fun revised => revised.value.Carries naming
  arguments : ∀ argument ∈ revisableArguments data, argument.Follows naming

def Statement.Follows (naming : Naming) (statement : Statement) : Prop :=
  Revisable.Follows naming ⟨statement, reviseStatement statement⟩

/-- Data that is no call has no arguments. -/
theorem Data.Follows.ofValue {data : Data}
    (revise : ∀ scope, scope.Knows naming → (reviseData data scope).Yields fun revised => revised.value.Carries naming)
    (none : revisableArguments data = []) : data.Follows naming :=
  ⟨revise, by rw [none]; simp⟩

end

/-! ## A statement gets a new name -/

/-- The search for an identity ends at the first statement that contains it. -/
theorem findIdx?_containsId {before behind : List Statement} {target : Statement} {id : EntityId}
    (apart : ∀ statement ∈ before, statement.containsId id = false) (contains : target.containsId id = true) :
    (before ++ target :: behind).findIdx? (·.containsId id) = some before.length := by
  rw [List.findIdx?_append, List.findIdx?_eq_none_iff.mpr apart, List.findIdx?_cons, contains]
  simp

/-- A check is read before its references are brought up to date, so that it is about the old name. In its branch the
renamed variable keeps the union that it was declared with, no call is found on that, and the call is left as it was. -/
theorem call_in_checked_branch_left :
    let x (name : String) : Statement := ⟨"first", ⟨"word", .union [.number, .string] none, .text "a"⟩, [], some name, false⟩
    let use (id node : EntityId) (type : DataType) (name : String) (operations : List Data) : Statement :=
      ⟨id, ⟨node, .reference type, .reference name "first"⟩, operations, none, false⟩
    let call (id : EntityId) (parameters : List Parameter) (result : DataType) (name : String) (argument : Statement) : Data :=
      ⟨id, .operation parameters result, .operation (some name) [argument] []⟩
    let test (name : String) : Statement := use "test" "tested" (.union [.number, .string] none) name
      [call "check" [.named "type" .unknown] .boolean "isTypeOf" ⟨"kind", ⟨"sample", .string, .text ""⟩, [], none, false⟩]
    let whenTrue (type : DataType) (name argument : String) : Statement := use "left" "receiver" type name
      [call "append" [.named "value" .string] .string "concat" (use "ending" "end" .string argument [])]
    let choice (test whenTrue : Statement) : Statement := ⟨"second", ⟨"choice", .condition .unknown,
      .condition test whenTrue ⟨"right", ⟨"other", .string, .text "b"⟩, [], none, false⟩⟩, [], none, false⟩
    let program := [x "x", choice (test "x") (whenTrue .string "x" "x")]
    let scope : Scope := {}
    (scope.revise program none {}).1 == program
      ∧ (scope.revise program (some ⟨x "y", false⟩) {}).1
        == [x "y", choice (test "y") (whenTrue (.union [.number, .string] none) "y" "x")] := by
  dsimp only
  decide +kernel

end LivePipeline
