import LivePipeline.Scope.Check
import LivePipeline.Proofs.Correspondence.Building

/-! Scopes on both sides of a link. What a scope tells about names, types and checks does not depend
on identities, and it stays so in every scope that is derived from it. -/

namespace LivePipeline

/-! ## Renamed scopes -/

def Variable.rename (names : Renaming) (found : Variable) : Variable := ⟨names found.id, found.data.rename names⟩

def Skip.rename (names : Renaming) : Skip → Skip
  | .unreachable => .unreachable
  | .failed error => .failed (error.rename names)

def Scope.rename (names : Renaming) (scope : Scope) : Scope :=
  { scope with
    bindings := Table.mapValues (Variable.rename names) scope.bindings
    skip := scope.skip.map (Skip.rename names) }

namespace Scope

variable (names : Renaming) (scope : Scope)

@[simp] theorem rename_child : (scope.rename names).child = scope.child.rename names := rfl

@[simp] theorem rename_expecting (type : Option DataType) :
    (scope.rename names).expecting type = (scope.expecting type).rename names := rfl

@[simp] theorem rename_withNarrowing (narrowing : Option Narrowing) :
    (scope.rename names).withNarrowing narrowing = (scope.withNarrowing narrowing).rename names := rfl

@[simp] theorem rename_options : (scope.rename names).options = scope.options := rfl

@[simp] theorem rename_narrowing : (scope.rename names).narrowing = scope.narrowing := rfl

@[simp] theorem rename_expectedType : (scope.rename names).expectedType = scope.expectedType := rfl

@[simp] theorem rename_callDepth : (scope.rename names).callDepth = scope.callDepth := rfl

@[simp] theorem rename_transport : (scope.rename names).transport = scope.transport := rfl

@[simp] theorem rename_extensions : (scope.rename names).extensions = scope.extensions := rfl

@[simp] theorem rename_signature (type : DataType) : (scope.rename names).signature type = scope.signature type := rfl

@[simp] theorem rename_isSkipping : (scope.rename names).isSkipping = scope.isSkipping := by
  simp [isSkipping, rename]

@[simp] theorem rename_skipUnless (live : Bool) :
    (scope.rename names).skipUnless live = (scope.skipUnless live).map (Skip.rename names) := by
  cases live
  · cases skip : scope.skip <;> simp [skipUnless, rename, skip, Skip.rename]
  · rfl

@[simp] theorem rename_declare (name : String) (id : EntityId) (data : Data) :
    (scope.rename names).declare name (names id) (data.rename names) = (scope.declare name id data).rename names := by
  have inserted := Table.insert_mapValues (Variable.rename names) scope.bindings name ⟨id, data⟩
  simp only [declare, rename]
  rw [← inserted]
  rfl

@[simp] theorem rename_publish (name : Option String) (id : EntityId) (data : Data) :
    (scope.rename names).publish name (names id) (data.rename names) = (scope.publish name id data).rename names := by
  cases name with
  | none => rfl
  | some name => exact scope.rename_declare names name id data

@[simp] theorem rename_variableNamed? (name : String) :
    (scope.rename names).variableNamed? name = (scope.variableNamed? name).map (Variable.rename names) :=
  Table.get?_mapValues _ _ _

theorem retype_mapValues (types : Table DataType) (bindings : Table Variable) :
    retype (Table.mapValues (Variable.rename names) bindings) types
      = Table.mapValues (Variable.rename names) (retype bindings types) := by
  induction types generalizing bindings with
  | nil => rfl
  | cons entry rest ih =>
    have modified : Table.modify (Table.mapValues (Variable.rename names) bindings) entry.1
          (fun v => { v with data := { v.data with type := entry.2 } })
        = Table.mapValues (Variable.rename names)
          (Table.modify bindings entry.1 fun v => { v with data := { v.data with type := entry.2 } }) := by
      induction bindings with
      | nil => rfl
      | cons binding others ih =>
        simp only [Table.mapValues, List.map_cons, Table.modify] at ih ⊢
        split
        · simp [Variable.rename, Data.rename_eta]
        · rw [ih]; rfl
    have rest := ih (Table.modify bindings entry.1 fun v => { v with data := { v.data with type := entry.2 } })
    simp only [retype, List.foldl_cons] at rest ⊢
    rw [modified, rest]

@[simp] theorem rename_enter (branch : Branch) :
    (scope.rename names).enter branch = (scope.enter branch).rename names := by
  simp only [enter, rename_narrowing]
  cases scope.narrowing with
  | none => rfl
  | some narrowing =>
    cases branch <;> simp only [rename, child, retype_mapValues]

theorem rename_skipBehind (data : Data) (branch : Option (String × Nat)) :
    (scope.rename names).skipBehind (data.rename names) branch
      = (scope.skipBehind data branch).map (Skip.rename names) := by
  simp only [skipBehind, Data.rename_isError, Data.rename_bool?, rename_narrowing]
  cases skip : scope.skip with
  | some skip => simp [rename, skip]
  | none =>
    simp only [rename, skip, Option.map_none]
    split
    · rfl
    · split <;> (split <;> rfl)

theorem rename_variableType (name : String) (fallback : DataType) :
    (scope.rename names).variableType name fallback = scope.variableType name fallback := by
  simp only [variableType, rename_variableNamed?]
  cases scope.variableNamed? name with
  | none => rfl
  | some found => simp [Variable.rename]

end Scope

/-! ## Checks -/

/-- A check looks at nothing of its receiver but the variable that it refers to. -/
theorem Scope.checkOf_rename (names : Renaming) (scope : Scope) (receiver : Data) (isTypeTest : Bool)
    (target : DataType) :
    (scope.rename names).checkOf (receiver.rename names) isTypeTest target = scope.checkOf receiver isTypeTest target := by
  simp only [checkOf, Data.rename_reference?, Data.rename_type, rename_variableType, Option.map_map]
  rfl

/-- A check on a recorded result is about no variable. -/
theorem Scope.checkOf_result (scope : Scope) {results : EntityId → Option Data}
    (firm : ∀ id data, results id = some data → data.reference? = none) (id : EntityId) (isTypeTest : Bool)
    (target : DataType) : scope.checkOf ((results id).getD default) isTypeTest target = none := by
  have none : ((results id).getD default).reference? = none := by
    cases found : results id with
    | none => rfl
    | some data => exact firm id data found
  simp [checkOf, none]

/-- Single checks establish the same, of data and of recorded results. -/
structure SameChecks (names : Renaming) (scope scope' : Scope) (results results' : EntityId → Option Data) : Prop where
  data : ∀ data isTypeTest target, scope'.checkOf (data.rename names) isTypeTest target = scope.checkOf data isTypeTest target
  stored : ∀ id isTypeTest target, scope'.checkOf ((results' (names id)).getD default) isTypeTest target
    = scope.checkOf ((results id).getD default) isTypeTest target

section

variable {names : Renaming} {scope scope' : Scope} {results results' : EntityId → Option Data}

mutual

theorem checkCall_rename (checks : SameChecks names scope scope' results results') {receiver receiver' : Data}
    (same : ∀ isTypeTest target, scope'.checkOf receiver' isTypeTest target = scope.checkOf receiver isTypeTest target)
    (current : Option Narrowing) : ∀ operation : Data,
    scope'.checkCall results' receiver' current (operation.rename names) = scope.checkCall results receiver current operation
  | ⟨_, _, .operation (some name) parameters _⟩ => by
    have first := checkFirst_rename checks parameters
    have tested (isTypeTest : Bool) :
        ((parameters.map (Statement.rename names)).head?.bind fun argument =>
            scope'.checkOf receiver' isTypeTest argument.resultType)
          = parameters.head?.bind fun argument => scope.checkOf receiver isTypeTest argument.resultType := by
      cases parameters <;> simp [same]
    simp only [Data.rename, Value.rename, renameAll_eq_map, Scope.checkCall, first, tested]
  | ⟨_, _, .operation none _ _⟩ | ⟨_, _, .undefined⟩ | ⟨_, _, .text _⟩ | ⟨_, _, .number _⟩
  | ⟨_, _, .boolean _⟩ | ⟨_, _, .array _⟩ | ⟨_, _, .record _⟩ | ⟨_, _, .condition _ _ _⟩
  | ⟨_, _, .reference _ _⟩ | ⟨_, _, .error _⟩ | ⟨_, _, .handle _ _ _⟩ => rfl
termination_by structural operation => operation

theorem checkFirst_rename (checks : SameChecks names scope scope' results results') : ∀ arguments : List Statement,
    checkFirst scope' results' (arguments.map (Statement.rename names)) = checkFirst scope results arguments
  | [] => rfl
  | ⟨_, data, operations, _, _⟩ :: _ => by
    have chain := checkChain_rename checks (checks.data data) none operations
    simp only [List.map_cons, Statement.rename, renameCalls_eq_map, checkFirst, chain]
termination_by structural arguments => arguments

theorem checkChain_rename (checks : SameChecks names scope scope' results results') {receiver receiver' : Data}
    (same : ∀ isTypeTest target, scope'.checkOf receiver' isTypeTest target = scope.checkOf receiver isTypeTest target)
    (current : Option Narrowing) : ∀ operations : List Data,
    checkChain scope' results' receiver' current (operations.map (Data.rename names))
      = checkChain scope results receiver current operations
  | [] => rfl
  | operation :: rest => by
    have head := checkCall_rename checks same current operation
    have later : ∀ isTypeTest target,
        scope'.checkOf ((results' (operation.rename names).id).getD default) isTypeTest target
          = scope.checkOf ((results operation.id).getD default) isTypeTest target := by
      rw [Data.rename_id]
      exact checks.stored operation.id
    simp only [List.map_cons, checkChain, head]
    exact checkChain_rename checks later _ rest
termination_by structural operations => operations

end

end

/-! ## Types of values -/

/-- The statements whose types make up the type of a value. -/
def Value.children : Value → List Statement
  | .array items => items
  | .record entries => Table.values entries
  | .operation _ parameters body => parameters ++ body
  | .condition _ whenTrue whenFalse => [whenTrue, whenFalse]
  | .handle _ arguments _ => arguments
  | .undefined | .text _ | .number _ | .boolean _ | .reference _ _ | .error _ => []

theorem entryTypes_rename (names : Renaming) {hints hints' : TypeHints} {entries : Table Statement}
    (child : ∀ statement ∈ entries.map (·.2), hints'.child (statement.rename names) = hints.child statement) :
    (entries.map fun entry => (entry.1, entry.2.rename names)).map (fun (key, statement) => (key, hints'.child statement))
      = entries.map fun (key, statement) => (key, hints.child statement) := by
  rw [List.map_map, List.map_inj_left]
  intro entry member
  have same := child entry.2 (List.mem_map_of_mem member)
  simp [same]

theorem requiredEntries_rename (names : Renaming) (entries : Table Statement) :
    ((entries.map fun entry => (entry.1, entry.2.rename names)).filter fun (_, statement) => !statement.isOptional).map (·.1)
      = (entries.filter fun (_, statement) => !statement.isOptional).map (·.1) := by
  simp [List.filter_map, Function.comp_def]

theorem Value.inferType_rename (names : Renaming) {hints hints' : TypeHints} (value : Value)
    (child : ∀ statement ∈ value.children, hints'.child (statement.rename names) = hints.child statement)
    (named : hints'.named? = hints.named?) (expected : hints'.expected = hints.expected) :
    (value.rename names).inferType hints' = value.inferType hints := by
  cases value with
  | array items =>
    have types : (items.map (Statement.rename names)).map hints'.child = items.map hints.child := by
      rw [List.map_map, List.map_inj_left]
      exact child
    simp only [rename, renameAll_eq_map, inferType, inferArray, types, expected]
  | record entries =>
    have types := entryTypes_rename names child
    have required := requiredEntries_rename names entries
    simp only [rename, renameEntries_eq_map, inferType, inferRecord, types, expected, required]
  | operation name parameters body =>
    have types : (parameters.map (Statement.rename names)).map
          (fun p => (⟨p.name, hints'.child p, p.isOptional⟩ : Parameter))
        = parameters.map fun p => ⟨p.name, hints.child p, p.isOptional⟩ := by
      rw [List.map_map, List.map_inj_left]
      intro parameter member
      have same := child parameter (List.mem_append_left _ member)
      simp [same]
    have last : (body.map (Statement.rename names)).getLast?.map hints'.child = body.getLast?.map hints.child := by
      rw [List.getLast?_map, Option.map_map]
      cases found : body.getLast? with
      | none => rfl
      | some statement =>
        have same := child statement (List.mem_append_right _ (List.mem_of_getLast? found))
        simp [same]
    simp only [rename, renameAll_eq_map, inferType, types, last]
  | condition test whenTrue whenFalse =>
    have first := child whenTrue (by simp [children])
    have second := child whenFalse (by simp [children])
    simp only [rename, inferType, first, second]
  | reference name id => simp only [rename, inferType, named]
  | handle className arguments instanceId =>
    have types : (arguments.map (Statement.rename names)).map (fun statement => Parameter.receiver (hints'.child statement))
        = arguments.map fun statement => Parameter.receiver (hints.child statement) := by
      rw [List.map_map, List.map_inj_left]
      intro argument member
      have same := child argument member
      simp [same]
    simp only [rename, renameAll_eq_map, inferType, types]
  | error reason => simp only [rename, inferType, expected]
  | undefined => rfl
  | text value => rfl
  | number value => rfl
  | boolean value => rfl

/-! ## Settled scopes -/

/-- An extension that treats identities as names only, and gives settled data for settled data. -/
structure Extension.Settled (link : Link) (ledger : Ledger) (extension : Extension) : Prop where
  natural : ∀ data arguments, extension.handler (data.rename link.names) (arguments.map (Data.rename link.names))
    = (extension.handler data arguments).map (Data.rename link.names)
  settled : ∀ later, ledger ≤ later → ∀ data arguments result, later.Settles link data →
    (∀ argument ∈ arguments, later.Settles link argument) → extension.handler data arguments = .ok result →
    later.Settles link result

theorem Extension.Settled.mono {link : Link} {before after : Ledger} {extension : Extension}
    (settled : extension.Settled link before) (le : before ≤ after) : extension.Settled link after :=
  ⟨settled.natural, fun later le' => settled.settled later (le.trans le')⟩

structure Scope.Settled (link : Link) (ledger : Ledger) (scope : Scope) : Prop where
  bindings : ∀ entry ∈ scope.bindings, entry.2.id.Below ledger.bound ∧ ledger.Settles link entry.2.data
  failed : ∀ error, scope.skip = some (.failed error) → ledger.Settles link error
  extensions : ∀ extension ∈ scope.extensions, extension.Settled link ledger

/-- A settled scope on the left, and the same under other names on the right. -/
def Link.SameScope (link : Link) (ledger : Ledger) (scope scope' : Scope) : Prop :=
  scope' = scope.rename link.names ∧ scope.Settled link ledger

namespace Scope.Settled

variable {link : Link} {ledger before after : Ledger} {scope : Scope}

theorem mono (settled : scope.Settled link before) (le : before ≤ after) : scope.Settled link after where
  bindings entry member :=
    ⟨(settled.bindings entry member).1.mono le.1, (settled.bindings entry member).2.mono le⟩
  failed error given := (settled.failed error given).mono le
  extensions extension member := (settled.extensions extension member).mono le

theorem variableNamed? (settled : scope.Settled link ledger) {name : String} {found : Variable}
    (named : scope.variableNamed? name = some found) :
    found.id.Below ledger.bound ∧ ledger.Settles link found.data :=
  Table.of_get? (P := fun (found : Variable) => found.id.Below ledger.bound ∧ ledger.Settles link found.data)
    settled.bindings named

theorem child (settled : scope.Settled link ledger) : scope.child.Settled link ledger :=
  ⟨settled.bindings, settled.failed, settled.extensions⟩

theorem expecting (settled : scope.Settled link ledger) (type : Option DataType) :
    (scope.expecting type).Settled link ledger :=
  ⟨settled.bindings, settled.failed, settled.extensions⟩

theorem withNarrowing (settled : scope.Settled link ledger) (narrowing : Option Narrowing) :
    (scope.withNarrowing narrowing).Settled link ledger :=
  ⟨settled.bindings, settled.failed, settled.extensions⟩

theorem withSkip (settled : scope.Settled link ledger) {skip : Option Skip}
    (failed : ∀ error, skip = some (.failed error) → ledger.Settles link error) :
    (scope.withSkip skip).Settled link ledger :=
  ⟨settled.bindings, failed, settled.extensions⟩

theorem publish (settled : scope.Settled link ledger) (name : Option String) {id : EntityId} {data : Data}
    (below : id.Below ledger.bound) (settles : ledger.Settles link data) :
    (scope.publish name id data).Settled link ledger := by
  cases name with
  | none => exact settled
  | some name =>
    refine ⟨?_, settled.failed, settled.extensions⟩
    exact Table.all_insert (P := fun (found : Variable) => found.id.Below ledger.bound ∧ ledger.Settles link found.data)
      settled.bindings name ⟨below, settles⟩

theorem settles_retyped {data : Data} (settles : ledger.Settles link data) (type : DataType) :
    ledger.Settles link { data with type := type } := by
  rw [Ledger.settles_iff] at settles ⊢
  exact settles

theorem retype {P : Variable → Prop} (retyped : ∀ found type, P found → P { found with data := { found.data with type := type } })
    (types : Table DataType) {bindings : Table Variable} (all : ∀ entry ∈ bindings, P entry.2) :
    ∀ entry ∈ Scope.retype bindings types, P entry.2 := by
  induction types generalizing bindings with
  | nil => exact all
  | cons first rest ih =>
    refine ih ?_
    clear ih
    induction bindings with
    | nil => simp [Table.modify]
    | cons binding others ih =>
      rw [List.forall_mem_cons] at all
      simp only [Table.modify]
      split <;> rw [List.forall_mem_cons]
      · exact ⟨retyped _ _ all.1, all.2⟩
      · exact ⟨all.1, ih all.2⟩

theorem enter (settled : scope.Settled link ledger) (branch : Branch) : (scope.enter branch).Settled link ledger := by
  unfold Scope.enter
  split
  · exact settled.child
  · refine ⟨?_, settled.failed, settled.extensions⟩
    exact retype (P := fun found => found.id.Below ledger.bound ∧ ledger.Settles link found.data)
      (fun found type known => ⟨known.1, settles_retyped known.2 type⟩) _ settled.bindings

theorem skipBehind (settled : scope.Settled link ledger) {data : Data} (settles : ledger.Settles link data)
    (branch : Option (String × Nat)) :
    ∀ error, scope.skipBehind data branch = some (.failed error) → ledger.Settles link error := by
  intro error given
  unfold Scope.skipBehind at given
  split at given
  · next skip found => exact settled.failed error (found.trans given)
  · split at given
    · cases given
      exact settles
    · cases (Option.ite_none_right_eq_some.mp given).2

theorem skipUnless (settled : scope.Settled link ledger) (live : Bool) :
    ∀ error, scope.skipUnless live = some (.failed error) → ledger.Settles link error := by
  intro error given
  unfold Scope.skipUnless at given
  split at given
  · exact settled.failed error given
  · cases found : scope.skip with
    | none => rw [found] at given; cases given
    | some skip =>
      rw [found] at given
      exact settled.failed error (found.trans given)

end Scope.Settled

namespace Link

variable {link : Link} {ledger before after : Ledger} {scope scope' : Scope}

theorem SameScope.mono (same : link.SameScope before scope scope') (le : before ≤ after) :
    link.SameScope after scope scope' :=
  ⟨same.1, same.2.mono le⟩

theorem SameScope.child (same : link.SameScope ledger scope scope') : link.SameScope ledger scope.child scope'.child :=
  ⟨by rw [same.1]; rfl, same.2.child⟩

theorem SameScope.expecting (same : link.SameScope ledger scope scope') (type : Option DataType) :
    link.SameScope ledger (scope.expecting type) (scope'.expecting type) :=
  ⟨by rw [same.1]; rfl, same.2.expecting type⟩

theorem SameScope.withNarrowing (same : link.SameScope ledger scope scope') (narrowing : Option Narrowing) :
    link.SameScope ledger (scope.withNarrowing narrowing) (scope'.withNarrowing narrowing) :=
  ⟨by rw [same.1]; rfl, same.2.withNarrowing narrowing⟩

theorem SameScope.enter (same : link.SameScope ledger scope scope') (branch : Branch) :
    link.SameScope ledger (scope.enter branch) (scope'.enter branch) :=
  ⟨by rw [same.1, Scope.rename_enter], same.2.enter branch⟩

theorem SameScope.publish (same : link.SameScope ledger scope scope') (name : Option String) {id : EntityId}
    {data data' : Data} (below : id.Below ledger.bound) (published : link.Same ledger data data') :
    link.SameScope ledger (scope.publish name id data) (scope'.publish name (link.names id) data') :=
  ⟨by rw [same.1, published.1, Scope.rename_publish], same.2.publish name below published.2⟩

/-- A check is about the same variable on both sides. -/
theorem SameScope.checkOf (same : link.SameScope ledger scope scope') (receiver : Data) (isTypeTest : Bool)
    (target : DataType) :
    scope'.checkOf (receiver.rename link.names) isTypeTest target = scope.checkOf receiver isTypeTest target := by
  rw [same.1]
  exact scope.checkOf_rename link.names receiver isTypeTest target

theorem SameScope.checks (same : link.SameScope ledger scope scope') {world world' : World}
    (linked : Linked link ledger world world') :
    SameChecks link.names scope scope' world.store.result? world'.store.result? where
  data := same.checkOf
  stored id isTypeTest target := by
    rw [scope'.checkOf_result linked.firm_right, scope.checkOf_result linked.firm_left]

/-- The skip behind data, on both sides. -/
theorem SameScope.skipBehind (same : link.SameScope ledger scope scope') {data data' : Data}
    (receiver : link.Same ledger data data') (branch : Option (String × Nat)) {inner inner' : Scope}
    (inners : link.SameScope ledger inner inner') :
    link.SameScope ledger (inner.withSkip (scope.skipBehind data branch))
      (inner'.withSkip (scope'.skipBehind data' branch)) := by
  refine ⟨?_, inners.2.withSkip (same.2.skipBehind receiver.2 branch)⟩
  rw [same.1, receiver.1, inners.1, Scope.rename_skipBehind]
  rfl

theorem SameScope.skipUnless (same : link.SameScope ledger scope scope') (live : Bool) {inner inner' : Scope}
    (inners : link.SameScope ledger inner inner') :
    link.SameScope ledger (inner.withSkip (scope.skipUnless live)) (inner'.withSkip (scope'.skipUnless live)) := by
  refine ⟨?_, inners.2.withSkip (same.2.skipUnless live)⟩
  rw [same.1, inners.1, Scope.rename_skipUnless]
  rfl

namespace Sim

theorem resolveReference (same : link.SameScope ledger scope scope') (id target : EntityId) (type : DataType)
    (name : String) :
    link.Sim ledger (scope.resolve ⟨id, type, .reference name target⟩)
      (scope'.resolve ⟨link.names id, type, .reference name (link.names target)⟩) link.Same := by
  obtain ⟨rfl, settled⟩ := same
  simp only [Scope.resolve, Scope.rename_variableNamed?]
  cases named : scope.variableNamed? name with
  | none => exact error _ _
  | some found => exact .pure ⟨rfl, (settled.variableNamed? named).2⟩

/-- Settled data is no reference and stays as it is. -/
theorem resolve (scope scope' : Scope) {data data' : Data} (same : link.Same ledger data data') :
    link.Sim ledger (scope.resolve data) (scope'.resolve data') link.Same := by
  obtain ⟨rfl, settles⟩ := same
  obtain ⟨id, type, value⟩ := data
  cases value with
  | reference name target => exact settles.1.elim
  | _ => exact .pure ⟨rfl, settles⟩

/-- The type of a value whose parts have results that agree. -/
theorem inferType (same : link.SameScope ledger scope scope') (value : Value)
    (synced : ∀ statement ∈ value.children, ledger.synced statement.id) :
    link.Sim ledger (scope.inferType value) (scope'.inferType (value.rename link.names))
      fun _ type type' => type' = type := by
  obtain ⟨rfl, _⟩ := same
  refine .store fun world world' linked => .pure ?_
  refine value.inferType_rename link.names (fun statement member => ?_) ?_ rfl
  · have results := linked.synced statement.id (synced statement member)
    simp only [Scope.hints, Statement.rename_id, Statement.rename_resultType, results, Option.map_map]
    cases world.store.result? statement.id with
    | none => rfl
    | some result => exact result.rename_type link.names
  · funext name
    simp only [Scope.hints, Scope.rename_variableNamed?, Option.map_map]
    cases scope.variableNamed? name with
    | none => rfl
    | some found => exact congrArg some (found.data.rename_type link.names)

/-- What a statement establishes is the same on both sides, because no recorded result is a
reference. -/
theorem checkStatement (same : link.SameScope ledger scope scope') (statement : Statement) {world world' : World}
    (linked : Linked link ledger world world') :
    scope'.checkStatement world'.store (statement.rename link.names) = scope.checkStatement world.store statement := by
  simp only [Scope.checkStatement, Statement.rename_data, Statement.rename_operations]
  exact checkChain_rename (same.checks linked) (same.checkOf statement.data) none statement.operations

end Sim

end Link

end LivePipeline
