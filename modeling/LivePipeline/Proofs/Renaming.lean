import Mathlib.Logic.Function.Basic
import LivePipeline.Node.Plain
import LivePipeline.Narrowing

/-! Renaming the identities of a program. Nodes that differ in nothing but their identities show the
same values, types and texts; what a node mentions says which identities a renaming has to keep. -/

namespace LivePipeline

/-! ## Drawn identities -/

namespace EntityId

/-- The number of a drawn identity; others have none. -/
def number? (id : EntityId) : Option Nat :=
  let number := Nat.ofDigitChars 10 (id.toList.drop drawnMark.length) 0
  if drawn number = id then some number else none

@[simp] theorem number?_drawn (number : Nat) : (drawn number).number? = some number := by
  have digits : (drawn number).toList.drop drawnMark.length = Nat.toDigits 10 number := by
    have mark : drawnMark.length = 7 := by decide
    rw [mark]
    simp [drawn, drawnMark, toString, Nat.repr]
  simp [number?, digits]

theorem number?_eq_some {id : EntityId} {number : Nat} : id.number? = some number ↔ id = drawn number := by
  constructor
  · intro found
    simp only [number?, Option.ite_none_right_eq_some, Option.some.injEq] at found
    rw [← found.1, found.2]
  · rintro rfl
    exact number?_drawn number

theorem drawn_injective : Function.Injective drawn := by
  intro first second same
  have numbers := congrArg number? same
  simpa using numbers

/-- Renames drawn identities by their numbers. -/
def renumber (numbers : Nat → Nat) (id : EntityId) : EntityId :=
  match id.number? with
  | some number => drawn (numbers number)
  | none => id

@[simp] theorem renumber_drawn (numbers : Nat → Nat) (number : Nat) :
    (drawn number).renumber numbers = drawn (numbers number) := by
  simp [renumber]

theorem renumber_eq_self {numbers : Nat → Nat} {id : EntityId}
    (kept : ∀ number, id = drawn number → numbers number = number) : id.renumber numbers = id := by
  unfold renumber
  split
  · next number found =>
    have drew := number?_eq_some.mp found
    rw [kept number drew, drew]
  · rfl

theorem renumber_congr {numbers others : Nat → Nat} {id : EntityId}
    (agree : ∀ number, id = drawn number → numbers number = others number) :
    id.renumber numbers = id.renumber others := by
  unfold renumber
  split
  · next number found => rw [agree number (number?_eq_some.mp found)]
  · rfl

theorem renumber_injective {numbers : Nat → Nat} (injective : Function.Injective numbers) :
    Function.Injective (renumber numbers) := by
  intro first second same
  simp only [renumber] at same
  split at same <;> split at same
  · next _ _ found _ _ otherFound =>
    rw [number?_eq_some.mp found, number?_eq_some.mp otherFound, injective (drawn_injective same)]
  · next undrawn => rw [← same] at undrawn; simp at undrawn
  · next undrawn _ _ _ => rw [same] at undrawn; simp at undrawn
  · exact same

/-- The identity was not drawn at or after the number. -/
def Below (bound : Nat) (id : EntityId) : Prop := ∀ number, id = drawn number → number < bound

theorem Below.mono {bound later : Nat} {id : EntityId} (below : Below bound id) (le : bound ≤ later) :
    Below later id :=
  fun number drew => Nat.lt_of_lt_of_le (below number drew) le

theorem below_of_number?_eq_none {id : EntityId} {bound : Nat} (given : id.number? = none) : id.Below bound := by
  intro number drew
  cases given.symm.trans (number?_eq_some.mpr drew)

@[simp] theorem below_drawn {bound number : Nat} : Below bound (drawn number) ↔ number < bound :=
  ⟨fun below => below number rfl, fun less _ same => drawn_injective same ▸ less⟩

end EntityId

/-! ## Renamed nodes -/

abbrev Renaming := EntityId → EntityId

mutual

def Value.rename (names : Renaming) : Value → Value
  | .array items => .array (renameAll names items)
  | .record entries => .record (renameEntries names entries)
  | .operation name parameters body =>
    .operation name (renameAll names parameters) (renameAll names body)
  | .condition test whenTrue whenFalse =>
    .condition (test.rename names) (whenTrue.rename names) (whenFalse.rename names)
  | .reference name id => .reference name (names id)
  | .handle className arguments instanceId =>
    .handle className (renameAll names arguments) (names instanceId)
  | .undefined => .undefined
  | .text value => .text value
  | .number value => .number value
  | .boolean value => .boolean value
  | .error reason => .error reason
termination_by structural value => value

def Data.rename (names : Renaming) : Data → Data
  | ⟨id, type, value⟩ => ⟨names id, type, value.rename names⟩
termination_by structural data => data

def Statement.rename (names : Renaming) : Statement → Statement
  | ⟨id, data, operations, name, isOptional⟩ =>
    ⟨names id, data.rename names, renameCalls names operations, name, isOptional⟩
termination_by structural statement => statement

def renameAll (names : Renaming) : List Statement → List Statement
  | [] => []
  | statement :: rest => statement.rename names :: renameAll names rest
termination_by structural statements => statements

def renameCalls (names : Renaming) : List Data → List Data
  | [] => []
  | call :: rest => call.rename names :: renameCalls names rest
termination_by structural calls => calls

def renameEntries (names : Renaming) : List (String × Statement) → List (String × Statement)
  | [] => []
  | (key, statement) :: rest => (key, statement.rename names) :: renameEntries names rest
termination_by structural entries => entries

end

/-- A place where a node uses an identity: as its own, for the variable it refers to, or for the
object behind a handle, which is made from a class and a text. -/
inductive Mention where
  | node (id : EntityId)
  | target (id : EntityId)
  | object (id : EntityId) (className : String) (text : Option String)
deriving DecidableEq

def Mention.id : Mention → EntityId
  | node id | target id | object id _ _ => id

def Mention.isObject : Mention → Bool
  | node _ | target _ => false
  | object _ _ _ => true

/-- The text that an object is made from. -/
def seedText (arguments : List Statement) : Option String := arguments.head?.bind (·.data.text?)

mutual

def Value.mentions : Value → List Mention
  | .array items => allMentions items
  | .record entries => entryMentions entries
  | .operation _ parameters body => allMentions parameters ++ allMentions body
  | .condition test whenTrue whenFalse => test.mentions ++ whenTrue.mentions ++ whenFalse.mentions
  | .reference _ id => [.target id]
  | .handle className arguments instanceId =>
    .object instanceId className (seedText arguments) :: allMentions arguments
  | .undefined | .text _ | .number _ | .boolean _ | .error _ => []
termination_by structural value => value

def Data.mentions : Data → List Mention
  | ⟨id, _, value⟩ => .node id :: value.mentions
termination_by structural data => data

def Statement.mentions : Statement → List Mention
  | ⟨id, data, operations, _, _⟩ => .node id :: (data.mentions ++ callMentions operations)
termination_by structural statement => statement

def allMentions : List Statement → List Mention
  | [] => []
  | statement :: rest => statement.mentions ++ allMentions rest
termination_by structural statements => statements

def callMentions : List Data → List Mention
  | [] => []
  | call :: rest => call.mentions ++ callMentions rest
termination_by structural calls => calls

def entryMentions : List (String × Statement) → List Mention
  | [] => []
  | (_, statement) :: rest => statement.mentions ++ entryMentions rest
termination_by structural entries => entries

end

/-! ## Lists of nodes -/

@[simp] theorem renameAll_eq_map (names : Renaming) (statements : List Statement) :
    renameAll names statements = statements.map (Statement.rename names) := by
  induction statements with
  | nil => rfl
  | cons statement rest ih => simp [renameAll, ih]

@[simp] theorem renameCalls_eq_map (names : Renaming) (calls : List Data) :
    renameCalls names calls = calls.map (Data.rename names) := by
  induction calls with
  | nil => rfl
  | cons call rest ih => simp [renameCalls, ih]

@[simp] theorem renameEntries_eq_map (names : Renaming) (entries : List (String × Statement)) :
    renameEntries names entries = entries.map fun (key, statement) => (key, statement.rename names) := by
  induction entries with
  | nil => rfl
  | cons entry rest ih => simp [renameEntries, ih]

@[simp] theorem allMentions_eq_flatMap (statements : List Statement) :
    allMentions statements = statements.flatMap Statement.mentions := by
  induction statements with
  | nil => rfl
  | cons statement rest ih => simp [allMentions, ih]

@[simp] theorem callMentions_eq_flatMap (calls : List Data) : callMentions calls = calls.flatMap Data.mentions := by
  induction calls with
  | nil => rfl
  | cons call rest ih => simp [callMentions, ih]

@[simp] theorem entryMentions_eq_flatMap (entries : List (String × Statement)) :
    entryMentions entries = entries.flatMap fun entry => entry.2.mentions := by
  induction entries with
  | nil => rfl
  | cons entry rest ih => simp [entryMentions, ih]

/-! ## Induction over nodes -/

/-- What has to be shown of each kind of node, given its parts. -/
structure NodeSteps (V : Value → Prop) (D : Data → Prop) (S : Statement → Prop) : Prop where
  undefined : V .undefined
  text : ∀ value, V (.text value)
  number : ∀ value, V (.number value)
  boolean : ∀ value, V (.boolean value)
  array : ∀ items, (∀ item ∈ items, S item) → V (.array items)
  record : ∀ entries : List (String × Statement), (∀ entry ∈ entries, S entry.2) → V (.record entries)
  operation : ∀ name parameters body, (∀ parameter ∈ parameters, S parameter) →
    (∀ statement ∈ body, S statement) → V (.operation name parameters body)
  condition : ∀ test whenTrue whenFalse, S test → S whenTrue → S whenFalse →
    V (.condition test whenTrue whenFalse)
  reference : ∀ name id, V (.reference name id)
  error : ∀ reason, V (.error reason)
  handle : ∀ className arguments instanceId, (∀ argument ∈ arguments, S argument) →
    V (.handle className arguments instanceId)
  data : ∀ id type value, V value → D ⟨id, type, value⟩
  statement : ∀ id data operations name isOptional, D data → (∀ call ∈ operations, D call) →
    S ⟨id, data, operations, name, isOptional⟩

namespace NodeSteps

mutual

theorem value {V D S} (steps : NodeSteps V D S) : ∀ value, V value
  | .undefined => steps.undefined
  | .text value => steps.text value
  | .number value => steps.number value
  | .boolean value => steps.boolean value
  | .array items => steps.array items (steps.ofStatements items)
  | .record entries => steps.record entries (steps.ofEntries entries)
  | .operation name parameters body =>
    steps.operation name parameters body (steps.ofStatements parameters) (steps.ofStatements body)
  | .condition test whenTrue whenFalse =>
    steps.condition test whenTrue whenFalse (steps.ofStatement test) (steps.ofStatement whenTrue)
      (steps.ofStatement whenFalse)
  | .reference name id => steps.reference name id
  | .error reason => steps.error reason
  | .handle className arguments instanceId =>
    steps.handle className arguments instanceId (steps.ofStatements arguments)
termination_by structural value => value

theorem ofData {V D S} (steps : NodeSteps V D S) : ∀ data, D data
  | ⟨id, type, content⟩ => steps.data id type content (steps.value content)
termination_by structural data => data

theorem ofStatement {V D S} (steps : NodeSteps V D S) : ∀ statement, S statement
  | ⟨id, data, operations, name, isOptional⟩ =>
    steps.statement id data operations name isOptional (steps.ofData data) (steps.ofCalls operations)
termination_by structural statement => statement

theorem ofStatements {V D S} (steps : NodeSteps V D S) :
    ∀ statements : List Statement, ∀ statement ∈ statements, S statement
  | [], _, member => nomatch member
  | first :: rest, statement, member =>
    (List.mem_cons.mp member).elim (fun same => same ▸ steps.ofStatement first)
      (steps.ofStatements rest statement)
termination_by structural statements => statements

theorem ofCalls {V D S} (steps : NodeSteps V D S) : ∀ calls : List Data, ∀ call ∈ calls, D call
  | [], _, member => nomatch member
  | first :: rest, call, member =>
    (List.mem_cons.mp member).elim (fun same => same ▸ steps.ofData first) (steps.ofCalls rest call)
termination_by structural calls => calls

theorem ofEntries {V D S} (steps : NodeSteps V D S) :
    ∀ entries : List (String × Statement), ∀ entry ∈ entries, S entry.2
  | [], _, member => nomatch member
  | (_, first) :: rest, entry, member =>
    (List.mem_cons.mp member).elim (fun same => same ▸ steps.ofStatement first)
      (steps.ofEntries rest entry)
termination_by structural entries => entries

end

end NodeSteps

/-! ## What a renaming keeps -/

namespace Data

variable (names : Renaming) (data : Data)

@[simp] theorem rename_id : (data.rename names).id = names data.id := by cases data; rfl

@[simp] theorem rename_type : (data.rename names).type = data.type := by cases data; rfl

@[simp] theorem rename_value : (data.rename names).value = data.value.rename names := by cases data; rfl

theorem rename_eta : data.rename names = ⟨names data.id, data.type, data.value.rename names⟩ := by
  cases data; rfl

@[simp] theorem rename_isError : (data.rename names).isError = data.isError := by
  obtain ⟨id, type, value⟩ := data
  cases value <;> rfl

@[simp] theorem rename_bool? : (data.rename names).bool? = data.bool? := by
  obtain ⟨id, type, value⟩ := data
  cases value <;> rfl

@[simp] theorem rename_number? : (data.rename names).number? = data.number? := by
  obtain ⟨id, type, value⟩ := data
  cases value <;> rfl

@[simp] theorem rename_text? : (data.rename names).text? = data.text? := by
  obtain ⟨id, type, value⟩ := data
  cases value <;> rfl

@[simp] theorem rename_items? :
    (data.rename names).items? = data.items?.map (·.map (Statement.rename names)) := by
  obtain ⟨id, type, value⟩ := data
  cases value <;> simp [items?, rename_value, Value.rename]

@[simp] theorem rename_entries? :
    (data.rename names).entries? = data.entries?.map (·.map fun entry => (entry.1, entry.2.rename names)) := by
  obtain ⟨id, type, value⟩ := data
  cases value <;> simp [entries?, rename_value, Value.rename]

@[simp] theorem rename_reference? :
    (data.rename names).reference? = data.reference?.map fun (name, id) => (name, names id) := by
  obtain ⟨id, type, value⟩ := data
  cases value <;> rfl

@[simp] theorem rename_isOperation : (data.rename names).isOperation = data.isOperation := by
  obtain ⟨id, type, value⟩ := data
  cases value <;> rfl

@[simp] theorem rename_actualType : (data.rename names).actualType = data.actualType := by
  obtain ⟨id, type, value⟩ := data
  cases value <;> rfl

@[simp] theorem rename_isOfType (target : DataType) : (data.rename names).isOfType target = data.isOfType target := by
  simp [isOfType]

end Data

namespace Statement

variable (names : Renaming) (statement : Statement)

@[simp] theorem rename_id : (statement.rename names).id = names statement.id := by cases statement; rfl

@[simp] theorem rename_data : (statement.rename names).data = statement.data.rename names := by
  cases statement; rfl

@[simp] theorem rename_operations :
    (statement.rename names).operations = statement.operations.map (Data.rename names) := by
  cases statement; simp [rename]

@[simp] theorem rename_name : (statement.rename names).name = statement.name := by cases statement; rfl

@[simp] theorem rename_isOptional : (statement.rename names).isOptional = statement.isOptional := by
  cases statement; rfl

@[simp] theorem rename_resultType : (statement.rename names).resultType = statement.resultType := by
  simp only [resultType, rename_operations, rename_data, Data.rename_type, List.getLast?_map]
  rcases statement.operations.getLast? with _ | ⟨id, type, value⟩
  · rfl
  · cases type <;> rfl

end Statement

@[simp] theorem seedText_map_rename (names : Renaming) (arguments : List Statement) :
    seedText (arguments.map (Statement.rename names)) = seedText arguments := by
  cases arguments <;> simp [seedText]

private theorem plain_steps (names : Renaming) :
    NodeSteps (fun value => (value.rename names).plain = value.plain)
      (fun data => (data.rename names).value.plain = data.value.plain)
      (fun statement => (statement.rename names).data.value.plain = statement.data.value.plain) where
  undefined := rfl
  text _ := rfl
  number _ := rfl
  boolean _ := rfl
  array items all := by
    have same : plainItems (items.map (Statement.rename names)) = plainItems items := by
      induction items with
      | nil => rfl
      | cons item rest ih =>
        obtain ⟨_, ⟨_, _, _⟩, _, _, _⟩ := item
        have head := all _ List.mem_cons_self
        have tail := ih fun other member => all other (List.mem_cons_of_mem _ member)
        simp only [List.map_cons, plainItems, tail, Statement.rename, Data.rename] at head ⊢
        rw [head]
    simp [Value.rename, Value.plain, same]
  record entries all := by
    have same : plainEntries (entries.map fun entry => (entry.1, entry.2.rename names)) = plainEntries entries := by
      induction entries with
      | nil => rfl
      | cons entry rest ih =>
        obtain ⟨_, ⟨_, ⟨_, _, _⟩, _, _, _⟩⟩ := entry
        have head := all _ List.mem_cons_self
        have tail := ih fun other member => all other (List.mem_cons_of_mem _ member)
        simp only [List.map_cons, plainEntries, tail, Statement.rename, Data.rename] at head ⊢
        rw [head]
    simp [Value.rename, Value.plain, same]
  operation _ _ _ _ _ := rfl
  condition _ _ _ _ _ _ := rfl
  reference _ _ := rfl
  error _ := rfl
  handle _ _ _ _ := rfl
  data _ _ _ same := same
  statement _ _ _ _ _ same _ := same

@[simp] theorem Value.rename_plain (names : Renaming) (value : Value) : (value.rename names).plain = value.plain :=
  (plain_steps names).value value

namespace Data

variable (names : Renaming) (data other : Data)

@[simp] theorem rename_plain : (data.rename names).plain = data.plain := by simp [plain]

@[simp] theorem rename_display : (data.rename names).display = data.display := by
  obtain ⟨id, type, value⟩ := data
  have shown := value.rename_plain names
  cases value <;> simp_all [display, rename_value, Value.rename]

@[simp] theorem rename_sameValue : (data.rename names).sameValue (other.rename names) = data.sameValue other := by
  simp [sameValue]

end Data

/-! ## Renamings that agree on what a node mentions -/

private theorem congr_steps {names others : Renaming} {known : EntityId → Prop}
    (agree : ∀ id, known id → names id = others id) :
    NodeSteps (fun value => (∀ mention ∈ value.mentions, known mention.id) → value.rename names = value.rename others)
      (fun data => (∀ mention ∈ data.mentions, known mention.id) → data.rename names = data.rename others)
      (fun statement => (∀ mention ∈ statement.mentions, known mention.id) →
        statement.rename names = statement.rename others) where
  undefined _ := rfl
  text _ _ := rfl
  number _ _ := rfl
  boolean _ _ := rfl
  array items all mentioned := by
    simp only [Value.mentions, allMentions_eq_flatMap, List.mem_flatMap] at mentioned
    simp only [Value.rename, renameAll_eq_map, Value.array.injEq, List.map_inj_left]
    exact fun item member => all item member fun mention within => mentioned mention ⟨item, member, within⟩
  record entries all mentioned := by
    simp only [Value.mentions, entryMentions_eq_flatMap, List.mem_flatMap] at mentioned
    simp only [Value.rename, renameEntries_eq_map, Value.record.injEq, List.map_inj_left]
    intro entry member
    rw [all entry member fun mention within => mentioned mention ⟨entry, member, within⟩]
  operation name parameters body first second mentioned := by
    simp only [Value.mentions, allMentions_eq_flatMap, List.mem_append, List.mem_flatMap] at mentioned
    simp only [Value.rename, renameAll_eq_map, Value.operation.injEq, List.map_inj_left, true_and]
    exact ⟨fun parameter member => first parameter member fun mention within =>
        mentioned mention (.inl ⟨parameter, member, within⟩),
      fun statement member => second statement member fun mention within =>
        mentioned mention (.inr ⟨statement, member, within⟩)⟩
  condition test whenTrue whenFalse tests trues falses mentioned := by
    simp only [Value.mentions, List.mem_append] at mentioned
    simp only [Value.rename, tests fun mention within => mentioned mention (.inl (.inl within)),
      trues fun mention within => mentioned mention (.inl (.inr within)),
      falses fun mention within => mentioned mention (.inr within)]
  reference name id mentioned := by
    rw [Value.rename, Value.rename, agree id (mentioned _ List.mem_cons_self)]
  error _ _ := rfl
  handle className arguments instanceId all mentioned := by
    have own := agree instanceId (mentioned _ List.mem_cons_self)
    simp only [Value.mentions, allMentions_eq_flatMap, List.mem_cons, List.mem_flatMap] at mentioned
    simp only [Value.rename, renameAll_eq_map, own, Value.handle.injEq, List.map_inj_left, true_and, and_true]
    exact fun argument member => all argument member fun mention within =>
      mentioned mention (.inr ⟨argument, member, within⟩)
  data id type value same mentioned := by
    rw [Data.rename, Data.rename, agree id (mentioned _ List.mem_cons_self),
      same fun mention within => mentioned mention (List.mem_cons_of_mem _ within)]
  statement id data operations name isOptional same all mentioned := by
    have own := agree id (mentioned _ List.mem_cons_self)
    simp only [Statement.mentions, callMentions_eq_flatMap, List.mem_cons, List.mem_append, List.mem_flatMap]
      at mentioned
    have calls : operations.map (Data.rename names) = operations.map (Data.rename others) := by
      rw [List.map_inj_left]
      exact fun call member => all call member fun mention within =>
        mentioned mention (.inr (.inr ⟨call, member, within⟩))
    simp only [Statement.rename, renameCalls_eq_map, own, calls,
      same fun mention within => mentioned mention (.inr (.inl within))]

section

variable {names others : Renaming}

theorem Data.rename_congr {data : Data} (agree : ∀ mention ∈ data.mentions, names mention.id = others mention.id) :
    data.rename names = data.rename others :=
  (congr_steps fun _ same => same).ofData data agree

theorem Statement.rename_congr {statement : Statement}
    (agree : ∀ mention ∈ statement.mentions, names mention.id = others mention.id) :
    statement.rename names = statement.rename others :=
  (congr_steps fun _ same => same).ofStatement statement agree

end

/-! ## One renaming after another -/

private theorem compose_steps (names others : Renaming) :
    NodeSteps (fun value => (value.rename names).rename others = value.rename (others ∘ names))
      (fun data => (data.rename names).rename others = data.rename (others ∘ names))
      (fun statement => (statement.rename names).rename others = statement.rename (others ∘ names)) where
  undefined := rfl
  text _ := rfl
  number _ := rfl
  boolean _ := rfl
  array items all := by
    simp only [Value.rename, renameAll_eq_map, List.map_map, Value.array.injEq, List.map_inj_left]
    exact all
  record entries all := by
    simp only [Value.rename, renameEntries_eq_map, List.map_map, Value.record.injEq, List.map_inj_left]
    exact fun entry member => congrArg _ (all entry member)
  operation name parameters body first second := by
    simp only [Value.rename, renameAll_eq_map, List.map_map, Value.operation.injEq, List.map_inj_left, true_and]
    exact ⟨first, second⟩
  condition test whenTrue whenFalse tests trues falses := by simp only [Value.rename, tests, trues, falses]
  reference _ _ := rfl
  error _ := rfl
  handle className arguments instanceId all := by
    simp only [Value.rename, renameAll_eq_map, List.map_map, Function.comp_apply, Value.handle.injEq, List.map_inj_left,
      true_and, and_true]
    exact all
  data id type value same := by simp only [Data.rename, same, Function.comp_apply]
  statement id data operations name isOptional same all := by
    simp only [Statement.rename, renameCalls_eq_map, List.map_map, same, Function.comp_apply, Statement.mk.injEq,
      List.map_inj_left, true_and, and_true]
    exact all

@[simp] theorem Data.rename_rename (names others : Renaming) (data : Data) :
    (data.rename names).rename others = data.rename (others ∘ names) :=
  (compose_steps names others).ofData data

private theorem keep_steps :
    NodeSteps (fun value => value.rename id = value) (fun data => data.rename id = data)
      (fun statement => statement.rename id = statement) where
  undefined := rfl
  text _ := rfl
  number _ := rfl
  boolean _ := rfl
  array items all := by
    rw [Value.rename, renameAll_eq_map, List.map_congr_left all, List.map_id']
  record entries all := by
    rw [Value.rename, renameEntries_eq_map,
      List.map_congr_left fun entry member => congrArg (Prod.mk entry.1) (all entry member), List.map_id']
  operation name parameters body first second := by
    rw [Value.rename, renameAll_eq_map, renameAll_eq_map, List.map_congr_left first, List.map_congr_left second,
      List.map_id', List.map_id']
  condition test whenTrue whenFalse tests trues falses := by rw [Value.rename, tests, trues, falses]
  reference _ _ := rfl
  error _ := rfl
  handle className arguments instanceId all := by
    rw [Value.rename, renameAll_eq_map, List.map_congr_left all, List.map_id', id]
  data _ type value same := by rw [Data.rename, same, id]
  statement _ data operations name isOptional same all := by
    rw [Statement.rename, renameCalls_eq_map, List.map_congr_left all, List.map_id', same, id]

theorem Value.rename_self (value : Value) : value.rename id = value := keep_steps.value value

theorem Data.rename_self (data : Data) : data.rename (fun id => id) = data := keep_steps.ofData data

/-- A renaming that keeps what a node mentions keeps the node. -/
theorem Data.rename_eq_self {names : Renaming} {data : Data} (kept : ∀ mention ∈ data.mentions, names mention.id = mention.id) :
    data.rename names = data :=
  (Data.rename_congr kept).trans (keep_steps.ofData data)

theorem Statement.rename_eq_self {names : Renaming} {statement : Statement}
    (kept : ∀ mention ∈ statement.mentions, names mention.id = mention.id) : statement.rename names = statement :=
  (Statement.rename_congr kept).trans (keep_steps.ofStatement statement)

end LivePipeline
