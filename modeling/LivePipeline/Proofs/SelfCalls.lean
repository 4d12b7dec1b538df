import LivePipeline.Proofs.Files

/-! Files that call themselves. An edited file is brought up to date in the scope of the files as they were
before the edit, so that its calls of itself are repaired for the parameters of its stored version. When
the stored version takes the same types, calls on literals keep their arguments; else they may lose
them. -/

namespace LivePipeline

/-! ## The calls in a program -/

mutual

/-- The calls inside of the value; deep ones stand in the arguments of others. Behind a check, variables may have other
types than they were declared with, so the branches of a condition that checks something are left out. -/
def Value.calls (deep : Bool) : Value → List Data
  | .array items => allCalls deep items
  | .record entries => entriesCalls deep entries
  | .operation _ parameters body => allCalls deep parameters ++ allCalls deep body
  | .condition test whenTrue whenFalse =>
    test.calls deep ++ if test.endsInCheck then [] else whenTrue.calls deep ++ whenFalse.calls deep
  | .handle _ arguments _ => allCalls deep arguments
  | _ => []
termination_by structural value => value

def Data.calls (deep : Bool) : Data → List Data
  | ⟨_, _, value⟩ => value.calls deep
termination_by structural data => data

def Statement.calls (deep : Bool) : Statement → List Data
  | ⟨_, data, operations, _, _⟩ => data.calls deep ++ chainCalls deep operations
termination_by structural statement => statement

def allCalls (deep : Bool) : List Statement → List Data
  | [] => []
  | statement :: rest => statement.calls deep ++ allCalls deep rest
termination_by structural statements => statements

def chainCalls (deep : Bool) : List Data → List Data
  | [] => []
  | call :: rest => (call :: if deep then call.calls deep else []) ++ chainCalls deep rest
termination_by structural calls => calls

def entriesCalls (deep : Bool) : List (String × Statement) → List Data
  | [] => []
  | (_, statement) :: rest => statement.calls deep ++ entriesCalls deep rest
termination_by structural entries => entries

end

/-- Values without parts that stand for themselves. -/
def Value.isLiteral : Value → Bool
  | .undefined | .text _ | .number _ | .boolean _ => true
  | _ => false

/-- A literal that can stand where the type is asked for. -/
structure Statement.IsLiteral (type : DataType) (statement : Statement) : Prop where
  plain : statement.data.value.isLiteral = true
  alone : statement.operations = []
  fits : statement.data.type.compatible type = true

theorem Statement.IsLiteral.revise {type : DataType} {statement : Statement} (isLiteral : statement.IsLiteral type) (scope : Scope) :
    (reviseStatement statement scope).Yields fun outcome => outcome = (statement, statement.data) := by
  obtain ⟨id, ⟨dataId, declared, value⟩, operations, name, isOptional⟩ := statement
  obtain ⟨plain, rfl, fits⟩ := isLiteral
  intro world
  rw [reviseStatement_eq]
  cases value with
  | undefined | text | number | boolean => cases live : scope.isSkipping <;> simp [reviseChain, Scope.retyped, live] <;> rfl
  | _ => cases plain

/-- The types that an operation takes behind its receiver. -/
def Data.takes (operation : Data) : List DataType :=
  match operation.type.dereference with
  | .operation parameters _ => (parameters.drop 1).map (·.type)
  | _ => []

/-- All operations of the name that a call can find take parameters of the types behind the receiver, and they are
operations of the program. -/
structure Scope.Answers (scope : Scope) (name : String) (types : List DataType) : Prop where
  bound : ∀ entry ∈ scope.bindings, entry.1 = name → entry.2.data.type.dereference.kind = .operation → entry.2.data.takes = types
  hosts : ∀ extension ∈ scope.extensions, extension.name ≠ name
  own : ∀ builtin ∈ builtins, builtin.name ≠ name

namespace Scope.Answers

variable {scope : Scope} {name : String} {types : List DataType}

theorem declare (answers : scope.Answers name types) {other : String} (apart : other ≠ name) (id : EntityId) (data : Data) :
    (scope.declare other id data).Answers name types := by
  refine ⟨fun entry among named => ?_, answers.hosts, answers.own⟩
  rcases Table.of_mem_insert among with rfl | before
  · exact absurd named apart
  · exact answers.bound entry before named

theorem publish (answers : scope.Answers name types) {other : Option String} (apart : other ≠ some name) (id : EntityId) (data : Data) :
    (scope.publish other id data).Answers name types := by
  cases other with
  | none => exact answers
  | some other => exact answers.declare (fun same => apart (congrArg some same)) id data

theorem find? (answers : scope.Answers name types) {receiver : Data} {callable : Callable} (found : scope.find? receiver name = some callable) :
    callable.isLazy = false ∧ (callable.expected receiver).map (·.type) = types := by
  have named : callable.name = name := by
    have fits := List.find?_some found
    rw [Bool.and_eq_true, beq_iff_eq] at fits
    exact fits.1
  have among := List.mem_of_find?_eq_some found
  simp only [Scope.callables, List.mem_append, List.mem_map] at among
  rcases among with (user | ⟨extension, host, rfl⟩) | ⟨builtin, native, rfl⟩
  · obtain ⟨⟨key, variable_⟩, bound, holds⟩ := List.mem_filterMap.mp user
    rw [List.mem_reverse] at bound
    dsimp only at holds
    split at holds
    · next parameters result typed =>
      cases holds
      refine ⟨rfl, ?_⟩
      have answer := answers.bound _ bound named (congrArg DataType.kind typed)
      simpa only [Data.takes, Callable.expected, Callable.parameters, typed] using answer
    · cases holds
  · exact absurd named (answers.hosts extension host)
  · exact absurd named (answers.own builtin native)

end Scope.Answers

/-! ## Calls that revision keeps -/

/-- If this is the call, then it passes what it passed before. -/
def Data.Keeps (own call : Data) : Prop := call.id = own.id → call.value = own.value

/-- Wherever the call stands inside of the value, it passes what it passed before. -/
def Value.KeepsCall (own : Data) (value : Value) : Prop := ∀ call ∈ value.calls true, own.Keeps call

def Statement.KeepsCall (own : Data) (statement : Statement) : Prop := ∀ call ∈ statement.calls true, own.Keeps call

section

variable {own : Data} {name : String} {types : List DataType} {scope : Scope}

/-- Brought up to date where the call is answered, the statement keeps it. -/
def Revisable.KeepsCall (own : Data) (name : String) (types : List DataType) (revisable : Revisable) : Prop :=
  ∀ scope, scope.Answers name types → (revisable.revise scope).Yields fun outcome =>
    outcome.1.KeepsCall own ∧ outcome.1.frame = revisable.statement.frame

/-- What is known of data in which the call is kept when it is brought up to date. -/
structure Data.KeepsCall (own : Data) (name : String) (types : List DataType) (data : Data) : Prop where
  revise : ∀ scope, scope.Answers name types → (reviseData data scope).Yields fun revised => revised.value.KeepsCall own
  arguments : ∀ argument ∈ revisableArguments data, argument.KeepsCall own name types

/-- Data that is no call has no arguments. -/
theorem Data.KeepsCall.ofValue {data : Data}
    (revise : ∀ scope, scope.Answers name types → (reviseData data scope).Yields fun revised => revised.value.KeepsCall own)
    (none : revisableArguments data = []) : Data.KeepsCall own name types data :=
  ⟨revise, by rw [none]; simp⟩

theorem Statement.mem_nested (statement : Statement) : statement ∈ statement.nested := by
  cases statement
  exact List.mem_cons_self

end

/-! ## Calls that stay where they are -/

section

variable {own : Data} {name : String} {types : List DataType} {scope : Scope} {operation : Data}

end

end LivePipeline
