import LivePipeline.Narrowing
import LivePipeline.World
import LivePipeline.Node.Inference
import LivePipeline.DataType.Signature

/-! The surroundings in which a statement is evaluated. -/

namespace LivePipeline

/-- A variable: the statement that declares it, and its data. -/
structure Variable where
  id : EntityId
  data : Data

/-- Why nothing is run: the code cannot be reached, or its input is an error. -/
inductive Skip where
  | unreachable
  | failed (error : Data)

/-- The side of a check that a branch stands on. -/
inductive Branch where
  | narrowed
  | inverse

structure Options where
  /-- Levels of nesting in signatures. -/
  signatureDepth : Nat := 3
  /-- Whether default objects have their optional properties. -/
  includeOptionalProperties : Bool := false
  maxCallDepth : Nat := 32

/-- An operation that the host provides. -/
structure Extension where
  name : String
  parameters : List Parameter
  result : DataType
  handler : Data → List Data → Except String Data

/-- How requests are answered. -/
abbrev Transport := Request → Except String Response

structure Scope where
  bindings : Table Variable := []
  expectedType : Option DataType := none
  narrowing : Option Narrowing := none
  skip : Option Skip := none
  extensions : List Extension := []
  options : Options := {}
  callDepth : Nat := 0
  transport : Option Transport := none

namespace Scope

def declare (scope : Scope) (name : String) (id : EntityId) (data : Data) : Scope :=
  { scope with bindings := Table.insert scope.bindings name ⟨id, data⟩ }

/-- Declares a variable if the statement gives it a name. -/
def publish (scope : Scope) (name : Option String) (id : EntityId) (data : Data) : Scope :=
  match name with
  | some name => scope.declare name id data
  | none => scope

def variableNamed? (scope : Scope) (name : String) : Option Variable := Table.get? scope.bindings name

/-- The first variable that the statement declares, with its name. -/
def variableById? (scope : Scope) (id : EntityId) : Option (String × Variable) :=
  scope.bindings.find? fun (_, found) => found.id == id

def expecting (scope : Scope) (type : Option DataType) : Scope := { scope with expectedType := type }

def withNarrowing (scope : Scope) (narrowing : Option Narrowing) : Scope :=
  { scope with narrowing := narrowing }

def withSkip (scope : Scope) (skip : Option Skip) : Scope := { scope with skip := skip }

/-- The scope of a nested statement: nothing is asked of it and nothing is narrowed yet. -/
def child (scope : Scope) : Scope := { scope with expectedType := none, narrowing := none }

/-- Gives variables the types that a check has established; others stay as they are. -/
def retype (bindings : Table Variable) (types : Table DataType) : Table Variable :=
  types.foldl (fun bindings (name, type) =>
    Table.modify bindings name fun v => { v with data := { v.data with type := type } }) bindings

/-- The scope of a branch, in which the variables have the types of its side of the check. -/
def enter (scope : Scope) (branch : Branch) : Scope :=
  match scope.narrowing with
  | none => scope.child
  | some narrowing =>
    let types := match branch with
      | .narrowed => narrowing.narrowed
      | .inverse => narrowing.inverse
    { scope.child with bindings := retype scope.bindings types }

def isSkipping (scope : Scope) : Bool := scope.skip.isSome

/-- The skip of a branch: a live one keeps that of its surroundings, a dead one is skipped. -/
def skipUnless (scope : Scope) (live : Bool) : Option Skip :=
  if live then scope.skip else some (scope.skip.getD .unreachable)

def signature (scope : Scope) (type : DataType) : String :=
  type.signatureWithin (some scope.options.signatureDepth)

def extension? (scope : Scope) (name : String) : Option Extension :=
  scope.extensions.find? (·.name == name)

/-- What type inference knows here: results by identity, variables, and the type asked for. -/
def hints (scope : Scope) (store : Store) : TypeHints :=
  { child := fun statement => ((store.result? statement.id).map (·.type)).getD statement.resultType
    named? := fun name => (scope.variableNamed? name).map (·.data.type)
    expected := scope.expectedType }

/-- The structural type of a value, with the results at hand. -/
def inferType (scope : Scope) (value : Value) : Run DataType :=
  return value.inferType (scope.hints (← Run.store))

/-- Replaces a reference by the data of the variable it names. -/
def resolve (scope : Scope) (data : Data) : Run Data :=
  match data.value with
  | .reference name _ =>
    match scope.variableNamed? name with
    | some found => return found.data
    | none => Data.error .referenceError ("`" ++ name ++ "` is not defined")
  | _ => return data

/-- Why evaluation behind `data` is meaningless, if it is. `branch` names an argument that is only
evaluated on demand: the operation and the argument's index. -/
def skipBehind (scope : Scope) (data : Data) (branch : Option (String × Nat)) : Option Skip :=
  match scope.skip with
  | some skip => some skip
  | none =>
    if data.isError then some (.failed data)
    else
      let isNever (side : Narrowing → Bool) : Bool := scope.narrowing.any side
      let unreachable := match branch with
        | some ("thenElse", 0) => data.bool? == some false || isNever Narrowing.narrowedIsNever
        | some ("thenElse", 1) => data.bool? == some true || isNever Narrowing.inverseIsNever
        | some ("and", 0) => data.bool? == some false
        | some ("or", 0) => data.bool? == some true
        | _ => false
      if unreachable then some .unreachable else none

end Scope

end LivePipeline
