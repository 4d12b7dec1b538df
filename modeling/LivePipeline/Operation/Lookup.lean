import LivePipeline.Operation.Generic
import LivePipeline.Operation.Numeric
import LivePipeline.Operation.Logic
import LivePipeline.Operation.Textual
import LivePipeline.Operation.Sequence
import LivePipeline.Operation.Dictionary
import LivePipeline.Operation.Optional
import LivePipeline.Operation.Calling
import LivePipeline.Operation.Http

/-! Which operations can be chained on data. Operations of the program come first, the latest
declared in front, then those of the host, then the built-in ones; an operation that does not fit
the receiver hides nothing. -/

namespace LivePipeline

/-- The built-in operations, family by family. -/
def builtins : List Builtin :=
  Operation.genericFamily ++ Operation.textualFamily ++ Operation.numericFamily
    ++ Operation.logicFamily ++ Operation.sequenceFamily ++ Operation.recordFamily
    ++ Operation.dictionaryFamily ++ Operation.optionalFamily ++ Operation.callingFamily
    ++ Operation.dateFamily ++ Operation.locatorFamily ++ Operation.httpFamily
    ++ Operation.promiseFamily

/-- Something that a call can name. -/
inductive Callable where
  | builtin (builtin : Builtin)
  | extension (extension : Extension)
  | userDefined (name : String) (operation : Data)

namespace Callable

def name : Callable → String
  | builtin b => b.name
  | extension e => e.name
  | userDefined name _ => name

def group : Callable → String
  | builtin b => b.group
  | extension _ => "extension"
  | userDefined _ _ => "user"

/-- The parameters for a receiver, which is the first of them. -/
def parameters (callable : Callable) (data : Data) : List Parameter :=
  match callable with
  | builtin b => b.parameters data
  | extension e => e.parameters
  | userDefined _ operation =>
    match operation.type.dereference with
    | .operation parameters _ => parameters
    | _ => []

/-- The parameters behind the receiver. -/
def expected (callable : Callable) (data : Data) : List Parameter := (callable.parameters data).drop 1

def resultType (callable : Callable) (data : Data) (arguments : List DataType) : DataType :=
  match callable with
  | builtin b => b.result data arguments
  | extension e => e.result
  | userDefined _ operation => Operation.declaredResult operation.type

def isCacheable : Callable → Bool
  | builtin b => b.cacheable
  | _ => false

def isLazy : Callable → Bool
  | builtin b => b.isLazy
  | _ => false

end Callable

/-- Tuples take the operations of arrays. -/
def DataType.dispatchKind (type : DataType) : Kind :=
  match type.kind with
  | .tuple => .array
  | kind => kind

def DataType.dispatchesTo (parameter type : DataType) : Bool :=
  match parameter, type with
  | .instanceOf expected _, .instanceOf className _ => expected == className
  | _, _ => parameter.dispatchKind == type.dispatchKind

/-- Whether data can be the receiver of an operation with the given parameters. All members of a
union must fit, unless the operation asks for the union itself. -/
def Data.supports (data : Data) (parameters : List Parameter) : Bool :=
  match parameters with
  | [] => false
  | receiver :: _ =>
    let parameter := receiver.type.dereference
    let type := data.type.dereference
    match parameter, type with
    | .unknown, _ => true
    | .union _ _, .union _ _ => type.compatible parameter
    | _, .union members _ => !members.isEmpty && members.all parameter.dispatchesTo
    | _, _ => parameter.dispatchesTo type

namespace Scope

/-- Variables that hold operations, the latest declared first. -/
def userOperations (scope : Scope) : List Callable :=
  scope.bindings.reverse.filterMap fun (name, found) =>
    match found.data.type.dereference with
    | .operation _ _ => some (.userDefined name found.data)
    | _ => none

def callables (scope : Scope) : List Callable :=
  scope.userOperations ++ scope.extensions.map .extension ++ builtins.map .builtin

/-- The operation that a call names on the given receiver. -/
def find? (scope : Scope) (data : Data) (name : String) : Option Callable :=
  scope.callables.find? fun callable =>
    callable.name == name && data.supports (callable.parameters data)

end Scope

/-- An operation as it is offered to the author of a program. -/
structure OperationItem where
  name : String
  group : String
  signature : String
  type : DataType

def Callable.item (scope : Scope) (data : Data) (callable : Callable) : OperationItem :=
  let parameters := callable.parameters data
  let type := .operation parameters (callable.resultType data ((parameters.drop 1).map (·.type)))
  { name := callable.name, group := callable.group, signature := scope.signature type, type }

namespace Scope

/-- Adds an operation to the list unless its name is there or it does not fit. -/
def offer (scope : Scope) (data : Data) (items : List OperationItem) (callable : Callable) :
    List OperationItem :=
  if items.any (·.name == callable.name) || !data.supports (callable.parameters data) then items
  else items ++ [callable.item scope data]

/-- The operations that can be chained on data, each name once. -/
def operationsFor (scope : Scope) (data : Data) : List OperationItem :=
  scope.callables.foldl (scope.offer data) []

end Scope

/-- Adds an item to its group, which is made when it is the first. -/
def addToGroup (groups : Table (List OperationItem)) (item : OperationItem) :
    Table (List OperationItem) :=
  Table.insert groups item.group (((Table.get? groups item.group).getD []) ++ [item])

/-- The operations for data by group, groups in the order of their first operation. -/
def Scope.groupedOperations (scope : Scope) (data : Data) : Table (List OperationItem) :=
  (scope.operationsFor data).foldl addToGroup []

end LivePipeline
