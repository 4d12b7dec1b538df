import LivePipeline.Scope
import LivePipeline.Operation.Failure

/-! Operations that can be chained on data. An operation says which parameters it takes and which
type it results in for a given receiver; eager ones get their arguments evaluated, lazy ones
evaluate them on demand. -/

namespace LivePipeline

/-- Work that may fail. What it did to the world before it failed stays done. -/
abbrev Attempt := ExceptT Failure Run

/-- Calls an operation value with positional arguments. -/
abbrev Caller := Scope → Data → List Data → Run Data

/-- A statement together with the work that evaluates it in a scope. -/
structure Pending where
  statement : Statement
  evaluate : Scope → Run Data

abbrev EagerHandler := Caller → Scope → Data → List Data → Attempt Data

abbrev LazyHandler := Scope → Data → List Pending → Attempt Data

inductive Handler where
  | eager (run : EagerHandler)
  | lazy (run : LazyHandler)

structure Builtin where
  name : String
  group : String
  parameters : Data → List Parameter
  result : Data → List DataType → DataType
  handler : Handler
  /-- Whether a result may be reused when the same inputs come again. -/
  cacheable : Bool := false

namespace Builtin

def eager (name group : String) (parameters : Data → List Parameter)
    (result : Data → List DataType → DataType) (run : EagerHandler) : Builtin :=
  { name, group, parameters, result, handler := .eager run }

def lazy (name group : String) (parameters : Data → List Parameter)
    (result : Data → List DataType → DataType) (run : LazyHandler) : Builtin :=
  { name, group, parameters, result, handler := .lazy run }

def isLazy (builtin : Builtin) : Bool :=
  match builtin.handler with
  | .lazy _ => true
  | .eager _ => false

end Builtin

/-! ## Reading receivers and arguments -/

namespace Operation

def first (name : String) : List Data → Except Failure Data
  | argument :: _ => .ok argument
  | [] => .error (.missingArguments name 1)

def firstTwo (name : String) : List Data → Except Failure (Data × Data)
  | a :: b :: _ => .ok (a, b)
  | _ => .error (.missingArguments name 2)

/-- An argument that may be left out or undefined. -/
def optional? (arguments : List Data) (index : Nat) : Option Data :=
  arguments[index]?.filter fun argument =>
    match argument.value with
    | .undefined => false
    | _ => true

def expect (read : Data → Option α) (wanted : Wanted) (name : String) (data : Data) :
    Except Failure α :=
  match read data with
  | some value => .ok value
  | none => .error (.unexpected name wanted data)

def expectNumber : String → Data → Except Failure Float := expect Data.number? .numeric

def expectText : String → Data → Except Failure String := expect Data.text? .string

def expectBool : String → Data → Except Failure Bool := expect Data.bool? .boolean

def expectItems : String → Data → Except Failure (List Statement) := expect Data.items? .array

def expectEntries : String → Data → Except Failure (Table Statement) := expect Data.entries? .object

def expectOperation (name : String) (data : Data) : Except Failure Data :=
  if data.isOperation then .ok data else .error (.unexpected name .operation data)

/-- The integers of 64 bits; larger ones end at the bounds. -/
def clampInteger (value : Int) : Int := max (-(Nat.pow 2 63)) (min value (Nat.pow 2 63 - 1))

def expectInteger (name : String) (data : Data) : Except Failure Int := do
  let value ← expectNumber name data
  if isIntegral value then .ok (clampInteger (integerPart value))
  else .error (.unexpected name .integer data)

/-- Turns an index that may count from the end into a position between `0` and `length`. -/
def relativeIndex (index : Float) (length : Nat) : Nat :=
  let whole := truncated index
  let size := Float.ofNat length
  if whole < 0 then
    let fromEnd := size + whole
    if fromEnd > 0 then (integerPart fromEnd).toNat else 0
  else if whole < size then (integerPart whole).toNat
  else length

/-- The elements from `start` up to `stop`. -/
def between (items : List α) (start stop : Nat) : List α := (items.take stop).drop start

/-! ## Parameters and results that several families share -/

def elementType (data : Data) : DataType := data.type.elementOr .unknown

def returnsString (_ : Data) (_ : List DataType) : DataType := .string

def returnsNumber (_ : Data) (_ : List DataType) : DataType := .number

def returnsBoolean (_ : Data) (_ : List DataType) : DataType := .boolean

def returnsUnknown (_ : Data) (_ : List DataType) : DataType := .unknown

def returnsReceiver (data : Data) (_ : List DataType) : DataType := data.type.dereference

def returnsStrings (_ : Data) (_ : List DataType) : DataType := .array .string

/-- The receiver's element or nothing. -/
def returnsElement (data : Data) (_ : List DataType) : DataType :=
  DataType.unionOf [elementType data, .undefined]

def takes (receiver : DataType) (parameters : List Parameter) : Data → List Parameter :=
  fun _ => Parameter.receiver receiver :: parameters

end Operation

end LivePipeline
