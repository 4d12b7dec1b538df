import LivePipeline.DataType.Union

/-! The nodes of a program. A statement sends data through a chain of operation calls; data pairs a
value with its type; containers and operations hold statements again. Every statement and every
data node has an identity of its own. -/

namespace LivePipeline

/-- Stable identity of a statement, a data node or an external object. -/
abbrev EntityId := String

mutual

inductive Value where
  | undefined
  | text (value : String)
  | number (value : Float)
  | boolean (value : Bool)
  /-- The elements of an array or a tuple. -/
  | array (items : List Statement)
  /-- The entries of an object or a dictionary, in the order of their first writing. -/
  | record (entries : List (String × Statement))
  /-- An operation with a body, or a call: a name with its arguments. -/
  | operation (name : Option String) (parameters body : List Statement)
  | condition (test whenTrue whenFalse : Statement)
  /-- A variable by name and by the statement that declares it; the id is empty when only the name
  is known. -/
  | reference (name : String) (id : EntityId)
  | error (reason : String)
  /-- An external object: what it is made from, and the key under which it is kept. -/
  | handle (className : String) (arguments : List Statement) (instanceId : EntityId)

structure Data where
  id : EntityId
  type : DataType
  value : Value

structure Statement where
  id : EntityId
  data : Data
  operations : List Data
  name : Option String
  isOptional : Bool

end

instance : Inhabited Data := ⟨⟨"", .undefined, .undefined⟩⟩

mutual

/-- Equality of values. The order of entries does not count, and NaN differs from itself. -/
def Value.beq : Value → Value → Bool
  | .undefined, .undefined => true
  | .text x, .text y => x == y
  | .number x, .number y => x == y
  | .boolean x, .boolean y => x == y
  | .array xs, .array ys => statementsBeq xs ys
  | .record xs, .record ys => xs.length == ys.length && entriesBeq xs ys
  | .operation xn xp xb, .operation yn yp yb =>
    xn == yn && statementsBeq xp yp && statementsBeq xb yb
  | .condition xc xt xf, .condition yc yt yf => xc.beq yc && xt.beq yt && xf.beq yf
  | .reference xn xi, .reference yn yi => xn == yn && xi == yi
  | .error x, .error y => x == y
  | .handle xc xs xi, .handle yc ys yi => xc == yc && statementsBeq xs ys && xi == yi
  | _, _ => false
termination_by structural x => x

def Data.beq : Data → Data → Bool
  | ⟨xi, xt, xv⟩, ⟨yi, yt, yv⟩ => xi == yi && xt == yt && xv.beq yv
termination_by structural x => x

def Statement.beq : Statement → Statement → Bool
  | ⟨xi, xd, xs, xn, xo⟩, ⟨yi, yd, ys, yn, yo⟩ =>
    xi == yi && xd.beq yd && dataBeq xs ys && xn == yn && xo == yo
termination_by structural x => x

def statementsBeq : List Statement → List Statement → Bool
  | [], [] => true
  | x :: xs, y :: ys => x.beq y && statementsBeq xs ys
  | _, _ => false
termination_by structural x => x

def dataBeq : List Data → List Data → Bool
  | [], [] => true
  | x :: xs, y :: ys => x.beq y && dataBeq xs ys
  | _, _ => false
termination_by structural x => x

/-- Every entry of the first list has an equal statement in the second. -/
def entriesBeq : List (String × Statement) → List (String × Statement) → Bool
  | [], _ => true
  | (key, x) :: rest, ys => (Table.get? ys key).any x.beq && entriesBeq rest ys
termination_by structural x => x

end

instance : BEq Value := ⟨Value.beq⟩
instance : BEq Data := ⟨Data.beq⟩
instance : BEq Statement := ⟨Statement.beq⟩

namespace Data

/-- Data is an error by its value or by its type. -/
def isError (data : Data) : Bool :=
  match data.value with
  | .error _ => true
  | _ => data.type.isError

/-- The kind and reason of an error value; an error under another type happened while running. -/
def error? (data : Data) : Option (ErrorKind × String) :=
  match data.value with
  | .error reason =>
    match data.type.dereference with
    | .error kind => some (kind, reason)
    | _ => some (.runtimeError, reason)
  | _ => none

def bool? (data : Data) : Option Bool :=
  match data.value with
  | .boolean value => some value
  | _ => none

def number? (data : Data) : Option Float :=
  match data.value with
  | .number value => some value
  | _ => none

def text? (data : Data) : Option String :=
  match data.value with
  | .text value => some value
  | _ => none

def items? (data : Data) : Option (List Statement) :=
  match data.value with
  | .array items => some items
  | _ => none

def entries? (data : Data) : Option (Table Statement) :=
  match data.value with
  | .record entries => some entries
  | _ => none

/-- The name of a referenced variable and the statement that declares it. -/
def reference? (data : Data) : Option (String × EntityId) :=
  match data.value with
  | .reference name id => some (name, id)
  | _ => none

def isOperation (data : Data) : Bool :=
  match data.value with
  | .operation _ _ _ => true
  | _ => false

end Data

namespace Statement

/-- The declared type of a statement's result: that of the last call, or of the data itself. -/
def resultType (statement : Statement) : DataType :=
  match statement.operations.getLast? with
  | some ⟨_, .operation _ result, _⟩ => result
  | _ => statement.data.type.dereference

end Statement

end LivePipeline
