import LivePipeline.Table

/-! Structural types of values. A union remembers which member its value currently has, an object
which of its properties must be present, and a reference the type it stands for. -/

namespace LivePipeline

/-- Category of an error value. -/
inductive ErrorKind where
  | referenceError
  | typeError
  | runtimeError
  | customError
  deriving DecidableEq

namespace ErrorKind

def label : ErrorKind → String
  | referenceError => "reference_error"
  | typeError => "type_error"
  | runtimeError => "runtime_error"
  | customError => "custom_error"

def ofLabel? : String → Option ErrorKind
  | "reference_error" => some referenceError
  | "type_error" => some typeError
  | "runtime_error" => some runtimeError
  | "custom_error" => some customError
  | _ => none

/-- The reason of an error value that is made without one. -/
def defaultReason : ErrorKind → String
  | referenceError => "Reference not found"
  | typeError => "Type mismatch"
  | runtimeError => "Something went wrong"
  | customError => "Custom error"

end ErrorKind

/-- The outermost shape of a type. -/
inductive Kind where
  | unknown | never | undefined | string | number | boolean
  | array | tuple | object | dictionary | union
  | operation | condition | reference | error | instanceOf
  deriving DecidableEq

def Kind.label : Kind → String
  | unknown => "unknown"
  | never => "never"
  | undefined => "undefined"
  | string => "string"
  | number => "number"
  | boolean => "boolean"
  | array => "array"
  | tuple => "tuple"
  | object => "object"
  | dictionary => "dictionary"
  | union => "union"
  | operation => "operation"
  | condition => "condition"
  | reference => "reference"
  | error => "error"
  | instanceOf => "instance"

mutual

inductive DataType where
  | unknown
  | never
  | undefined
  | string
  | number
  | boolean
  | array (element : DataType)
  | tuple (elements : List DataType)
  | object (properties : List (String × DataType)) (required : List String)
  | dictionary (element : DataType)
  | union (members : List DataType) (active : Option Nat)
  | operation (parameters : List Parameter) (result : DataType)
  | condition (result : DataType)
  | reference (target : DataType)
  | error (kind : ErrorKind)
  | instanceOf (className : String) (arguments : List Parameter)

/-- An entry of a parameter list. The receiver of an operation is its first parameter and has no
name. -/
structure Parameter where
  name : Option String
  type : DataType
  isOptional : Bool

end

instance : Inhabited DataType := ⟨.unknown⟩

namespace Parameter

def named (name : String) (type : DataType) : Parameter := ⟨some name, type, false⟩

def optional (name : String) (type : DataType) : Parameter := ⟨some name, type, true⟩

/-- The value that an operation is chained on. -/
def receiver (type : DataType) : Parameter := ⟨none, type, false⟩

end Parameter

namespace DataType

def kind : DataType → Kind
  | unknown => .unknown
  | never => .never
  | undefined => .undefined
  | string => .string
  | number => .number
  | boolean => .boolean
  | array _ => .array
  | tuple _ => .tuple
  | object _ _ => .object
  | dictionary _ => .dictionary
  | union _ _ => .union
  | operation _ _ => .operation
  | condition _ => .condition
  | reference _ => .reference
  | error _ => .error
  | instanceOf _ _ => .instanceOf

/-- Removes the reference layers around a type. -/
def dereference : DataType → DataType
  | reference target => dereference target
  | type => type

def isError (type : DataType) : Bool := type.dereference.kind == .error

/-- An object type whose properties must all be present. -/
def record (properties : List (String × DataType)) : DataType :=
  object properties (properties.map (·.1))

/-- The members of a union behind references. -/
def members? (type : DataType) : Option (List DataType) :=
  match type.dereference with
  | union members _ => some members
  | _ => none

/-- The member that `active` points at. -/
def activeMember? (members : List DataType) (active : Option Nat) : Option DataType :=
  active.bind (members[·]?)

mutual

/-- Equality of types. The order of properties does not count; the order of required names and the
active member do. -/
def beq : DataType → DataType → Bool
  | array x, array y => beq x y
  | tuple xs, tuple ys => beqAll xs ys
  | object xs xr, object ys yr => xs.length == ys.length && beqProperties xs ys && xr == yr
  | dictionary x, dictionary y => beq x y
  | union xs xa, union ys ya => beqAll xs ys && xa == ya
  | operation xs x, operation ys y => beqParameters xs ys && beq x y
  | condition x, condition y => beq x y
  | reference x, reference y => beq x y
  | error x, error y => x == y
  | instanceOf x xs, instanceOf y ys => x == y && beqParameters xs ys
  | unknown, unknown | never, never | undefined, undefined => true
  | string, string | number, number | boolean, boolean => true
  | _, _ => false
termination_by structural a => a

def beqAll : List DataType → List DataType → Bool
  | [], [] => true
  | x :: xs, y :: ys => beq x y && beqAll xs ys
  | _, _ => false
termination_by structural a => a

/-- Every property of the first list has an equal type in the second. -/
def beqProperties : List (String × DataType) → List (String × DataType) → Bool
  | [], _ => true
  | (key, x) :: rest, ys => (Table.get? ys key).any (beq x) && beqProperties rest ys
termination_by structural a => a

def beqParameters : List Parameter → List Parameter → Bool
  | [], [] => true
  | ⟨xn, x, xo⟩ :: xs, ⟨yn, y, yo⟩ :: ys => xn == yn && beq x y && xo == yo && beqParameters xs ys
  | _, _ => false
termination_by structural a => a

end

instance : BEq DataType := ⟨beq⟩

end DataType

end LivePipeline
