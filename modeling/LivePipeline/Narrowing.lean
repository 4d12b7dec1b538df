import LivePipeline.DataType.Narrowing
import LivePipeline.Node

/-! What a check has established about variables: their types where it holds and where it does
not. -/

namespace LivePipeline

structure Narrowing where
  narrowed : Table DataType := []
  inverse : Table DataType := []

namespace Narrowing

def swap (narrowing : Narrowing) : Narrowing := ⟨narrowing.inverse, narrowing.narrowed⟩

def anyNever (types : Table DataType) : Bool := types.any fun (_, type) => type.kind == .never

def narrowedIsNever (narrowing : Narrowing) : Bool := anyNever narrowing.narrowed

def inverseIsNever (narrowing : Narrowing) : Bool := anyNever narrowing.inverse

/-- Both sides hold: what either says counts, and what both say is combined. -/
def mergeWith (combine : DataType → DataType → DataType) (left right : Table DataType) :
    Table DataType :=
  Table.insertAll left <| right.map fun (name, type) =>
    (name, match Table.get? left name with
      | some other => combine other type
      | none => type)

/-- One side holds: only what both say counts. -/
def intersectWith (combine : DataType → DataType → DataType) (left right : Table DataType) :
    Table DataType :=
  left.filterMap fun (name, type) => (Table.get? right name).map fun other => (name, combine type other)

def eitherOf (a b : DataType) : DataType := DataType.unionOf [a, b]

/-- Both checks hold, or one of them does not. -/
def both (left right : Narrowing) : Narrowing :=
  { narrowed := mergeWith DataType.narrow left.narrowed right.narrowed
    inverse := intersectWith eitherOf left.inverse right.inverse }

/-- One of the checks holds, or neither does. -/
def either (left right : Narrowing) : Narrowing :=
  { narrowed := intersectWith eitherOf left.narrowed right.narrowed
    inverse := mergeWith DataType.narrow left.inverse right.inverse }

end Narrowing

/-- The type that the value alone shows; only simple values show one. -/
def Value.shownType : Value → DataType
  | .undefined => .undefined
  | .text _ => .string
  | .number _ => .number
  | .boolean _ => .boolean
  | _ => .unknown

/-- The type a value has at the moment: the active member of a union, or what the value shows. -/
def Data.actualType (data : Data) : DataType :=
  match data.type.dereference with
  | .union members active => (DataType.activeMember? members active).getD data.value.shownType
  | .unknown => data.value.shownType
  | other => other

/-- The test that a program can make while it runs. -/
def Data.isOfType (data : Data) (target : DataType) : Bool := data.actualType.meets target

end LivePipeline
