import LivePipeline.Node

/-! Making nodes. New nodes draw their identity from a counter, so no two of them share one. -/

namespace LivePipeline

/-- Computations that draw new identities. -/
abbrev Fresh := StateM Nat

/-- The text that marks drawn identities. -/
def EntityId.drawnMark : String := "entity~"

def EntityId.drawn (number : Nat) : EntityId := EntityId.drawnMark ++ toString number

/-- Draws an identity that was not drawn before. -/
def freshId : Fresh EntityId := modifyGet fun next => (EntityId.drawn next, next + 1)

namespace Data

/-- A new data node. -/
def make (type : DataType) (value : Value) : Fresh Data := return ⟨← freshId, type, value⟩

def undefined : Fresh Data := make .undefined .undefined

def text (value : String) : Fresh Data := make .string (.text value)

def number (value : Float) : Fresh Data := make .number (.number value)

def boolean (value : Bool) : Fresh Data := make .boolean (.boolean value)

def error (kind : ErrorKind) (reason : String) : Fresh Data := make (.error kind) (.error reason)

/-- A reference to a variable of the given type. -/
def reference (name : String) (id : EntityId) (target : DataType) : Fresh Data :=
  make (.reference target) (.reference name id)

end Data

/-- A new statement that has no calls and no name. -/
def Statement.make (data : Data) : Fresh Statement := return ⟨← freshId, data, [], none, false⟩

namespace Data

/-- An array of the given items. Its elements have the union of the items' types, or `fallback`
when there are no items. -/
def array (items : List Data) (fallback : DataType) : Fresh Data := do
  let statements ← items.mapM Statement.make
  let element := if items.isEmpty then fallback else DataType.unionOf (items.map (·.type))
  make (.array element) (.array statements)

/-- An object whose properties must all be present. -/
def object (entries : List (String × Data)) : Fresh Data := do
  let properties := Table.ofEntries (entries.map fun (key, data) => (key, data.type))
  let statements ← entries.mapM fun (key, data) => return (key, ← Statement.make data)
  make (.record properties) (.record (Table.ofEntries statements))

end Data

end LivePipeline
