import LivePipeline.Operation

/-! Operations on objects. Changing an object rebuilds its type from the entries it then has; a
property that was declared optional stays optional. -/

namespace LivePipeline.Operation

def recordReceiver (data : Data) : Parameter :=
  match data.type.dereference with
  | type@(.object _ _) => .receiver type
  | _ => .receiver (.object [] [])

def onRecord (parameters : List Parameter) (data : Data) : List Parameter :=
  recordReceiver data :: parameters

def returnsPropertyTypes (data : Data) (_ : List DataType) : DataType :=
  match data.type.dereference with
  | .object properties _ => .array (DataType.unionOf (Table.values properties))
  | _ => .array .unknown

/-- Whether a key may be left out according to the type that the object had. -/
def declaredOptional (type : DataType) (key : String) : Bool :=
  match type.dereference with
  | .object properties required => Table.has properties key && !required.contains key
  | _ => false

/-- The type of an object with the given entries that came from data of type `declared`. -/
def entriesType (declared : DataType) (entries : Table Statement) : DataType :=
  .object (entries.map fun (key, statement) => (key, statement.data.type))
    ((Table.keys entries).filter fun key => !declaredOptional declared key)

def withEntries (data : Data) (entries : Table Statement) : Fresh Data :=
  Data.make (entriesType data.type entries) (.record entries)

/-- The entry under a key, or nothing. -/
def getEntry : EagerHandler := fun _ _ data arguments => do
  let key ← first "get" arguments
  let entries ← expectEntries "get" data
  match Table.get? entries (← expectText "get" key) with
  | some statement => return statement.data
  | none => Data.undefined

/-- The entries with one more written. -/
def written (data : Data) (arguments : List Data) : Attempt (Table Statement × Data) := do
  let (key, value) ← firstTwo "set" arguments
  let entries ← expectEntries "set" data
  let key ← expectText "set" key
  let statement ← (Statement.make value : Attempt Statement)
  return (Table.insert entries key statement, value)

def setProperty : EagerHandler := fun _ _ data arguments => do
  let (entries, _) ← written data arguments
  withEntries data entries

def hasEntry : EagerHandler := fun _ _ data arguments => do
  let key ← first "has" arguments
  let entries ← expectEntries "has" data
  Data.boolean (Table.has entries (← expectText "has" key))

def entryKeys : EagerHandler := fun _ _ data _ => do
  let entries ← expectEntries "keys" data
  let keys ← (Table.keys entries).mapM fun key => (Data.text key : Attempt Data)
  Data.array keys .string

/-- The data of all entries; `fallback` is the element type when there are none. -/
def entryValues (fallback : Data → DataType) : EagerHandler := fun _ _ data _ => do
  let entries ← expectEntries "values" data
  Data.array ((Table.values entries).map (·.data)) (fallback data)

def merge : EagerHandler := fun _ _ data arguments => do
  let other ← first "merge" arguments
  let entries ← expectEntries "merge" data
  let others ← expectEntries "merge" other
  withEntries data (Table.insertAll entries others)

def recordFamily : List Builtin :=
  let key := onRecord [.named "key" .string]
  [.eager "get" "object" key returnsUnknown getEntry,
  .eager "set" "object" (onRecord [.named "key" .string, .named "value" .unknown]) returnsReceiver
    setProperty,
  .eager "has" "object" key returnsBoolean hasEntry,
  .eager "keys" "object" (onRecord []) returnsStrings entryKeys,
  .eager "values" "object" (onRecord []) returnsPropertyTypes (entryValues fun _ => .unknown),
  .eager "merge" "object" (onRecord [.named "other" (.object [] [])]) returnsReceiver merge]

end LivePipeline.Operation
