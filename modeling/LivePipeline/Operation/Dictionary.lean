import LivePipeline.Operation.Record

/-! Operations on dictionaries, whose entries all have one type. -/

namespace LivePipeline.Operation

def onDictionary (parameters : Data → List Parameter) (data : Data) : List Parameter :=
  .receiver (.dictionary (elementType data)) :: parameters data

/-- Writes an entry; the element type widens to hold it. -/
def setElement : EagerHandler := fun _ _ data arguments => do
  let (entries, value) ← written data arguments
  let element := DataType.unionOf [elementType data, value.type]
  Data.make (.dictionary element) (.record entries)

def deleteEntry : EagerHandler := fun _ _ data arguments => do
  let key ← first "delete" arguments
  let entries ← expectEntries "delete" data
  let key ← expectText "delete" key
  Data.make data.type.dereference (.record (Table.erase entries key))

def entryCount : EagerHandler := fun _ _ data _ => do
  Data.number (Float.ofNat (← expectEntries "size" data).length)

def dictionaryFamily : List Builtin :=
  let alone := onDictionary fun _ => []
  let key := onDictionary fun _ => [.named "key" .string]
  [.eager "get" "dictionary" key returnsElement getEntry,
  .eager "set" "dictionary"
    (onDictionary fun data => [.named "key" .string, .named "value" (elementType data)])
    returnsReceiver setElement,
  .eager "has" "dictionary" key returnsBoolean hasEntry,
  .eager "delete" "dictionary" key returnsReceiver deleteEntry,
  .eager "keys" "dictionary" alone returnsStrings entryKeys,
  .eager "values" "dictionary" alone (fun data _ => .array (elementType data)) (entryValues elementType),
  .eager "size" "dictionary" alone returnsNumber entryCount]

end LivePipeline.Operation
