import LivePipeline.Node.Build
import LivePipeline.Node.Inference
import LivePipeline.Node.Plain
import LivePipeline.DataType.Codec

/-! Reading nodes from JSON. A value is read as its declared type says; without a type its shape
decides, and the type is inferred. Fields are read in the order in which they stand and the first
failure counts. Identities that are left out are drawn anew. -/

namespace LivePipeline

/-- Why JSON is not a node. -/
inductive DecodeError where
  | malformed
  | notText (found : Json)
  | notNumber (found : Json)
  | notBoolean (found : Json)
  | notEntries (found : Json)
  | noUnionMember (found : Json)
  | cannotInfer (found : Json)

/-- The text of an error; a plainly malformed node has none. -/
def DecodeError.message? : DecodeError → Option String
  | malformed => none
  | notText found => some ("expected string value. Got `" ++ found.compact ++ "` instead")
  | notNumber found => some ("expected number value. Got `" ++ found.compact ++ "` instead")
  | notBoolean found => some ("expected boolean value. Got `" ++ found.compact ++ "` instead")
  | notEntries found =>
    some ("expected a list of key/value entries. Got `" ++ found.compact ++ "` instead")
  | noUnionMember found =>
    some ("value `" ++ found.compact ++ "` does not match any member of the union")
  | cannotInfer found => some ("cannot infer a value from `" ++ found.compact ++ "`")

/-- Reading that may draw identities and may fail. -/
abbrev Decoder := StateT Nat (Except DecodeError)

namespace Decoder

def malformed : Decoder α := throw .malformed

def ofOption (result : Option α) : Decoder α :=
  match result with
  | some value => pure value
  | none => malformed

/-- Draws an identity. -/
def freshId : Decoder EntityId := fun next => .ok (LivePipeline.freshId.run next)

def idOrFresh (id : Option EntityId) : Decoder EntityId :=
  match id with
  | some id => pure id
  | none => freshId

/-- A text, which may be null for none. -/
def optionalText : Json → Decoder (Option String)
  | .null => pure none
  | json => some <$> ofOption json.text?

/-- The first reading that succeeds. -/
def firstOf (failure : DecodeError) : List (Decoder α) → Decoder α
  | [] => throw failure
  | reader :: rest => fun next =>
    match reader next with
    | .ok result => .ok result
    | .error _ => firstOf failure rest next

end Decoder

open Decoder

/-- The readings of one JSON value as the different structured values; most of them fail. -/
structure Shapes where
  statements : Decoder Value := malformed
  entries : Decoder Value := malformed
  operation : Decoder Value := malformed
  condition : Decoder Value := malformed
  reference : Decoder Value := malformed
  error : Decoder Value := malformed
  handle : Decoder Value := malformed

/-- A list that can only be meant as entries: each item has a key and a value, and no data. -/
def looksLikeEntries (items : List Json) : Bool :=
  !items.isEmpty && items.all fun item => item.has "key" && item.has "value" && !item.has "data"

/-- Reads a value by its shape alone. -/
def Shapes.untyped (shapes : Shapes) (json : Json) : Decoder Value :=
  match json with
  | .null => pure .undefined
  | .bool value => pure (.boolean value)
  | .int value => pure (.number (floatOfInt value))
  | .float value => pure (.number value)
  | .text value => pure (.text value)
  | .array items => if looksLikeEntries items then shapes.entries else shapes.statements
  | .object fields =>
    if Table.has fields "reason" then shapes.error
    else if Table.has fields "condition" then shapes.condition
    else if Table.has fields "className" then shapes.handle
    else if Table.has fields "parameters" || Table.has fields "statements" then shapes.operation
    else if Table.has fields "name" then shapes.reference
    else throw (.cannotInfer json)

mutual

/-- Reads a value of the given type. A union tries its active member first, then all in order. -/
def Shapes.typed (shapes : Shapes) (json : Json) : DataType → Decoder Value
  | .unknown | .never | .undefined => shapes.untyped json
  | .string =>
    match json with
    | .text value => pure (.text value)
    | _ => throw (.notText json)
  | .number =>
    match json with
    | .int value => pure (.number (floatOfInt value))
    | .float value => pure (.number value)
    | .null => pure (.number (0.0 / 0.0))
    | _ => throw (.notNumber json)
  | .boolean =>
    match json with
    | .bool value => pure (.boolean value)
    | _ => throw (.notBoolean json)
  | .array _ | .tuple _ => shapes.statements
  | .object _ _ | .dictionary _ =>
    match json with
    | .array _ | .object _ => shapes.entries
    | _ => throw (.notEntries json)
  | .union members active =>
    let readers := shapes.typedAll json members
    firstOf (.noUnionMember json) ((active.bind (readers[·]?)).toList ++ readers)
  | .operation _ _ => shapes.operation
  | .condition _ => shapes.condition
  | .reference _ => shapes.reference
  | .error _ => shapes.error
  | .instanceOf _ _ => shapes.handle

def Shapes.typedAll (shapes : Shapes) (json : Json) : List DataType → List (Decoder Value)
  | [] => []
  | type :: rest => shapes.typed json type :: shapes.typedAll json rest

end

/-- The fields of a data node as far as they have been read. Its value waits for its type. -/
structure DataDraft where
  id : Option EntityId := none
  type : Option DataType := none
  value : Json := .null
  shapes : Shapes := {}

/-- Data whose type is inferred when it is not given. -/
def DataDraft.finish (draft : DataDraft) : Decoder Data := do
  let id ← idOrFresh draft.id
  match draft.type with
  | some type => return ⟨id, type, ← draft.shapes.typed draft.value type⟩
  | none =>
    let value ← draft.shapes.untyped draft.value
    return ⟨id, value.inferType .declared, value⟩

/-- A link of a chain: without a type it is a call. -/
def DataDraft.finishCall (draft : DataDraft) : Decoder Data := do
  match draft.type with
  | some _ => draft.finish
  | none => return ⟨← idOrFresh draft.id, .operation [] .unknown, ← draft.shapes.operation⟩

structure StatementDraft where
  id : Option EntityId := none
  data : Option Data := none
  operations : List Data := []
  name : Option String := none
  isOptional : Bool := false

def StatementDraft.finish (draft : StatementDraft) : Decoder Statement := do
  let data ← ofOption draft.data
  return ⟨← idOrFresh draft.id, data, draft.operations, draft.name, draft.isOptional⟩

/-- The parts of a structured value as far as they have been read. -/
structure ValueDraft where
  name : Option String := none
  parameters : List Statement := []
  body : List Statement := []
  test : Option Statement := none
  whenTrue : Option Statement := none
  whenFalse : Option Statement := none
  className : Option String := none
  arguments : List Statement := []
  instanceId : Option EntityId := none
  key : Option String := none
  entry : Option Statement := none

def ValueDraft.condition (draft : ValueDraft) : Decoder Value := do
  return .condition (← ofOption draft.test) (← ofOption draft.whenTrue) (← ofOption draft.whenFalse)

def ValueDraft.handle (draft : ValueDraft) : Decoder Value := do
  let className ← ofOption draft.className
  return .handle className draft.arguments (← idOrFresh draft.instanceId)

def decodeReference (fields : Table Json) : Decoder Value := do
  let name ← ofOption (Json.required? Json.text? fields "name")
  let id ← ofOption (Json.defaulted? Json.text? "" fields "id")
  return .reference name id

def decodeReason (fields : Table Json) : Decoder Value := do
  return .error (← ofOption (Json.required? Json.text? fields "reason"))

mutual

/-- All readings of a JSON value. -/
def shapesOf : Json → Shapes
  | .array items =>
    { statements := do return .array (← decodeAll items)
      entries := do return .record (Table.ofEntries (← decodeEntries items)) }
  | .object fields =>
    { entries := do return .record (Table.ofEntries (← decodeFields fields))
      operation := do
        let draft ← readOperation fields {}
        return .operation draft.name draft.parameters draft.body
      condition := do (← readCondition fields {}).condition
      reference := decodeReference fields
      error := decodeReason fields
      handle := do (← readHandle fields {}).handle }
  | _ => {}

def readData : List (String × Json) → DataDraft → Decoder DataDraft
  | [], draft => pure draft
  | (key, json) :: rest, draft => do
    let draft ← match key with
      | "id" => do pure { draft with id := some (← ofOption json.text?) }
      | "type" =>
        match json with
        | .null => pure draft
        | json => do pure { draft with type := some (← ofOption (DataType.decode? json)) }
      | "value" => pure { draft with value := json, shapes := shapesOf json }
      | _ => pure draft
    readData rest draft

def Data.decode : Json → Decoder Data
  | .object fields => do (← readData fields {}).finish
  | _ => malformed

/-- The drafts of a chain; they are all read before one of them is finished. -/
def readCalls : List Json → Decoder (List DataDraft)
  | [] => pure []
  | .object fields :: rest => do
    let draft ← readData fields {}
    return draft :: (← readCalls rest)
  | _ :: _ => malformed

def readStatement : List (String × Json) → StatementDraft → Decoder StatementDraft
  | [], draft => pure draft
  | (key, json) :: rest, draft => do
    let draft ← match key with
      | "id" => do pure { draft with id := some (← ofOption json.text?) }
      | "data" => do pure { draft with data := some (← Data.decode json) }
      | "operations" =>
        match json with
        | .array items => do
          let drafts ← readCalls items
          pure { draft with operations := ← drafts.mapM DataDraft.finishCall }
        | _ => malformed
      | "name" => do pure { draft with name := ← optionalText json }
      | "isOptional" => do pure { draft with isOptional := ← ofOption json.bool? }
      | _ => pure draft
    readStatement rest draft

def Statement.decode : Json → Decoder Statement
  | .object fields => do (← readStatement fields {}).finish
  | _ => malformed

def decodeAll : List Json → Decoder (List Statement)
  | [] => pure []
  | json :: rest => do
    let statement ← Statement.decode json
    return statement :: (← decodeAll rest)

/-- A list of statements as the value of a field. -/
def decodeListed : Json → Decoder (List Statement)
  | .array items => decodeAll items
  | _ => malformed

/-- Entries written as an object. -/
def decodeFields : List (String × Json) → Decoder (List (String × Statement))
  | [] => pure []
  | (key, json) :: rest => do
    let statement ← Statement.decode json
    return (key, statement) :: (← decodeFields rest)

/-- Entries written as a list of keys and values. -/
def decodeEntries : List Json → Decoder (List (String × Statement))
  | [] => pure []
  | .object fields :: rest => do
    let draft ← readEntry fields {}
    let key ← ofOption draft.key
    let statement ← ofOption draft.entry
    return (key, statement) :: (← decodeEntries rest)
  | _ :: _ => malformed

def readEntry : List (String × Json) → ValueDraft → Decoder ValueDraft
  | [], draft => pure draft
  | (key, json) :: rest, draft => do
    let draft ← match key with
      | "key" => do pure { draft with key := some (← ofOption json.text?) }
      | "value" => do pure { draft with entry := some (← Statement.decode json) }
      | _ => pure draft
    readEntry rest draft

def readOperation : List (String × Json) → ValueDraft → Decoder ValueDraft
  | [], draft => pure draft
  | (key, json) :: rest, draft => do
    let draft ← match key with
      | "name" => do pure { draft with name := ← optionalText json }
      | "parameters" => do pure { draft with parameters := ← decodeListed json }
      | "statements" => do pure { draft with body := ← decodeListed json }
      | _ => pure draft
    readOperation rest draft

def readCondition : List (String × Json) → ValueDraft → Decoder ValueDraft
  | [], draft => pure draft
  | (key, json) :: rest, draft => do
    let draft ← match key with
      | "condition" => do pure { draft with test := some (← Statement.decode json) }
      | "true" => do pure { draft with whenTrue := some (← Statement.decode json) }
      | "false" => do pure { draft with whenFalse := some (← Statement.decode json) }
      | _ => pure draft
    readCondition rest draft

def readHandle : List (String × Json) → ValueDraft → Decoder ValueDraft
  | [], draft => pure draft
  | (key, json) :: rest, draft => do
    let draft ← match key with
      | "className" => do pure { draft with className := some (← ofOption json.text?) }
      | "constructorArgs" => do pure { draft with arguments := ← decodeListed json }
      | "instanceId" => do pure { draft with instanceId := some (← ofOption json.text?) }
      | _ => pure draft
    readHandle rest draft

end

/-- Reads the value of a data node under a given type. -/
def Value.decodeAs (type : DataType) (json : Json) : Decoder Value := (shapesOf json).typed json type

end LivePipeline
