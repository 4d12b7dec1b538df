import LivePipeline.DataType
import LivePipeline.Json

/-! Types as JSON objects that name their kind. -/

namespace LivePipeline

namespace DataType

/-- An object of the given kind. -/
def tagged (kind : Kind) (fields : List (String × Json)) : Json :=
  .object (("kind", .text kind.label) :: fields)

mutual

def encode : DataType → Json
  | array element => tagged .array [("elementType", encode element)]
  | tuple elements => tagged .tuple [("elements", .array (encodeAll elements))]
  | object properties required =>
    tagged .object
      [("properties", .object (encodeProperties properties)), ("required", .array (required.map .text))]
  | dictionary element => tagged .dictionary [("elementType", encode element)]
  | union members active =>
    tagged .union (("types", .array (encodeAll members))
      :: active.toList.map fun index => ("activeIndex", .int (Int.ofNat index)))
  | operation parameters result =>
    tagged .operation [("parameters", .array (encodeParameters parameters)), ("result", encode result)]
  | condition result => tagged .condition [("result", encode result)]
  | reference target => tagged .reference [("dataType", encode target)]
  | error kind => tagged .error [("errorType", .text kind.label)]
  | instanceOf className arguments =>
    tagged .instanceOf
      [("className", .text className), ("constructorArgs", .array (encodeParameters arguments))]
  | type@unknown | type@never | type@undefined | type@string | type@number | type@boolean =>
    tagged type.kind []

def encodeAll : List DataType → List Json
  | [] => []
  | type :: rest => encode type :: encodeAll rest

def encodeProperties : List (String × DataType) → List (String × Json)
  | [] => []
  | (name, type) :: rest => (name, encode type) :: encodeProperties rest

def encodeParameters : List Parameter → List Json
  | [] => []
  | ⟨name, type, isOptional⟩ :: rest =>
    .object (name.toList.map (fun name => ("name", .text name)) ++ [("type", encode type)]
      ++ (if isOptional then [("isOptional", .bool true)] else [])) :: encodeParameters rest

end

end DataType

def Parameter.encode (parameter : Parameter) : Json :=
  .object (parameter.name.toList.map (fun name => ("name", .text name))
    ++ [("type", parameter.type.encode)]
    ++ (if parameter.isOptional then [("isOptional", .bool true)] else []))

namespace Json

def text? : Json → Option String
  | .text value => some value
  | _ => none

def bool? : Json → Option Bool
  | .bool value => some value
  | _ => none

/-- A whole number that is not negative. -/
def count? : Json → Option Nat
  | .int value => if value ≥ 0 then some value.toNat else none
  | _ => none

def texts? : Json → Option (List String)
  | .array items => items.mapM text?
  | _ => none

/-- A field that must be there. -/
def required? (read : Json → Option α) (fields : Table Json) (key : String) : Option α :=
  (Table.get? fields key).bind read

/-- A field that has a default when it is left out. -/
def defaulted? (read : Json → Option α) (fallback : α) (fields : Table Json) (key : String) : Option α :=
  match Table.get? fields key with
  | none => some fallback
  | some json => read json

/-- A field that may be left out or null. -/
def nullable? (read : Json → Option α) (fields : Table Json) (key : String) : Option (Option α) :=
  match Table.get? fields key with
  | none | some .null => some none
  | some json => (read json).map some

end Json

namespace DataType

mutual

/-- Reads a type; `none` when the JSON does not describe one. -/
def decode? : Json → Option DataType
  | .object fields =>
    match (Table.get? fields "kind").bind Json.text? with
    | some "unknown" => some unknown
    | some "never" => some never
    | some "undefined" => some undefined
    | some "string" => some string
    | some "number" => some number
    | some "boolean" => some boolean
    | some "array" => (typeField? "elementType" fields).map array
    | some "tuple" => (typesField? "elements" fields).map tuple
    | some "object" => do
      let properties ← propertiesField? "properties" fields
      let required ← Json.defaulted? Json.texts? [] fields "required"
      return object (Table.ofEntries properties) required
    | some "dictionary" => (typeField? "elementType" fields).map dictionary
    | some "union" => do
      let members ← typesField? "types" fields
      let active ← Json.nullable? Json.count? fields "activeIndex"
      return union members active
    | some "operation" => do
      let parameters ← parametersField? "parameters" none fields
      let result ← typeField? "result" fields
      return operation parameters result
    | some "condition" => (typeField? "result" fields).map condition
    | some "reference" => (typeField? "dataType" fields).map reference
    | some "error" => do
      let label ← Json.required? Json.text? fields "errorType"
      let kind ← ErrorKind.ofLabel? label
      return error kind
    | some "instance" => do
      let className ← Json.required? Json.text? fields "className"
      let arguments ← parametersField? "constructorArgs" (some []) fields
      return instanceOf className arguments
    | _ => none
  | _ => none

def typeField? (key : String) : List (String × Json) → Option DataType
  | [] => none
  | (name, json) :: rest => if name = key then decode? json else typeField? key rest

def typesField? (key : String) : List (String × Json) → Option (List DataType)
  | [] => none
  | (name, json) :: rest =>
    if name = key then
      match json with
      | .array items => decodeAll? items
      | _ => none
    else typesField? key rest

def propertiesField? (key : String) : List (String × Json) → Option (List (String × DataType))
  | [] => none
  | (name, json) :: rest =>
    if name = key then
      match json with
      | .object fields => decodeProperties? fields
      | _ => none
    else propertiesField? key rest

/-- A list of parameters, or `fallback` when the field is left out. -/
def parametersField? (key : String) (fallback : Option (List Parameter)) :
    List (String × Json) → Option (List Parameter)
  | [] => fallback
  | (name, json) :: rest =>
    if name = key then
      match json with
      | .array items => decodeParameters? items
      | _ => none
    else parametersField? key fallback rest

def decodeAll? : List Json → Option (List DataType)
  | [] => some []
  | json :: rest => do
    let type ← decode? json
    let types ← decodeAll? rest
    return type :: types

def decodeProperties? : List (String × Json) → Option (List (String × DataType))
  | [] => some []
  | (name, json) :: rest => do
    let type ← decode? json
    let properties ← decodeProperties? rest
    return (name, type) :: properties

def decodeParameters? : List Json → Option (List Parameter)
  | [] => some []
  | .object fields :: rest => do
    let name ← Json.nullable? Json.text? fields "name"
    let type ← typeField? "type" fields
    let isOptional ← Json.defaulted? Json.bool? false fields "isOptional"
    let parameters ← decodeParameters? rest
    return ⟨name, type, isOptional⟩ :: parameters
  | _ :: _ => none

end

end DataType

def Parameter.decode? (json : Json) : Option Parameter :=
  match DataType.decodeParameters? [json] with
  | some [parameter] => some parameter
  | _ => none

end LivePipeline
