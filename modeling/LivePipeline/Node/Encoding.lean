import LivePipeline.Node.Plain
import LivePipeline.DataType.Codec

/-! Nodes as JSON. Entries are written as a list of keys and values, so that their order is kept;
names that are absent and flags that are off are left out. -/

namespace LivePipeline

mutual

def Value.encode : Value → Json
  | .undefined => .null
  | .text value => .text value
  | .number value => Json.ofNumber value
  | .boolean value => .bool value
  | .array items => .array (encodeStatements items)
  | .record entries => .array (encodeEntries entries)
  | .operation name parameters body =>
    .object (name.toList.map (fun name => ("name", .text name))
      ++ [("parameters", .array (encodeStatements parameters)),
        ("statements", .array (encodeStatements body))])
  | .condition test whenTrue whenFalse =>
    .object [("condition", test.encode), ("true", whenTrue.encode), ("false", whenFalse.encode)]
  | .reference name id => .object [("name", .text name), ("id", .text id)]
  | .error reason => .object [("reason", .text reason)]
  | .handle className arguments instanceId =>
    .object [("className", .text className), ("constructorArgs", .array (encodeStatements arguments)),
      ("instanceId", .text instanceId)]

def Data.encode : Data → Json
  | ⟨id, type, value⟩ => .object [("id", .text id), ("type", type.encode), ("value", value.encode)]

def Statement.encode : Statement → Json
  | ⟨id, data, operations, name, isOptional⟩ =>
    .object ([("id", .text id), ("data", data.encode), ("operations", .array (encodeCalls operations))]
      ++ name.toList.map (fun name => ("name", .text name))
      ++ (if isOptional then [("isOptional", .bool true)] else []))

def encodeStatements : List Statement → List Json
  | [] => []
  | statement :: rest => statement.encode :: encodeStatements rest

def encodeCalls : List Data → List Json
  | [] => []
  | call :: rest => call.encode :: encodeCalls rest

def encodeEntries : List (String × Statement) → List Json
  | [] => []
  | (key, statement) :: rest =>
    .object [("key", .text key), ("value", statement.encode)] :: encodeEntries rest

end

end LivePipeline
