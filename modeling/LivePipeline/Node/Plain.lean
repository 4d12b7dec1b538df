import LivePipeline.Node.Build
import LivePipeline.Json.Printer

/-! The plain view of evaluated data: JSON without types and identities, and the text shown to a
reader. -/

namespace LivePipeline

/-- Numbers that a double holds exactly as an integer are whole; what is not finite is null. -/
def Json.ofNumber (x : Float) : Json :=
  if isIntegral x && x.abs < 9007199254740992.0 then .int (integerPart x)
  else if x.isFinite then .float x
  else .null

mutual

/-- Containers show the data of their statements; operations, conditions, references and external
objects only show what they are. -/
def Value.plain : Value → Json
  | .undefined => .null
  | .text value => .text value
  | .number value => Json.ofNumber value
  | .boolean value => .bool value
  | .array items => .array (plainItems items)
  | .record entries => .object (plainEntries entries)
  | .operation name _ _ => .text ("<operation " ++ name.getD "anonymous" ++ ">")
  | .condition _ _ _ => .text "<condition>"
  | .reference name _ => .text ("<reference " ++ name ++ ">")
  | .error reason => .object [("error", .text reason)]
  | .handle className _ _ => .text ("<" ++ className ++ ">")

def plainItems : List Statement → List Json
  | [] => []
  | ⟨_, ⟨_, _, value⟩, _, _, _⟩ :: rest => value.plain :: plainItems rest

def plainEntries : List (String × Statement) → List (String × Json)
  | [] => []
  | (key, ⟨_, ⟨_, _, value⟩, _, _, _⟩) :: rest => (key, value.plain) :: plainEntries rest

end

namespace Data

def plain (data : Data) : Json := data.value.plain

/-- Texts are shown as they are, numbers without an exponent, all else as JSON. -/
def display (data : Data) : String :=
  match data.value with
  | .text value => value
  | .number value => Number.display value
  | value => value.plain.compact

/-- Whether two nodes show the same plain value. -/
def sameValue (a b : Data) : Bool := a.plain == b.plain

end Data

mutual

/-- Typed data with the given plain view. -/
def Data.ofPlain : Json → Fresh Data
  | .null => Data.undefined
  | .bool value => Data.boolean value
  | .int value => Data.number (floatOfInt value)
  | .float value => Data.number value
  | .text value => Data.text value
  | .array items => do Data.array (← dataOfItems items) .unknown
  | .object fields => do Data.object (← dataOfFields fields)

def dataOfItems : List Json → Fresh (List Data)
  | [] => return []
  | item :: rest => return (← Data.ofPlain item) :: (← dataOfItems rest)

def dataOfFields : List (String × Json) → Fresh (List (String × Data))
  | [] => return []
  | (key, value) :: rest => return (key, ← Data.ofPlain value) :: (← dataOfFields rest)

end

end LivePipeline
