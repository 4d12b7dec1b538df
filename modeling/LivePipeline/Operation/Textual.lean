import LivePipeline.Json.Parser
import LivePipeline.Operation.Date
import LivePipeline.Operation.Locator
import LivePipeline.Operation.Sequence
import LivePipeline.Pattern.Parser
import LivePipeline.Text.Case
import LivePipeline.Text.Search

/-! Operations on texts. Positions count characters. -/

namespace LivePipeline.Operation

/-- The receiver and the first argument, both texts. -/
def textPair (name : String) (data : Data) (arguments : List Data) : Except Failure (String × String) := do
  let other ← first name arguments
  return (← expectText name data, ← expectText name other)

def textLength : EagerHandler := fun _ _ data _ => do
  Data.number (Float.ofNat (← expectText "length" data).length)

def concatTexts : EagerHandler := fun _ _ data arguments => do
  let (left, right) ← textPair "concat" data arguments
  Data.text (left ++ right)

/-- An operation that asks whether one text stands in another. -/
def textTest (name : String) (test : String → String → Bool) : EagerHandler :=
  fun _ _ data arguments => do
    let (text, part) ← textPair name data arguments
    Data.boolean (test text part)

def indexOfText : EagerHandler := fun _ _ data arguments => do
  let (text, part) ← textPair "indexOf" data arguments
  Data.number <| match Text.indexOf? text part with
    | some index => Float.ofNat index
    | none => -1.0

def sliceText : EagerHandler := fun _ _ data arguments => do
  let _ ← first "slice" arguments
  let text ← expectText "slice" data
  let (start, stop) ← sliceBounds "slice" arguments text.length
  Data.text (String.ofList (between text.toList start stop))

def splitText : EagerHandler := fun _ _ data arguments => do
  let (text, separator) ← textPair "split" data arguments
  let parts ← (Text.split text separator).mapM fun part => (Data.text part : Attempt Data)
  Data.array parts .string

/-- An operation that turns a text into another. -/
def textTransform (name : String) (change : String → String) : EagerHandler := fun _ _ data _ => do
  Data.text (change (← expectText name data))

/-- An operation that exchanges a part of a text for another. -/
def textReplacement (name : String) (change : String → String → String → String) : EagerHandler :=
  fun _ _ data arguments => do
    let (old, new) ← firstTwo name arguments
    let text ← expectText name data
    let old ← expectText name old
    let new ← expectText name new
    Data.text (change text old new)

/-- The largest text in bytes that a repetition may give. -/
def maxRepetition : Nat := 16 * 1024 * 1024

def repeatText : EagerHandler := fun _ _ data arguments => do
  let argument ← first "repeat" arguments
  let text ← expectText "repeat" data
  let count ← expectInteger "repeat" argument
  if count < 0 then throw (.negativeCount "repeat" count)
  if count.toNat * text.utf8ByteSize > maxRepetition then throw (.resultTooLarge "repeat")
  Data.text (Text.replicate text count.toNat)

def toNumber : EagerHandler := fun _ _ data _ => do
  let text ← expectText "toNumber" data
  match Number.read? (Text.trim text) with
  | some value => Data.number value
  | none => throw (.notANumber text)

def parseJson : EagerHandler := fun _ _ data _ => do
  match Json.parse? (← expectText "parseJson" data) with
  | some json => Data.ofPlain json
  | none => throw .invalidJson

def matchesPattern : EagerHandler := fun _ _ data arguments => do
  let (text, pattern) ← textPair "matches" data arguments
  match Pattern.parse pattern with
  | .ok pattern => Data.boolean (pattern.isMatch text)
  | .error fault => throw (.invalidPattern "matches" fault.message)

def textualFamily : List Builtin :=
  let alone := takes .string []
  let other := takes .string [.named "value" .string]
  let replacing := takes .string [.named "search" .string, .named "replacement" .string]
  [.eager "length" "string" alone returnsNumber textLength,
  .eager "concat" "string" other returnsString concatTexts,
  .eager "includes" "string" other returnsBoolean (textTest "includes" Text.contains),
  .eager "startsWith" "string" other returnsBoolean (textTest "startsWith" Text.startsWith),
  .eager "endsWith" "string" other returnsBoolean (textTest "endsWith" Text.endsWith),
  .eager "indexOf" "string" other returnsNumber indexOfText,
  .eager "slice" "string" (takes .string [.named "start" .number, .optional "end" .number])
    returnsString sliceText,
  .eager "split" "string" (takes .string [.named "separator" .string]) returnsStrings splitText,
  .eager "toUpperCase" "string" alone returnsString (textTransform "toUpperCase" Text.toUpper),
  .eager "toLowerCase" "string" alone returnsString (textTransform "toLowerCase" Text.toLower),
  .eager "trim" "string" alone returnsString (textTransform "trim" Text.trim),
  .eager "replace" "string" replacing returnsString (textReplacement "replace" Text.replaceFirst),
  .eager "replaceAll" "string" replacing returnsString (textReplacement "replaceAll" Text.replaceAll),
  .eager "repeat" "string" (takes .string [.named "count" .number]) returnsString repeatText,
  .eager "toNumber" "string" alone returnsNumber toNumber,
  .eager "parseJson" "string" alone returnsUnknown parseJson,
  .eager "matches" "string" (takes .string [.named "pattern" .string]) returnsBoolean matchesPattern,
  .eager "toDate" "string" alone (fun _ _ => dateType) toDate,
  .eager "toUrl" "string" alone (fun _ _ => urlType) toUrl]

end LivePipeline.Operation
