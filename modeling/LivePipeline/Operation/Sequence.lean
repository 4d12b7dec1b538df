import LivePipeline.Operation
import LivePipeline.Operation.Calling
import LivePipeline.MergeSort

/-! Operations on arrays and tuples. Callbacks get an element and its index, once for every element
and in order. -/

namespace LivePipeline.Operation

/-- The receiver as it is, or an array of anything. -/
def sequenceReceiver (data : Data) : Parameter :=
  match data.type.dereference with
  | type@(.array _) | type@(.tuple _) => .receiver type
  | _ => .receiver (.array .unknown)

def onSequence (parameters : Data → List Parameter) (data : Data) : List Parameter :=
  sequenceReceiver data :: parameters data

def callback (result : DataType) (data : Data) : List Parameter :=
  [.named "callback"
    (.operation [.named "item" (elementType data), .optional "index" .number] result)]

def comparatorParameter (data : Data) : List Parameter :=
  [.optional "comparator"
    (.operation [.named "a" (elementType data), .named "b" (elementType data)] .number)]

def reduceParameters (data : Data) : List Parameter :=
  [.named "callback"
    (.operation
      [.named "accumulator" .unknown, .named "item" (elementType data), .optional "index" .number]
      .unknown),
  .named "initial" .unknown]

/-- The declared result of a callback given as the first argument. -/
def callbackResult (arguments : List DataType) : DataType :=
  (arguments.head?.map declaredResult).getD .unknown

def returnsConcat (data : Data) (arguments : List DataType) : DataType :=
  let other := (arguments.head?.bind DataType.element?).getD .unknown
  .array (DataType.unionOf [elementType data, other])

/-- An array of the receiver's own type. -/
def withItems (data : Data) (items : List Statement) : Fresh Data :=
  Data.make data.type.dereference (.array items)

def sequenceLength : EagerHandler := fun _ _ data _ => do
  Data.number (Float.ofNat (← expectItems "length" data).length)

/-- The element at an index, which may count from the end. -/
def elementAt (items : List Statement) (index : Float) : Option Data :=
  let whole := if index.isNaN then 0.0 else truncated index
  let position := if whole < 0 then Float.ofNat items.length + whole else whole
  if position < 0 || position ≥ Float.ofNat items.length then none
  else items[(integerPart position).toNat]?.map (·.data)

def elementByIndex : EagerHandler := fun _ _ data arguments => do
  let index ← first "at" arguments
  let items ← expectItems "at" data
  match elementAt items (← expectNumber "at" index) with
  | some element => return element
  | none => Data.undefined

def concatSequences : EagerHandler := fun _ _ data arguments => do
  let other ← first "concat" arguments
  let left ← expectItems "concat" data
  let right ← expectItems "concat" other
  Data.array ((left ++ right).map (·.data)) (elementType data)

def includesElement : EagerHandler := fun _ _ data arguments => do
  let element ← first "includes" arguments
  let items ← expectItems "includes" data
  Data.boolean (items.any (·.data.sameValue element))

def indexOfElement : EagerHandler := fun _ _ data arguments => do
  let element ← first "indexOf" arguments
  let items ← expectItems "indexOf" data
  Data.number <| match items.findIdx? (·.data.sameValue element) with
    | some index => Float.ofNat index
    | none => -1.0

def join : EagerHandler := fun _ _ data arguments => do
  let items ← expectItems "join" data
  let separator ← match optional? arguments 0 with
    | some separator => expectText "join" separator
    | none => pure ","
  Data.text (separator.intercalate (items.map (·.data.display)))

def reverseSequence : EagerHandler := fun _ _ data _ => do
  withItems data (← expectItems "reverse" data).reverse

/-- The part of a list between two relative indices; the second one may be left out. -/
def sliceBounds (name : String) (arguments : List Data) (length : Nat) : Except Failure (Nat × Nat) := do
  let start ← first name arguments
  let start ← expectNumber name start
  match optional? arguments 1 with
  | some stop => return (relativeIndex start length, relativeIndex (← expectNumber name stop) length)
  | none => return (relativeIndex start length, length)

def sliceSequence : EagerHandler := fun _ _ data arguments => do
  let _ ← first "slice" arguments
  let items ← expectItems "slice" data
  let (start, stop) ← sliceBounds "slice" arguments items.length
  withItems data (between items start stop)

def push : EagerHandler := fun _ _ data arguments => do
  let element ← first "push" arguments
  let items ← expectItems "push" data
  let statement ← (Statement.make element : Attempt Statement)
  let type := DataType.unionOf [elementType data, element.type]
  Data.make (.array type) (.array (items ++ [statement]))

/-- The callback's results for all elements. -/
def callEach (caller : Caller) (scope : Scope) (operation : Data) (items : List Statement) :
    Run (List Data) :=
  items.zipIdx.mapM fun (statement, index) => do
    let index ← (Data.number (Float.ofNat index) : Run Data)
    caller scope operation [statement.data, index]

/-- The elements with the callback's result for each. -/
def answered (name : String) (caller : Caller) (scope : Scope) (data : Data) (arguments : List Data) :
    Attempt (List (Statement × Data)) := do
  let argument ← first name arguments
  let operation ← expectOperation name argument
  let items ← expectItems name data
  let results ← callEach caller scope operation items
  return items.zip results

def saysYes (answer : Data) : Bool := answer.bool? == some true

def mapSequence : EagerHandler := fun caller scope data arguments => do
  let argument ← first "map" arguments
  let operation ← expectOperation "map" argument
  let items ← expectItems "callback" data
  let results ← callEach caller scope operation items
  Data.array results (declaredResult operation.type)

/-- Keeps an element when the callback says yes; an error takes the place of its element. -/
def keepAnswered : List (Statement × Data) → Fresh (List Statement)
  | [] => return []
  | (item, answer) :: rest => do
    if answer.isError then
      let statement ← Statement.make answer
      return statement :: (← keepAnswered rest)
    else
      let kept ← keepAnswered rest
      return if saysYes answer then item :: kept else kept

def filterSequence : EagerHandler := fun caller scope data arguments => do
  let pairs ← answered "filter" caller scope data arguments
  let kept ← (keepAnswered pairs : Attempt (List Statement))
  withItems data kept

def findElement : EagerHandler := fun caller scope data arguments => do
  let pairs ← answered "find" caller scope data arguments
  match pairs.find? fun (_, answer) => answer.isError || saysYes answer with
  | some (item, answer) => return if answer.isError then answer else item.data
  | none => Data.undefined

def someElement : EagerHandler := fun caller scope data arguments => do
  let argument ← first "some" arguments
  let operation ← expectOperation "some" argument
  let items ← expectItems "callback" data
  let results ← callEach caller scope operation items
  match results.find? fun answer => answer.isError || saysYes answer with
  | some answer => if answer.isError then return answer else Data.boolean true
  | none => Data.boolean false

def everyElement : EagerHandler := fun caller scope data arguments => do
  let argument ← first "every" arguments
  let operation ← expectOperation "every" argument
  let items ← expectItems "callback" data
  let results ← callEach caller scope operation items
  match results.find? fun answer => answer.isError || !saysYes answer with
  | some answer => if answer.isError then return answer else Data.boolean false
  | none => Data.boolean true

/-- Numbers by size, all else by the text that is shown. -/
def naturalOrder (a b : Data) : Ordering :=
  match a.number?, b.number? with
  | some x, some y => if x < y then .lt else if x > y then .gt else .eq
  | _, _ => compare a.display b.display

/-- What ends a sort early: the comparator's error as the answer, or a failure of the sort. -/
inductive Interruption where
  | answer (error : Data)
  | failure (failure : Failure)

/-- Compares by calling a comparator, whose number says which element is greater. -/
def compareBy (caller : Caller) (scope : Scope) (comparator : Data) (a b : Statement) :
    ExceptT Interruption Run Ordering := do
  let result ← caller scope comparator [a.data, b.data]
  if result.isError then throw (.answer result)
  match expectNumber "sort" result with
  | .error failure => throw (.failure failure)
  | .ok value => return if value < 0 then .lt else if value > 0 then .gt else .eq

def sortSequence : EagerHandler := fun caller scope data arguments => do
  let items ← expectItems "sort" data
  match optional? arguments 0 with
  | none =>
    withItems data (Id.run (mergeSortM (fun a b => pure (naturalOrder a.data b.data)) items))
  | some argument =>
    let comparator ← expectOperation "sort" argument
    let sorted ← (mergeSortM (compareBy caller scope comparator) items).run
    match sorted with
    | .ok sorted => withItems data sorted
    | .error (.answer error) => return error
    | .error (.failure failure) => throw failure

/-- Folds the elements into the accumulator; an error ends the fold. -/
def reduceFrom (caller : Caller) (scope : Scope) (operation : Data) :
    List (Statement × Nat) → Data → Run Data
  | [], accumulator => return accumulator
  | (item, index) :: rest, accumulator => do
    let index ← (Data.number (Float.ofNat index) : Run Data)
    let result ← caller scope operation [accumulator, item.data, index]
    if result.isError then return result else reduceFrom caller scope operation rest result

def reduceSequence : EagerHandler := fun caller scope data arguments => do
  let (argument, initial) ← firstTwo "reduce" arguments
  let operation ← expectOperation "reduce" argument
  let items ← expectItems "reduce" data
  reduceFrom caller scope operation items.zipIdx initial

def sequenceFamily : List Builtin :=
  let alone := takes (.array .unknown) []
  let element := onSequence fun data => [.named "element" (elementType data)]
  let predicate := onSequence (callback .boolean)
  [.eager "length" "array" alone returnsNumber sequenceLength,
  .eager "at" "array" (onSequence fun _ => [.named "index" .number]) returnsElement elementByIndex,
  .eager "concat" "array" (onSequence fun _ => [.named "other" (.array .unknown)]) returnsConcat
    concatSequences,
  .eager "includes" "array" element returnsBoolean includesElement,
  .eager "indexOf" "array" element returnsNumber indexOfElement,
  .eager "join" "array" (onSequence fun _ => [.optional "separator" .string]) returnsString join,
  .eager "reverse" "array" alone returnsReceiver reverseSequence,
  .eager "slice" "array" (onSequence fun _ => [.named "start" .number, .optional "end" .number])
    returnsReceiver sliceSequence,
  .eager "push" "array" element returnsReceiver push,
  .eager "map" "array" (onSequence (callback .unknown)) (fun _ arguments => .array (callbackResult arguments))
    mapSequence,
  .eager "filter" "array" predicate returnsReceiver filterSequence,
  .eager "find" "array" predicate returnsElement findElement,
  .eager "some" "array" predicate returnsBoolean someElement,
  .eager "every" "array" predicate returnsBoolean everyElement,
  .eager "sort" "array" (onSequence comparatorParameter) returnsReceiver sortSequence,
  .eager "reduce" "array" (onSequence reduceParameters) (fun _ arguments => callbackResult arguments)
    reduceSequence]

end LivePipeline.Operation
