import LivePipeline.Operation
import LivePipeline.Calendar.Format
import LivePipeline.Url.Parser

/-! Handles of external objects. A handle can be written down with what its object is made from;
the object is made again when the store does not have it. -/

namespace LivePipeline.Operation

def dateClass : String := "Date"
def urlClass : String := "URL"
def httpClass : String := "Http"
def promiseClass : String := "Promise"

def dateType : DataType := .instanceOf dateClass [.named "value" .string]

def urlType : DataType := .instanceOf urlClass [.named "href" .string]

def httpType : DataType := .instanceOf httpClass []

def promiseType (value : DataType) : DataType := .instanceOf promiseClass [.named "value" value]

/-- A new handle, with its object in the store. -/
def createInstance (className : String) (type : DataType) (arguments : List Data)
    (external : External) : Run Data := do
  let arguments ← arguments.mapM fun argument => (Statement.make argument : Run Statement)
  let instanceId ← (freshId : Run EntityId)
  Run.updateStore (·.setInstance instanceId external)
  Data.make type (.handle className arguments instanceId)

def parseDate (text : String) : Except Failure Moment :=
  match Moment.parse? text with
  | some moment => .ok moment
  | none => .error (.invalidDate (Text.trim text))

def parseUrl (text : String) : Except Failure Url :=
  match Url.parse (Text.trim text) with
  | .ok url => .ok url
  | .error cause => .error (.invalidUrl text cause)

/-- Makes the object that a handle describes. -/
def materialize (className : String) (arguments : List Statement) : Except Failure External :=
  let text := arguments.head?.bind (·.data.text?)
  if className == httpClass then .ok .http
  else match text with
    | some text =>
      if className == dateClass then .date <$> parseDate text
      else if className == urlClass then .url <$> parseUrl text
      else .error (.notConstructible className)
    | none => .error (.notConstructible className)

/-- The object behind a handle, made now if need be. -/
def externalOf (className : String) (arguments : List Statement) (instanceId : EntityId) :
    Attempt External := do
  match (← Run.store).instance? instanceId with
  | some external => return external
  | none =>
    let external ← materialize className arguments
    Run.updateStore (·.setInstance instanceId external)
    return external

theorem externalOf_run (className : String) (arguments : List Statement) (instanceId : EntityId)
    (world : World) :
    (externalOf className arguments instanceId).run world
      = (match world.store.instance? instanceId with
        | some external => (pure external : Attempt External)
        | none => do
          let external ← (liftM (materialize className arguments) : Attempt External)
          liftM (Run.updateStore (·.setInstance instanceId external))
          return external).run world :=
  rfl

def expectExternal (name : String) (data : Data) : Attempt External :=
  match data.value with
  | .handle className arguments instanceId => externalOf className arguments instanceId
  | _ => throw (.unexpected name .anInstance data)

end LivePipeline.Operation
