import LivePipeline.Operation.Instance

/-! Requests, and the promises that hold their outcome. -/

namespace LivePipeline.Operation

def responseType : DataType := .record [("status", .number), ("ok", .boolean), ("body", .string)]

def responseData (response : Response) : Fresh Data := do
  let status ← Data.number (Float.ofNat response.status)
  let ok ← Data.boolean (200 ≤ response.status && response.status < 300)
  let body ← Data.text response.body
  Data.object [("status", status), ("ok", ok), ("body", body)]

/-- Sends a request and settles a new promise with its outcome. -/
def send (scope : Scope) (data : Data) (request : Request) : Attempt Data := do
  match ← expectExternal request.method.label data with
  | .http => pure ()
  | _ => throw (.unexpected request.method.label .httpClient data)
  match scope.transport with
  | none => throw .noTransport
  | some transport =>
    Run.observe (.request request)
    let state ← match transport request with
      | .ok response => do
        let value ← (responseData response : Attempt Data)
        pure (.resolved value)
      | .error reason => pure (.rejected reason)
    createInstance promiseClass (promiseType responseType) [] (.promise state)

def httpGet : EagerHandler := fun _ scope data arguments => do
  let url ← expectText "get" (← first "get" arguments)
  send scope data ⟨.get, url, none⟩

def httpPost : EagerHandler := fun _ scope data arguments => do
  let (url, body) ← firstTwo "post" arguments
  let url ← expectText "post" url
  let body ← expectText "post" body
  send scope data ⟨.post, url, some body⟩

def httpFamily : List Builtin :=
  let result (_ : Data) (_ : List DataType) : DataType := promiseType responseType
  [{ Builtin.eager "get" httpClass (takes httpType [.named "url" .string]) result httpGet with
    cacheable := true },
  { Builtin.eager "post" httpClass
      (takes httpType [.named "url" .string, .named "body" .string]) result httpPost with
    cacheable := true }]

def promiseParameters (data : Data) : List Parameter :=
  match data.type.dereference with
  | type@(.instanceOf className _) =>
    if className == promiseClass then [.receiver type] else [.receiver (promiseType .unknown)]
  | _ => [.receiver (promiseType .unknown)]

def promisedType (data : Data) (_ : List DataType) : DataType :=
  match data.type.dereference with
  | .instanceOf className arguments =>
    if className == promiseClass then (arguments.head?.map (·.type)).getD .unknown else .unknown
  | _ => .unknown

/-- The value of a settled promise, or the reason of its rejection as a failure. -/
def await : EagerHandler := fun _ _ data _ => do
  match ← expectExternal "await" data with
  | .promise (.resolved value) => return value
  | .promise (.rejected reason) => throw (.reported reason)
  | _ => throw (.unexpected "await" .promise data)

def promiseFamily : List Builtin :=
  [.eager "await" promiseClass promiseParameters promisedType await]

end LivePipeline.Operation
