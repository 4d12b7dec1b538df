import Mathlib.Data.List.Basic
import LivePipeline.Evaluation.Call
import LivePipeline.Proofs.Drawing
import LivePipeline.Proofs.Requests.Keys

/-! What a call of an http client does: it reuses a promise, it is refused and nothing is sent, or it sends the request
that its receiver and its arguments spell. -/

namespace LivePipeline

/-! ## Requests -/

def Event.request? : Event → Option Request
  | .request sent => some sent
  | .extensionCall _ _ _ => none

/-- The requests that were sent, oldest first. -/
def World.requests (world : World) : List Request := world.events.reverse.filterMap Event.request?

theorem World.requests_cons (world : World) (event : Event) :
    { world with events := event :: world.events }.requests = world.requests ++ event.request?.toList := by
  rw [World.requests, World.requests, List.reverse_cons, List.filterMap_append]
  cases event <;> rfl

/-- The promise holds what the transport answered. -/
inductive PromiseState.Answers (transport : Transport) (request : Request) : PromiseState → Prop
  | resolved {response : Response} (answered : transport request = .ok response) (next : Nat) :
    Answers transport request (.resolved ((Operation.responseData response).run next).1)
  | rejected {reason : String} (refused : transport request = .error reason) : Answers transport request (.rejected reason)

/-- The call has an instance of the class as its receiver and gives the texts of the request. -/
structure Request.MadeBy (request : Request) (className : String) (builtin : Builtin) (data : Data) (arguments : List Data) : Prop where
  member : builtin ∈ Operation.httpFamily
  name : builtin.name = request.method.operation
  handle : ∃ made id, data.value = .handle className made id
  body : request.body.isSome ↔ request.method = .post
  inputs : arguments.map (·.text?) = request.inputs.map some

/-- The object behind a handle is missing in the world, or it is a client. -/
def World.Offers (world : World) (data : Data) : Prop :=
  ∀ className made id external, data.value = .handle className made id → world.store.instance? id = some external → external = .http

/-- The object behind a handle was looked up, and made if it was missing. -/
inductive World.Looked (world : World) : World → Prop
  | found : Looked world world
  | made {id className : String} {arguments : List Statement} {external : External} (missing : world.store.instance? id = none)
    (makes : Operation.materialize className arguments = .ok external) :
    Looked world { world with store := world.store.setInstance id external }

/-- The promise of the request that is sent when the next identity has the given number. -/
def promiseOf (number : Nat) : Data :=
  ⟨.drawn (number + 1), Operation.promiseType Operation.responseType, .handle Operation.promiseClass [] (.drawn number)⟩

/-- A request is sent and the promise that holds the answer is made. -/
def World.sending (world : World) (request : Request) (number : Nat) (state : PromiseState) : World :=
  { store := world.store.setInstance (.drawn number) (.promise state), nextId := number + 2,
    events := .request request :: world.events }

namespace Operation

theorem externalOf_cases (className : String) (arguments : List Statement) (id : EntityId) (world : World) :
    (∃ failure, (externalOf className arguments id).run world = (.error failure, world) ∧ world.store.instance? id = none
      ∧ materialize className arguments = .error failure)
    ∨ ∃ external found, (externalOf className arguments id).run world = (.ok external, found) ∧ world.Looked found
      ∧ (world.store.instance? id = none → materialize className arguments = .ok external)
      ∧ ∀ known, world.store.instance? id = some known → external = known := by
  rw [externalOf_run]
  cases known : world.store.instance? id with
  | some external => exact .inr ⟨external, world, rfl, .found, by simp, by simp⟩
  | none =>
    cases made : materialize className arguments with
    | error failure => exact .inl ⟨failure, rfl, rfl, rfl⟩
    | ok external => exact .inr ⟨external, _, rfl, .made known made, fun _ => rfl, by simp⟩

theorem materialize_client (arguments : List Statement) : materialize httpClass arguments = .ok .http := by
  simp [materialize]

end Operation

theorem Attempt.run_bind (attempt : Attempt α) (next : α → Attempt β) (world : World) :
    (attempt >>= next).run world = match (attempt.run world).1 with
      | .ok value => (next value).run (attempt.run world).2
      | .error failure => (.error failure, (attempt.run world).2) := by
  change (ExceptT.bindCont next (attempt.run world).1) (attempt.run world).2 = _
  generalize attempt.run world = outcome
  obtain ⟨_ | _, _⟩ := outcome <;> rfl

theorem World.requests_sending (world : World) (request : Request) (number : Nat) (state : PromiseState) :
    (world.sending request number state).requests = world.requests ++ [request] :=
  world.requests_cons (.request request)

theorem World.fingerprints_sending (world : World) (request : Request) (number : Nat) (state : PromiseState) :
    (world.sending request number state).store.fingerprints = world.store.fingerprints := rfl

open Operation in
/-- Sending fails at the object behind the receiver, or it comes to a promise. -/
theorem send_run {transport : Transport} {scope : Scope} (host : scope.transport = some transport) (data : Data) (request : Request)
    (world : World) :
    (∃ found failure, world.Looked found ∧ (send scope data request).run world = (.error failure, found)
      ∧ ∀ made id, data.value = .handle httpClass made id → ¬ world.Offers data)
    ∨ ∃ found number state, world.Looked found ∧ found.nextId ≤ number ∧ state.Answers transport request
      ∧ (∃ className made id, data.value = .handle className made id)
      ∧ (send scope data request).run world = (.ok (promiseOf number), found.sending request number state) := by
  unfold send expectExternal
  split
  · next className made id value =>
    rw [Attempt.run_bind]
    rcases externalOf_cases className made id world with ⟨failure, ran, missing, fails⟩ | ⟨external, found, ran, looked, makes, knows⟩
    · refine .inl ⟨world, failure, .found, by rw [ran], fun made' id' same => ?_⟩
      rw [value] at same
      cases same
      rw [materialize_client] at fails
      cases fails
    · rw [ran]
      cases external with
      | http =>
        rw [host]
        refine .inr ?_
        dsimp only
        cases answered : transport request with
        | ok response =>
          have grows : Fresh.Grows (responseData response) := .responseData response
          exact ⟨found, _, _, looked, grows found.nextId, .resolved answered found.nextId, ⟨_, _, _, value⟩, rfl⟩
        | error reason => exact ⟨found, found.nextId, _, looked, Nat.le_refl _, .rejected answered, ⟨_, _, _, value⟩, rfl⟩
      | _ =>
        refine .inl ⟨found, _, looked, rfl, fun made' id' same offers => ?_⟩
        rw [value] at same
        cases same
        cases known : world.store.instance? id with
        | none => cases (materialize_client made).symm.trans (makes known)
        | some other => cases (knows other known).trans (offers _ _ _ other value known)
  · next other =>
    exact .inl ⟨world, .unexpected request.method.label .anInstance data, .found, rfl, fun made id value => (other _ _ _ value).elim⟩


namespace Operation

theorem expectText_some {name spelled : String} {data : Data} (text : data.text? = some spelled) : expectText name data = .ok spelled := by
  rw [expectText, expect, text]

theorem expectText_none {name : String} {data : Data} (text : data.text? = none) :
    expectText name data = .error (.unexpected name .string data) := by
  rw [expectText, expect, text]

/-- A call of a client sends the request that it spells, and it fails at once when it spells none. -/
theorem client_run {builtin : Builtin} (member : builtin ∈ httpFamily) {data : Data} {arguments : List Data}
    (fits : arguments.length + 1 = (builtin.parameters data).length) (caller : Caller) (scope : Scope) :
    ∃ run : EagerHandler, builtin.handler = .eager run ∧
      ((∃ request : Request, (∀ className made id, data.value = .handle className made id →
          request.MadeBy className builtin data arguments) ∧ run caller scope data arguments = send scope data request)
      ∨ (∃ failure, run caller scope data arguments = throw failure)
        ∧ ∀ (request : Request) className, ¬ request.MadeBy className builtin data arguments) := by
  have listed := member
  simp only [httpFamily, List.mem_cons, List.not_mem_nil, or_false] at member
  rcases member with rfl | rfl
  · refine ⟨httpGet, rfl, ?_⟩
    obtain ⟨url, rfl⟩ := List.length_eq_one_iff.mp (Nat.succ.inj fits)
    have ran : httpGet caller scope data [url]
      = (liftM (expectText "get" url) : Attempt String) >>= fun url => send scope data ⟨.get, url, none⟩ := rfl
    rw [ran]
    cases text : url.text? with
    | none =>
      rw [expectText_none text]
      refine .inr ⟨⟨_, rfl⟩, fun request className made => ?_⟩
      have inputs := made.inputs
      simp [Request.inputs, text] at inputs
    | some spelled =>
      rw [expectText_some text]
      exact .inl ⟨⟨.get, spelled, none⟩, fun className made id value =>
        ⟨listed, rfl, ⟨made, id, value⟩, by simp, by simp [text, Request.inputs]⟩, rfl⟩
  · refine ⟨httpPost, rfl, ?_⟩
    obtain ⟨url, body, rfl⟩ := List.length_eq_two.mp (Nat.succ.inj fits)
    have ran : httpPost caller scope data [url, body]
      = (liftM (expectText "post" url) : Attempt String) >>= fun url =>
          (liftM (expectText "post" body) : Attempt String) >>= fun body => send scope data ⟨.post, url, some body⟩ := rfl
    rw [ran]
    cases text : url.text? with
    | none =>
      rw [expectText_none text]
      refine .inr ⟨⟨_, rfl⟩, fun request className made => ?_⟩
      have inputs := made.inputs
      simp [Request.inputs, text] at inputs
    | some spelled =>
      rw [expectText_some text]
      cases text' : body.text? with
      | none =>
        rw [expectText_none text']
        refine .inr ⟨⟨_, rfl⟩, fun request className made => ?_⟩
        have inputs := made.inputs
        cases body' : request.body <;> simp [Request.inputs, text', body'] at inputs
      | some spelled' =>
        rw [expectText_some text']
        exact .inl ⟨⟨.post, spelled, some spelled'⟩, fun className made id value =>
          ⟨listed, rfl, ⟨made, id, value⟩, by simp, by simp [text, text', Request.inputs]⟩, rfl⟩

end Operation


theorem Data.plain_of_text {data : Data} {text : String} (spelled : data.text? = some text) : data.plain = .text text := by
  obtain ⟨id, type, value⟩ := data
  cases value <;> simp_all [Data.text?, Data.plain, Value.plain]

theorem plain_of_texts {arguments : List Data} {texts : List String} (spelled : arguments.map (·.text?) = texts.map some) :
    arguments.map Data.plain = texts.map .text := by
  induction arguments generalizing texts with
  | nil => cases texts <;> simp_all
  | cons argument rest ih =>
    cases texts with
    | nil => cases spelled
    | cons text texts =>
      rw [List.map_cons, List.map_cons, List.cons.injEq] at spelled
      rw [List.map_cons, List.map_cons, Data.plain_of_text spelled.1, ih spelled.2]

/-- The fingerprint of a call is the key of the request that it spells. -/
theorem Request.MadeBy.fingerprint_eq {request : Request} {className : String} {builtin : Builtin} {data : Data} {arguments : List Data}
    (made : request.MadeBy className builtin data arguments) : fingerprint builtin data arguments = request.key className := by
  obtain ⟨_, _, value⟩ := made.handle
  have group : builtin.group = Operation.httpClass := by
    have member := made.member
    simp only [Operation.httpFamily, List.mem_cons, List.not_mem_nil, or_false] at member
    rcases member with rfl | rfl <;> rfl
  have receiver : data.plain = .text ("<" ++ className ++ ">") := by rw [Data.plain, value, Value.plain]
  rw [fingerprint, group, made.name, receiver, plain_of_texts made.inputs]
  simp only [Request.key, Request.inputText, String.append_assoc]

/-- A call that spells a request has an argument for each parameter. -/
theorem Request.MadeBy.fits {request : Request} {className : String} {builtin : Builtin} {data : Data} {arguments : List Data}
    (made : request.MadeBy className builtin data arguments) : arguments.length + 1 = (builtin.parameters data).length := by
  have count := congrArg List.length made.inputs
  have name := made.name
  have body := made.body
  have member := made.member
  obtain ⟨method, url, content⟩ := request
  rw [List.length_map, List.length_map] at count
  simp only [Operation.httpFamily, List.mem_cons, List.not_mem_nil, or_false] at member
  rcases member with rfl | rfl <;> cases method <;> cases content <;>
    simp_all [Builtin.eager, Method.operation, Request.inputs, Operation.takes]

/-- A response is remembered for later calls. -/
def World.remembering (world : World) (key : String) (operationId : EntityId) (promise : Data) : World :=
  { world with store := (world.store.setFingerprint key promise).setCacheableResult operationId promise }

theorem World.requests_remembering (world : World) (key : String) (operationId : EntityId) (promise : Data) :
    (world.remembering key operationId promise).requests = world.requests := rfl

theorem World.fingerprints_remembering (world : World) (key : String) (operationId : EntityId) (promise : Data) :
    (world.remembering key operationId promise).store.fingerprints = Table.insert world.store.fingerprints key promise := rfl

/-- What a call of a client comes to in a world. -/
inductive World.ClientStep (transport : Transport) (world : World) (builtin : Builtin) (data : Data) (arguments : List Data)
    (operationId : EntityId) : Data × World → Prop
  /-- The promise of an earlier call is reused. -/
  | reused {promise : Data} (known : world.store.fingerprint? (fingerprint builtin data arguments) = some promise) :
    ClientStep transport world builtin data arguments operationId
      (promise, { world with store := world.store.setCacheableResult operationId promise })
  /-- Nothing is sent. -/
  | refused {found : World} {error : Data} {next : Nat}
    (unknown : world.store.fingerprint? (fingerprint builtin data arguments) = none) (looked : world.Looked found)
    (grown : found.nextId ≤ next) (fails : error.isError = true)
    (cause : ∀ request : Request, request.MadeBy Operation.httpClass builtin data arguments → ¬ world.Offers data) :
    ClientStep transport world builtin data arguments operationId (error, { found with nextId := next })
  /-- The request is sent, and its promise remembered. -/
  | sent {found : World} {number : Nat} {request : Request} {state : PromiseState} {className : String}
    (unknown : world.store.fingerprint? (fingerprint builtin data arguments) = none) (looked : world.Looked found)
    (drawn : found.nextId ≤ number) (made : request.MadeBy className builtin data arguments)
    (answers : state.Answers transport request) :
    ClientStep transport world builtin data arguments operationId
      (promiseOf number, (found.sending request number state).remembering (fingerprint builtin data arguments) operationId (promiseOf number))

theorem runCached_run (key : String) (operationId : EntityId) (run : Run Data) (world : World) :
    runCached key operationId run world = match world.store.fingerprint? key with
      | some cached => (cached, { world with store := world.store.setCacheableResult operationId cached })
      | none => if (run world).1.isError then run world else ((run world).1, (run world).2.remembering key operationId (run world).1) := by
  have looked : runCached key operationId run world = (match world.store.fingerprint? key with
      | some cached => do
        Run.updateStore (·.setCacheableResult operationId cached)
        return cached
      | none => do
        let result ← run
        if result.isError then return result
        Run.updateStore fun store => (store.setFingerprint key result).setCacheableResult operationId result
        return result : Run Data) world := rfl
  rw [looked]
  cases world.store.fingerprint? key with
  | some cached => rfl
  | none =>
    change (if (run world).1.isError then _ else _ : Run Data) (run world).2 = if (run world).1.isError then _ else _
    split <;> rfl

theorem Attempt.settle_run (attempt : Attempt Data) (world : World) :
    attempt.settle world = match (attempt.run world).1 with
      | .ok data => (data, (attempt.run world).2)
      | .error failure => Run.draw (Data.error .runtimeError failure.message) (attempt.run world).2 := by
  change (match (attempt.run world).1 with
    | .ok data => (pure data : Run Data)
    | .error failure => liftM (Data.error .runtimeError failure.message)) (attempt.run world).2 = _
  generalize attempt.run world = outcome
  obtain ⟨_ | _, _⟩ := outcome <;> rfl

theorem runEager_client {transport : Transport} {scope : Scope} (host : scope.transport = some transport) {builtin : Builtin}
    (member : builtin ∈ Operation.httpFamily) {data : Data} {arguments : List Data}
    (fits : arguments.length + 1 = (builtin.parameters data).length) (caller : Caller) (operationId : EntityId) (world : World) :
    world.ClientStep transport builtin data arguments operationId (runEager caller scope (.builtin builtin) operationId data arguments world) := by
  have cacheable : builtin.cacheable = true := by
    simp only [Operation.httpFamily, List.mem_cons, List.not_mem_nil, or_false] at member
    rcases member with rfl | rfl <;> rfl
  obtain ⟨run, handler, outcome⟩ := Operation.client_run member fits caller scope
  rw [runEager, handler]
  dsimp only
  rw [if_pos cacheable, runCached_run]
  cases unknown : world.store.fingerprint? (fingerprint builtin data arguments) with
  | some promise => exact .reused unknown
  | none =>
    dsimp only
    rw [Attempt.settle_run]
    rcases outcome with ⟨request, made, ran⟩ | ⟨⟨failure, ran⟩, none⟩
    · rw [ran]
      rcases send_run host data request world with ⟨found, failure, looked, ran, blocked⟩
        | ⟨found, number, state, looked, drawn, answers, ⟨className, _, _, value⟩, ran⟩
      · rw [ran]
        exact .refused unknown looked (Nat.le_succ _) rfl fun request made => made.handle.elim fun made ⟨id, value⟩ => blocked made id value
      · rw [ran]
        exact .sent unknown looked drawn (made className _ _ value) answers
    · rw [ran]
      exact .refused unknown .found (Nat.le_succ _) rfl fun request made => (none request _ made).elim

end LivePipeline
