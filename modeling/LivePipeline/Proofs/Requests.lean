import LivePipeline.Proofs.Invariants.Sessions
import LivePipeline.Proofs.Renaming
import LivePipeline.Proofs.Requests.Clients

/-! Requests are sent once. A promise stands for each request that was sent, under the key of the request and with the
object that holds the answer, and no step of a program takes any of them away. -/

namespace LivePipeline

/-! ## Steps -/

/-- What happens to a world while programs run in it. -/
inductive World.Step (transport : Transport) : World → World → Prop
  | draw {world : World} {next : Nat} (grown : world.nextId ≤ next) : Step transport world { world with nextId := next }
  | results (world : World) (results : Table CachedResult) :
    Step transport world { world with store := { world.store with results } }
  | find {world : World} {id className : String} {arguments : List Statement} {external : External}
    (missing : world.store.instance? id = none) (makes : Operation.materialize className arguments = .ok external) :
    Step transport world { world with store := world.store.setInstance id external }
  | create (world : World) (external : External) :
    Step transport world
      { world with store := world.store.setInstance (.drawn world.nextId) external, nextId := world.nextId + 1 }
  | extension (world : World) (name : String) (receiver : Data) (arguments : List Data) :
    Step transport world { world with events := .extensionCall name receiver arguments :: world.events }
  | request {world : World} {number : Nat} {request : Request} {state : PromiseState} {className : String}
    (unknown : world.store.fingerprint? (request.key className) = none) (drawn : world.nextId ≤ number)
    (answers : state.Answers transport request) (operationId : EntityId) :
    Step transport world
      ((world.sending request number state).remembering (request.key className) operationId (promiseOf number))

/-- The last world comes from the first one by steps. -/
def World.Later (transport : Transport) : World → World → Prop := Relation.ReflTransGen (World.Step transport)

theorem World.Looked.later {transport : Transport} {world found : World} (looked : world.Looked found) :
    world.Later transport found := by
  cases looked with
  | found => exact .refl
  | made missing makes => exact .single (.find missing makes)

/-- A call of a client goes by steps. -/
theorem World.ClientStep.later {transport : Transport} {world : World} {builtin : Builtin} {data : Data} {arguments : List Data}
    {operationId : EntityId} {outcome : Data × World} (step : world.ClientStep transport builtin data arguments operationId outcome) :
    world.Later transport outcome.2 := by
  cases step with
  | reused known => exact .single (.results world _)
  | refused unknown looked grown fails cause => exact looked.later.tail (.draw grown)
  | sent unknown looked drawn made answers =>
    rw [made.fingerprint_eq] at unknown ⊢
    refine looked.later.tail (.request ?_ drawn answers operationId)
    cases looked <;> exact unknown

/-- A property is an invariant when it is preserved by each step. -/
theorem World.Invariant.ofSteps {transport : Transport} {P : World → Prop}
    (preserves : ∀ {world next}, World.Step transport world next → P world → P next) : World.Invariant (some transport) P where
  draw holds grown := preserves (.draw grown) holds
  results results holds := preserves (.results _ results) holds
  find holds missing makes := preserves (.find missing makes) holds
  create external holds := preserves (.create _ external) holds
  extension name receiver arguments holds := preserves (.extension _ name receiver arguments) holds
  request builtin member caller scope operationId data arguments host fits world holds := by
    have later := (runEager_client host member fits caller operationId world).later
    generalize (LivePipeline.runEager caller scope (.builtin builtin) operationId data arguments world).2 = last at later
    induction later with
    | refl => exact holds
    | tail _ step ih => exact preserves step ih

theorem World.Later.invariant (transport : Transport) (first : World) :
    World.Invariant (some transport) (first.Later transport) :=
  .ofSteps fun step later => later.tail step

/-- What a session comes to is a later world. -/
theorem World.Later.session {transport : Transport} {engine : Engine} (host : engine.scope.transport = some transport)
    (session : List Action) (world : World) : world.Later transport (engine.actAll session world).2 :=
  (invariant transport world).actAll host session world .refl

/-! ## What stays -/

/-- Whatever is remembered in the first world, and the objects made by then, are the same in the other one. -/
structure World.Extends (first world : World) : Prop where
  nextId : first.nextId ≤ world.nextId
  fingerprints : ∀ {key promise}, first.store.fingerprint? key = some promise → world.store.fingerprint? key = some promise
  instances : ∀ {number external}, number < first.nextId → first.store.instance? (.drawn number) = some external →
    world.store.instance? (.drawn number) = some external

namespace World.Extends

variable {transport : Transport} {first middle world : World}

theorem refl (world : World) : world.Extends world := ⟨Nat.le_refl _, fun known => known, fun _ known => known⟩

theorem trans (before : first.Extends middle) (behind : middle.Extends world) : first.Extends world where
  nextId := Nat.le_trans before.nextId behind.nextId
  fingerprints known := behind.fingerprints (before.fingerprints known)
  instances less known := behind.instances (Nat.lt_of_lt_of_le less before.nextId) (before.instances less known)

/-- A new object is kept under another identity than the old ones. -/
theorem place {next number : Nat} (fresh : first.nextId ≤ number) (external : External)
    (grown : first.nextId ≤ next) (events : List Event) :
    first.Extends { store := first.store.setInstance (.drawn number) external, nextId := next, events } where
  nextId := grown
  fingerprints known := known
  instances less known := by
    have apart : EntityId.drawn _ ≠ EntityId.drawn number := fun same =>
      Nat.lt_irrefl _ (Nat.lt_of_lt_of_le (EntityId.drawn_injective same ▸ less) fresh)
    exact (Table.get?_insert_of_ne _ _ apart).trans known

theorem sending {number : Nat} (drawn : first.nextId ≤ number) (request : Request) (state : PromiseState) :
    first.Extends (first.sending request number state) :=
  place drawn (.promise state) (Nat.le_add_right_of_le drawn) _

theorem remember (first : World) {key : String} (unknown : first.store.fingerprint? key = none) (operationId : EntityId) (promise : Data) :
    first.Extends (first.remembering key operationId promise) where
  nextId := Nat.le_refl _
  fingerprints {other found} known := by
    have apart : other ≠ key := fun same => by rw [same, unknown] at known; cases known
    exact (Table.get?_insert_of_ne _ _ apart).trans known
  instances _ known := known

theorem step (step : World.Step transport first world) : first.Extends world := by
  cases step with
  | draw grown => exact ⟨grown, fun known => known, fun _ known => known⟩
  | results => exact ⟨Nat.le_refl _, fun known => known, fun _ known => known⟩
  | find missing makes =>
    refine ⟨Nat.le_refl _, fun known => known, fun {number _} _ known => ?_⟩
    have apart : EntityId.drawn number ≠ _ := fun same => by rw [same, missing] at known; cases known
    exact (Table.get?_insert_of_ne _ _ apart).trans known
  | create external => exact place (Nat.le_refl _) external (Nat.le_succ _) _
  | extension => exact ⟨Nat.le_refl _, fun known => known, fun _ known => known⟩
  | request unknown drawn answers operationId =>
    exact (sending drawn _ _).trans (remember (first.sending _ _ _) unknown operationId _)

theorem later (later : first.Later transport world) : first.Extends world := by
  induction later with
  | refl => exact .refl first
  | tail _ step ih => exact ih.trans (.step step)

end World.Extends

/-- The promise of the request is there, and it holds what the transport answered. -/
def World.Holds (transport : Transport) (world : World) (request : Request) (promise : Data) : Prop :=
  ∃ number state, promise = promiseOf number ∧ number < world.nextId ∧
    world.store.instance? (.drawn number) = some (.promise state) ∧ state.Answers transport request

theorem World.Holds.extends {transport : Transport} {first world : World} (grows : first.Extends world) {request : Request}
    {promise : Data} (holds : first.Holds transport request promise) : world.Holds transport request promise := by
  obtain ⟨number, state, same, less, known, answers⟩ := holds
  exact ⟨number, state, same, Nat.lt_of_lt_of_le less grows.nextId, grows.instances less known, answers⟩

/-- Requests and remembered promises correspond in their order. -/
structure World.Answered (transport : Transport) (world : World) : Prop where
  distinct : (Table.keys world.store.fingerprints).Nodup
  each : List.Forall₂ (fun request entry => (∃ className, entry.1 = request.key className) ∧ world.Holds transport request entry.2)
    world.requests world.store.fingerprints

namespace World.Answered

variable {transport : Transport} {first world : World}

/-- A step that sends nothing. -/
theorem silent (answered : first.Answered transport) (grows : first.Extends world) (requests : world.requests = first.requests)
    (fingerprints : world.store.fingerprints = first.store.fingerprints) : world.Answered transport := by
  refine ⟨fingerprints ▸ answered.distinct, ?_⟩
  rw [requests, fingerprints]
  exact answered.each.imp fun _ _ ⟨key, holds⟩ => ⟨key, holds.extends grows⟩

/-- The promise of a new request is remembered behind the others. -/
theorem sent (answered : first.Answered transport) {number : Nat} {request : Request} {state : PromiseState} {className : String}
    (unknown : first.store.fingerprint? (request.key className) = none) (operationId : EntityId)
    (grows : first.Extends ((first.sending request number state).remembering (request.key className) operationId (promiseOf number)))
    (answers : state.Answers transport request) :
    ((first.sending request number state).remembering (request.key className) operationId (promiseOf number)).Answered transport := by
  have new := Table.get?_eq_none unknown
  refine ⟨Table.nodup_insert answered.distinct _ _, ?_⟩
  rw [World.requests_remembering, World.requests_sending, World.fingerprints_remembering, World.fingerprints_sending,
    Table.insert_of_notMem new]
  refine List.rel_append (answered.each.imp fun _ _ ⟨key, holds⟩ => ⟨key, holds.extends grows⟩) (.cons ⟨⟨_, rfl⟩, ?_⟩ .nil)
  exact ⟨_, _, rfl, Nat.lt_add_of_pos_right (by decide), Table.get?_insert_self _ _ _, answers⟩

theorem step (answered : first.Answered transport) (step : World.Step transport first world) : world.Answered transport := by
  have grows := World.Extends.step step
  cases step with
  | request unknown drawn answers operationId => exact answered.sent unknown operationId grows answers
  | extension => exact answered.silent grows ((first.requests_cons _).trans (List.append_nil _)) rfl
  | _ => exact answered.silent grows rfl rfl

theorem later (answered : first.Answered transport) (later : first.Later transport world) : world.Answered transport := by
  induction later with
  | refl => exact answered
  | tail _ step ih => exact ih.step step

end World.Answered

/-- Nothing has happened yet. -/
def World.Blank (world : World) : Prop := world.store.fingerprints = [] ∧ world.requests = []

theorem World.Blank.answered {world : World} (blank : world.Blank) (transport : Transport) : world.Answered transport := by
  refine ⟨?_, ?_⟩
  · rw [blank.1]
    exact .nil
  · rw [blank.1, blank.2]
    exact .nil

/-- What is remembered was asked for by instances of the class of clients. -/
def World.OnlyClients (world : World) : Prop :=
  ∀ key ∈ Table.keys world.store.fingerprints, ∃ (request : Request) (builtin : Builtin) (client : Data) (arguments : List Data),
    request.MadeBy Operation.httpClass builtin client arguments ∧ key = fingerprint builtin client arguments

namespace World.Answered

variable {transport : Transport} {world : World}

/-- A request is known by its key. -/
theorem nodup (answered : world.Answered transport) (clients : world.OnlyClients) : world.requests.Nodup := by
  have keys : world.requests.map (·.key Operation.httpClass) = Table.keys world.store.fingerprints := by
    have each : List.Forall₂ (fun entry (request : Request) => entry.1 = request.key Operation.httpClass)
        world.store.fingerprints world.requests := by
      refine ((List.forall₂_and_left _ _).mpr ⟨fun entry among => clients entry.1 (List.mem_map_of_mem among), answered.each.flip⟩).imp ?_
      rintro entry request ⟨⟨other, builtin, client, arguments, made, asked⟩, ⟨className, key⟩, -⟩
      rw [made.fingerprint_eq] at asked
      rw [asked, (Request.key_inj (asked.symm.trans key)).1]
    rw [Table.keys, ← List.forall₂_eq_eq_eq, List.forall₂_map_left_iff, List.forall₂_map_right_iff]
    exact each.flip.imp fun _ _ same => same.symm
  exact List.Nodup.of_map _ (keys ▸ answered.distinct)

/-- What is remembered for a request of a client is its promise. -/
theorem known (answered : world.Answered transport) {request : Request} {promise : Data}
    (known : world.store.fingerprint? (request.key Operation.httpClass) = some promise) :
    request ∈ world.requests ∧ world.Holds transport request promise := by
  obtain ⟨other, sent, ⟨className, key⟩, holds⟩ := exists_of_mem_right answered.each (Table.mem_of_get? known)
  obtain ⟨rfl, -⟩ := Request.key_inj key
  exact ⟨sent, holds⟩

end World.Answered

/-! ## Calls -/

/-- What awaiting a settled promise gives. -/
def PromiseState.awaited : PromiseState → Run Data
  | .resolved value => return value
  | .rejected reason => liftM (Data.error .runtimeError reason)

theorem runEager_await {builtin : Builtin} (member : builtin ∈ Operation.promiseFamily) {world : World} {number : Nat}
    {state : PromiseState} (kept : world.store.instance? (.drawn number) = some (.promise state)) (caller : Caller) (scope : Scope)
    (operationId : EntityId) (arguments : List Data) :
    runEager caller scope (.builtin builtin) operationId (promiseOf number) arguments world = state.awaited world := by
  simp only [Operation.promiseFamily, List.mem_singleton] at member
  subst member
  have found : (Operation.expectExternal "await" (promiseOf number)).run world = (.ok (.promise state), world) := by
    change (Operation.externalOf Operation.promiseClass [] (.drawn number)).run world = _
    rw [Operation.externalOf_run, kept]
    rfl
  change Attempt.settle (Operation.await caller scope (promiseOf number) arguments) world = _
  rw [Attempt.settle_run, Operation.await, Attempt.run_bind, found]
  cases state <;> rfl

/-- A call of a client that comes to no error has its promise remembered. -/
theorem World.ClientStep.remembered {transport : Transport} {world : World} {builtin : Builtin} {data : Data} {arguments : List Data}
    {operationId : EntityId} {outcome : Data × World} (step : world.ClientStep transport builtin data arguments operationId outcome)
    (succeeds : outcome.1.isError = false) : outcome.2.store.fingerprint? (fingerprint builtin data arguments) = some outcome.1 := by
  cases step with
  | reused known => exact known
  | refused unknown looked grown fails => cases fails.symm.trans succeeds
  | sent => exact Table.get?_insert_self _ _ _

/-- A call of a client comes to a promise unless another object is kept behind its receiver. -/
theorem World.Answered.succeeds {transport : Transport} {world : World} (answered : world.Answered transport) {request : Request}
    {builtin : Builtin} {client : Data} {arguments : List Data} (asks : request.MadeBy Operation.httpClass builtin client arguments)
    {operationId : EntityId} {outcome : Data × World} (step : world.ClientStep transport builtin client arguments operationId outcome)
    (offers : world.Offers client) : outcome.1.isError = false := by
  cases step with
  | reused known =>
    rw [asks.fingerprint_eq] at known
    obtain ⟨-, number, state, rfl, -⟩ := answered.known known
    rfl
  | refused unknown looked grown fails cause => exact (cause request asks offers).elim
  | sent => rfl

/-- From this world on calls for the request give the promise and nothing is sent, and awaiting it gives what the transport answered. -/
def World.Reuses (transport : Transport) (world : World) (request : Request) (promise : Data) : Prop :=
  ∃ state : PromiseState, state.Answers transport request ∧ ∀ last, world.Later transport last →
    (∀ {builtin client arguments}, request.MadeBy Operation.httpClass builtin client arguments →
      ∀ caller scope operationId, scope.transport = some transport →
        runEager caller scope (.builtin builtin) operationId client arguments last
          = (promise, { last with store := last.store.setCacheableResult operationId promise })) ∧
    ∀ builtin ∈ Operation.promiseFamily, ∀ caller scope operationId arguments,
      runEager caller scope (.builtin builtin) operationId promise arguments last = state.awaited last

theorem World.Answered.reuses {transport : Transport} {world : World} (answered : world.Answered transport) {request : Request}
    {promise : Data} (known : world.store.fingerprint? (request.key Operation.httpClass) = some promise) :
    world.Reuses transport request promise := by
  obtain ⟨-, number, state, rfl, less, kept, answers⟩ := answered.known known
  refine ⟨state, answers, fun last later => ?_⟩
  have grows := World.Extends.later later
  refine ⟨fun {builtin client arguments} made caller scope operationId host => ?_, fun builtin member caller scope operationId arguments =>
    runEager_await member (grows.instances less kept) caller scope operationId arguments⟩
  have step := runEager_client host made.member made.fits caller operationId last
  have found := grows.fingerprints known
  rw [← made.fingerprint_eq] at found
  generalize runEager caller scope (.builtin builtin) operationId client arguments last = outcome at step
  cases step with
  | reused known => 
    rw [found] at known
    cases known
    rfl
  | refused unknown => rw [found] at unknown; cases unknown
  | sent unknown => rw [found] at unknown; cases unknown

/-- Sessions go by steps. At every step of one each request was sent at most once, if all clients are instances of their class.
A call of such a client comes to a promise unless another object is kept behind its receiver; then the request has been sent, and
from there on its calls give this promise and awaiting it gives what the transport answered. -/
theorem requests_are_sent_once (transport : Transport) :
    (∀ {engine : Engine}, engine.scope.transport = some transport → ∀ (session : List Action) (world : World),
      world.Later transport (engine.actAll session world).2) ∧
    ∀ {start world : World}, start.Blank → start.Later transport world →
      (world.OnlyClients → world.requests.Nodup) ∧
      ∀ {request : Request} {builtin : Builtin} {client : Data} {arguments : List Data},
        request.MadeBy Operation.httpClass builtin client arguments →
        ∀ (caller : Caller) (scope : Scope) (operationId : EntityId), scope.transport = some transport →
          let made := runEager caller scope (.builtin builtin) operationId client arguments world
          (world.Offers client → made.1.isError = false) ∧
          (made.1.isError = false → request ∈ made.2.requests ∧ made.2.Reuses transport request made.1) := by
  refine ⟨fun host session world => .session host session world, fun {start world} blank later => ?_⟩
  have answered := (blank.answered transport).later later
  refine ⟨answered.nodup, fun {request builtin client arguments} asks caller scope operationId host => ?_⟩
  have step := runEager_client host asks.member asks.fits caller operationId world
  have behind := answered.later step.later
  refine ⟨answered.succeeds asks step, fun succeeds => ?_⟩
  have remembered := asks.fingerprint_eq ▸ step.remembered succeeds
  exact ⟨(behind.known remembered).1, behind.reuses remembered⟩

/-- A client asks for the same page before and behind a sweep. -/
theorem page_is_requested_once :
    let transport : Transport := fun _ => .ok ⟨200, "found"⟩
    let request : Request := ⟨.get, "https://example.com", none⟩
    let scope : Scope := { transport := some transport }
    let client : Data := ⟨"client", Operation.httpType, .handle "Http" [] "http"⟩
    let url : Data := ⟨"url", .string, .text "https://example.com"⟩
    let get := Operation.httpFamily[0]
    let engine : Engine := ⟨scope, ⟨"project", "project", []⟩⟩
    let world := (engine.actAll [.sweep] (runEager scope.caller scope (.builtin get) "first" client [url] {}).2).2
    let again := runEager scope.caller scope (.builtin get) "second" client [url] world
    world.OnlyClients ∧ world.requests.Nodup ∧ world.Offers client ∧ again.1.isError = false ∧ request ∈ again.2.requests
      ∧ again.2.Reuses transport request again.1 := by
  intro transport request scope client url get engine world again
  obtain ⟨sessions, once⟩ := requests_are_sent_once transport
  have asks : request.MadeBy Operation.httpClass get client [url] := by
    refine ⟨List.getElem_mem _, rfl, ⟨[], "http", rfl⟩, by decide, rfl⟩
  have host : engine.scope.transport = some transport := rfl
  have blank : World.Blank {} := ⟨rfl, rfl⟩
  have later : World.Later transport {} world :=
    (runEager_client rfl asks.member asks.fits scope.caller "first" {}).later.trans (sessions host [.sweep] _)
  have keys : Table.keys world.store.fingerprints = [fingerprint get client [url]] := by rfl
  have clients : world.OnlyClients := by
    rw [World.OnlyClients, keys]
    exact fun key among => ⟨request, get, client, [url], asks, List.mem_singleton.mp among⟩
  have offers : world.Offers client := by
    rintro _ _ _ external ⟨⟩ known
    have kept : world.store.instance? "http" = some .http := by rfl
    exact Option.some.inj (known.symm.trans kept)
  obtain ⟨distinct, calls⟩ := once blank later
  obtain ⟨succeeds, reuses⟩ := calls asks scope.caller scope "second" rfl
  exact ⟨clients, distinct clients, offers, succeeds offers, reuses (succeeds offers)⟩

end LivePipeline
