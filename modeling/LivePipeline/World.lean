import LivePipeline.Store
import LivePipeline.Node.Build

/-! The state that a run threads through: the store, the supply of identities, and the calls that
left the program, in order. -/

namespace LivePipeline

inductive Method where
  | get
  | post
  deriving DecidableEq

def Method.label : Method → String
  | get => "GET"
  | post => "POST"

structure Request where
  method : Method
  url : String
  body : Option String

structure Response where
  status : Nat
  body : String

/-- A call that the host can observe. -/
inductive Event where
  | extensionCall (name : String) (receiver : Data) (arguments : List Data)
  | request (request : Request)

structure World where
  store : Store := {}
  nextId : Nat := 0
  /-- Latest first. -/
  events : List Event := []

/-- Computations in a world. -/
abbrev Run := StateM World

namespace Run

def draw (build : Fresh α) : Run α := fun world =>
  let (value, next) := build.run world.nextId
  (value, { world with nextId := next })

def updateStore (change : Store → Store) : Run Unit :=
  modify fun world => { world with store := change world.store }

def store : Run Store := return (← get).store

def result? (id : EntityId) : Run (Option Data) := return (← store).result? id

def setResult (id : EntityId) (data : Data) : Run Unit := updateStore (·.setResult id data)

def observe (event : Event) : Run Unit :=
  modify fun world => { world with events := event :: world.events }

end Run

instance : MonadLift Fresh Run := ⟨Run.draw⟩

end LivePipeline
