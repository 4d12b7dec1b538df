import LivePipeline.Node
import LivePipeline.Calendar
import LivePipeline.Url

/-! What evaluation remembers: the latest result of every node, results that may be reused for the
same inputs, and the external objects behind handles. -/

namespace LivePipeline

inductive PromiseState where
  | resolved (value : Data)
  | rejected (reason : String)

/-- An object that lives outside of the program's data. -/
inductive External where
  | date (moment : Moment)
  | url (url : Url)
  | http
  | promise (state : PromiseState)

/-- A remembered result. One that was ever recorded as cacheable survives a sweep. -/
structure CachedResult where
  data : Data
  cacheable : Bool

structure Store where
  results : Table CachedResult := []
  fingerprints : Table Data := []
  instances : Table External := []

namespace Store

def result? (store : Store) (id : EntityId) : Option Data :=
  (Table.get? store.results id).map (·.data)

/-- Records a result. A plain record does not take back that the node is cacheable. -/
def record (cacheable : Bool) (store : Store) (id : EntityId) (data : Data) : Store :=
  let before := ((Table.get? store.results id).map (·.cacheable)).getD false
  { store with results := Table.insert store.results id ⟨data, before || cacheable⟩ }

def setResult (store : Store) (id : EntityId) (data : Data) : Store := store.record false id data

def setCacheableResult (store : Store) (id : EntityId) (data : Data) : Store :=
  store.record true id data

def removeResult (store : Store) (id : EntityId) : Store :=
  { store with results := Table.erase store.results id }

/-- Forgets every result that is not cacheable. -/
def sweep (store : Store) : Store :=
  { store with results := store.results.filter fun (_, result) => result.cacheable }

/-- How many nodes have a result. -/
def size (store : Store) : Nat := store.results.length

def fingerprint? (store : Store) (fingerprint : String) : Option Data :=
  Table.get? store.fingerprints fingerprint

def setFingerprint (store : Store) (fingerprint : String) (data : Data) : Store :=
  { store with fingerprints := Table.insert store.fingerprints fingerprint data }

def instance? (store : Store) (id : EntityId) : Option External := Table.get? store.instances id

def setInstance (store : Store) (id : EntityId) (external : External) : Store :=
  { store with instances := Table.insert store.instances id external }

end Store

end LivePipeline
