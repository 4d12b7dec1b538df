import LivePipeline.Proofs.Containers
import LivePipeline.Proofs.Places
import LivePipeline.Proofs.Standards.Evaluation

/-! Runs that spare the results of some nodes. Only the evaluation of a node replaces its result, and only operation values
lead to nodes that are not part of the program that is run. So a run spares nodes that are not in its program if
they are in no operation value that it could be handed, or if no operation value with one of them is called. -/

namespace LivePipeline

theorem Mention.mem_filterMap_node? {mentions : List Mention} {id : EntityId} :
    id ∈ mentions.filterMap Mention.node? ↔ .node id ∈ mentions := by
  rw [List.mem_filterMap]
  constructor
  · rintro ⟨mention, among, found⟩
    cases mention with
    | node other => cases found; exact among
    | _ => cases found
  · exact fun among => ⟨.node id, among, rfl⟩

/-! ## What data hands out -/

mutual

/-- The nodes inside of the operation values that one gets hold of with the value: it may be one itself, and it may have
some among its elements. -/
def Value.handed : Value → List EntityId
  | .array items => itemsHanded items
  | .record entries => entriesHanded entries
  | .operation name parameters body => (Value.operation name parameters body).ids
  | .undefined | .text _ | .number _ | .boolean _ | .condition _ _ _ | .error _ | .handle _ _ _ | .reference _ _ => []
termination_by structural value => value

def Data.handed : Data → List EntityId
  | ⟨_, _, value⟩ => value.handed
termination_by structural data => data

def Statement.handed : Statement → List EntityId
  | ⟨_, data, _, _, _⟩ => data.handed
termination_by structural statement => statement

def itemsHanded : List Statement → List EntityId
  | [] => []
  | statement :: rest => statement.handed ++ itemsHanded rest
termination_by structural statements => statements

def entriesHanded : List (String × Statement) → List EntityId
  | [] => []
  | (_, statement) :: rest => statement.handed ++ entriesHanded rest
termination_by structural entries => entries

end

theorem Data.handed_eta (data : Data) : data.handed = data.value.handed := by cases data; rfl

theorem Statement.handed_eta (statement : Statement) : statement.handed = statement.data.handed := by cases statement; rfl

theorem itemsHanded_eq_flatMap (items : List Statement) : itemsHanded items = items.flatMap Statement.handed := by
  induction items with
  | nil => rfl
  | cons item rest ih => rw [itemsHanded, ih, List.flatMap_cons]

theorem entriesHanded_eq_flatMap (entries : List (String × Statement)) : entriesHanded entries = entries.flatMap (·.2.handed) := by
  induction entries with
  | nil => rfl
  | cons entry rest ih => rw [entriesHanded, ih, List.flatMap_cons]

/-- None of the nodes is in an operation value that the data hands out. -/
def Data.Withholds (data : Data) (nodes : List EntityId) : Prop := ∀ id ∈ nodes, id ∉ data.handed

instance (data : Data) (nodes : List EntityId) : Decidable (data.Withholds nodes) :=
  inferInstanceAs (Decidable (∀ id ∈ nodes, id ∉ data.handed))

namespace Data.Withholds

variable {nodes : List EntityId} {id : EntityId} {type : DataType}

theorem leaf {value : Value} (isLeaf : value.isLeaf = true) : (Data.mk id type value).Withholds nodes := by
  cases value with
  | array _ | record _ | operation _ _ _ | reference _ _ => cases isLeaf
  | _ => exact fun _ _ => List.not_mem_nil

theorem array {items : List Statement} :
    (Data.mk id type (.array items)).Withholds nodes ↔ ∀ item ∈ items, item.data.Withholds nodes := by
  simp only [Withholds, Data.handed, Value.handed, itemsHanded_eq_flatMap, List.mem_flatMap, Statement.handed_eta]
  exact ⟨fun all item among node listed within => all node listed ⟨item, among, within⟩,
    fun all node listed ⟨item, among, within⟩ => all item among node listed within⟩

theorem record {entries : List (String × Statement)} :
    (Data.mk id type (.record entries)).Withholds nodes ↔ ∀ entry ∈ entries, entry.2.data.Withholds nodes := by
  simp only [Withholds, Data.handed, Value.handed, entriesHanded_eq_flatMap, List.mem_flatMap, Statement.handed_eta]
  exact ⟨fun all entry among node listed within => all node listed ⟨entry, among, within⟩,
    fun all node listed ⟨entry, among, within⟩ => all entry among node listed within⟩

theorem operation {name : Option String} {parameters body : List Statement} :
    (Data.mk id type (.operation name parameters body)).Withholds nodes
      ↔ ∀ node ∈ nodes, node ∉ (Value.operation name parameters body).ids := Iff.rfl

theorem retyped {data : Data} (withholds : data.Withholds nodes) (id : EntityId) (type : DataType) :
    (Data.mk id type data.value).Withholds nodes := by
  rw [Withholds, Data.handed_eta] at withholds
  exact withholds

theorem none (data : Data) : data.Withholds [] := nofun

end Data.Withholds

/-! ## The standard -/

/-- The spared nodes have the results that they had `before`, no result is forgotten, and nothing that is remembered hands
out a barred node. Results that were there before are not asked about. -/
structure World.Sparing (spared barred : List EntityId) (before : EntityId → Option Data) (world : World) : Prop where
  below : ∀ id ∈ spared, id.Below world.nextId
  spares : ∀ id ∈ spared, world.store.result? id = before id
  keeps : ∀ id, (before id).isSome → (world.store.result? id).isSome
  results : ∀ id result, before id = none → world.store.result? id = some result → result.Withholds barred
  fingerprints : ∀ key result, world.store.fingerprint? key = some result → result.Withholds barred
  instances : ∀ id external, world.store.instance? id = some external → external.Holds (·.Withholds barred)

namespace World.Sparing

variable {spared barred : List EntityId} {before : EntityId → Option Data} {world : World}

/-- What has no result had none before. -/
theorem unrecorded (sparing : world.Sparing spared barred before) {id : EntityId} (new : world.store.result? id = none) :
    before id = none :=
  Option.not_isSome_iff_eq_none.mp fun had => Option.not_isSome_iff_eq_none.mpr new (sparing.keeps id had)

theorem record (sparing : world.Sparing spared barred before) (cacheable : Bool) {id : EntityId} (own : id ∉ spared)
    {result : Data} (withholds : result.Withholds barred) :
    World.Sparing spared barred before { world with store := world.store.record cacheable id result } where
  below := sparing.below
  spares other listed := by
    have apart : other ≠ id := fun same => own (same ▸ listed)
    rw [Store.result?_record, if_neg apart]
    exact sparing.spares other listed
  keeps other had := by
    rw [Store.result?_record]
    split
    · rfl
    · exact sparing.keeps other had
  results other found new given := by
    rw [Store.result?_record] at given
    split at given
    · cases given; exact withholds
    · exact sparing.results other found new given
  fingerprints := sparing.fingerprints
  instances := sparing.instances

theorem remember (sparing : world.Sparing spared barred before) (key : String) {result : Data} (withholds : result.Withholds barred) :
    World.Sparing spared barred before { world with store := world.store.setFingerprint key result } where
  below := sparing.below
  spares := sparing.spares
  keeps := sparing.keeps
  results := sparing.results
  fingerprints other found given := by
    rw [Store.fingerprint?_setFingerprint] at given
    split at given
    · cases given; exact withholds
    · exact sparing.fingerprints other found given
  instances := sparing.instances

theorem place (sparing : world.Sparing spared barred before) (id : EntityId) {external : External}
    (holds : external.Holds (·.Withholds barred)) :
    World.Sparing spared barred before { world with store := world.store.setInstance id external } where
  below := sparing.below
  spares := sparing.spares
  keeps := sparing.keeps
  results := sparing.results
  fingerprints := sparing.fingerprints
  instances other found given := by
    rw [Store.instance?_setInstance] at given
    split at given
    · cases given; exact holds
    · exact sparing.instances other found given

end World.Sparing

/-- Results are recorded for other nodes than the spared ones, and barred nodes, which are among those, are not handed out. -/
def Standard.sparing (spared barred : List EntityId) (among : ∀ id ∈ barred, id ∈ spared) (before : EntityId → Option Data) :
    Standard where
  data data := data.Withholds barred
  child statement := statement.data.Withholds barred
  code id := id ∉ spared
  world := World.Sparing spared barred before
  leaf _ _ _ isLeaf := .leaf isLeaf
  array := Data.Withholds.array
  record := Data.Withholds.record
  operation _ _ _ _ _ admits :=
    Data.Withholds.operation.mpr fun node listed within => admits node (Mention.mem_filterMap_node?.mp within) (among node listed)
  retyped withholds := withholds.retyped
  held withholds := withholds
  bare _ _ _ _ withholds := withholds
  drawn sparing le listed := Nat.not_lt.mpr le (sparing.below _ listed _ rfl)
  draws sparing le := { sparing with below := fun id listed => (sparing.below id listed).mono le }
  observes _ sparing := ⟨sparing.below, sparing.spares, sparing.keeps, sparing.results, sparing.fingerprints, sparing.instances⟩
  records cacheable sparing own withholds := sparing.record cacheable own withholds
  remembers key sparing withholds := sparing.remember key withholds
  places id sparing holds := sparing.place id holds
  remembered sparing found := sparing.fingerprints _ _ found
  answers sparing found := sparing.instances _ _ found

section

variable {spared : List EntityId} {before : EntityId → Option Data}

/-- Where the spared nodes are barred, no operation value that is handed around has one of them. -/
theorem Standard.sparing_opens (before : EntityId → Option Data) :
    (Standard.sparing spared spared (fun _ listed => listed) before).Opens := by
  intro operation withholds called id within listed
  obtain ⟨own, type, value⟩ := operation
  cases value with
  | operation name parameters body => exact withholds id listed (Mention.mem_filterMap_node?.mpr within)
  | _ => cases called

/-- Where nothing is spared, operation values may have any nodes. -/
theorem Standard.sparing_nothing_opens (before : EntityId → Option Data) : (Standard.sparing [] [] nofun before).Opens :=
  fun _ _ _ _ _ => List.not_mem_nil

/-- Spared nodes are not evaluated by callers that leave every operation with one of them to others. -/
theorem callerSparing_upholds {instead : Nat → Caller}
    (others : ∀ levels, (instead levels).Upholds (.sparing spared [] nofun before)) (levels : Nat) :
    (callerSparing spared instead levels).Upholds (.sparing spared [] nofun before) := by
  induction levels with
  | zero => exact fun _ _ _ _ _ _ => .draw (.leaf _ rfl)
  | succ levels ih =>
    intro scope operation arguments provides operates all
    unfold callerSparing
    split
    · exact others (levels + 1) scope operation arguments provides operates all
    · next free =>
      refine enterOperation_upholds ih provides (fun id within listed => free ?_) all
      refine List.any_eq_true.mpr ⟨id, listed, ?_⟩
      rw [Data.mentions_eta]
      simpa using .inr within

end

end LivePipeline
