import Mathlib.Order.Basic
import LivePipeline.Operation.Instance
import LivePipeline.Proofs.Renaming

/-! Two runs that differ in the identities they draw. A link fixes how the identities of the left
run are named on the right; a ledger grows with the runs and holds what both have come to know. -/

namespace LivePipeline

/-! ## What holds no reference -/

mutual

/-- No reference stands where a value is expected; the code of operations may hold some. -/
def Value.Firm : Value → Prop
  | .array items => allFirm items
  | .record entries => entriesFirm entries
  | .reference _ _ => False
  | .undefined | .text _ | .number _ | .boolean _ | .operation _ _ _ | .condition _ _ _ | .error _
  | .handle _ _ _ => True
termination_by structural value => value

def Data.Firm : Data → Prop
  | ⟨_, _, value⟩ => value.Firm
termination_by structural data => data

def Statement.Firm : Statement → Prop
  | ⟨_, data, _, _, _⟩ => data.Firm
termination_by structural statement => statement

def allFirm : List Statement → Prop
  | [] => True
  | statement :: rest => statement.Firm ∧ allFirm rest
termination_by structural statements => statements

def entriesFirm : List (String × Statement) → Prop
  | [] => True
  | (_, statement) :: rest => statement.Firm ∧ entriesFirm rest
termination_by structural entries => entries

end

@[simp] theorem Data.firm_iff {data : Data} : data.Firm ↔ data.value.Firm := by cases data; rfl

@[simp] theorem Statement.firm_iff {statement : Statement} : statement.Firm ↔ statement.data.value.Firm := by
  obtain ⟨_, ⟨_, _, _⟩, _, _, _⟩ := statement; rfl

@[simp] theorem allFirm_iff {statements : List Statement} :
    allFirm statements ↔ ∀ statement ∈ statements, statement.data.value.Firm := by
  induction statements with
  | nil => simp [allFirm]
  | cons statement rest ih => simp [allFirm, ih]

@[simp] theorem entriesFirm_iff {entries : List (String × Statement)} :
    entriesFirm entries ↔ ∀ entry ∈ entries, entry.2.data.value.Firm := by
  induction entries with
  | nil => simp [entriesFirm]
  | cons entry rest ih => simp [entriesFirm, ih]

theorem Value.Firm.reference? {data : Data} (firm : data.value.Firm) : data.reference? = none := by
  obtain ⟨id, type, value⟩ := data
  cases value <;> first | rfl | exact firm.elim

theorem Data.mentions_eta (data : Data) : data.mentions = .node data.id :: data.value.mentions := by
  cases data; rfl

theorem Statement.mentions_eta (statement : Statement) :
    statement.mentions = .node statement.id :: (statement.data.mentions ++ statement.operations.flatMap Data.mentions) := by
  cases statement; simp [Statement.mentions]

/-! ## Links and ledgers -/

/-- What two runs are compared by. Identities from `start` on are drawn by the runs themselves; the
left run may still draw numbers below `reserve`, which the right one never uses. -/
structure Link where
  numbers : Nat → Nat
  injective : Function.Injective numbers
  start : Nat
  reserve : Nat
  /-- The nodes under whose identities results are recorded. -/
  code : EntityId → Prop
  code_drawn : ∀ number, start ≤ number → code (.drawn number)

/-- How the right run names an identity of the left one. -/
def Link.names (link : Link) : Renaming := EntityId.renumber link.numbers

theorem Link.names_injective (link : Link) : Function.Injective link.names :=
  EntityId.renumber_injective link.injective

/-- What both runs know: the identities drawn so far, the objects behind handles with what they are
made from, the identities that may occur in code, and the nodes whose results agree. -/
structure Ledger where
  bound : Nat
  object : EntityId → String → Option String → Prop
  object_below : ∀ {id className text}, object id className text → id.Below bound
  object_unique : ∀ {id className text className' text'}, object id className text →
    object id className' text' → className = className' ∧ text = text'
  source : EntityId → Prop
  source_below : ∀ {id}, source id → id.Below bound
  synced : EntityId → Prop

namespace Ledger

/-- What is known stays known, and what is new is about newly drawn identities. -/
structure Extends (before after : Ledger) : Prop where
  bound : before.bound ≤ after.bound
  object : ∀ {id className text}, before.object id className text → after.object id className text
  object_old : ∀ {id className text}, after.object id className text → id.Below before.bound →
    before.object id className text
  source : ∀ {id}, before.source id → after.source id
  source_old : ∀ {id}, after.source id → id.Below before.bound → before.source id
  synced : ∀ {id}, before.synced id → after.synced id

instance : Preorder Ledger where
  le := Extends
  le_refl _ := ⟨Nat.le_refl _, id, fun known _ => known, id, fun known _ => known, id⟩
  le_trans _ _ _ first second :=
    { bound := Nat.le_trans first.bound second.bound
      object := fun known => second.object (first.object known)
      object_old := fun known below => first.object_old (second.object_old known (below.mono first.bound)) below
      source := fun known => second.source (first.source known)
      source_old := fun known below => first.source_old (second.source_old known (below.mono first.bound)) below
      synced := fun known => second.synced (first.synced known) }

variable {link : Link} {before after ledger : Ledger}

theorem bound_le (le : before ≤ after) : before.bound ≤ after.bound := Extends.bound le

theorem object_mono (le : before ≤ after) {id : EntityId} {className : String} {text : Option String}
    (known : before.object id className text) : after.object id className text :=
  Extends.object le known

theorem source_mono (le : before ≤ after) {id : EntityId} (known : before.source id) : after.source id :=
  Extends.source le known

theorem synced_mono (le : before ≤ after) {id : EntityId} (known : before.synced id) : after.synced id :=
  Extends.synced le known

/-- A mention of something known. -/
def Allows (link : Link) (ledger : Ledger) : Mention → Prop
  | .node id => id.Below ledger.bound ∧ link.code id
  | .target id => id.Below ledger.bound
  | .object id className text => ledger.object id className text

theorem Allows.mono {mention : Mention} (allows : before.Allows link mention) (le : before ≤ after) :
    after.Allows link mention := by
  cases mention with
  | node id => exact ⟨allows.1.mono (bound_le le), allows.2⟩
  | target id => exact EntityId.Below.mono allows (bound_le le)
  | object id className text => exact object_mono le allows

theorem Allows.below {mention : Mention} (allows : ledger.Allows link mention) : mention.id.Below ledger.bound := by
  cases mention with
  | node id => exact allows.1
  | target id => exact allows
  | object id className text => exact ledger.object_below allows

def Covers (link : Link) (ledger : Ledger) (mentions : List Mention) : Prop :=
  ∀ mention ∈ mentions, ledger.Allows link mention

theorem Covers.mono {mentions : List Mention} (covers : before.Covers link mentions) (le : before ≤ after) :
    after.Covers link mentions :=
  fun mention member => (covers mention member).mono le

@[simp] theorem covers_nil : ledger.Covers link [] := by simp [Covers]

@[simp] theorem covers_cons {mention : Mention} {mentions : List Mention} :
    ledger.Covers link (mention :: mentions) ↔ ledger.Allows link mention ∧ ledger.Covers link mentions := by
  simp [Covers]

@[simp] theorem covers_append {first second : List Mention} :
    ledger.Covers link (first ++ second) ↔ ledger.Covers link first ∧ ledger.Covers link second := by
  simp [Covers, or_imp, forall_and]

@[simp] theorem covers_flatMap {items : List α} {mentions : α → List Mention} :
    ledger.Covers link (items.flatMap mentions) ↔ ∀ item ∈ items, ledger.Covers link (mentions item) := by
  simp only [Covers, List.mem_flatMap]
  exact ⟨fun all item member mention within => all mention ⟨item, member, within⟩,
    fun all mention ⟨item, member, within⟩ => all item member mention within⟩

/-- A mention that may stand in code. -/
def Permits (link : Link) (ledger : Ledger) (mention : Mention) : Prop :=
  ledger.Allows link mention ∧ ledger.source mention.id

/-- Code that mentions known things only, by identities that may occur in code. -/
def Writes (link : Link) (ledger : Ledger) (mentions : List Mention) : Prop :=
  ∀ mention ∈ mentions, ledger.Permits link mention

theorem Permits.mono {mention : Mention} (permits : before.Permits link mention) (le : before ≤ after) :
    after.Permits link mention :=
  ⟨permits.1.mono le, source_mono le permits.2⟩

theorem Writes.mono {mentions : List Mention} (writes : before.Writes link mentions) (le : before ≤ after) :
    after.Writes link mentions :=
  fun mention member => (writes mention member).mono le

theorem Writes.covers {mentions : List Mention} (writes : ledger.Writes link mentions) : ledger.Covers link mentions :=
  fun mention member => (writes mention member).1

@[simp] theorem writes_nil : ledger.Writes link [] := by simp [Writes]

@[simp] theorem writes_cons {mention : Mention} {mentions : List Mention} :
    ledger.Writes link (mention :: mentions) ↔ ledger.Permits link mention ∧ ledger.Writes link mentions := by
  simp [Writes]

@[simp] theorem writes_append {first second : List Mention} :
    ledger.Writes link (first ++ second) ↔ ledger.Writes link first ∧ ledger.Writes link second := by
  simp [Writes, or_imp, forall_and]

@[simp] theorem writes_flatMap {items : List α} {mentions : α → List Mention} :
    ledger.Writes link (items.flatMap mentions) ↔ ∀ item ∈ items, ledger.Writes link (mentions item) := by
  simp only [Writes, List.mem_flatMap]
  exact ⟨fun all item member mention within => all mention ⟨item, member, within⟩,
    fun all mention ⟨item, member, within⟩ => all item member mention within⟩

/-- Data that is firm and mentions known things only. -/
def Settles (link : Link) (ledger : Ledger) (data : Data) : Prop :=
  data.value.Firm ∧ ledger.Covers link data.mentions

theorem Settles.mono {data : Data} (settles : before.Settles link data) (le : before ≤ after) :
    after.Settles link data :=
  ⟨settles.1, settles.2.mono le⟩

end Ledger

/-! ## Objects behind handles -/

def External.rename (names : Renaming) : External → External
  | .promise (.resolved value) => .promise (.resolved (value.rename names))
  | .promise (.rejected reason) => .promise (.rejected reason)
  | .date moment => .date moment
  | .url locator => .url locator
  | .http => .http

theorem External.rename_self (external : External) : external.rename (fun id => id) = external := by
  cases external with
  | promise state =>
    cases state with
    | resolved value => exact congrArg (promise ∘ PromiseState.resolved) value.rename_self
    | rejected reason => rfl
  | _ => rfl

def External.Settled (link : Link) (ledger : Ledger) : External → Prop
  | .promise (.resolved value) => ledger.Settles link value
  | .promise (.rejected _) | .date _ | .url _ | .http => True

theorem External.Settled.mono {link : Link} {before after : Ledger} {external : External}
    (settled : external.Settled link before) (le : before ≤ after) : external.Settled link after := by
  cases external with
  | promise state =>
    cases state with
    | resolved value => exact Ledger.Settles.mono settled le
    | rejected reason => trivial
  | _ => trivial

namespace Operation

/-- Makes an object from the text that a handle has for it. -/
def craft (className : String) (text : Option String) : Except Failure External :=
  if className == httpClass then .ok .http
  else match text with
    | some text =>
      if className == dateClass then .date <$> parseDate text
      else if className == urlClass then .url <$> parseUrl text
      else .error (.notConstructible className)
    | none => .error (.notConstructible className)

theorem materialize_eq_craft (className : String) (arguments : List Statement) :
    materialize className arguments = craft className (seedText arguments) := rfl

/-- What is made from a text holds no data of the program. -/
theorem craft_inert {className : String} {text : Option String} {external : External}
    (crafted : craft className text = .ok external) :
    (∀ names, external.rename names = external) ∧ ∀ link ledger, external.Settled link ledger := by
  unfold craft at crafted
  split at crafted
  · cases crafted
    exact ⟨fun _ => rfl, fun _ _ => trivial⟩
  · split at crafted
    · next text =>
      split at crafted
      · cases parsed : parseDate text with
        | error failure => rw [parsed] at crafted; cases crafted
        | ok moment =>
          rw [parsed] at crafted
          cases crafted
          exact ⟨fun _ => rfl, fun _ _ => trivial⟩
      · split at crafted
        · cases parsed : parseUrl text with
          | error failure => rw [parsed] at crafted; cases crafted
          | ok url =>
            rw [parsed] at crafted
            cases crafted
            exact ⟨fun _ => rfl, fun _ _ => trivial⟩
        · cases crafted
    · cases crafted

end Operation

/-- The object that a handle finds: the one in the store, or the one made from its text. -/
def Store.external? (store : Store) (id : EntityId) (className : String) (text : Option String) :
    Option External :=
  (store.instance? id).or (Operation.craft className text).toOption

namespace Store

variable (store : Store)

theorem result?_record (cacheable : Bool) (id other : EntityId) (data : Data) :
    (store.record cacheable id data).result? other = if other = id then some data else store.result? other := by
  simp only [record, result?]
  split
  · next same => rw [same, Table.get?_insert_self]; rfl
  · next differ => rw [Table.get?_insert_of_ne _ _ differ]

@[simp] theorem instance?_record (cacheable : Bool) (id other : EntityId) (data : Data) :
    (store.record cacheable id data).instance? other = store.instance? other := rfl

@[simp] theorem external?_record (cacheable : Bool) (id other : EntityId) (data : Data) :
    (store.record cacheable id data).external? other = store.external? other := rfl

@[simp] theorem fingerprint?_record (cacheable : Bool) (id : EntityId) (data : Data) (key : String) :
    (store.record cacheable id data).fingerprint? key = store.fingerprint? key := rfl

theorem instance?_setInstance (id other : EntityId) (external : External) :
    (store.setInstance id external).instance? other = if other = id then some external else store.instance? other := by
  simp only [setInstance, instance?]
  split
  · next same => rw [same, Table.get?_insert_self]
  · next differ => rw [Table.get?_insert_of_ne _ _ differ]

theorem external?_setInstance (id other : EntityId) (external : External) (className : String) (text : Option String) :
    (store.setInstance id external).external? other className text
      = if other = id then some external else store.external? other className text := by
  simp only [external?, instance?_setInstance]
  split <;> rfl

@[simp] theorem fingerprint?_setInstance (id : EntityId) (external : External) (key : String) :
    (store.setInstance id external).fingerprint? key = store.fingerprint? key := rfl

@[simp] theorem result?_setInstance (id other : EntityId) (external : External) :
    (store.setInstance id external).result? other = store.result? other := rfl

theorem fingerprint?_setFingerprint (key other : String) (data : Data) :
    (store.setFingerprint key data).fingerprint? other = if other = key then some data else store.fingerprint? other := by
  simp only [setFingerprint, fingerprint?]
  split
  · next same => rw [same, Table.get?_insert_self]
  · next differ => rw [Table.get?_insert_of_ne _ _ differ]

@[simp] theorem instance?_setFingerprint (key : String) (data : Data) (id : EntityId) :
    (store.setFingerprint key data).instance? id = store.instance? id := rfl

@[simp] theorem external?_setFingerprint (key : String) (data : Data) (id : EntityId) :
    (store.setFingerprint key data).external? id = store.external? id := rfl

@[simp] theorem result?_setFingerprint (key : String) (data : Data) (id : EntityId) :
    (store.setFingerprint key data).result? id = store.result? id := rfl

theorem external?_of_instance? {store : Store} {id : EntityId} {external : External}
    (found : store.instance? id = some external) (className : String) (text : Option String) :
    store.external? id className text = some external := by
  rw [external?, found]; rfl

theorem external?_of_unset {store : Store} {id : EntityId} (unset : store.instance? id = none)
    (className : String) (text : Option String) :
    store.external? id className text = (Operation.craft className text).toOption := by
  rw [external?, unset]; rfl

/-- What a handle finds agrees on both sides if a promise behind it does: all else holds no data. -/
theorem external?_settled {store : Store} {id : EntityId} {className : String} {text : Option String} {external : External}
    (found : store.external? id className text = some external) {link : Link} {ledger : Ledger} {names : Renaming}
    (promises : ∀ value, store.instance? id = some (.promise (.resolved value)) →
      value.rename link.names = value.rename names ∧ ledger.Settles link value) :
    external.rename link.names = external.rename names ∧ external.Settled link ledger := by
  rcases Option.or_eq_some_iff.mp found with stored | ⟨_, crafted⟩
  · cases external with
    | promise state =>
      cases state with
      | resolved value =>
        obtain ⟨same, settles⟩ := promises value stored
        exact ⟨congrArg (External.promise ∘ PromiseState.resolved) same, settles⟩
      | rejected reason => exact ⟨rfl, trivial⟩
    | _ => exact ⟨rfl, trivial⟩
  · cases made : Operation.craft className text with
    | error failure => rw [made] at crafted; cases crafted
    | ok other =>
      rw [made] at crafted
      cases crafted
      have inert := Operation.craft_inert made
      exact ⟨(inert.1 _).trans (inert.1 _).symm, inert.2 _ _⟩

end Store

/-! ## Linked worlds -/

/-- The worlds of two runs that know the ledger. -/
structure Linked (link : Link) (ledger : Ledger) (left right : World) : Prop where
  bound : left.nextId = ledger.bound
  start : link.start ≤ left.nextId
  future : ∀ ahead, link.numbers (left.nextId + ahead) = right.nextId + ahead
  apart : ∀ number other, left.nextId ≤ number → number < link.reserve → link.numbers other ≠ number
  unused_left : ∀ number, left.nextId ≤ number → left.store.instance? (.drawn number) = none
  unused_right : ∀ number, right.nextId ≤ number ∨ left.nextId ≤ number ∧ number < link.reserve →
    right.store.instance? (.drawn number) = none
  external : ∀ id className text, ledger.object id className text →
    right.store.external? (link.names id) className text
      = (left.store.external? id className text).map (External.rename link.names)
  external_settled : ∀ id className text external, ledger.object id className text →
    left.store.external? id className text = some external → external.Settled link ledger
  crafted : ∀ id className text, ledger.object id className text → ledger.source id → ¬ id.Below link.start →
    left.store.external? id className text = (Operation.craft className text).toOption
  fingerprint : ∀ key, right.store.fingerprint? key = (left.store.fingerprint? key).map (Data.rename link.names)
  fingerprint_settled : ∀ key data, left.store.fingerprint? key = some data → ledger.Settles link data
  firm_left : ∀ id data, left.store.result? id = some data → data.reference? = none
  firm_right : ∀ id data, right.store.result? id = some data → data.reference? = none
  synced : ∀ id, ledger.synced id →
    right.store.result? (link.names id) = (left.store.result? id).map (Data.rename link.names)

/-- What the left run does to its world: nothing known is taken back, and results are only recorded
for code. -/
structure Steps (link : Link) (ledger : Ledger) (before after : World) : Prop where
  drawn : before.nextId ≤ after.nextId
  external : ∀ id className text, ledger.object id className text →
    after.store.external? id className text = before.store.external? id className text
  fingerprint : ∀ key data, before.store.fingerprint? key = some data → after.store.fingerprint? key = some data
  result : ∀ id, ¬ link.code id → after.store.result? id = before.store.result? id

namespace Steps

variable {link : Link} {ledger later : Ledger} {before middle after : World}

protected theorem refl : Steps link ledger before before :=
  ⟨Nat.le_refl _, fun _ _ _ _ => rfl, fun _ _ found => found, fun _ _ => rfl⟩

protected theorem trans (first : Steps link ledger before middle) (le : ledger ≤ later)
    (second : Steps link later middle after) : Steps link ledger before after where
  drawn := Nat.le_trans first.drawn second.drawn
  external id className text known :=
    (second.external id className text (Ledger.object_mono le known)).trans (first.external id className text known)
  fingerprint key data found := second.fingerprint key data (first.fingerprint key data found)
  result id other := (second.result id other).trans (first.result id other)

end Steps

/-! ## What single steps do to linked worlds -/

namespace Ledger

variable (ledger : Ledger)

/-- One more identity is drawn. -/
def draw : Ledger where
  bound := ledger.bound + 1
  object := ledger.object
  object_below known := (ledger.object_below known).mono (Nat.le_succ _)
  object_unique := ledger.object_unique
  source id := ledger.source id ∨ id = .drawn ledger.bound
  source_below := by
    rintro id (known | rfl)
    · exact (ledger.source_below known).mono (Nat.le_succ _)
    · simp
  synced := ledger.synced

theorem not_below_bound : ¬ (EntityId.drawn ledger.bound).Below ledger.bound := by simp

theorem le_draw : ledger ≤ ledger.draw where
  bound := Nat.le_succ _
  object := id
  object_old known _ := known
  source := .inl
  source_old known below := known.resolve_right fun same => ledger.not_below_bound (same ▸ below)
  synced := id

/-- The identity drawn next is that of an object, which may occur in code. -/
def enlist (className : String) (text : Option String) (inCode : Prop) : Ledger where
  bound := ledger.bound + 1
  object id className' text' := ledger.object id className' text'
    ∨ id = .drawn ledger.bound ∧ className' = className ∧ text' = text
  object_below := by
    rintro id className' text' (known | ⟨rfl, _, _⟩)
    · exact (ledger.object_below known).mono (Nat.le_succ _)
    · simp
  object_unique := by
    rintro id className' text' className'' text'' (known | ⟨drew, rfl, rfl⟩) (other | ⟨drew', rfl, rfl⟩)
    · exact ledger.object_unique known other
    · exact absurd (ledger.object_below known _ drew') (Nat.lt_irrefl _)
    · exact absurd (ledger.object_below other _ drew) (Nat.lt_irrefl _)
    · exact ⟨rfl, rfl⟩
  source id := ledger.source id ∨ inCode ∧ id = .drawn ledger.bound
  source_below := by
    rintro id (known | ⟨_, rfl⟩)
    · exact (ledger.source_below known).mono (Nat.le_succ _)
    · simp
  synced := ledger.synced

theorem le_enlist (className : String) (text : Option String) (inCode : Prop) :
    ledger ≤ ledger.enlist className text inCode where
  bound := Nat.le_succ _
  object := .inl
  object_old known below := known.resolve_right fun same => ledger.not_below_bound (same.1 ▸ below)
  source := .inl
  source_old known below := known.resolve_right fun same => ledger.not_below_bound (same.2 ▸ below)
  synced := id

/-- The node's results agree from now on. -/
def sync (id : EntityId) : Ledger :=
  { ledger with synced := fun other => ledger.synced other ∨ other = id }

theorem le_sync (id : EntityId) : ledger ≤ ledger.sync id where
  bound := Nat.le_refl _
  object known := known
  object_old known _ := known
  source known := known
  source_old known _ := known
  synced := .inl

end Ledger

namespace Linked

variable {link : Link} {ledger : Ledger} {left right : World}

theorem names_next (linked : Linked link ledger left right) :
    link.names (.drawn left.nextId) = .drawn right.nextId := by
  have next := linked.future 0
  simp only [Nat.add_zero] at next
  rw [Link.names, EntityId.renumber_drawn, next]

theorem code_next (linked : Linked link ledger left right) : link.code (.drawn left.nextId) :=
  link.code_drawn _ linked.start

private theorem future_succ (linked : Linked link ledger left right) (ahead : Nat) :
    link.numbers (left.nextId + 1 + ahead) = right.nextId + 1 + ahead := by
  rw [Nat.add_assoc, linked.future, ← Nat.add_assoc]

private theorem unused_right_succ (linked : Linked link ledger left right) (number : Nat)
    (free : right.nextId + 1 ≤ number ∨ left.nextId + 1 ≤ number ∧ number < link.reserve) :
    right.store.instance? (.drawn number) = none :=
  linked.unused_right number (by omega)

theorem draw (linked : Linked link ledger left right) :
    Linked link ledger.draw { left with nextId := left.nextId + 1 } { right with nextId := right.nextId + 1 } where
  bound := congrArg (· + 1) linked.bound
  start := Nat.le_succ_of_le linked.start
  future := linked.future_succ
  apart number other free := linked.apart number other (Nat.le_of_succ_le free)
  unused_left number free := linked.unused_left number (Nat.le_of_succ_le free)
  unused_right := linked.unused_right_succ
  external := linked.external
  external_settled id className text external known found :=
    (linked.external_settled id className text external known found).mono ledger.le_draw
  crafted id className text known written :=
    linked.crafted id className text known
      (written.resolve_right fun same => ledger.not_below_bound (same ▸ ledger.object_below known))
  fingerprint := linked.fingerprint
  fingerprint_settled key data found := (linked.fingerprint_settled key data found).mono ledger.le_draw
  firm_left := linked.firm_left
  firm_right := linked.firm_right
  synced := linked.synced

/-- An object that is not made yet looks the same on both sides: it will be made from its text. -/
theorem enlist (linked : Linked link ledger left right) (className : String) (text : Option String) (inCode : Prop) :
    Linked link (ledger.enlist className text inCode)
      { left with nextId := left.nextId + 1 } { right with nextId := right.nextId + 1 } where
  bound := congrArg (· + 1) linked.bound
  start := Nat.le_succ_of_le linked.start
  future := linked.future_succ
  apart number other free := linked.apart number other (Nat.le_of_succ_le free)
  unused_left number free := linked.unused_left number (Nat.le_of_succ_le free)
  unused_right := linked.unused_right_succ
  external := by
    rintro id className' text' (known | ⟨rfl, rfl, rfl⟩)
    · exact linked.external id className' text' known
    · rw [← linked.bound, linked.names_next, Store.external?_of_unset (linked.unused_left _ (Nat.le_refl _)),
        Store.external?_of_unset (linked.unused_right _ (.inl (Nat.le_refl _)))]
      cases crafted : Operation.craft className' text' with
      | error failure => rfl
      | ok external => exact congrArg some ((Operation.craft_inert crafted).1 _).symm
  external_settled := by
    rintro id className' text' external (known | ⟨rfl, rfl, rfl⟩) found
    · exact (linked.external_settled id className' text' external known found).mono (ledger.le_enlist _ _ _)
    · rw [← linked.bound, Store.external?_of_unset (linked.unused_left _ (Nat.le_refl _))] at found
      cases crafted : Operation.craft className' text' with
      | error failure => rw [crafted] at found; cases found
      | ok other =>
        rw [crafted] at found
        cases found
        exact (Operation.craft_inert crafted).2 _ _
  crafted := by
    rintro id className' text' (known | ⟨rfl, rfl, rfl⟩) written later
    · refine linked.crafted id className' text' known (written.resolve_right fun same => ?_) later
      exact ledger.not_below_bound (same.2 ▸ ledger.object_below known)
    · rw [← linked.bound]
      exact Store.external?_of_unset (linked.unused_left _ (Nat.le_refl _)) className' text'
  fingerprint := linked.fingerprint
  fingerprint_settled key data found :=
    (linked.fingerprint_settled key data found).mono (ledger.le_enlist _ _ _)
  firm_left := linked.firm_left
  firm_right := linked.firm_right
  synced := linked.synced

/-- Putting the object that a known handle finds in the store changes nothing for known handles. -/
theorem external?_place {store : Store} {id : EntityId} {className : String} {text : Option String}
    {external : External} (known : ledger.object id className text)
    (found : store.external? id className text = some external) {other : EntityId} {className' : String}
    {text' : Option String} (known' : ledger.object other className' text') :
    (store.setInstance id external).external? other className' text' = store.external? other className' text' := by
  rw [Store.external?_setInstance]
  split
  · next same =>
    subst same
    obtain ⟨rfl, rfl⟩ := ledger.object_unique known known'
    exact found.symm
  · rfl

theorem place_left (linked : Linked link ledger left right) {id : EntityId} {className : String}
    {text : Option String} {external : External} (known : ledger.object id className text)
    (found : left.store.external? id className text = some external) :
    Linked link ledger { left with store := left.store.setInstance id external } right := by
  refine { linked with
    unused_left := ?_
    external := fun other className' text' known' => ?_
    external_settled := fun other className' text' external' known' found' => ?_
    crafted := fun other className' text' known' written later => ?_ }
  · intro number free
    rw [Store.instance?_setInstance, if_neg, linked.unused_left number free]
    rintro rfl
    exact absurd (ledger.object_below known number rfl) (by rw [← linked.bound]; exact Nat.not_lt.mpr free)
  · rw [external?_place known found known']
    exact linked.external other className' text' known'
  · rw [external?_place known found known'] at found'
    exact linked.external_settled other className' text' external' known' found'
  · rw [external?_place known found known']
    exact linked.crafted other className' text' known' written later

theorem place_right (linked : Linked link ledger left right) {id : EntityId} {className : String}
    {text : Option String} {external : External} (known : ledger.object id className text)
    (found : right.store.external? (link.names id) className text = some external) :
    Linked link ledger left { right with store := right.store.setInstance (link.names id) external } := by
  refine { linked with
    unused_right := ?_
    external := fun other className' text' known' => ?_ }
  · intro number free
    rw [Store.instance?_setInstance, if_neg, linked.unused_right number free]
    intro drew
    -- The name of a known object is neither to come on the right nor reserved for the left.
    have below := ledger.object_below known
    obtain ⟨own, rfl⟩ : ∃ own, id = .drawn own := by
      by_contra undrawn
      have kept : link.names id = id :=
        EntityId.renumber_eq_self fun own drew => absurd ⟨own, drew⟩ undrawn
      exact undrawn ⟨number, by rw [← kept, drew]⟩
    rw [Link.names, EntityId.renumber_drawn] at drew
    have named := EntityId.drawn_injective drew
    rcases free with ahead | ⟨free, reserved⟩
    · have future := linked.future (number - right.nextId)
      rw [Nat.add_sub_cancel' ahead, named] at future
      have same := link.injective future
      have less := EntityId.below_drawn.mp below
      rw [← linked.bound] at less
      omega
    · exact linked.apart number own free reserved named.symm
  · rw [Store.external?_setInstance]
    split
    · next same =>
      obtain rfl := link.names_injective same
      obtain ⟨rfl, rfl⟩ := ledger.object_unique known known'
      rw [← found, linked.external other className text known]
    · exact linked.external other className' text' known'

/-- A new object under a newly drawn key. -/
theorem make (linked : Linked link ledger left right) (className : String) (text : Option String)
    {external : External} (settled : external.Settled link ledger) :
    Linked link (ledger.enlist className text False)
      ⟨left.store.setInstance (.drawn left.nextId) external, left.nextId + 1, left.events⟩
      ⟨right.store.setInstance (.drawn right.nextId) (external.rename link.names), right.nextId + 1, right.events⟩ := by
  have enlisted := linked.enlist className text False
  have other_left : ∀ id className' text', ledger.object id className' text' → id ≠ .drawn left.nextId := by
    rintro id className' text' known rfl
    have less := EntityId.below_drawn.mp (ledger.object_below known)
    rw [linked.bound] at less
    omega
  refine { enlisted with
    unused_left := fun number free => ?_
    unused_right := fun number free => ?_
    external := ?_
    external_settled := ?_
    crafted := ?_ }
  · rw [Store.instance?_setInstance, if_neg, enlisted.unused_left number free]
    intro same
    have := EntityId.drawn_injective same
    dsimp only at free
    omega
  · rw [Store.instance?_setInstance, if_neg, enlisted.unused_right number free]
    intro same
    have same := EntityId.drawn_injective same
    dsimp only at free
    rcases free with ahead | ⟨free, reserved⟩
    · omega
    · exact linked.apart number left.nextId (by omega) reserved (by rw [same]; exact linked.future 0)
  · rintro id className' text' (known | ⟨rfl, rfl, rfl⟩)
    · rw [Store.external?_setInstance, Store.external?_setInstance, if_neg (other_left _ _ _ known), if_neg]
      · exact linked.external id className' text' known
      · rw [← linked.names_next]
        exact fun same => other_left _ _ _ known (link.names_injective same)
    · rw [← linked.bound, linked.names_next, Store.external?_setInstance, Store.external?_setInstance, if_pos rfl,
        if_pos rfl]
      rfl
  · rintro id className' text' other (known | ⟨rfl, rfl, rfl⟩) found
    · rw [Store.external?_setInstance, if_neg (other_left _ _ _ known)] at found
      exact (linked.external_settled id className' text' other known found).mono (ledger.le_enlist _ _ _)
    · rw [← linked.bound, Store.external?_setInstance, if_pos rfl] at found
      cases found
      exact settled.mono (ledger.le_enlist _ _ _)
  · -- An object that is made at once does not occur in code.
    rintro id className' text' known written later
    have written := written.resolve_right fun same => same.1
    have known := known.resolve_right fun same => ledger.not_below_bound (same.1 ▸ ledger.source_below written)
    refine (Store.external?_setInstance _ _ _ _ _ _).trans ((if_neg (other_left _ _ _ known)).trans ?_)
    exact linked.crafted id className' text' known written later

/-- Both sides record a result for the same node. -/
theorem record (linked : Linked link ledger left right) (cacheable : Bool) (id : EntityId) {data : Data}
    (firm : data.reference? = none) :
    Linked link (ledger.sync id) { left with store := left.store.record cacheable id data }
      { right with store := right.store.record cacheable (link.names id) (data.rename link.names) } := by
  refine { linked with
    firm_left := fun other found => ?_
    firm_right := fun other found => ?_
    synced := ?_ }
  · rw [Store.result?_record]
    split
    · intro same; cases same; exact firm
    · exact linked.firm_left other found
  · rw [Store.result?_record]
    split
    · intro same; cases same; simp [firm]
    · exact linked.firm_right other found
  · rintro other (known | rfl)
    · rw [Store.result?_record, Store.result?_record]
      by_cases same : other = id
      · rw [if_pos (congrArg _ same), if_pos same]; rfl
      · rw [if_neg same, if_neg fun named => same (link.names_injective named)]
        exact linked.synced other known
    · rw [Store.result?_record, Store.result?_record, if_pos rfl, if_pos rfl]; rfl

theorem setFingerprint (linked : Linked link ledger left right) (key : String) {data : Data}
    (settles : ledger.Settles link data) :
    Linked link ledger { left with store := left.store.setFingerprint key data }
      { right with store := right.store.setFingerprint key (data.rename link.names) } := by
  refine { linked with
    fingerprint := fun other => ?_
    fingerprint_settled := fun other found => ?_ }
  · rw [Store.fingerprint?_setFingerprint, Store.fingerprint?_setFingerprint]
    split
    · rfl
    · exact linked.fingerprint other
  · rw [Store.fingerprint?_setFingerprint]
    split
    · intro same; cases same; exact settles
    · exact linked.fingerprint_settled other found

end Linked

end LivePipeline
