import LivePipeline.Operation.Http
import LivePipeline.Proofs.Correspondence.Simulation

/-! Building nodes on both sides of a link: the same construction draws its identities in the same
order, so what it builds differs in their names only. -/

namespace LivePipeline

/-! ## Tables under a change of their values -/

namespace Table

variable {α : Type u} {β : Type v} (change : α → β)

/-- The table with every value changed. -/
def mapValues (table : Table α) : Table β := table.map fun entry => (entry.1, change entry.2)

@[simp] theorem get?_mapValues (table : Table α) (key : String) :
    get? (mapValues change table) key = (get? table key).map change := by
  induction table with
  | nil => rfl
  | cons entry rest ih =>
    simp only [mapValues, List.map_cons, get?] at ih ⊢
    split
    · rfl
    · exact ih

@[simp] theorem has_mapValues (table : Table α) (key : String) : has (mapValues change table) key = has table key := by
  simp [has]

@[simp] theorem keys_mapValues (table : Table α) : keys (mapValues change table) = keys table := by
  simp [keys, mapValues]

theorem values_mapValues (table : Table α) : values (mapValues change table) = (values table).map change := by
  simp [values, mapValues]

theorem insert_mapValues (table : Table α) (key : String) (value : α) :
    insert (mapValues change table) key (change value) = mapValues change (insert table key value) := by
  induction table with
  | nil => rfl
  | cons entry rest ih =>
    simp only [mapValues, List.map_cons, insert] at ih ⊢
    split
    · rfl
    · rw [ih]; rfl

theorem erase_mapValues (table : Table α) (key : String) :
    erase (mapValues change table) key = mapValues change (erase table key) := by
  induction table with
  | nil => rfl
  | cons entry rest ih =>
    simp only [mapValues, List.map_cons, erase] at ih ⊢
    split
    · rfl
    · rw [ih]; rfl

theorem insertAll_mapValues (later table : Table α) :
    insertAll (mapValues change table) (mapValues change later) = mapValues change (insertAll table later) := by
  induction later generalizing table with
  | nil => rfl
  | cons entry rest ih =>
    simp only [insertAll, mapValues, List.map_cons, List.foldl_cons] at ih ⊢
    rw [← ih]
    exact congrArg (List.foldl _ · _) (insert_mapValues change table entry.1 entry.2)

theorem ofEntries_mapValues (entries : Table α) :
    ofEntries (mapValues change entries) = mapValues change (ofEntries entries) :=
  insertAll_mapValues change entries []

variable {P : α → Prop}

theorem of_get? {table : Table α} (all : ∀ entry ∈ table, P entry.2) {key : String} {value : α}
    (found : get? table key = some value) : P value := by
  induction table with
  | nil => cases found
  | cons entry rest ih =>
    simp only [get?] at found
    split at found
    · cases found
      exact all entry List.mem_cons_self
    · exact ih (fun other member => all other (List.mem_cons_of_mem _ member)) found

theorem all_insert {table : Table α} (all : ∀ entry ∈ table, P entry.2) (key : String) {value : α} (new : P value) :
    ∀ entry ∈ insert table key value, P entry.2 := by
  induction table with
  | nil => simpa [insert] using new
  | cons first rest ih =>
    have tail := ih fun other member => all other (List.mem_cons_of_mem _ member)
    have head := all first List.mem_cons_self
    have old := fun other member => all other (List.mem_cons_of_mem _ member)
    simp only [insert]
    split <;> rw [List.forall_mem_cons]
    · exact ⟨new, old⟩
    · exact ⟨head, tail⟩

theorem all_erase {table : Table α} (all : ∀ entry ∈ table, P entry.2) (key : String) :
    ∀ entry ∈ erase table key, P entry.2 := by
  induction table with
  | nil => simp [erase]
  | cons first rest ih =>
    have tail := ih fun other member => all other (List.mem_cons_of_mem _ member)
    have head := all first List.mem_cons_self
    have old := fun other member => all other (List.mem_cons_of_mem _ member)
    simp only [erase]
    split
    · exact old
    · rw [List.forall_mem_cons]
      exact ⟨head, tail⟩

theorem all_insertAll {table later : Table α} (all : ∀ entry ∈ table, P entry.2)
    (more : ∀ entry ∈ later, P entry.2) : ∀ entry ∈ insertAll table later, P entry.2 := by
  induction later generalizing table with
  | nil => exact all
  | cons first rest ih =>
    rw [List.forall_mem_cons] at more
    exact ih (all_insert all first.1 more.1) more.2

theorem all_ofEntries {entries : Table α} (all : ∀ entry ∈ entries, P entry.2) :
    ∀ entry ∈ ofEntries entries, P entry.2 :=
  @all_insertAll _ P [] entries (by simp) all

end Table

/-! ## Settled parts of a node -/

namespace Ledger

variable {link : Link} {ledger before after : Ledger}

def SettlesValue (link : Link) (ledger : Ledger) (value : Value) : Prop :=
  value.Firm ∧ ledger.Covers link value.mentions

/-- A statement whose data is settled. -/
def Holds (link : Link) (ledger : Ledger) (statement : Statement) : Prop :=
  statement.data.value.Firm ∧ ledger.Covers link statement.mentions

theorem Holds.mono {statement : Statement} (holds : before.Holds link statement) (le : before ≤ after) :
    after.Holds link statement :=
  ⟨holds.1, holds.2.mono le⟩

theorem SettlesValue.mono {value : Value} (settles : before.SettlesValue link value) (le : before ≤ after) :
    after.SettlesValue link value :=
  ⟨settles.1, settles.2.mono le⟩

theorem settles_iff {data : Data} :
    ledger.Settles link data ↔ ledger.Allows link (.node data.id) ∧ ledger.SettlesValue link data.value := by
  simp only [Settles, SettlesValue, Data.mentions_eta, covers_cons]
  exact and_left_comm

theorem Settles.value {data : Data} (settles : ledger.Settles link data) : ledger.SettlesValue link data.value :=
  (settles_iff.mp settles).2

theorem holds_iff {statement : Statement} :
    ledger.Holds link statement ↔ ledger.Allows link (.node statement.id) ∧ ledger.Settles link statement.data
      ∧ ∀ call ∈ statement.operations, ledger.Covers link call.mentions := by
  simp only [Holds, Settles, Statement.mentions_eta, covers_cons, covers_append, covers_flatMap]
  constructor
  · rintro ⟨firm, own, data, calls⟩
    exact ⟨own, ⟨firm, data⟩, calls⟩
  · rintro ⟨own, ⟨firm, data⟩, calls⟩
    exact ⟨firm, own, data, calls⟩

theorem Holds.data {statement : Statement} (holds : ledger.Holds link statement) :
    ledger.Settles link statement.data :=
  (holds_iff.mp holds).2.1

theorem settlesValue_array {items : List Statement} :
    ledger.SettlesValue link (.array items) ↔ ∀ item ∈ items, ledger.Holds link item := by
  change allFirm items ∧ ledger.Covers link (allMentions items) ↔ _
  rw [allFirm_iff, allMentions_eq_flatMap, covers_flatMap]
  constructor
  · rintro ⟨firm, covers⟩ item member
    exact ⟨firm item member, covers item member⟩
  · intro all
    exact ⟨fun item member => (all item member).1, fun item member => (all item member).2⟩

theorem settlesValue_record {entries : Table Statement} :
    ledger.SettlesValue link (.record entries) ↔ ∀ entry ∈ entries, ledger.Holds link entry.2 := by
  change entriesFirm entries ∧ ledger.Covers link (entryMentions entries) ↔ _
  rw [entriesFirm_iff, entryMentions_eq_flatMap, covers_flatMap]
  constructor
  · rintro ⟨firm, covers⟩ entry member
    exact ⟨firm entry member, covers entry member⟩
  · intro all
    exact ⟨fun entry member => (all entry member).1, fun entry member => (all entry member).2⟩

theorem settlesValue_handle {className : String} {arguments : List Statement} {instanceId : EntityId} :
    ledger.SettlesValue link (.handle className arguments instanceId)
      ↔ ledger.object instanceId className (seedText arguments)
        ∧ ∀ argument ∈ arguments, ledger.Covers link argument.mentions := by
  change True ∧ ledger.Covers link (.object instanceId className (seedText arguments) :: allMentions arguments) ↔ _
  rw [true_and, allMentions_eq_flatMap, covers_cons, covers_flatMap]
  rfl

theorem settlesValue_operation {name : Option String} {parameters body : List Statement} :
    ledger.SettlesValue link (.operation name parameters body)
      ↔ (∀ parameter ∈ parameters, ledger.Covers link parameter.mentions)
        ∧ ∀ statement ∈ body, ledger.Covers link statement.mentions := by
  change True ∧ ledger.Covers link (allMentions parameters ++ allMentions body) ↔ _
  rw [true_and, allMentions_eq_flatMap, allMentions_eq_flatMap, covers_append, covers_flatMap, covers_flatMap]

end Ledger

namespace Link

def SameValue (link : Link) (ledger : Ledger) (value value' : Value) : Prop :=
  value' = value.rename link.names ∧ ledger.SettlesValue link value

def SameStatement (link : Link) (ledger : Ledger) (statement statement' : Statement) : Prop :=
  statement' = statement.rename link.names ∧ ledger.Holds link statement

def SameAll (link : Link) (ledger : Ledger) (statements statements' : List Statement) : Prop :=
  statements' = statements.map (Statement.rename link.names) ∧ ∀ statement ∈ statements, ledger.Holds link statement

def SameEntries (link : Link) (ledger : Ledger) (entries entries' : Table Statement) : Prop :=
  entries' = Table.mapValues (Statement.rename link.names) entries ∧ ∀ entry ∈ entries, ledger.Holds link entry.2

variable {link : Link} {before after ledger : Ledger}

theorem SameStatement.mono {statement statement' : Statement} (same : link.SameStatement before statement statement')
    (le : before ≤ after) : link.SameStatement after statement statement' :=
  ⟨same.1, same.2.mono le⟩

theorem SameAll.nil : link.SameAll ledger [] [] := ⟨rfl, by simp⟩

theorem SameAll.cons {first first' : Statement} {rest rest' : List Statement}
    (head : link.SameStatement before first first') (le : before ≤ after) (tail : link.SameAll after rest rest') :
    link.SameAll after (first :: rest) (first' :: rest') :=
  ⟨by rw [head.1, tail.1]; rfl, List.forall_mem_cons.mpr ⟨head.2.mono le, tail.2⟩⟩

theorem SameEntries.nil : link.SameEntries ledger [] [] := ⟨rfl, by simp⟩

theorem SameEntries.cons (key : String) {first first' : Statement} {rest rest' : Table Statement}
    (head : link.SameStatement before first first') (le : before ≤ after) (tail : link.SameEntries after rest rest') :
    link.SameEntries after ((key, first) :: rest) ((key, first') :: rest') :=
  ⟨by rw [head.1, tail.1]; rfl, List.forall_mem_cons.mpr ⟨head.2.mono le, tail.2⟩⟩

theorem SameAll.of_forall₂ {statements statements' : List Statement}
    (all : List.Forall₂ (link.SameStatement ledger) statements statements') :
    link.SameAll ledger statements statements' := by
  induction all with
  | nil => exact .nil
  | cons head _ ih => exact .cons head (le_refl _) ih

theorem SameEntries.of_forall₂ {entries entries' : Table Statement}
    (all : List.Forall₂ (fun entry entry' => entry'.1 = entry.1 ∧ link.SameStatement ledger entry.2 entry'.2)
      entries entries') : link.SameEntries ledger entries entries' := by
  induction all with
  | nil => exact .nil
  | @cons entry entry' _ _ head _ ih =>
    obtain ⟨key, statement⟩ := entry
    obtain ⟨key', statement'⟩ := entry'
    obtain ⟨rfl, same⟩ := head
    exact .cons key' same (le_refl _) ih

theorem SameAll.array {items items' : List Statement} (same : link.SameAll ledger items items') :
    link.SameValue ledger (.array items) (.array items') :=
  ⟨by rw [same.1, Value.rename, renameAll_eq_map], Ledger.settlesValue_array.mpr same.2⟩

theorem SameEntries.record {entries entries' : Table Statement} (same : link.SameEntries ledger entries entries') :
    link.SameValue ledger (.record entries) (.record entries') :=
  ⟨by rw [same.1, Value.rename, renameEntries_eq_map]; rfl, Ledger.settlesValue_record.mpr same.2⟩

end Link

/-! ## Builders -/

namespace Link.Sim

variable {link : Link} {ledger : Ledger}

theorem make (type : DataType) {value value' : Value} (same : link.SameValue ledger value value') :
    link.Sim ledger (Run.draw (Data.make type value)) (Run.draw (Data.make type value')) link.Same := by
  rw [Data.make, Data.make, draw_bind, draw_bind]
  refine .bind freshId fun later id id' le drew => ?_
  refine .pure ⟨?_, Ledger.settles_iff.mpr ⟨drew.2.1, same.2.mono le⟩⟩
  rw [drew.1, same.1]
  rfl

theorem undefined : link.Sim ledger (Run.draw Data.undefined) (Run.draw Data.undefined) link.Same :=
  make _ ⟨rfl, trivial, Ledger.covers_nil⟩

theorem text (value : String) : link.Sim ledger (Run.draw (Data.text value)) (Run.draw (Data.text value)) link.Same :=
  make _ ⟨rfl, trivial, Ledger.covers_nil⟩

theorem number (value : Float) :
    link.Sim ledger (Run.draw (Data.number value)) (Run.draw (Data.number value)) link.Same :=
  make _ ⟨rfl, trivial, Ledger.covers_nil⟩

theorem boolean (value : Bool) :
    link.Sim ledger (Run.draw (Data.boolean value)) (Run.draw (Data.boolean value)) link.Same :=
  make _ ⟨rfl, trivial, Ledger.covers_nil⟩

theorem error (kind : ErrorKind) (reason : String) :
    link.Sim ledger (Run.draw (Data.error kind reason)) (Run.draw (Data.error kind reason)) link.Same :=
  make _ ⟨rfl, trivial, Ledger.covers_nil⟩

theorem makeStatement {data data' : Data} (same : link.Same ledger data data') :
    link.Sim ledger (Run.draw (Statement.make data)) (Run.draw (Statement.make data')) link.SameStatement := by
  rw [Statement.make, Statement.make, draw_bind, draw_bind]
  refine .bind freshId fun later id id' le drew => ?_
  refine .pure ⟨?_, Ledger.holds_iff.mpr ⟨drew.2.1, same.2.mono le, by simp⟩⟩
  rw [drew.1, same.1]
  rfl

theorem draw_mapM (build : α → Fresh β) (items : List α) :
    Run.draw (items.mapM build) = items.mapM fun item => Run.draw (build item) := by
  induction items with
  | nil => rfl
  | cons item rest ih =>
    rw [List.mapM_cons, List.mapM_cons, draw_bind, ← ih]
    rfl

theorem makeStatements {items items' : List Data} (all : List.Forall₂ (link.Same ledger) items items') :
    link.Sim ledger (Run.draw (items.mapM Statement.make)) (Run.draw (items'.mapM Statement.make)) link.SameAll := by
  rw [draw_mapM, draw_mapM]
  refine .weaken (mapM link.SameStatement (fun _ _ _ _ le same => same.mono le) ?_) fun _ _ _ _ => .of_forall₂
  refine all.imp fun data data' same later le => ?_
  exact makeStatement (same.mono le)

theorem array {items items' : List Data} (fallback : DataType) (all : List.Forall₂ (link.Same ledger) items items') :
    link.Sim ledger (Run.draw (Data.array items fallback)) (Run.draw (Data.array items' fallback)) link.Same := by
  have types : items'.map (·.type) = items.map (·.type) := by
    induction all with
    | nil => rfl
    | cons head _ ih => simp [head.1, ih]
  have empty : items'.isEmpty = items.isEmpty := by
    cases all <;> rfl
  rw [Data.array, Data.array, draw_bind, draw_bind, types, empty]
  exact .bind (makeStatements all) fun later statements statements' le same => make _ same.array

theorem entryTypes {entries entries' : List (String × Data)}
    (all : List.Forall₂ (fun entry entry' => entry'.1 = entry.1 ∧ link.Same ledger entry.2 entry'.2) entries entries') :
    (entries'.map fun (key, data) => (key, data.type)) = entries.map fun (key, data) => (key, data.type) := by
  induction all with
  | nil => rfl
  | cons head _ ih => simp [head.1, head.2.1, ih]

theorem makeEntries {entries entries' : List (String × Data)}
    (all : List.Forall₂ (fun entry entry' => entry'.1 = entry.1 ∧ link.Same ledger entry.2 entry'.2) entries entries') :
    link.Sim ledger (entries.mapM fun (key, data) => Run.draw (return (key, ← Statement.make data)))
      (entries'.mapM fun (key, data) => Run.draw (return (key, ← Statement.make data))) link.SameEntries := by
  refine .weaken (mapM (fun later (entry entry' : String × Statement) =>
    entry'.1 = entry.1 ∧ link.SameStatement later entry.2 entry'.2) (fun _ _ _ _ le same => ⟨same.1, same.2.mono le⟩) ?_)
    fun _ _ _ _ => .of_forall₂
  refine all.imp fun entry entry' same later le => ?_
  dsimp only
  rw [draw_bind, draw_bind]
  exact .bind (makeStatement (same.2.mono le)) fun _ _ _ _ made => .pure ⟨same.1, made⟩

theorem object {entries entries' : List (String × Data)}
    (all : List.Forall₂ (fun entry entry' => entry'.1 = entry.1 ∧ link.Same ledger entry.2 entry'.2) entries entries') :
    link.Sim ledger (Run.draw (Data.object entries)) (Run.draw (Data.object entries')) link.Same := by
  rw [Data.object, Data.object, draw_bind, draw_bind, entryTypes all, draw_mapM, draw_mapM]
  refine .bind (makeEntries all) fun later statements statements' le same => make _ (SameEntries.record ⟨?_, ?_⟩)
  · rw [same.1, Table.ofEntries_mapValues]
  · exact Table.all_ofEntries same.2

/-! ## Data with a given plain view -/

mutual

theorem ofPlain : ∀ (json : Json) (ledger : Ledger),
    link.Sim ledger (Run.draw (Data.ofPlain json)) (Run.draw (Data.ofPlain json)) link.Same
  | .null, _ => undefined
  | .bool value, _ => boolean value
  | .int _, _ => number _
  | .float value, _ => number value
  | .text value, _ => text value
  | .array items, ledger => .build (dataOfItems items ledger) fun _ _ _ _ all => array _ all
  | .object fields, ledger => .build (dataOfFields fields ledger) fun _ _ _ _ all => object all
termination_by structural json => json

theorem dataOfItems : ∀ (items : List Json) (ledger : Ledger),
    link.Sim ledger (Run.draw (LivePipeline.dataOfItems items)) (Run.draw (LivePipeline.dataOfItems items))
      fun later values values' => List.Forall₂ (link.Same later) values values'
  | [], _ => .built .nil
  | item :: rest, ledger => by
    refine .build (ofPlain item ledger) fun later data data' _ same => ?_
    refine .build (dataOfItems rest later) fun last values values' le all => ?_
    exact .built (.cons (same.mono le) all)
termination_by structural items => items

theorem dataOfFields : ∀ (fields : List (String × Json)) (ledger : Ledger),
    link.Sim ledger (Run.draw (LivePipeline.dataOfFields fields)) (Run.draw (LivePipeline.dataOfFields fields))
      fun later entries entries' => List.Forall₂
        (fun entry entry' => entry'.1 = entry.1 ∧ link.Same later entry.2 entry'.2) entries entries'
  | [], _ => .built .nil
  | (key, value) :: rest, ledger => by
    refine .build (ofPlain value ledger) fun later data data' _ same => ?_
    refine .build (dataOfFields rest later) fun last entries entries' le all => ?_
    exact .built (.cons ⟨rfl, same.mono le⟩ all)
termination_by structural fields => fields

end

theorem responseData (response : Response) :
    link.Sim ledger (Run.draw (Operation.responseData response)) (Run.draw (Operation.responseData response))
      link.Same := by
  refine .build (number _) fun first status status' _ statuses => ?_
  refine .build (boolean _) fun second ok ok' le oks => ?_
  refine .build (text _) fun third body body' le' bodies => ?_
  exact object (.cons ⟨rfl, statuses.mono (le.trans le')⟩ (.cons ⟨rfl, oks.mono le'⟩ (.cons ⟨rfl, bodies⟩ .nil)))

end Link.Sim

end LivePipeline
