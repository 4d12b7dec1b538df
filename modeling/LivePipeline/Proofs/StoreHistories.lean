import Mathlib.Data.Set.Card
import LivePipeline.Proofs.Histories

/-! The store as its history tells it. All that works on a store does so through handles of its own. What is remembered
under an identity follows from the changes to that identity and from the sweeps, in the order in which they were made
through any of the handles. -/

namespace LivePipeline

/-! ## Filtering a table by its values -/

namespace Table

variable {α : Type u} {table : Table α}

theorem keys_filter_sublist (keep : α → Bool) (table : Table α) :
    (keys (table.filter fun entry => keep entry.2)).Sublist (keys table) :=
  List.filter_sublist.map _

theorem get?_filter (distinct : (keys table).Nodup) (keep : α → Bool) (key : String) :
    get? (table.filter fun entry => keep entry.2) key = (get? table key).filter keep := by
  induction table with
  | nil => rfl
  | cons entry rest ih =>
    obtain ⟨name, value⟩ := entry
    obtain ⟨absent, distinct⟩ := List.nodup_cons.mp distinct
    have behind := ih distinct
    by_cases kept : keep value
    · rw [List.filter_cons_of_pos (by simpa using kept), get?, get?, behind]
      split
      · rw [Option.filter_some, if_pos kept]
      · rfl
    · rw [List.filter_cons_of_neg (by simpa using kept), get?, behind]
      split
      · next same =>
        subst same
        rw [get?_of_not_mem absent, Option.filter_some, if_neg kept, Option.filter_none]
      · rfl

end Table

namespace Store

/-! ## Changes -/

/-- What can be done to a store. -/
inductive Change where
  | record (cacheable : Bool) (id : EntityId) (data : Data)
  | remove (id : EntityId)
  | sweep
  | setFingerprint (fingerprint : String) (data : Data)
  | setInstance (id : EntityId) (external : External)

namespace Change

def apply (store : Store) : Change → Store
  | record cacheable id data => if cacheable then store.setCacheableResult id data else store.setResult id data
  | remove id => store.removeResult id
  | sweep => store.sweep
  | setFingerprint fingerprint data => store.setFingerprint fingerprint data
  | setInstance id external => store.setInstance id external

/-- The identity whose result is recorded or removed. -/
def subject? : Change → Option EntityId
  | record _ id _ | remove id => some id
  | sweep | setFingerprint _ _ | setInstance _ _ => none

/-- What is written to the results kept for reuse. -/
def fingerprint? : Change → Option (Touch Data)
  | setFingerprint fingerprint data => some (.write fingerprint data)
  | record _ _ _ | remove _ | sweep | setInstance _ _ => none

/-- What is written to the external objects. -/
def instance? : Change → Option (Touch External)
  | setInstance id external => some (.write id external)
  | record _ _ _ | remove _ | sweep | setFingerprint _ _ => none

/-- What a change makes of the entry of one identity. -/
def onEntry (id : EntityId) (entry : Option CachedResult) : Change → Option CachedResult
  | record cacheable other data =>
    if other = id then some ⟨data, (entry.map (·.cacheable)).getD false || cacheable⟩ else entry
  | remove other => if other = id then none else entry
  | sweep => entry.filter (·.cacheable)
  | setFingerprint _ _ | setInstance _ _ => entry

theorem apply_record (store : Store) (cacheable : Bool) (id : EntityId) (data : Data) :
    apply store (record cacheable id data) = store.record cacheable id data := by
  cases cacheable with
  | true => rfl
  | false => rfl

/-- A change to one identity leaves the entries of the others. -/
theorem onEntry_of_ne {change : Change} {id other : EntityId} (about : change.subject? = some other) (apart : other ≠ id)
    (entry : Option CachedResult) : change.onEntry id entry = entry := by
  cases change with
  | record cacheable subject data =>
    cases about
    exact if_neg apart
  | remove subject =>
    cases about
    exact if_neg apart
  | sweep | setFingerprint _ _ | setInstance _ _ => cases about

theorem keys_apply_nodup {store : Store} (distinct : (Table.keys store.results).Nodup) (change : Change) :
    (Table.keys (apply store change).results).Nodup := by
  cases change with
  | record cacheable id data =>
    rw [apply_record]
    exact Table.nodup_insert distinct _ _
  | remove id =>
    change (Table.keys (Table.erase store.results id)).Nodup
    rw [Table.keys_erase]
    exact distinct.erase _
  | sweep => exact distinct.sublist (Table.keys_filter_sublist CachedResult.cacheable _)
  | setFingerprint _ _ | setInstance _ _ => exact distinct

/-- A change acts on the entry of each identity by itself. -/
theorem get?_apply {store : Store} (distinct : (Table.keys store.results).Nodup) (change : Change) (id : EntityId) :
    Table.get? (apply store change).results id = change.onEntry id (Table.get? store.results id) := by
  cases change with
  | record cacheable other data =>
    rw [apply_record, Store.record, onEntry]
    by_cases same : other = id
    · subst same
      rw [if_pos rfl, Table.get?_insert_self]
    · rw [if_neg same, Table.get?_insert_of_ne _ _ (Ne.symm same)]
  | remove other =>
    change Table.get? (Table.erase store.results other) id = _
    rw [Table.get?_erase distinct, onEntry]
    simp only [eq_comm]
  | sweep => exact Table.get?_filter distinct CachedResult.cacheable id
  | setFingerprint _ _ | setInstance _ _ => rfl

theorem fingerprints_apply (store : Store) (change : Change) : (apply store change).fingerprints
    = (change.fingerprint?.map (Touch.apply store.fingerprints)).getD store.fingerprints := by
  cases change with
  | record cacheable id data =>
    rw [apply_record]
    rfl
  | remove _ | sweep | setFingerprint _ _ | setInstance _ _ => rfl

theorem instances_apply (store : Store) (change : Change) : (apply store change).instances
    = (change.instance?.map (Touch.apply store.instances)).getD store.instances := by
  cases change with
  | record cacheable id data =>
    rw [apply_record]
    rfl
  | remove _ | sweep | setFingerprint _ _ | setInstance _ _ => rfl

end Change

/-! ## Histories -/

/-- The store that a history leaves. -/
def replay (history : List Change) : Store := history.foldl Change.apply {}

/-- The identity was recorded as cacheable, and not removed since. -/
def Kept (history : List Change) (id : EntityId) : Prop :=
  ∃ before data after, history = before ++ .record true id data :: after ∧ .remove id ∉ after

/-- The data is that of the last record of the identity, which was not removed since and is kept if a sweep came behind. -/
def Remembers (history : List Change) (id : EntityId) (data : Data) : Prop :=
  ∃ before cacheable after, history = before ++ .record cacheable id data :: after
    ∧ (∀ change ∈ after, change.subject? ≠ some id) ∧ (.sweep ∈ after → Kept history id)

/-- All that can be read of the two stores is the same. -/
structure Alike (store other : Store) : Prop where
  results : ∀ id, store.result? id = other.result? id
  size : store.size = other.size
  fingerprints : ∀ fingerprint, store.fingerprint? fingerprint = other.fingerprint? fingerprint
  instances : ∀ id, store.instance? id = other.instance? id

theorem Alike.refl (store : Store) : Alike store store := ⟨fun _ => rfl, rfl, fun _ => rfl, fun _ => rfl⟩

section

variable {history : List Change} {change : Change} {id : EntityId} {data : Data}

theorem replay_concat (history : List Change) (change : Change) : replay (history ++ [change]) = change.apply (replay history) := by
  rw [replay, List.foldl_append]
  rfl

theorem keys_replay_nodup (history : List Change) : (Table.keys (replay history).results).Nodup := by
  induction history using List.reverseRecOn with
  | nil => exact List.nodup_nil
  | append_singleton history change ih =>
    rw [replay_concat]
    exact Change.keys_apply_nodup ih change

/-- What stands in a longer history is its last change or stands in the history. -/
theorem last_or_before {before after : List Change} {found : Change} (whole : history ++ [change] = before ++ found :: after) :
    found = change ∨ ∃ earlier, after = earlier ++ [change] ∧ history = before ++ found :: earlier := by
  rcases List.eq_nil_or_concat' after with rfl | ⟨earlier, last, rfl⟩
  · exact .inl (List.append_inj_right' whole rfl |> List.head_eq_of_cons_eq).symm
  · rw [← List.cons_append, ← List.append_assoc] at whole
    obtain ⟨first, same⟩ := List.append_inj' whole rfl
    exact .inr ⟨earlier, by rw [List.head_eq_of_cons_eq same], first⟩

theorem kept_concat : Kept (history ++ [change]) id ↔
    (∃ data, change = .record true id data) ∨ change ≠ .remove id ∧ Kept history id := by
  constructor
  · rintro ⟨before, data, after, whole', stays⟩
    rcases last_or_before whole' with same | ⟨earlier, rfl, whole⟩
    · exact .inl ⟨data, same.symm⟩
    · rw [List.mem_append, not_or] at stays
      refine .inr ⟨?_, before, data, earlier, whole, stays.1⟩
      rintro rfl
      exact stays.2 List.mem_cons_self
  · rintro (⟨data, rfl⟩ | ⟨other, before, data, after, rfl, stays⟩)
    · exact ⟨history, data, [], rfl, List.not_mem_nil⟩
    · refine ⟨before, data, after ++ [change], by simp, ?_⟩
      rw [List.mem_append, List.mem_singleton, not_or]
      exact ⟨stays, Ne.symm other⟩

/-- Changes to other identities, and all that are no records or removals, do not decide what is kept. -/
theorem kept_concat_of_ne (other : change.subject? ≠ some id) : Kept (history ++ [change]) id ↔ Kept history id := by
  rw [kept_concat]
  constructor
  · rintro (⟨data, rfl⟩ | ⟨-, kept⟩)
    · exact absurd rfl other
    · exact kept
  · intro kept
    refine .inr ⟨?_, kept⟩
    rintro rfl
    exact other rfl

theorem remembers_concat : Remembers (history ++ [change]) id data ↔
    (∃ cacheable, change = .record cacheable id data)
      ∨ change.subject? ≠ some id ∧ Remembers history id data ∧ (change = .sweep → Kept history id) := by
  constructor
  · rintro ⟨before, cacheable, after, whole', others, survives⟩
    rcases last_or_before whole' with same | ⟨earlier, rfl, whole⟩
    · exact .inl ⟨cacheable, same.symm⟩
    · have other : change.subject? ≠ some id := others change (by simp)
      rw [kept_concat_of_ne other] at survives
      refine .inr ⟨other, ⟨before, cacheable, earlier, whole, ?_, ?_⟩, ?_⟩
      · intro change among
        exact others change (List.mem_append_left _ among)
      · intro swept
        exact survives (List.mem_append_left _ swept)
      · rintro rfl
        exact survives (by simp)
  · rintro (⟨cacheable, rfl⟩ | ⟨other, ⟨before, cacheable, after, whole, others, survives⟩, last⟩)
    · exact ⟨history, cacheable, [], rfl, by simp, by simp⟩
    · refine ⟨before, cacheable, after ++ [change], by simp [whole], ?_, ?_⟩
      · intro later among
        rcases List.mem_append.mp among with earlier | final
        · exact others later earlier
        · rwa [List.mem_singleton.mp final]
      · intro swept
        rw [kept_concat_of_ne other]
        rcases List.mem_append.mp swept with earlier | final
        · exact survives earlier
        · exact last (List.mem_singleton.mp final).symm

/-- What the store has under an identity: the data and the mark that the history tells. -/
structure Told (history : List Change) (id : EntityId) (entry : Option CachedResult) : Prop where
  data : ∀ data, entry.map (·.data) = some data ↔ Remembers history id data
  cacheable : (entry.map (·.cacheable)).getD false = true ↔ Kept history id

/-- One change: a record writes the data and never takes the mark back, a removal takes both, and a sweep takes the
unmarked ones. -/
theorem Told.step {entry : Option CachedResult} (told : Told history id entry) (change : Change) :
    Told (history ++ [change]) id (change.onEntry id entry) := by
  -- What is not about the identity and is no sweep changes nothing.
  have unchanged (other : change.subject? ≠ some id) (still : change ≠ .sweep) : Told (history ++ [change]) id entry := by
    refine ⟨?_, (told.cacheable).trans (kept_concat_of_ne other).symm⟩
    intro data
    rw [told.data, remembers_concat]
    constructor
    · intro remembers
      exact .inr ⟨other, remembers, fun swept => absurd swept still⟩
    · rintro (⟨cacheable, rfl⟩ | ⟨-, remembers, -⟩)
      · exact absurd rfl other
      · exact remembers
  cases change with
  | record cacheable subject data =>
    rw [Change.onEntry]
    by_cases same : subject = id
    · subst same
      rw [if_pos rfl]
      refine ⟨?_, ?_⟩
      · intro found
        rw [remembers_concat]
        simp [Change.subject?]
      · rw [Option.map_some, Option.getD_some, Bool.or_eq_true, told.cacheable, kept_concat]
        cases cacheable with
        | true => simp
        | false => simp
    · rw [if_neg same]
      exact unchanged (by simpa [Change.subject?] using same) (by simp)
  | remove subject =>
    rw [Change.onEntry]
    by_cases same : subject = id
    · subst same
      rw [if_pos rfl]
      refine ⟨?_, ?_⟩
      · intro found
        rw [remembers_concat]
        simp [Change.subject?]
      · rw [kept_concat]
        simp
    · rw [if_neg same]
      exact unchanged (by simpa [Change.subject?] using same) (by simp)
  | sweep =>
    have other : Change.subject? .sweep ≠ some id := by simp [Change.subject?]
    have marked := told.cacheable
    rw [Change.onEntry]
    refine ⟨?_, ?_⟩
    · intro data
      rw [remembers_concat, ← told.data, ← marked]
      cases entry with
      | none => simp
      | some result => by_cases kept : result.cacheable <;> simp [kept, Change.subject?]
    · rw [kept_concat_of_ne other, ← marked]
      cases entry with
      | none => rfl
      | some result => by_cases kept : result.cacheable <;> simp [Option.filter_some, kept]
  | setFingerprint fingerprint data => exact unchanged (by simp [Change.subject?]) (by simp)
  | setInstance subject external => exact unchanged (by simp [Change.subject?]) (by simp)

/-- A whole history. -/
theorem told_replay (history : List Change) (id : EntityId) : Told history id (Table.get? (replay history).results id) := by
  induction history using List.reverseRecOn with
  | nil =>
    refine ⟨?_, ?_⟩
    · intro data
      simp [replay, Table.get?, Remembers]
    · simp [replay, Table.get?, Kept]
  | append_singleton history change ih =>
    rw [replay_concat, Change.get?_apply (keys_replay_nodup history)]
    exact ih.step change

theorem result?_replay : (replay history).result? id = some data ↔ Remembers history id data := (told_replay history id).data data

theorem isSome_result? {store : Store} : (store.result? id).isSome = true ↔ id ∈ Table.keys store.results := by
  rw [result?, Option.isSome_map]
  exact Table.has_iff

/-- A kept identity has a result. -/
theorem isSome_of_kept (kept : Kept history id) : ((replay history).result? id).isSome = true := by
  have marked := (told_replay history id).cacheable.mpr kept
  cases found : Table.get? (replay history).results id with
  | none => simp [found] at marked
  | some result => simp [result?, found]

/-- A sweep spares the kept identities and no others. -/
theorem result?_sweep (history : List Change) (id : EntityId) :
    (Kept history id → (replay history).sweep.result? id = (replay history).result? id)
      ∧ (¬ Kept history id → (replay history).sweep.result? id = none) := by
  have marked := (told_replay history id).cacheable
  have filtered : Table.get? (replay history).sweep.results id = (Table.get? (replay history).results id).filter (·.cacheable) :=
    Table.get?_filter (keys_replay_nodup history) CachedResult.cacheable id
  rw [← marked, result?, result?, filtered]
  cases Table.get? (replay history).results id with
  | none => simp
  | some result => by_cases kept : result.cacheable <;> simp [kept]

/-- The size counts the identities with a result. -/
theorem encard_results {store : Store} (distinct : (Table.keys store.results).Nodup) :
    {id | (store.result? id).isSome = true}.encard = store.size := by
  have same : {id | (store.result? id).isSome = true} = ((Table.keys store.results).toFinset : Set EntityId) := by
    ext id
    rw [Set.mem_ofPred_eq, isSome_result?, List.coe_toFinset, Set.mem_ofPred_eq]
  rw [same, Set.encard_coe_eq_coe_finsetCard, List.toFinset_card_of_nodup distinct, Table.keys, List.length_map, size]

/-! ## Fingerprints and external objects -/

theorem fingerprints_replay (history : List Change) :
    (replay history).fingerprints = Table.replay (history.filterMap Change.fingerprint?) := by
  induction history using List.reverseRecOn with
  | nil => rfl
  | append_singleton history change ih =>
    rw [replay_concat, Change.fingerprints_apply, List.filterMap_append, ih]
    cases written : change.fingerprint? with
    | none => simp [written]
    | some touch => simp [written, Table.replay_concat]

theorem instances_replay (history : List Change) :
    (replay history).instances = Table.replay (history.filterMap Change.instance?) := by
  induction history using List.reverseRecOn with
  | nil => rfl
  | append_singleton history change ih =>
    rw [replay_concat, Change.instances_apply, List.filterMap_append, ih]
    cases written : change.instance? with
    | none => simp [written]
    | some touch => simp [written, Table.replay_concat]

/-! ## Changes in another order -/

/-- Records and removals of different identities may change places. -/
theorem Change.onEntry_comm {first second : Change} {one other : EntityId} (about : first.subject? = some one)
    (about' : second.subject? = some other) (apart : one ≠ other) (id : EntityId) (entry : Option CachedResult) :
    second.onEntry id (first.onEntry id entry) = first.onEntry id (second.onEntry id entry) := by
  by_cases own : one = id
  · subst own
    rw [Change.onEntry_of_ne about' (Ne.symm apart), Change.onEntry_of_ne about' (Ne.symm apart)]
  · rw [Change.onEntry_of_ne about own, Change.onEntry_of_ne about own]

theorem get?_replay (history : List Change) (id : EntityId) :
    Table.get? (replay history).results id = history.foldl (Change.onEntry id) none := by
  induction history using List.reverseRecOn with
  | nil => rfl
  | append_singleton history change ih =>
    rw [replay_concat, Change.get?_apply (keys_replay_nodup history), List.foldl_append, ih]
    rfl

/-- Stores with the same entries read the same, in whatever order the entries stand. -/
theorem alike_of_get? {store other : Store} (distinct : (Table.keys store.results).Nodup)
    (distinct' : (Table.keys other.results).Nodup) (entries : ∀ id, Table.get? store.results id = Table.get? other.results id)
    (fingerprints : store.fingerprints = other.fingerprints) (instances : store.instances = other.instances) :
    Alike store other := by
  have results : ∀ id, store.result? id = other.result? id := by
    intro id
    rw [result?, result?, entries]
  refine ⟨results, ?_, ?_, ?_⟩
  · have counted := encard_results distinct
    simp only [results] at counted
    rw [encard_results distinct'] at counted
    exact_mod_cast counted.symm
  · intro fingerprint
    rw [fingerprint?, fingerprint?, fingerprints]
  · intro id
    rw [instance?, instance?, instances]

theorem replay_comm {first second : Change} {one other : EntityId} (about : first.subject? = some one)
    (about' : second.subject? = some other) (apart : one ≠ other) (before after : List Change) :
    Alike (replay (before ++ first :: second :: after)) (replay (before ++ second :: first :: after)) := by
  have unwritten {change : Change} {id : EntityId} (about : change.subject? = some id) :
      change.fingerprint? = none ∧ change.instance? = none := by
    cases change with
    | record _ _ _ | remove _ => exact ⟨rfl, rfl⟩
    | sweep | setFingerprint _ _ | setInstance _ _ => cases about
  obtain ⟨noFingerprint, noInstance⟩ := unwritten about
  obtain ⟨noFingerprint', noInstance'⟩ := unwritten about'
  apply alike_of_get? (keys_replay_nodup _) (keys_replay_nodup _)
  · intro id
    rw [get?_replay, get?_replay, List.foldl_append, List.foldl_append, List.foldl_cons, List.foldl_cons, List.foldl_cons,
      List.foldl_cons, Change.onEntry_comm about about' apart]
  · rw [fingerprints_replay, fingerprints_replay]
    simp [noFingerprint, noFingerprint']
  · rw [instances_replay, instances_replay]
    simp [noInstance, noInstance']

end

/-! ## Handles -/

section

variable {Handle : Type u} {Place : Type v} [DecidableEq Place]

/-- The stores after changes that were made through handles. Each handle stands for the store at its place. A clone of a
handle has the place of that handle, and it was not used before it was made. -/
def through (place : Handle → Place) (steps : List (Handle × Change)) : Place → Store :=
  steps.foldl (fun stores step => Function.update stores (place step.1) (step.2.apply (stores (place step.1)))) fun _ => {}

/-- The changes that were made through a handle and its clones. -/
def shared (place : Handle → Place) (steps : List (Handle × Change)) (handle : Handle) : List Change :=
  (steps.filter fun step => place step.1 = place handle).map (·.2)

variable (place : Handle → Place)

/-- A change through one handle is seen through those for the same store and no others. -/
theorem through_concat (steps : List (Handle × Change)) (used : Handle) (change : Change) (handle : Handle) :
    through place (steps ++ [(used, change)]) (place handle)
      = if place used = place handle then change.apply (through place steps (place handle))
        else through place steps (place handle) := by
  rw [through, List.foldl_append, List.foldl_cons, List.foldl_nil, ← through]
  by_cases same : place used = place handle
  · rw [if_pos same, ← same, Function.update_self]
  · rw [if_neg same, Function.update_of_ne (Ne.symm same)]

theorem through_eq_replay (steps : List (Handle × Change)) (handle : Handle) :
    through place steps (place handle) = replay (shared place steps handle) := by
  induction steps using List.reverseRecOn with
  | nil => rfl
  | append_singleton steps step ih =>
    rw [through_concat, shared, List.filter_append, List.filter_singleton, ih]
    by_cases same : place step.1 = place handle
    · rw [if_pos same, decide_eq_true same, cond_true, List.map_append, List.map_singleton, replay_concat, shared]
    · rw [if_neg same, decide_eq_false same, cond_false, List.append_nil, shared]

/-- Through whichever handles a store is changed: what it has under an identity is the data of the last record of that,
unless the identity was removed since; a sweep spares exactly the identities that were recorded as cacheable since their
last removal; the size counts the identities that have a result; what is kept for reuse and the external objects are those
last written, which no record, removal or sweep touches; and records and removals of different identities may change
places, whatever comes behind them. -/
theorem told_by_history (steps : List (Handle × Change)) (handle : Handle) :
    let store := through place steps (place handle)
    let history := shared place steps handle
    (∀ id data, store.result? id = some data ↔ Remembers history id data)
    ∧ (∀ id, (Kept history id → (store.result? id).isSome = true ∧ store.sweep.result? id = store.result? id)
      ∧ (¬ Kept history id → store.sweep.result? id = none))
    ∧ {id | (store.result? id).isSome = true}.encard = store.size
    ∧ (∀ fingerprint, store.fingerprint? fingerprint = Table.latest? (history.filterMap Change.fingerprint?) fingerprint)
    ∧ (∀ id, store.instance? id = Table.latest? (history.filterMap Change.instance?) id)
    ∧ (∀ change : Change, change = .sweep ∨ change.subject?.isSome = true →
      (change.apply store).fingerprints = store.fingerprints ∧ (change.apply store).instances = store.instances)
    ∧ ∀ first second one other, first.subject? = some one → second.subject? = some other → one ≠ other →
      ∀ used used' later, Alike (through place (steps ++ (used, first) :: (used', second) :: later) (place handle))
        (through place (steps ++ (used', second) :: (used, first) :: later) (place handle)) := by
  intro store history
  have told : store = replay history := through_eq_replay place steps handle
  rw [told]
  refine ⟨fun id data => result?_replay, ?_, encard_results (keys_replay_nodup history), ?_, ?_, ?_, ?_⟩
  · intro id
    obtain ⟨spared, swept⟩ := result?_sweep history id
    exact ⟨fun kept => ⟨isSome_of_kept kept, spared kept⟩, swept⟩
  · intro fingerprint
    rw [fingerprint?, fingerprints_replay, Table.get?_replay]
  · intro id
    rw [instance?, instances_replay, Table.get?_replay]
  · intro change onResults
    rw [Change.fingerprints_apply, Change.instances_apply]
    cases change with
    | record _ _ _ | remove _ | sweep => exact ⟨rfl, rfl⟩
    | setFingerprint _ _ | setInstance _ _ => simp [Change.subject?] at onResults
  · intro first second one other about about' apart used used' later
    rw [through_eq_replay, through_eq_replay]
    simp only [shared, List.filter_append, List.map_append, List.filter_cons]
    by_cases same : place used = place handle
    · by_cases same' : place used' = place handle
      · simpa [same, same'] using replay_comm about about' apart _ _
      · simpa [same, same'] using Alike.refl _
    · simpa [same] using Alike.refl _

end

/-- A page that was recorded as cacheable is recorded anew through a clone and survives a sweep. -/
theorem told_by_history_page :
    let page (text : String) : Data := ⟨"page", .string, .text text⟩
    let steps : List (Bool × Change) := [(false, .record true "get" (page "old")), (true, .record false "get" (page "new"))]
    let store := through (fun _ => ()) steps ()
    store.sweep.result? "get" = some (page "new")
      ∧ (store.sweep.fingerprints = store.fingerprints ∧ store.sweep.instances = store.instances)
      ∧ Alike (through (fun _ => ()) (steps ++ [(true, .remove "get"), (false, .record false "sum" (page "1")), (true, .sweep)]) ())
        (through (fun _ => ()) (steps ++ [(false, .record false "sum" (page "1")), (true, .remove "get"), (true, .sweep)]) ()) := by
  intro page steps store
  obtain ⟨remembered, swept, -, -, -, untouched, exchanged⟩ := told_by_history (fun _ => ()) steps false
  have kept : Kept (shared (fun _ => ()) steps false) "get" := ⟨[], page "old", [.record false "get" (page "new")], rfl, by simp⟩
  have last : store.result? "get" = some (page "new") :=
    (remembered "get" (page "new")).mpr ⟨[.record true "get" (page "old")], false, [], rfl, by simp, by simp⟩
  refine ⟨?_, untouched .sweep (.inl rfl), ?_⟩
  · exact ((swept "get").1 kept).2.trans last
  · exact exchanged (.remove "get") (.record false "sum" (page "1")) "get" "sum" rfl rfl (by decide) true false [(true, .sweep)]

end Store

end LivePipeline
