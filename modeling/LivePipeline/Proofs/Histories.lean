import Mathlib.Data.List.Induction
import LivePipeline.Proofs.Files

/-! Tables and their histories. A table is what is left of the writes and deletions that made it: under a key stands
what its last touch has left, and the keys that are there stand in the order of their first write since they were
last taken out. -/

namespace LivePipeline

/-! ## First occurrences -/

section

variable {α : Type u} [DecidableEq α]

theorem eraseDups_concat (values : List α) (value : α) :
    (values ++ [value]).eraseDups = if value ∈ values then values.eraseDups else values.eraseDups ++ [value] := by
  rw [List.eraseDups_append, List.removeAll]
  by_cases among : value ∈ values <;> simp [among, List.eraseDups_cons]

theorem nodup_eraseDups (values : List α) : values.eraseDups.Nodup := by
  induction values using List.reverseRecOn with
  | nil => simp
  | append_singleton values value ih =>
    rw [eraseDups_concat]
    split
    · exact ih
    · next absent =>
      rw [List.nodup_append]
      refine ⟨ih, List.nodup_singleton value, ?_⟩
      intro other earlier last isLast same
      rw [List.mem_singleton] at isLast
      subst same isLast
      exact absent (List.mem_eraseDups.mp earlier)

theorem eraseDups_of_nodup {values : List α} (distinct : values.Nodup) : values.eraseDups = values := by
  induction values using List.reverseRecOn with
  | nil => rfl
  | append_singleton values value ih =>
    obtain ⟨before, -, apart⟩ := List.nodup_append.mp distinct
    have absent : value ∉ values := fun among => apart value among value List.mem_cons_self rfl
    rw [eraseDups_concat, if_neg absent, ih before]

theorem eraseDups_append_eraseDups (values others : List α) : (values ++ others.eraseDups).eraseDups = (values ++ others).eraseDups := by
  induction others using List.reverseRecOn with
  | nil => rfl
  | append_singleton others value ih =>
    rw [eraseDups_concat, ← List.append_assoc, eraseDups_concat]
    split
    · next among => rw [ih, if_pos (List.mem_append_right _ among)]
    · rw [← List.append_assoc, eraseDups_concat, ih]
      simp only [List.mem_append, List.mem_eraseDups]

theorem eraseDups_eraseDups_append (values others : List α) : (values.eraseDups ++ others).eraseDups = (values ++ others).eraseDups := by
  induction others using List.reverseRecOn with
  | nil => rw [List.append_nil, List.append_nil, eraseDups_of_nodup (nodup_eraseDups values)]
  | append_singleton others value ih =>
    rw [← List.append_assoc, ← List.append_assoc, eraseDups_concat, eraseDups_concat, ih]
    simp only [List.mem_append, List.mem_eraseDups]

theorem eraseDups_filter (keep : α → Bool) (values : List α) : (values.filter keep).eraseDups = values.eraseDups.filter keep := by
  induction values using List.reverseRecOn with
  | nil => rfl
  | append_singleton values value ih =>
    rw [List.filter_append, eraseDups_concat]
    by_cases kept : keep value
    · rw [List.filter_singleton, kept, cond_true, eraseDups_concat, ih]
      by_cases among : value ∈ values
      · rw [if_pos among, if_pos (List.mem_filter.mpr ⟨among, kept⟩)]
      · have absent : value ∉ values.filter keep := fun among' => among (List.mem_filter.mp among').1
        rw [if_neg among, if_neg absent, List.filter_append, List.filter_singleton, kept, cond_true]
    · have dropped : [value].filter keep = [] := List.filter_eq_nil_iff.mpr (List.forall_mem_singleton.mpr kept)
      rw [dropped, List.append_nil, ih]
      split
      · rfl
      · rw [List.filter_append, dropped, List.append_nil]

end

/-! ## Touches -/

/-- What is done to a table under one key: a value is written there, or the key is taken out. -/
inductive Touch (α : Type u) where
  | write (key : String) (value : α)
  | drop (key : String)

namespace Touch

variable {α : Type u}

def key : Touch α → String
  | write key _ => key
  | drop key => key

/-- The value that stands under the key afterwards. -/
def value? : Touch α → Option α
  | write _ value => some value
  | drop _ => none

/-- The key is taken out. -/
def drops (key : String) : Touch α → Bool
  | write _ _ => false
  | drop other => other == key

def apply (table : Table α) : Touch α → Table α
  | write key value => Table.insert table key value
  | drop key => Table.erase table key

end Touch

namespace Table

variable {α : Type u} {table later third : Table α} {history : List (Touch α)} {key name : String}

/-- The table that a history leaves. -/
def replay (history : List (Touch α)) : Table α := history.foldl Touch.apply []

/-- What the last touch of a key has left under it. -/
def latest? (history : List (Touch α)) (key : String) : Option α :=
  (history.filter (·.key == key)).getLast?.bind Touch.value?

/-- The keys that are written and not taken out again, write by write. -/
def lasting : List (Touch α) → List String
  | [] => []
  | .write key _ :: rest => if rest.any (Touch.drops key) then lasting rest else key :: lasting rest
  | .drop _ :: rest => lasting rest

/-- The entries as writes. -/
def writes (table : Table α) : List (Touch α) := table.map fun entry => .write entry.1 entry.2

theorem has_iff : has table key = true ↔ key ∈ keys table := by
  rw [has, Option.isSome_iff_ne_none]
  exact ⟨fun found => not_imp_comm.mp get?_of_not_mem found, fun among absent => get?_eq_none absent among⟩

/-! ## One touch -/

theorem keys_insert (table : Table α) (key : String) (value : α) :
    keys (insert table key value) = if key ∈ keys table then keys table else keys table ++ [key] := by
  split
  · next among =>
    induction table with
    | nil => cases among
    | cons entry rest ih =>
      rw [insert]
      split
      · rfl
      · next apart =>
        have behind : key ∈ keys rest := (List.mem_cons.mp among).resolve_left (Ne.symm apart)
        exact congrArg (entry.1 :: ·) (ih behind)
  · next absent =>
    rw [insert_of_notMem absent, keys, List.map_append]
    rfl

theorem keys_erase (table : Table α) (key : String) : keys (erase table key) = (keys table).erase key := by
  induction table with
  | nil => rfl
  | cons entry rest ih =>
    change _ = (entry.1 :: keys rest).erase key
    rw [List.erase_cons, ← ih]
    by_cases same : entry.1 = key
    · rw [erase, if_pos same, if_pos (beq_iff_eq.mpr same)]
    · rw [erase, if_neg same, if_neg (by simpa using same)]
      rfl

/-- Taking a key out leaves the others as they are. -/
theorem get?_erase (distinct : (keys table).Nodup) (key name : String) :
    get? (erase table key) name = if name = key then none else get? table name := by
  induction table with
  | nil => simp [erase, get?]
  | cons entry rest ih =>
    obtain ⟨absent, distinct⟩ := List.nodup_cons.mp distinct
    rw [erase, get?]
    by_cases same : entry.1 = key
    · subst same
      rw [if_pos rfl]
      by_cases own : name = entry.1
      · rw [if_pos own, own, get?_of_not_mem absent]
      · rw [if_neg own, if_neg (Ne.symm own)]
    · rw [if_neg same, get?, ih distinct]
      by_cases found : entry.1 = name
      · rw [if_pos found, if_pos found, if_neg fun own => same (found.trans own)]
      · rw [if_neg found, if_neg found]

/-! ## Whole histories -/

theorem replay_concat (history : List (Touch α)) (touch : Touch α) : replay (history ++ [touch]) = touch.apply (replay history) := by
  rw [replay, List.foldl_append]
  rfl

theorem latest?_concat (history : List (Touch α)) (touch : Touch α) (key : String) :
    latest? (history ++ [touch]) key = if key = touch.key then touch.value? else latest? history key := by
  rw [latest?, List.filter_append, List.filter_singleton]
  split
  · next same => rw [beq_iff_eq.mpr same.symm, cond_true, List.getLast?_concat, Option.bind_some]
  · next apart => rw [beq_eq_false_iff_ne.mpr (Ne.symm apart), cond_false, List.append_nil, latest?]

theorem lasting_write (history : List (Touch α)) (key : String) (value : α) :
    lasting (history ++ [.write key value]) = lasting history ++ [key] := by
  induction history with
  | nil => rfl
  | cons touch rest ih =>
    cases touch with
    | write other _ =>
      have same : (rest ++ [Touch.write key value]).any (Touch.drops other) = rest.any (Touch.drops other) := by
        simp [Touch.drops]
      simp only [List.cons_append, lasting, same, ih]
      split <;> rfl
    | drop other => exact ih

theorem lasting_drop (history : List (Touch α)) (key : String) :
    lasting (history ++ [.drop key]) = (lasting history).filter (· != key) := by
  induction history with
  | nil => rfl
  | cons touch rest ih =>
    cases touch with
    | write other value =>
      simp only [List.cons_append, lasting, List.any_append, ih]
      by_cases same : other = key
      · -- the key is taken out at the end, so none of its writes lasts
        subst same
        have dropped : [Touch.drop other].any (Touch.drops (α := α) other) = true := by simp [Touch.drops]
        rw [dropped, Bool.or_true, if_pos rfl]
        split
        · rfl
        · rw [List.filter_cons_of_neg (by simp)]
      · have kept : [Touch.drop key].any (Touch.drops (α := α) other) = false := by simp [Touch.drops, Ne.symm same]
        rw [kept, Bool.or_false]
        split
        · rfl
        · rw [List.filter_cons_of_pos (by simpa using same)]
    | drop other => exact ih

/-- The keys of a table stand in the order of their first write since they were last taken out. -/
theorem keys_replay (history : List (Touch α)) : keys (replay history) = (lasting history).eraseDups := by
  induction history using List.reverseRecOn with
  | nil => rfl
  | append_singleton history touch ih =>
    rw [replay_concat]
    cases touch with
    | write key value =>
      rw [lasting_write, eraseDups_concat, Touch.apply, keys_insert, ih]
      simp only [List.mem_eraseDups]
    | drop key =>
      rw [lasting_drop, eraseDups_filter, Touch.apply, keys_erase, ih, (nodup_eraseDups _).erase_eq_filter]

theorem nodup_replay (history : List (Touch α)) : (keys (replay history)).Nodup := by
  rw [keys_replay]
  exact nodup_eraseDups _

/-- The last touch of a key decides. -/
theorem get?_replay (history : List (Touch α)) (key : String) : get? (replay history) key = latest? history key := by
  induction history using List.reverseRecOn with
  | nil => rfl
  | append_singleton history touch ih =>
    rw [replay_concat, latest?_concat]
    cases touch with
    | write other value =>
      split
      · next same =>
        subst same
        exact get?_insert_self _ _ _
      · next apart =>
        have others : key ≠ other := apart
        rw [Touch.apply, get?_insert_of_ne _ _ others, ih]
    | drop other =>
      rw [Touch.apply, get?_erase (nodup_replay history), ih]
      rfl

/-! ## Tables as histories -/

theorem foldl_writes (table later : Table α) : later.writes.foldl Touch.apply table = insertAll table later := by
  rw [writes, List.foldl_map]
  rfl

theorem lasting_append_writes (history : List (Touch α)) (later : Table α) :
    lasting (history ++ later.writes) = lasting history ++ keys later := by
  induction later using List.reverseRecOn with
  | nil => simp [writes, keys]
  | append_singleton later entry ih =>
    rw [writes, List.map_append, ← writes, ← List.append_assoc, List.map_singleton, lasting_write, ih, keys, keys, List.map_append,
      List.append_assoc]
    rfl

/-- Writing leaves what was there, and the keys that it touches. -/
theorem mem_keys_foldl (written : ∀ touch ∈ history, touch.value?.isSome) :
    name ∈ keys (history.foldl Touch.apply table) ↔ name ∈ keys table ∨ name ∈ history.map Touch.key := by
  induction history generalizing table with
  | nil => simp
  | cons touch rest ih =>
    obtain ⟨first, others⟩ := List.forall_mem_cons.mp written
    cases touch with
    | write key value =>
      rw [List.foldl_cons, ih others, Touch.apply, mem_keys_insert, List.map_cons, List.mem_cons, or_assoc]
      rfl
    | drop key => cases first

/-- What is done to a table continues the history of its entries. -/
theorem foldl_eq_replay (distinct : (keys table).Nodup) (history : List (Touch α)) :
    history.foldl Touch.apply table = replay (table.writes ++ history) := by
  rw [replay, List.foldl_append, foldl_writes]
  congr 1
  exact (ofEntries_of_nodup distinct).symm

/-! ## Writing one table over another -/

theorem keys_insertAll (distinct : (keys table).Nodup) (later : Table α) :
    keys (insertAll table later) = (keys table ++ keys later).eraseDups := by
  have started : lasting table.writes = keys table := lasting_append_writes [] table
  rw [← foldl_writes, foldl_eq_replay distinct, keys_replay, lasting_append_writes, started]

/-- The keys of the first table stay in front, and those that are new come behind them in order. -/
theorem keys_insertAll_of_nodup (distinct : (keys table).Nodup) (distinct' : (keys later).Nodup) :
    keys (insertAll table later) = keys table ++ (keys later).filter (· ∉ keys table) := by
  have others : ((keys later).removeAll (keys table)).Nodup := distinct'.filter _
  rw [keys_insertAll distinct, List.eraseDups_append, eraseDups_of_nodup distinct, eraseDups_of_nodup others, List.removeAll]
  simp

theorem get?_insertAll (table : Table α) (distinct : (keys later).Nodup) (key : String) :
    get? (insertAll table later) key = (get? later key).or (get? table key) := by
  induction later generalizing table with
  | nil => rfl
  | cons entry rest ih =>
    obtain ⟨absent, distinct⟩ := List.nodup_cons.mp distinct
    have behind := ih (insert table entry.1 entry.2) distinct
    rw [get?]
    refine behind.trans ?_
    split
    · next same =>
      subst same
      rw [get?_of_not_mem absent, get?_insert_self]
      rfl
    · next apart => rw [get?_insert_of_ne _ _ (Ne.symm apart)]

/-- A table with distinct keys is told by their order and their values. -/
theorem eq_of_get? (distinct : (keys table).Nodup) (same : keys later = keys table)
    (agree : ∀ key, get? later key = get? table key) : later = table := by
  induction table generalizing later with
  | nil => exact List.map_eq_nil_iff.mp same
  | cons entry rest ih =>
    cases later with
    | nil => cases same
    | cons entry' rest' =>
      obtain ⟨absent, distinct⟩ := List.nodup_cons.mp distinct
      obtain ⟨first, others⟩ : entry'.1 = entry.1 ∧ keys rest' = keys rest := List.cons.inj same
      have value := agree entry.1
      rw [get?, get?, if_pos first, if_pos rfl] at value
      have head : entry' = entry := Prod.ext first (Option.some.inj value)
      have tail : rest' = rest := by
        apply ih distinct others
        intro key
        by_cases own : entry.1 = key
        · subst own
          rw [get?_of_not_mem absent, get?_of_not_mem (others ▸ absent)]
        · have agrees := agree key
          rwa [get?, get?, if_neg own, if_neg (first ▸ own)] at agrees
      rw [head, tail]

/-- Writing three tables over each other: their keys are the first occurrences among all keys, however they are grouped. -/
theorem insertAll_assoc (distinct : (keys table).Nodup) (distinct' : (keys later).Nodup) (distinct'' : (keys third).Nodup) :
    insertAll (insertAll table later) third = insertAll table (insertAll later third) := by
  have both := nodup_insertAll distinct' third
  apply eq_of_get? (nodup_insertAll distinct _)
  · calc keys (insertAll (insertAll table later) third)
      _ = ((keys table ++ keys later).eraseDups ++ keys third).eraseDups := by
        rw [keys_insertAll (nodup_insertAll distinct later), keys_insertAll distinct]
      _ = (keys table ++ (keys later ++ keys third).eraseDups).eraseDups := by
        rw [eraseDups_eraseDups_append, eraseDups_append_eraseDups, List.append_assoc]
      _ = keys (insertAll table (insertAll later third)) := by rw [keys_insertAll distinct, keys_insertAll distinct']
  · intro key
    rw [get?_insertAll _ distinct'', get?_insertAll _ distinct', get?_insertAll _ both, get?_insertAll _ distinct'', Option.or_assoc]

end Table

end LivePipeline
