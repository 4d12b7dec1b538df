import LivePipeline.Operation.Dictionary
import LivePipeline.Proofs.Delivery
import LivePipeline.Proofs.Histories

/-! Changes of the entries of objects and dictionaries. An operation touches some keys, one after the other. What a chain
of operations leaves is told by the touches alone: the data under a key is what its last touch has left, and the keys
stand in the order of their first writes. The operations that look at entries find just these. -/

namespace LivePipeline

/-- The data under the keys of an object or a dictionary. -/
def Data.contents? (data : Data) : Option (Table Data) := data.entries?.map (Table.mapValues (·.data))

/-- An operation that changes entries, with its arguments. -/
inductive EntryChange where
  | setProperty (key value : Data)
  | merge (other : Data)
  | setElement (key value : Data)
  | delete (key : Data)

namespace EntryChange

def run (caller : Caller) (scope : Scope) (data : Data) : EntryChange → Attempt Data
  | setProperty key value => Operation.setProperty caller scope data [key, value]
  | merge other => Operation.merge caller scope data [other]
  | setElement key value => Operation.setElement caller scope data [key, value]
  | delete key => Operation.deleteEntry caller scope data [key]

/-- The changes one after the other, each of what the one before it has left. -/
def runAll (caller : Caller) (scope : Scope) (data : Data) (changes : List EntryChange) : Attempt Data :=
  changes.foldlM (run caller scope) data

/-- It is a change of an object, not of a dictionary. -/
def OfObject : EntryChange → Prop
  | setProperty _ _ | merge _ => True
  | setElement _ _ | delete _ => False

/-- The arguments are of the kinds that the operation takes. -/
def Fits : EntryChange → Prop
  | setProperty key _ | setElement key _ | delete key => key.text?.isSome
  | merge other => other.entries?.isSome

/-- What is done under which keys, in order. -/
def touches : EntryChange → List (Touch Data)
  | setProperty key value | setElement key value => (key.text?.map fun name => .write name value).toList
  | merge other => (other.contents?.map Table.writes).getD []
  | delete key => (key.text?.map .drop).toList

end EntryChange

section

variable {caller : Caller} {scope : Scope} {data key value other third : Data} {entries others thirds : Table Statement}
  {contents contents' contents'' : Table Data} {name : String} {change : EntryChange} {changes : List EntryChange}

theorem Data.contents?_eq_some : data.contents? = some contents ↔
    ∃ entries, data.entries? = some entries ∧ Table.mapValues (·.data) entries = contents := Option.map_eq_some_iff

/-! ## Looking at entries -/

/-- The operations that look at entries find these contents, in every world. -/
structure Data.ReadsAs (data : Data) (caller : Caller) (scope : Scope) (contents : Table Data) : Prop where
  get : ∀ key name, key.text? = some name → (Operation.getEntry caller scope data [key]).Delivers fun found =>
    match Table.get? contents name with
    | some value => found = value
    | none => found.value = .undefined
  has : ∀ key name, key.text? = some name →
    (Operation.hasEntry caller scope data [key]).Delivers fun answer => answer.bool? = some (Table.has contents name)
  keys : (Operation.entryKeys caller scope data []).Delivers fun listed => listed.HoldsTexts (Table.keys contents)
  values : ∀ fallback, (Operation.entryValues fallback caller scope data []).Delivers fun listed =>
    ∃ items, listed.items? = some items ∧ items.map (·.data) = Table.values contents
  size : (Operation.entryCount caller scope data []).Delivers fun count => count.number? = some (Float.ofNat contents.length)

namespace Operation

theorem getEntry_delivers (received : data.entries? = some entries) (named : key.text? = some name) :
    (getEntry caller scope data [key]).Delivers fun found =>
      match Table.get? (Table.mapValues (·.data) entries) name with
      | some value => found = value
      | none => found.value = .undefined := by
  apply Attempt.Delivers.read (expect_ok received .object "get")
  apply Attempt.Delivers.read (expect_ok named .string "get")
  rw [Table.get?_mapValues]
  cases Table.get? entries name with
  | some statement => exact .pure rfl
  | none => exact .make fun _ => rfl

theorem hasEntry_delivers (received : data.entries? = some entries) (named : key.text? = some name) :
    (hasEntry caller scope data [key]).Delivers fun answer => answer.bool? = some (Table.has entries name) := by
  apply Attempt.Delivers.read (expect_ok received .object "has")
  apply Attempt.Delivers.read (expect_ok named .string "has")
  exact .make fun _ => rfl

theorem entryKeys_delivers (received : data.entries? = some entries) :
    (entryKeys caller scope data []).Delivers fun listed => listed.HoldsTexts (Table.keys entries) := by
  apply Attempt.Delivers.read (expect_ok received .object "keys")
  exact .texts _ .string

theorem entryValues_delivers (received : data.entries? = some entries) (fallback : Data → DataType) :
    (entryValues fallback caller scope data []).Delivers fun listed =>
      ∃ items, listed.items? = some items ∧ items.map (·.data) = (Table.values entries).map (·.data) := by
  apply Attempt.Delivers.read (expect_ok received .object "values")
  exact .array _ _

theorem entryCount_delivers (received : data.entries? = some entries) :
    (entryCount caller scope data []).Delivers fun count => count.number? = some (Float.ofNat entries.length) := by
  apply Attempt.Delivers.read (expect_ok received .object "size")
  exact .make fun _ => rfl

end Operation

theorem Data.readsAs (received : data.contents? = some contents) (caller : Caller) (scope : Scope) : data.ReadsAs caller scope contents := by
  obtain ⟨entries, given, rfl⟩ := contents?_eq_some.mp received
  constructor
  · exact fun key name named => Operation.getEntry_delivers given named
  · intro key name named
    rw [Table.has_mapValues]
    exact Operation.hasEntry_delivers given named
  · rw [Table.keys_mapValues]
    exact Operation.entryKeys_delivers given
  · intro fallback
    rw [Table.values_mapValues]
    exact Operation.entryValues_delivers given fallback
  · rw [Table.mapValues, List.length_map]
    exact Operation.entryCount_delivers given

/-! ## One change -/

namespace Operation

/-- The type that an object gets by a change that leaves it the contents. -/
def contentsType (declared : DataType) (contents : Table Data) : DataType :=
  .object (Table.mapValues (·.type) contents) ((Table.keys contents).filter fun key => !declaredOptional declared key)

theorem entriesType_eq (declared : DataType) (entries : Table Statement) :
    entriesType declared entries = contentsType declared (Table.mapValues (·.data) entries) := by
  rw [contentsType, Table.keys_mapValues, Table.mapValues, Table.mapValues, List.map_map]
  rfl

theorem withEntries_delivers (data : Data) (entries : Table Statement) :
    Attempt.Delivers (liftM (withEntries data entries)) fun result =>
      result.entries? = some entries ∧ result.type = entriesType data.type entries := .make fun _ => ⟨rfl, rfl⟩

theorem written_delivers (received : data.entries? = some entries) (named : key.text? = some name) :
    (written data [key, value]).Delivers fun (left, given) =>
      given = value ∧ Table.mapValues (·.data) left = Table.insert (Table.mapValues (·.data) entries) name value := by
  apply Attempt.Delivers.read (show firstTwo "set" [key, value] = .ok (key, value) from rfl)
  apply Attempt.Delivers.read (expect_ok received .object "set")
  apply Attempt.Delivers.read (expect_ok named .string "set")
  apply Attempt.Delivers.bind (.build (.statement value) (.holding value))
  rintro statement rfl
  exact .pure ⟨rfl, (Table.insert_mapValues _ entries name statement).symm⟩

theorem merge_delivers (caller : Caller) (scope : Scope) (received : data.entries? = some entries) (received' : other.entries? = some others) :
    (merge caller scope data [other]).Delivers fun merged => merged.entries? = some (Table.insertAll entries others) ∧
      merged.type = entriesType data.type (Table.insertAll entries others) := by
  apply Attempt.Delivers.read (expect_ok received .object "merge")
  apply Attempt.Delivers.read (expect_ok received' .object "merge")
  exact withEntries_delivers _ _

end Operation

open Operation in
/-- A change does its touches, and a changed object gets the type of what it then contains. -/
theorem EntryChange.run_delivers (received : data.contents? = some contents) (fits : change.Fits) :
    (change.run caller scope data).Delivers fun result =>
      result.contents? = some (change.touches.foldl Touch.apply contents) ∧
      (change.OfObject → result.type = contentsType data.type (change.touches.foldl Touch.apply contents)) := by
  obtain ⟨entries, given, rfl⟩ := Data.contents?_eq_some.mp received
  cases change with
  | setProperty key value =>
    obtain ⟨name, named⟩ := Option.isSome_iff_exists.mp fits
    simp only [touches, named, Option.map_some, Option.toList_some, List.foldl_cons, List.foldl_nil, Touch.apply]
    apply Attempt.Delivers.bind (written_delivers given named)
    rintro ⟨left, _⟩ ⟨-, same⟩
    apply Attempt.Delivers.weaken (withEntries_delivers data left)
    rintro result ⟨held, typed⟩
    rw [Data.contents?, held, Option.map_some, same, typed, entriesType_eq, same]
    exact ⟨rfl, fun _ => rfl⟩
  | merge other =>
    obtain ⟨others, given'⟩ := Option.isSome_iff_exists.mp fits
    have same : other.contents? = some (Table.mapValues (·.data) others) := by rw [Data.contents?, given', Option.map_some]
    simp only [touches, same, Option.map_some, Option.getD_some, Table.foldl_writes, Table.insertAll_mapValues]
    apply Attempt.Delivers.weaken (merge_delivers caller scope given given')
    rintro result ⟨held, typed⟩
    rw [Data.contents?, held, Option.map_some, typed, entriesType_eq]
    exact ⟨rfl, fun _ => rfl⟩
  | setElement key value =>
    obtain ⟨name, named⟩ := Option.isSome_iff_exists.mp fits
    simp only [touches, named, Option.map_some, Option.toList_some, List.foldl_cons, List.foldl_nil, Touch.apply]
    apply Attempt.Delivers.bind (written_delivers given named)
    rintro ⟨left, _⟩ ⟨rfl, same⟩
    rw [← same]
    exact .make fun _ => ⟨rfl, False.elim⟩
  | delete key =>
    obtain ⟨name, named⟩ := Option.isSome_iff_exists.mp fits
    simp only [touches, named, Option.map_some, Option.toList_some, List.foldl_cons, List.foldl_nil, Touch.apply,
      Table.erase_mapValues]
    apply Attempt.Delivers.read (expect_ok given .object "delete")
    apply Attempt.Delivers.read (expect_ok named .string "delete")
    exact .make fun _ => ⟨rfl, False.elim⟩

/-! ## Chains of changes -/

open Operation in
/-- Chained changes do their touches one after the other. -/
theorem EntryChange.runAll_delivers (received : data.contents? = some contents) (fit : ∀ change ∈ changes, change.Fits) :
    (runAll caller scope data changes).Delivers fun result => ∃ left,
      result.contents? = some left ∧ left = (changes.flatMap touches).foldl Touch.apply contents ∧
      ∀ last, changes.getLast? = some last → last.OfObject → ∃ required,
        result.type = .object (Table.mapValues (·.type) left) required ∧ ∀ name ∈ required, name ∈ Table.keys left := by
  induction changes using List.reverseRecOn with
  | nil => exact .pure ⟨contents, received, rfl, fun _ absent => nomatch absent⟩
  | append_singleton changes last ih =>
    obtain ⟨fit, fits⟩ := List.forall_mem_append.mp fit
    rw [runAll, List.foldlM_append]
    apply Attempt.Delivers.bind (ih fit)
    rintro middle ⟨before, holds, rfl, -⟩
    simp only [List.foldlM_cons, List.foldlM_nil, bind_pure]
    apply Attempt.Delivers.weaken (run_delivers holds (fits last List.mem_cons_self))
    rintro result ⟨held, typed⟩
    rw [List.flatMap_append, List.foldl_append, List.flatMap_singleton]
    refine ⟨_, held, rfl, fun change isLast ofObject => ?_⟩
    rw [List.getLast?_concat, Option.some.injEq] at isLast
    subst isLast
    exact ⟨_, typed ofObject, fun name among => List.mem_of_mem_filter among⟩

end

open Operation in
/-- Objects and dictionaries are insertion-ordered tables. After any chain of changes every key has what the last touch
of it has left, whether it was written or taken out; the keys are distinct and stand in the order of their first write
since they were last taken out; looking at the result finds these entries in this order, and looking at what was
changed or given finds what it had. A changed object has a type that names the keys of its entries, in their order and with
the types of their data, and requires no others. Merging puts the new keys behind the others and is associative. -/
theorem changes_follow_history (caller : Caller) (scope : Scope) {data : Data} {contents : Table Data} {changes : List EntryChange}
    (received : data.contents? = some contents) (distinct : (Table.keys contents).Nodup)
    (fit : ∀ change ∈ changes, change.Fits) :
    (EntryChange.runAll caller scope data changes).Delivers (fun result =>
      let history := Table.writes contents ++ changes.flatMap EntryChange.touches
      ∃ left, result.contents? = some left ∧ (∀ key, Table.get? left key = Table.latest? history key) ∧
        Table.keys left = (Table.lasting history).eraseDups ∧ (Table.keys left).Nodup ∧
        result.ReadsAs caller scope left ∧ (∀ (known : Data) held, known.contents? = some held → known.ReadsAs caller scope held) ∧
        ∀ last, changes.getLast? = some last → last.OfObject → ∃ required,
          result.type = .object (Table.mapValues (·.type) left) required ∧ ∀ name ∈ required, name ∈ Table.keys left) ∧
    ∀ other third contents' contents'', other.contents? = some contents' → (Table.keys contents').Nodup →
      third.contents? = some contents'' → (Table.keys contents'').Nodup →
      (merge caller scope data [other]).Delivers (fun merged => ∃ left, merged.contents? = some left ∧
        Table.keys left = Table.keys contents ++ (Table.keys contents').filter (· ∉ Table.keys contents)) ∧
      Attempt.Delivers (do
        let first ← merge caller scope data [other]
        let behind ← merge caller scope other [third]
        let left ← merge caller scope first [third]
        let right ← merge caller scope data [behind]
        return (left, right)) (fun (left, right) => ∃ entries, left.entries? = some entries ∧ right.entries? = some entries) := by
  refine ⟨?_, fun other third contents' contents'' received' distinct' received'' distinct'' => ?_⟩
  · apply Attempt.Delivers.weaken (EntryChange.runAll_delivers received fit)
    rintro result ⟨left, holds, rfl, typed⟩ history
    have replayed := Table.foldl_eq_replay distinct (changes.flatMap EntryChange.touches)
    refine ⟨_, holds, ?_, ?_, ?_, Data.readsAs holds caller scope,
      fun known held received' => Data.readsAs received' caller scope, typed⟩
    · intro key
      rw [replayed, Table.get?_replay]
    · rw [replayed, Table.keys_replay]
    · rw [replayed]
      exact Table.nodup_replay _
  · obtain ⟨entries, given, rfl⟩ := Data.contents?_eq_some.mp received
    obtain ⟨others, given', rfl⟩ := Data.contents?_eq_some.mp received'
    obtain ⟨thirds, given'', rfl⟩ := Data.contents?_eq_some.mp received''
    rw [Table.keys_mapValues] at distinct distinct' distinct''
    constructor
    · apply Attempt.Delivers.weaken (merge_delivers caller scope given given')
      rintro merged ⟨held, -⟩
      refine ⟨_, Data.contents?_eq_some.mpr ⟨_, held, rfl⟩, ?_⟩
      simp only [Table.keys_mapValues]
      exact Table.keys_insertAll_of_nodup distinct distinct'
    · apply Attempt.Delivers.bind (merge_delivers caller scope given given')
      rintro first ⟨heldFirst, -⟩
      apply Attempt.Delivers.bind (merge_delivers caller scope given' given'')
      rintro behind ⟨heldBehind, -⟩
      apply Attempt.Delivers.bind (merge_delivers caller scope heldFirst given'')
      rintro left ⟨heldLeft, -⟩
      apply Attempt.Delivers.bind (merge_delivers caller scope given heldBehind)
      rintro right ⟨heldRight, -⟩
      have same := Table.insertAll_assoc distinct distinct' distinct''
      exact .pure ⟨_, heldLeft, same ▸ heldRight⟩

/-- A key that is taken out of a dictionary and written again stands at the end. -/
theorem changes_follow_history_removed :
    let first : Data := ⟨"first", .string, .text "1"⟩
    let second : Data := ⟨"second", .string, .text "2"⟩
    let key : Data := ⟨"key", .string, .text "a"⟩
    let dictionary : Data :=
      ⟨"dictionary", .dictionary .string, .record [("a", ⟨"entry", first, [], none, false⟩), ("b", ⟨"other", second, [], none, false⟩)]⟩
    let changes : List EntryChange := [.delete key, .setElement key second]
    dictionary.contents? = some [("a", first), ("b", second)] ∧ (Table.keys [("a", first), ("b", second)]).Nodup ∧
      (∀ change ∈ changes, change.Fits) ∧
      (EntryChange.runAll (callerWithin 0) {} dictionary changes).Delivers fun result => ∃ left,
        result.contents? = some left ∧ Table.keys left = ["b", "a"] ∧ Table.get? left "a" = some second := by
  intro first second key dictionary changes
  have distinct : (Table.keys [("a", first), ("b", second)]).Nodup := by decide
  have fit : ∀ change ∈ changes, change.Fits := List.forall_mem_cons.mpr ⟨rfl, List.forall_mem_singleton.mpr rfl⟩
  have received : dictionary.contents? = some [("a", first), ("b", second)] := rfl
  refine ⟨received, distinct, fit, ?_⟩
  apply Attempt.Delivers.weaken (changes_follow_history (callerWithin 0) {} received distinct fit).1
  rintro result ⟨left, holds, latest, ordered, -⟩
  refine ⟨left, holds, ordered.trans (by decide +kernel), (latest "a").trans ?_⟩
  simp [Table.latest?]
  rfl

end LivePipeline
