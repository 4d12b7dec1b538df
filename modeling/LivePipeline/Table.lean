/-! Insertion-ordered tables. A key keeps the place of its first write, the last write
to it wins, and a deletion closes the gap. -/

namespace LivePipeline

/-- Entries in the order in which their keys were first written. -/
abbrev Table (α : Type u) := List (String × α)

namespace Table

variable {α : Type u} {β : Type v}

/-- The value under `key`. -/
def get? : Table α → String → Option α
  | [], _ => none
  | (name, value) :: rest, key => if name = key then some value else get? rest key

def has (table : Table α) (key : String) : Bool := (get? table key).isSome

/-- Overwrites `key` where it stands, or writes it at the end. -/
def insert : Table α → String → α → Table α
  | [], key, value => [(key, value)]
  | (name, old) :: rest, key, value =>
    if name = key then (name, value) :: rest else (name, old) :: insert rest key value

/-- Changes the value under `key`, if there is one. -/
def modify : Table α → String → (α → α) → Table α
  | [], _, _ => []
  | (name, value) :: rest, key, change =>
    if name = key then (name, change value) :: rest else (name, value) :: modify rest key change

def erase : Table α → String → Table α
  | [], _ => []
  | (name, value) :: rest, key => if name = key then rest else (name, value) :: erase rest key

def keys (table : Table α) : List String := table.map (·.1)

def values (table : Table α) : List α := table.map (·.2)

/-- Writes all entries of `later` over `table`, in order. -/
def insertAll (table later : Table α) : Table α :=
  later.foldl (fun written entry => insert written entry.1 entry.2) table

/-- The table that writing `entries` in order leaves. -/
def ofEntries (entries : List (String × α)) : Table α := insertAll [] entries

@[simp] theorem get?_insert_self (table : Table α) (key : String) (value : α) :
    get? (insert table key value) key = some value := by
  induction table with
  | nil => simp [insert, get?]
  | cons entry rest ih =>
    obtain ⟨name, old⟩ := entry
    by_cases same : name = key <;> simp [insert, get?, same, ih]

theorem get?_insert_of_ne (table : Table α) {key other : String} (value : α) (differ : other ≠ key) :
    get? (insert table key value) other = get? table other := by
  induction table with
  | nil => simp [insert, get?, Ne.symm differ]
  | cons entry rest ih =>
    obtain ⟨name, old⟩ := entry
    by_cases same : name = key
    · subst same; simp [insert, get?, Ne.symm differ]
    · by_cases found : name = other
      · subst found; simp [insert, get?, same]
      · simp [insert, get?, same, found, ih]

end Table

end LivePipeline
