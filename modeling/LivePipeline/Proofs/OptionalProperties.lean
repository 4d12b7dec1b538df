import LivePipeline.Proofs.EntryChanges

/-! Optional properties of objects that are changed. A changed object has a type for the entries that it has then, and
what may be left out is looked up in the type that it had before. So a declaration lasts while there is an entry
for it: the first change forgets the optional properties that it leaves without one. -/

namespace LivePipeline

open Operation

variable {caller : Caller} {scope : Scope} {data result key value key' value' : Data} {declared : DataType}
  {contents : Table Data} {name name' : String} {early : List String} {change first : EntryChange} {rest : List EntryChange}

/-- The keys that a change touches. -/
def EntryChange.names (change : EntryChange) : List String := change.touches.map Touch.key

theorem EntryChange.touches_written (object : change.OfObject) : ∀ touch ∈ change.touches, touch.value?.isSome := by
  cases change with
  | setProperty key value =>
    rw [touches]
    cases key.text? with
    | none => exact List.forall_mem_nil _
    | some name => exact List.forall_mem_singleton.mpr rfl
  | merge other =>
    rw [touches]
    cases other.contents? with
    | none => exact List.forall_mem_nil _
    | some others =>
      intro touch among
      obtain ⟨entry, -, rfl⟩ := List.mem_map.mp among
      rfl
  | setElement _ _ => exact object.elim
  | delete _ => exact object.elim

theorem EntryChange.mem_keys (object : change.OfObject) :
    name ∈ Table.keys (change.touches.foldl Touch.apply contents) ↔ name ∈ Table.keys contents ∨ name ∈ change.names :=
  Table.mem_keys_foldl (touches_written object)

/-- In the type of a changed object a property is optional if there is an entry for it and it was optional before. -/
theorem Operation.declaredOptional_contentsType :
    declaredOptional (contentsType declared contents) name = true ↔
      name ∈ Table.keys contents ∧ declaredOptional declared name = true := by
  have there : Table.has (Table.mapValues (·.type) contents) name = true ↔ name ∈ Table.keys contents := by
    rw [Table.has_mapValues, Table.has_iff]
  change (Table.has (Table.mapValues (·.type) contents) name && !((Table.keys contents).filter _).contains name) = true ↔ _
  rw [Bool.and_eq_true, there, Bool.not_eq_true', ← Bool.not_eq_true, List.contains_iff_mem, List.mem_filter]
  cases declaredOptional declared name <;> simp

/-! ## Chains of changes -/

/-- The data comes from data of the declared type by changes of which the first has left entries for the early keys. -/
structure Data.Descends (declared : DataType) (early : List String) (data : Data) (contents : Table Data) : Prop where
  holds : data.contents? = some contents
  optional : ∀ name, declaredOptional data.type name = true ↔ name ∈ early ∧ declaredOptional declared name = true
  required : ∃ required, data.type = .object (Table.mapValues (·.type) contents) required ∧
    ∀ name, name ∈ required ↔ name ∈ Table.keys contents ∧ ¬ (name ∈ early ∧ declaredOptional declared name = true)
  kept : ∀ name ∈ early, name ∈ Table.keys contents

namespace EntryChange

/-- What the type of the data says is said of the entries that the change has left. -/
theorem descends_first (received : data.contents? = some contents) (fits : change.Fits) (object : change.OfObject) :
    (change.run caller scope data).Delivers fun result =>
      result.Descends data.type (Table.keys (change.touches.foldl Touch.apply contents)) (change.touches.foldl Touch.apply contents) := by
  apply Attempt.Delivers.weaken (run_delivers received fits)
  rintro result ⟨holds, typed⟩
  refine ⟨holds, fun name => ?_, ⟨_, typed object, fun name => ?_⟩, fun _ among => among⟩
  · rw [typed object, declaredOptional_contentsType]
  · rw [List.mem_filter]
    cases declaredOptional data.type name <;> simp

theorem descends_next (descends : data.Descends declared early contents) (fits : change.Fits) (object : change.OfObject) :
    (change.run caller scope data).Delivers fun result =>
      result.Descends declared early (change.touches.foldl Touch.apply contents) := by
  apply Attempt.Delivers.weaken (run_delivers descends.holds fits)
  rintro result ⟨holds, typed⟩
  have kept : ∀ name ∈ early, name ∈ Table.keys (change.touches.foldl Touch.apply contents) :=
    fun name among => (mem_keys object).mpr (.inl (descends.kept name among))
  refine ⟨holds, fun name => ?_, ⟨_, typed object, fun name => ?_⟩, kept⟩
  · rw [typed object, declaredOptional_contentsType, descends.optional, ← and_assoc]
    exact and_congr_left fun _ => and_iff_right_of_imp (kept name)
  · rw [List.mem_filter, Bool.not_eq_true', ← Bool.not_eq_true, descends.optional]

theorem descends_all (descends : data.Descends declared early contents) (fit : ∀ change ∈ rest, change.Fits)
    (objects : ∀ change ∈ rest, change.OfObject) :
    (runAll caller scope data rest).Delivers fun result => ∃ left, result.Descends declared early left ∧
      ∀ name, name ∈ Table.keys left ↔ name ∈ Table.keys contents ∨ ∃ change ∈ rest, name ∈ change.names := by
  induction rest generalizing data contents with
  | nil => exact .pure ⟨contents, descends, by simp⟩
  | cons change rest ih =>
    obtain ⟨fits, fit⟩ := List.forall_mem_cons.mp fit
    obtain ⟨object, objects⟩ := List.forall_mem_cons.mp objects
    apply Attempt.Delivers.bind (descends_next descends fits object)
    intro middle descends'
    apply Attempt.Delivers.weaken (ih descends' fit objects)
    rintro result ⟨left, descended, grown⟩
    refine ⟨left, descended, fun name => ?_⟩
    rw [grown, mem_keys object, or_assoc, List.exists_mem_cons_iff]

/-- The type that changes leave, in terms of the data that they start from. -/
theorem required_delivers (received : data.contents? = some contents) (fit : ∀ change ∈ first :: rest, change.Fits)
    (objects : ∀ change ∈ first :: rest, change.OfObject) :
    (runAll caller scope data (first :: rest)).Delivers fun result => ∃ left required,
      result.contents? = some left ∧ result.type = .object (Table.mapValues (·.type) left) required ∧
      (∀ name, name ∈ Table.keys left ↔ name ∈ Table.keys contents ∨ ∃ change ∈ first :: rest, name ∈ change.names) ∧
      ∀ name, name ∈ required ↔ name ∈ Table.keys left ∧
        (declaredOptional data.type name = true → name ∉ Table.keys contents ∧ name ∉ first.names) := by
  obtain ⟨fits, fit⟩ := List.forall_mem_cons.mp fit
  obtain ⟨object, objects⟩ := List.forall_mem_cons.mp objects
  apply Attempt.Delivers.bind (descends_first received fits object)
  intro middle descends
  apply Attempt.Delivers.weaken (descends_all descends fit objects)
  rintro result ⟨left, descended, grown⟩
  obtain ⟨required, typed, among⟩ := descended.required
  refine ⟨left, required, descended.holds, typed, fun name => ?_, fun name => ?_⟩
  · rw [grown, mem_keys object, or_assoc, List.exists_mem_cons_iff]
  · rw [among, mem_keys object, not_and', not_or]

end EntryChange

theorem EntryChange.names_setProperty (named : key.text? = some name) (value : Data) : (setProperty key value).names = [name] := by
  rw [names, touches, named]
  rfl

/-- Two properties that are set one after the other. -/
theorem setTwice_delivers (received : data.contents? = some contents) (named : key.text? = some name)
    (named' : key'.text? = some name') (value value' : Data) :
    (EntryChange.runAll caller scope data [.setProperty key value, .setProperty key' value']).Delivers fun result =>
      ∃ properties required, result.type = .object properties required ∧
        ∀ other, other ∈ required ↔ (other ∈ Table.keys contents ∨ other = name ∨ other = name') ∧
          (declaredOptional data.type other = true → other ∉ Table.keys contents ∧ other ≠ name) := by
  have fit : ∀ change ∈ [EntryChange.setProperty key value, .setProperty key' value'], change.Fits := by
    simp [EntryChange.Fits, named, named']
  have objects : ∀ change ∈ [EntryChange.setProperty key value, .setProperty key' value'], change.OfObject := by
    simp [EntryChange.OfObject]
  apply Attempt.Delivers.weaken (EntryChange.required_delivers received fit objects)
  rintro result ⟨left, required, -, typed, grown, among⟩
  refine ⟨_, required, typed, fun other => ?_⟩
  rw [among, grown]
  simp [EntryChange.names_setProperty named value, EntryChange.names_setProperty named' value']

/-- What a chain of changes of an object requires: the properties that it leaves entries for, but for those that were
declared optional and either had an entry or were written by the first change. Any other optional property is required
as soon as it is written. So two properties that are set in either order leave the same properties required just when
both, if they are declared optional, have entries already. -/
theorem required_after_changes (caller : Caller) (scope : Scope) {data : Data} {contents : Table Data} {first : EntryChange}
    {rest : List EntryChange} (received : data.contents? = some contents) (fit : ∀ change ∈ first :: rest, change.Fits)
    (objects : ∀ change ∈ first :: rest, change.OfObject) :
    (EntryChange.runAll caller scope data (first :: rest)).Delivers (fun result => ∃ left required,
      result.contents? = some left ∧ result.type = .object (Table.mapValues (·.type) left) required ∧
      (∀ name, name ∈ Table.keys left ↔ name ∈ Table.keys contents ∨ ∃ change ∈ first :: rest, name ∈ change.names) ∧
      (∀ name, name ∈ required ↔ name ∈ Table.keys left ∧
        (declaredOptional data.type name = true → name ∉ Table.keys contents ∧ name ∉ first.names)) ∧
      ∀ name, declaredOptional data.type name = true → (name ∈ required ↔
        name ∉ Table.keys contents ∧ name ∉ first.names ∧ ∃ change ∈ rest, name ∈ change.names)) ∧
    ∀ key key' value value' name name', key.text? = some name → key'.text? = some name' → name ≠ name' →
      Attempt.Delivers (do
        let one ← EntryChange.runAll caller scope data [.setProperty key value, .setProperty key' value']
        let other ← EntryChange.runAll caller scope data [.setProperty key' value', .setProperty key value]
        return (one, other)) fun (one, other) => ∃ properties required properties' required',
          one.type = .object properties required ∧ other.type = .object properties' required' ∧
          ((∀ name, name ∈ required ↔ name ∈ required') ↔ ∀ set, set = name ∨ set = name' →
            declaredOptional data.type set = true → set ∈ Table.keys contents) := by
  refine ⟨?_, fun key key' value value' name name' named named' differ => ?_⟩
  · apply Attempt.Delivers.weaken (EntryChange.required_delivers received fit objects)
    rintro result ⟨left, required, holds, typed, grown, among⟩
    refine ⟨left, required, holds, typed, grown, among, fun name optional => ?_⟩
    rw [among, grown, List.exists_mem_cons_iff]
    constructor
    · rintro ⟨entry, free⟩
      obtain ⟨absent, late⟩ := free optional
      exact ⟨absent, late, (entry.resolve_left absent).resolve_left late⟩
    · rintro ⟨absent, late, written⟩
      exact ⟨.inr (.inr written), fun _ => ⟨absent, late⟩⟩
  · apply Attempt.Delivers.bind (setTwice_delivers received named named' value value')
    rintro one ⟨properties, required, typed, among⟩
    apply Attempt.Delivers.bind (setTwice_delivers received named' named value' value)
    rintro other ⟨properties', required', typed', among'⟩
    refine .pure ⟨properties, required, properties', required', typed, typed', fun same set chosen optional => ?_, fun known set => ?_⟩
    · by_contra absent
      -- what is set second is new to the first change, so it is required in one of the orders only
      rcases chosen with rfl | rfl
      · have second := (among' set).mpr ⟨.inr (.inr rfl), fun _ => ⟨absent, differ⟩⟩
        exact (((among set).mp ((same set).mpr second)).2 optional).2 rfl
      · have second := (among set).mpr ⟨.inr (.inr rfl), fun _ => ⟨absent, differ.symm⟩⟩
        exact (((among' set).mp ((same set).mp second)).2 optional).2 rfl
    · have apart : declaredOptional data.type set = true → set ∉ Table.keys contents → set ≠ name ∧ set ≠ name' :=
        fun optional absent => ⟨fun first => absent (known set (.inl first) optional), fun second => absent (known set (.inr second) optional)⟩
      rw [among, among']
      constructor
      · rintro ⟨entry, free⟩
        exact ⟨entry.imp_right Or.symm, fun optional => ⟨(free optional).1, (apart optional (free optional).1).2⟩⟩
      · rintro ⟨entry, free⟩
        exact ⟨entry.imp_right Or.symm, fun optional => ⟨(free optional).1, (apart optional (free optional).1).1⟩⟩

/-- The optional property has no entry when the first change is made, so the second one makes it required. -/
theorem required_after_changes_late :
    let held : Data := ⟨"held", .string, .text "1"⟩
    let given : Data := ⟨"given", .string, .text "2"⟩
    let a : Data := ⟨"a", .string, .text "a"⟩
    let k : Data := ⟨"k", .string, .text "k"⟩
    let object : Data := ⟨"object", .object [("a", .string), ("k", .string)] ["a"], .record [("a", ⟨"entry", held, [], none, false⟩)]⟩
    let changes : List EntryChange := [.setProperty a given, .setProperty k given]
    object.contents? = some [("a", held)] ∧ (∀ change ∈ changes, change.Fits) ∧ (∀ change ∈ changes, change.OfObject) ∧
      declaredOptional object.type "k" = true ∧
      (EntryChange.runAll (callerWithin 0) {} object changes).Delivers fun result => ∃ (left : Table Data) (required : List String),
        result.type = .object (Table.mapValues (·.type) left) required ∧ "k" ∈ required := by
  intro held given a k object changes
  have received : object.contents? = some [("a", held)] := rfl
  have fit : ∀ change ∈ changes, change.Fits := List.forall_mem_cons.mpr ⟨rfl, List.forall_mem_singleton.mpr rfl⟩
  have objects : ∀ change ∈ changes, change.OfObject :=
    List.forall_mem_cons.mpr ⟨trivial, List.forall_mem_singleton.mpr trivial⟩
  have optional : declaredOptional object.type "k" = true := by decide +kernel
  refine ⟨received, fit, objects, optional, ?_⟩
  apply Attempt.Delivers.weaken (required_after_changes (callerWithin 0) {} received fit objects).1
  rintro result ⟨left, required, -, typed, -, -, late⟩
  refine ⟨left, required, typed, (late "k" optional).mpr ⟨by decide, ?_, ?_⟩⟩
  · change "k" ∉ ["a"]
    decide
  · exact ⟨_, List.mem_cons_self, List.mem_singleton.mpr rfl⟩

/-- A property that is declared optional gets required when it is set second, and stays optional when it is set first. -/
theorem optional_property_gets_required :
    let held : Data := ⟨"held", .string, .text "1"⟩
    let given : Data := ⟨"given", .string, .text "2"⟩
    let a : Data := ⟨"a", .string, .text "a"⟩
    let k : Data := ⟨"k", .string, .text "k"⟩
    let object : Data := ⟨"object", .object [("a", .string), ("k", .string)] ["a"], .record [("a", ⟨"entry", held, [], none, false⟩)]⟩
    declaredOptional object.type "k" = true ∧
      (EntryChange.runAll (callerWithin 0) {} object [.setProperty a given, .setProperty k given]).Delivers
        (fun result => ∃ properties, result.type = .object properties ["a", "k"]) ∧
      (EntryChange.runAll (callerWithin 0) {} object [.setProperty k given, .setProperty a given]).Delivers
        (fun result => ∃ properties, result.type = .object properties ["a"]) := by
  intro held given a k object
  refine ⟨by decide +kernel, fun world => ?_, fun world => ?_⟩
  · exact ⟨_, _, rfl, Nat.le_add_right world.nextId 4, _, rfl⟩
  · exact ⟨_, _, rfl, Nat.le_add_right world.nextId 4, _, rfl⟩

end LivePipeline
