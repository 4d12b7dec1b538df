import LivePipeline.Proofs.Loading.Written

/-! How the written form of a value is read under the types of a union. The member that it was written from
reads it back. Any other member turns it down or reads the same value, but for a few written forms that
a member takes for something else; these are all named here. -/

namespace LivePipeline

namespace Decoder

/-! ## Readings that draw nothing -/

/-- The reading fails from every state. -/
def Rejects (reading : Decoder α) : Prop := ∀ next, ∃ failure, reading next = .error failure

/-- The reading either fails from every state, or gives one and the same good value from each and draws nothing. -/
def Settles (reading : Decoder α) (good : α → Prop) : Prop := reading.Rejects ∨ ∃ value, good value ∧ reading = pure value

/-- Every value that the reading can give is good. -/
def Yields (reading : Decoder α) (good : α → Prop) : Prop := ∀ next value after, reading next = .ok (value, after) → good value

namespace Rejects

theorem throw (failure : DecodeError) : Rejects (throw failure : Decoder α) := fun _ => ⟨failure, rfl⟩

theorem malformed : Rejects (malformed : Decoder α) := throw _

theorem bind {reading : Decoder α} (rejects : reading.Rejects) (next : α → Decoder β) : Rejects (reading >>= next) := by
  intro state
  obtain ⟨failure, failed⟩ := rejects state
  refine ⟨failure, ?_⟩
  change (reading state >>= fun made => next made.1 made.2) = _
  rw [failed]
  rfl

end Rejects

theorem Settles.of_pure {value : α} {good : α → Prop} (holds : good value) : Settles (pure value : Decoder α) good :=
  .inr ⟨value, holds, rfl⟩

/-- What a settled reading gives once it gives always. -/
theorem Settles.eq_pure {reading : Decoder α} {good : α → Prop} (settles : reading.Settles good) {next after : Nat} {value : α}
    (read : reading next = .ok (value, after)) : reading = pure value := by
  rcases settles with rejects | ⟨given, _, same⟩
  · obtain ⟨failure, failed⟩ := rejects next
    rw [failed] at read
    cases read
  · rw [same] at read
    cases read
    exact same

/-! ### The first reading that succeeds -/

theorem firstOf_yields {good : α → Prop} {readers : List (Decoder α)} (each : ∀ reader ∈ readers, reader.Yields good)
    (failure : DecodeError) : (firstOf failure readers).Yields good := by
  induction readers with
  | nil => exact fun _ _ _ read => nomatch read
  | cons reader rest ih =>
    rw [List.forall_mem_cons] at each
    intro next value after read
    unfold firstOf at read
    split at read
    · next result given => cases read; exact each.1 next value after given
    · exact ih each.2 next value after read

/-- What the first reading gave as `value`, the second one gives as `value'`, or it does not succeed at all. -/
structure Recovers (value value' : α) (first again : Decoder α) : Prop where
  settles : again.Settles (· = value')
  success : ∀ next after, first next = .ok (value, after) → again = pure value'

theorem firstOf_cons_pure (failure : DecodeError) (value : α) (rest : List (Decoder α)) :
    firstOf failure (pure value :: rest) = pure value := rfl

theorem firstOf_cons_rejects {reader : Decoder α} (rejects : reader.Rejects) (failure : DecodeError) (rest : List (Decoder α)) :
    firstOf failure (reader :: rest) = firstOf failure rest := by
  funext next
  obtain ⟨reason, failed⟩ := rejects next
  simp only [firstOf, failed]

theorem firstOf_settles {good : α → Prop} {readers : List (Decoder α)} (each : ∀ reader ∈ readers, reader.Settles good)
    (failure : DecodeError) : (firstOf failure readers).Settles good := by
  induction readers with
  | nil => exact .inl (.throw failure)
  | cons reader rest ih =>
    rw [List.forall_mem_cons] at each
    rcases each.1 with rejects | ⟨value, holds, rfl⟩
    · rw [firstOf_cons_rejects rejects]
      exact ih each.2
    · rw [firstOf_cons_pure]
      exact .of_pure holds

theorem firstOf_recovers {value value' : α} {readers readers' : List (Decoder α)}
    (each : List.Forall₂ (Recovers value value') readers readers') (failure failure' : DecodeError) :
    Recovers value value' (firstOf failure readers) (firstOf failure' readers') := by
  induction each with
  | nil => exact ⟨.inl (.throw _), fun _ _ read => nomatch read⟩
  | @cons first again rest rest' recovers _ ih =>
    rcases recovers.settles with rejects | ⟨_, rfl, same⟩
    · rw [firstOf_cons_rejects rejects]
      refine ⟨ih.settles, fun next after read => ?_⟩
      unfold firstOf at read
      split at read
      · next result given =>
        cases read
        obtain ⟨_, failed⟩ := rejects next
        rw [recovers.success next after given] at failed
        cases failed
      · exact ih.success next after read
    · rw [same, firstOf_cons_pure]
      exact ⟨.of_pure rfl, fun _ _ _ => rfl⟩

end Decoder

/-! ## Readings under the members of a union -/

mutual

theorem DataType.flatten_kind : ∀ (type : DataType), ∀ leaf ∈ type.flatten, leaf.kind ≠ .union
  | .union members _, leaf, among => DataType.flattenAll_kind members leaf among
  | .unknown, _, among | .never, _, among | .undefined, _, among | .string, _, among | .number, _, among
  | .boolean, _, among | .array _, _, among | .tuple _, _, among | .object _ _, _, among | .dictionary _, _, among
  | .operation _ _, _, among | .condition _, _, among | .reference _, _, among | .error _, _, among
  | .instanceOf _ _, _, among => by cases List.mem_singleton.mp among; exact Kind.noConfusion
termination_by structural type => type

theorem DataType.flattenAll_kind : ∀ (types : List DataType), ∀ leaf ∈ DataType.flattenAll types, leaf.kind ≠ .union
  | [], _, among => nomatch among
  | type :: rest, leaf, among =>
    (List.mem_append.mp among).elim (DataType.flatten_kind type leaf) (DataType.flattenAll_kind rest leaf)
termination_by structural types => types

end

theorem forall₂_getElem? {R : α → β → Prop} {xs : List α} {ys : List β} (all : List.Forall₂ R xs ys) (index : Nat) :
    List.Forall₂ R xs[index]?.toList ys[index]?.toList := by
  induction all generalizing index with
  | nil => exact .nil
  | cons first _ ih =>
    cases index with
    | zero => exact .cons first .nil
    | succ index => exact ih index

/-- The relation goes over from the readings of a list to their first success. -/
def Decoder.KeptByFirst (R : Decoder α → Decoder β → Prop) : Prop :=
  ∀ {readers readers'} (failure failure' : DecodeError), List.Forall₂ R readers readers' →
    R (firstOf failure readers) (firstOf failure' readers')

section

variable {R : Decoder Value → Decoder Value → Prop} {shapes shapes' : Shapes} {json json' : Json}

mutual

/-- What is known of the readings under the members of a union, nested ones opened, is known of the reading
under the union. -/
theorem typed_of_leaves (kept : Decoder.KeptByFirst R) : ∀ type : DataType,
    (∀ leaf ∈ type.flatten, R (shapes.typed json leaf) (shapes'.typed json' leaf)) →
      R (shapes.typed json type) (shapes'.typed json' type)
  | .union members active, leaves => by
    have all := typedAll_of_leaves kept members leaves
    refine kept _ _ (List.rel_append ?_ all)
    cases active with
    | none => exact .nil
    | some index => exact forall₂_getElem? all index
  | .unknown, leaves | .never, leaves | .undefined, leaves | .string, leaves | .number, leaves | .boolean, leaves
  | .array _, leaves | .tuple _, leaves | .object _ _, leaves | .dictionary _, leaves | .operation _ _, leaves
  | .condition _, leaves | .reference _, leaves | .error _, leaves | .instanceOf _ _, leaves =>
    leaves _ (List.mem_singleton_self _)
termination_by structural type => type

theorem typedAll_of_leaves (kept : Decoder.KeptByFirst R) : ∀ types : List DataType,
    (∀ leaf ∈ DataType.flattenAll types, R (shapes.typed json leaf) (shapes'.typed json' leaf)) →
      List.Forall₂ R (shapes.typedAll json types) (shapes'.typedAll json' types)
  | [], _ => .nil
  | type :: rest, leaves => by
    rw [DataType.flattenAll, List.forall_mem_append] at leaves
    exact .cons (typed_of_leaves kept type leaves.1) (typedAll_of_leaves kept rest leaves.2)
termination_by structural types => types

end

/-- What the first success of a list has from all of its readings. -/
theorem typed_of_each {P : Decoder Value → Prop}
    (kept : ∀ {readers : List (Decoder Value)}, (∀ reader ∈ readers, P reader) → ∀ failure, P (Decoder.firstOf failure readers))
    (type : DataType) (leaves : ∀ leaf ∈ type.flatten, P (shapes.typed json leaf)) : P (shapes.typed json type) := by
  have kept' : Decoder.KeptByFirst fun (reading _ : Decoder Value) => P reading := by
    intro readers readers' failure _ all
    refine kept ?_ failure
    induction all with
    | nil => simp
    | cons first _ ih => exact List.forall_mem_cons.mpr ⟨first, ih⟩
  exact @typed_of_leaves _ shapes shapes json json kept' type leaves

end

/-! ## What is taken for something else -/

/-- A type of this kind takes the written form of the value for another value. No entries are written like no
elements; a condition is written like entries under the keys of its parts; all fields of an operation may be left out,
and those it does not know are not looked at; so may be the identity of a reference. -/
def Kind.mistakes : Kind → Value → Bool
  | .unknown, .record [] | .never, .record [] | .undefined, .record [] | .array, .record [] | .tuple, .record [] => true
  | .object, .condition _ _ _ | .dictionary, .condition _ _ _ => true
  | .operation, .condition _ _ _ | .operation, .reference _ _ | .operation, .error _ | .operation, .handle _ _ _ => true
  | .reference, .operation (some _) _ _ => true
  | _, _ => false

/-- A value that may have been written under a type of this kind. -/
def Kind.reads : Kind → Value → Bool
  | .unknown, _ | .never, _ | .undefined, _ => true
  | .string, .text _ | .number, .number _ | .boolean, .boolean _ | .array, .array _ | .tuple, .array _ => true
  | .object, .record _ | .dictionary, .record _ | .operation, .operation _ _ _ | .condition, .condition _ _ _ => true
  | .reference, .reference _ _ | .error, .error _ | .instanceOf, .handle _ _ _ => true
  | _, _ => false

/-- One of the members of a union takes the written form of the value for another value. -/
def DataType.confuses : DataType → Value → Bool
  | .union members _, value => (flattenAll members).any (·.kind.mistakes value)
  | _, _ => false

/-- The value is not written as null or as an empty list of elements. -/
def Value.Distinctive : Value → Prop
  | .undefined => False
  | .number x => x.isFinite
  | .array items => items ≠ []
  | _ => True

open Decoder (Rejects Settles)

/-! ### Written forms that are turned down -/

/-- A statement has neither a key nor a value. -/
theorem readEntry_statement (statement : Statement) :
    ∃ fields, statement.encode = .object fields ∧ readEntry fields {} = pure {} := by
  obtain ⟨id, data, operations, name, isOptional⟩ := statement
  cases name <;> cases isOptional <;> exact ⟨_, rfl, rfl⟩

theorem entries_of_statements {items : List Statement} (some : items ≠ []) :
    (shapesOf (Value.array items).encode).entries.Rejects := by
  cases items with
  | nil => exact absurd rfl some
  | cons item rest =>
    obtain ⟨fields, form, read⟩ := readEntry_statement item
    simp only [Value.encode, encodeStatements, shapesOf, form, decodeEntries, read, pure_bind, Decoder.ofOption]
    exact .bind (.bind .malformed _) _

theorem statements_of_entries {entries : List (String × Statement)} (some : entries ≠ []) :
    (shapesOf (Value.record entries).encode).statements.Rejects := by
  cases entries with
  | nil => exact absurd rfl some
  | cons entry rest => exact .bind (.bind .malformed _) _

theorem looksLikeEntries_statements (items : List Statement) : looksLikeEntries (encodeStatements items) = false := by
  cases items with
  | nil => rfl
  | cons item rest =>
    obtain ⟨id, data, operations, name, isOptional⟩ := item
    cases name <;> cases isOptional <;> rfl

theorem looksLikeEntries_entries {entries : List (String × Statement)} (some : entries ≠ []) :
    looksLikeEntries (encodeEntries entries) = true := by
  have all (entries : List (String × Statement)) : (encodeEntries entries).all fun item =>
      item.has "key" && item.has "value" && !item.has "data" := by
    induction entries with
    | nil => rfl
    | cons entry rest ih => exact ih
  cases entries with
  | nil => exact absurd rfl some
  | cons entry rest => exact all (entry :: rest)

/-! ### Reading the written form under any type -/

theorem Json.ofNumber_finite {x : Float} (finite : x.isFinite) :
    Json.ofNumber x = .int (integerPart x) ∨ Json.ofNumber x = .float x := by
  unfold Json.ofNumber
  rw [if_pos finite]
  split
  · exact .inl rfl
  · exact .inr rfl

/-- The written form of the value is read back under types of a kind that reads such values, and turned down under others. -/
def Value.Decides (value : Value) (type : DataType) : Prop :=
  type.kind.reads value = true ∧ value.Reloads type ∨ type.kind.reads value = false ∧ (Value.decodeAs type value.encode).Rejects

section

variable {leaf : DataType} (notUnion : leaf.kind ≠ .union)
include notUnion

theorem text_decides (value : String) : (Value.text value).Decides leaf := by
  cases leaf with
  | union _ _ => exact absurd rfl notUnion
  | string | unknown | never | undefined => exact .inl ⟨rfl, rfl⟩
  | _ => exact .inr ⟨rfl, .throw _⟩

theorem boolean_decides (value : Bool) : (Value.boolean value).Decides leaf := by
  cases leaf with
  | union _ _ => exact absurd rfl notUnion
  | boolean | unknown | never | undefined => exact .inl ⟨rfl, rfl⟩
  | _ => exact .inr ⟨rfl, .throw _⟩

theorem number_decides {x : Float} (finite : x.isFinite) : (Value.number x).Decides leaf := by
  unfold Value.Decides Value.Reloads Value.mapNumbers Value.encode rewritten
  rcases Json.ofNumber_finite finite with form | form
  all_goals
    rw [form]
    cases leaf with
    | union _ _ => exact absurd rfl notUnion
    | number | unknown | never | undefined => exact .inl ⟨rfl, rfl⟩
    | _ => exact .inr ⟨rfl, .throw _⟩

theorem array_decides {items : List Statement} (some : items ≠ []) (all : ∀ item ∈ items, item.Reloads) :
    (Value.array items).Decides leaf := by
  have own := statements_encode all
  cases leaf with
  | union _ _ => exact absurd rfl notUnion
  | array _ | tuple _ => exact .inl ⟨rfl, own⟩
  | unknown | never | undefined =>
    have untyped : (shapesOf (Value.array items).encode).untyped (Value.array items).encode
        = (shapesOf (Value.array items).encode).statements := by
      rw [Value.encode, Shapes.untyped, looksLikeEntries_statements]
      rfl
    exact .inl ⟨rfl, untyped.trans own⟩
  | object _ _ | dictionary _ => exact .inr ⟨rfl, entries_of_statements some⟩
  | _ => exact .inr ⟨rfl, .throw _⟩

/-- Only no entries at all are taken for something else. -/
theorem record_decides {entries : Table Statement} (distinct : (Table.keys entries).Nodup)
    (all : ∀ entry ∈ entries, entry.2.Reloads) (clear : leaf.kind.mistakes (.record entries) = false) :
    (Value.record entries).Decides leaf := by
  have own := entries_encode distinct all
  have nonempty (mistaken : leaf.kind.mistakes (.record []) = true) : entries ≠ [] := by
    rintro rfl
    rw [mistaken] at clear
    cases clear
  cases leaf with
  | union _ _ => exact absurd rfl notUnion
  | object _ _ | dictionary _ => exact .inl ⟨rfl, own⟩
  | array _ | tuple _ => exact .inr ⟨rfl, statements_of_entries (nonempty rfl)⟩
  | unknown | never | undefined =>
    have untyped : (shapesOf (Value.record entries).encode).untyped (Value.record entries).encode
        = (shapesOf (Value.record entries).encode).entries := by
      rw [Value.encode, Shapes.untyped, looksLikeEntries_entries (nonempty rfl)]
      rfl
    exact .inl ⟨rfl, untyped.trans own⟩
  | _ => exact .inr ⟨rfl, .throw _⟩

theorem operation_decides {name : Option String} {parameters body : List Statement}
    (first : ∀ parameter ∈ parameters, parameter.Reloads) (second : ∀ statement ∈ body, statement.Reloads)
    (clear : leaf.kind.mistakes (.operation name parameters body) = false) :
    (Value.operation name parameters body).Decides leaf := by
  have own := operation_encode name first second
  cases leaf with
  | union _ _ => exact absurd rfl notUnion
  | operation _ _ => exact .inl ⟨rfl, own⟩
  | unknown | never | undefined => cases name <;> exact .inl ⟨rfl, own⟩
  | reference _ =>
    cases name with
    | none => exact .inr ⟨rfl, fun _ => ⟨.malformed, rfl⟩⟩
    | some name => cases clear
  | object _ _ | dictionary _ | condition _ | error _ | instanceOf _ _ =>
    cases name <;> exact .inr ⟨rfl, fun _ => ⟨.malformed, rfl⟩⟩
  | _ => exact .inr ⟨rfl, .throw _⟩

theorem condition_decides {test whenTrue whenFalse : Statement} (tests : test.Reloads) (trues : whenTrue.Reloads)
    (falses : whenFalse.Reloads) (clear : leaf.kind.mistakes (.condition test whenTrue whenFalse) = false) :
    (Value.condition test whenTrue whenFalse).Decides leaf := by
  have own := condition_encode tests trues falses
  cases leaf with
  | union _ _ => exact absurd rfl notUnion
  | condition _ | unknown | never | undefined => exact .inl ⟨rfl, own⟩
  | operation _ _ | object _ _ | dictionary _ => cases clear
  | reference _ | error _ | instanceOf _ _ => exact .inr ⟨rfl, fun _ => ⟨.malformed, rfl⟩⟩
  | _ => exact .inr ⟨rfl, .throw _⟩

theorem reference_decides {name : String} {id : EntityId} (clear : leaf.kind.mistakes (.reference name id) = false) :
    (Value.reference name id).Decides leaf := by
  cases leaf with
  | union _ _ => exact absurd rfl notUnion
  | reference _ | unknown | never | undefined => exact .inl ⟨rfl, rfl⟩
  | operation _ _ => cases clear
  | object _ _ | dictionary _ | condition _ | error _ | instanceOf _ _ => exact .inr ⟨rfl, fun _ => ⟨.malformed, rfl⟩⟩
  | _ => exact .inr ⟨rfl, .throw _⟩

theorem error_decides {reason : String} (clear : leaf.kind.mistakes (.error reason) = false) :
    (Value.error reason).Decides leaf := by
  cases leaf with
  | union _ _ => exact absurd rfl notUnion
  | error _ | unknown | never | undefined => exact .inl ⟨rfl, rfl⟩
  | operation _ _ => cases clear
  | object _ _ | dictionary _ | condition _ | reference _ | instanceOf _ _ => exact .inr ⟨rfl, fun _ => ⟨.malformed, rfl⟩⟩
  | _ => exact .inr ⟨rfl, .throw _⟩

theorem handle_decides {className : String} {arguments : List Statement} {instanceId : EntityId}
    (all : ∀ argument ∈ arguments, argument.Reloads) (clear : leaf.kind.mistakes (.handle className arguments instanceId) = false) :
    (Value.handle className arguments instanceId).Decides leaf := by
  have own := handle_encode className instanceId all
  cases leaf with
  | union _ _ => exact absurd rfl notUnion
  | instanceOf _ _ | unknown | never | undefined => exact .inl ⟨rfl, own⟩
  | operation _ _ => cases clear
  | object _ _ | dictionary _ | condition _ | reference _ | error _ => exact .inr ⟨rfl, fun _ => ⟨.malformed, rfl⟩⟩
  | _ => exact .inr ⟨rfl, .throw _⟩

/-- Under any type but a union the written form of a value is read back or turned down, if the type does not
mistake it. -/
theorem decodeAs_decides {value : Value} (distinctive : value.Distinctive) (parts : ∀ part ∈ value.parts, part.Reloads)
    (distinct : ∀ entries, value = .record entries → (Table.keys entries).Nodup) (clear : leaf.kind.mistakes value = false) :
    value.Decides leaf := by
  cases value with
  | undefined => exact distinctive.elim
  | text value => exact text_decides notUnion value
  | boolean value => exact boolean_decides notUnion value
  | number x => exact number_decides notUnion distinctive
  | array items => exact array_decides notUnion distinctive parts
  | record entries =>
    have all : ∀ entry ∈ entries, entry.2.Reloads := fun entry among => parts entry.2 (List.mem_map_of_mem among)
    exact record_decides notUnion (distinct entries rfl) all clear
  | operation name parameters body =>
    obtain ⟨first, second⟩ := List.forall_mem_append.mp parts
    exact operation_decides notUnion first second clear
  | condition test whenTrue whenFalse =>
    obtain ⟨tests, trues, falses⟩ : test.Reloads ∧ whenTrue.Reloads ∧ whenFalse.Reloads := by
      simpa [Value.parts] using parts
    exact condition_decides notUnion tests trues falses clear
  | reference name id => exact reference_decides notUnion clear
  | error reason => exact error_decides notUnion clear
  | handle className arguments instanceId => exact handle_decides notUnion parts clear

end

end LivePipeline
