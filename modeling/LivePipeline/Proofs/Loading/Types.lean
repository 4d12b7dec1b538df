import LivePipeline.DataType.Codec
import LivePipeline.Node.Inference
import LivePipeline.Proofs.Correspondence.Building

/-! Types are read back from JSON as they were written. The one thing to know about a type is that
no object type in it names a property twice; every type that was read from JSON is of this form, and so is
every type that is inferred from such types. -/

namespace LivePipeline

/-! ## Tables with distinct keys -/

namespace Table

variable {α : Type u}

theorem mem_keys_insert {table : Table α} {key name : String} {value : α} :
    name ∈ keys (insert table key value) ↔ name ∈ keys table ∨ name = key := by
  induction table with
  | nil => simp [insert, keys]
  | cons entry rest ih =>
    obtain ⟨other, old⟩ := entry
    simp only [keys] at ih ⊢
    by_cases same : other = key
    · subst same
      simp only [insert, ↓reduceIte, List.map_cons, List.mem_cons]
      tauto
    · simp only [insert, same, ↓reduceIte, List.map_cons, List.mem_cons, ih]
      tauto

theorem nodup_insert {table : Table α} (distinct : (keys table).Nodup) (key : String) (value : α) :
    (keys (insert table key value)).Nodup := by
  induction table with
  | nil => simp [insert, keys]
  | cons entry rest ih =>
    obtain ⟨other, old⟩ := entry
    obtain ⟨new, others⟩ := List.nodup_cons.mp distinct
    by_cases same : other = key
    · simpa [insert, same, keys] using distinct
    · have later := ih others
      simp only [insert, same, ↓reduceIte]
      refine List.nodup_cons.mpr ⟨fun among => ?_, later⟩
      exact (mem_keys_insert.mp among).elim new same

theorem nodup_insertAll {table : Table α} (distinct : (keys table).Nodup) (later : Table α) :
    (keys (insertAll table later)).Nodup := by
  induction later generalizing table with
  | nil => exact distinct
  | cons entry rest ih => exact ih (nodup_insert distinct entry.1 entry.2)

theorem nodup_ofEntries (entries : List (String × α)) : (keys (ofEntries entries)).Nodup := by
  have empty : (keys ([] : Table α)).Nodup := List.nodup_nil
  exact nodup_insertAll empty entries

theorem insert_of_notMem {table : Table α} {key : String} (new : key ∉ keys table) (value : α) :
    insert table key value = table ++ [(key, value)] := by
  induction table with
  | nil => rfl
  | cons entry rest ih =>
    obtain ⟨other, old⟩ := entry
    rw [keys, List.map_cons, List.mem_cons, not_or] at new
    rw [insert, if_neg fun same => new.1 same.symm, ih new.2, List.cons_append]

theorem insertAll_of_nodup {table later : Table α} (distinct : (keys (table ++ later)).Nodup) :
    insertAll table later = table ++ later := by
  induction later generalizing table with
  | nil => exact (List.append_nil table).symm
  | cons entry rest ih =>
    have new : entry.1 ∉ keys table := by
      rw [keys, List.map_append, List.map_cons] at distinct
      exact fun among => (List.nodup_append.mp distinct).2.2 _ among _ List.mem_cons_self rfl
    have split : table ++ entry :: rest = (table ++ [entry]) ++ rest := by simp
    rw [split] at distinct ⊢
    rw [← ih distinct, ← insert_of_notMem new entry.2]
    rfl

/-- Writing entries with distinct keys leaves just these. -/
theorem ofEntries_of_nodup {entries : List (String × α)} (distinct : (keys entries).Nodup) : ofEntries entries = entries :=
  insertAll_of_nodup distinct

theorem insert_ne_nil (table : Table α) (key : String) (value : α) : insert table key value ≠ [] := by
  cases table with
  | nil => exact List.cons_ne_nil _ _
  | cons entry rest =>
    rw [insert]
    split <;> exact List.cons_ne_nil _ _

theorem ofEntries_eq_nil {entries : List (String × α)} (empty : ofEntries entries = []) : entries = [] := by
  have kept (table later : Table α) (some : table ≠ []) : insertAll table later ≠ [] := by
    induction later generalizing table with
    | nil => exact some
    | cons entry rest ih => exact ih _ (insert_ne_nil table entry.1 entry.2)
  cases entries with
  | nil => rfl
  | cons entry rest => exact absurd empty (kept _ rest (List.cons_ne_nil _ _))

end Table

theorem Json.texts?_map (names : List String) : Json.texts? (.array (names.map .text)) = some names := by
  rw [Json.texts?]
  induction names with
  | nil => rfl
  | cons name rest ih => simp [List.mapM_cons, ih, Json.text?]

/-! ## Types with distinct property names -/

namespace DataType

mutual

/-- No object type in it names a property twice. -/
def Keyed : DataType → Prop
  | .array element | .dictionary element => element.Keyed
  | .tuple elements => allKeyed elements
  | .object properties _ => (Table.keys properties).Nodup ∧ propertiesKeyed properties
  | .union members _ => allKeyed members
  | .operation parameters result => parametersKeyed parameters ∧ result.Keyed
  | .condition result => result.Keyed
  | .reference target => target.Keyed
  | .instanceOf _ arguments => parametersKeyed arguments
  | .unknown | .never | .undefined | .string | .number | .boolean | .error _ => True
termination_by structural type => type

def allKeyed : List DataType → Prop
  | [] => True
  | type :: rest => type.Keyed ∧ allKeyed rest
termination_by structural types => types

def propertiesKeyed : List (String × DataType) → Prop
  | [] => True
  | (_, type) :: rest => type.Keyed ∧ propertiesKeyed rest
termination_by structural properties => properties

def parametersKeyed : List Parameter → Prop
  | [] => True
  | ⟨_, type, _⟩ :: rest => type.Keyed ∧ parametersKeyed rest
termination_by structural parameters => parameters

end

@[simp] theorem allKeyed_iff {types : List DataType} : allKeyed types ↔ ∀ type ∈ types, type.Keyed := by
  induction types with
  | nil => simp [allKeyed]
  | cons type rest ih => simp [allKeyed, ih]

@[simp] theorem propertiesKeyed_iff {properties : List (String × DataType)} :
    propertiesKeyed properties ↔ ∀ property ∈ properties, property.2.Keyed := by
  induction properties with
  | nil => simp [propertiesKeyed]
  | cons property rest ih => simp [propertiesKeyed, ih]

@[simp] theorem parametersKeyed_iff {parameters : List Parameter} :
    parametersKeyed parameters ↔ ∀ parameter ∈ parameters, parameter.type.Keyed := by
  induction parameters with
  | nil => simp [parametersKeyed]
  | cons parameter rest ih =>
    obtain ⟨name, type, isOptional⟩ := parameter
    simp [parametersKeyed, ih]

/-! ### Reading what was written -/

mutual

theorem decode?_encode : ∀ type : DataType, type.Keyed → decode? type.encode = some type
  | .unknown, _ | .never, _ | .undefined, _ | .string, _ | .number, _ | .boolean, _ => rfl
  | .array element, keyed => by
    simp [encode, tagged, Kind.label, decode?, typeField?, Table.get?, Json.text?, decode?_encode element keyed]
  | .tuple elements, keyed => by
    simp [encode, tagged, Kind.label, decode?, typesField?, Table.get?, Json.text?, decodeAll?_encodeAll elements keyed]
  | .object properties required, ⟨distinct, keyed⟩ => by
    simp [encode, tagged, Kind.label, decode?, propertiesField?, Table.get?, Json.text?, Json.defaulted?,
      Json.texts?_map, decodeProperties?_encode properties keyed, Table.ofEntries_of_nodup distinct]
  | .dictionary element, keyed => by
    simp [encode, tagged, Kind.label, decode?, typeField?, Table.get?, Json.text?, decode?_encode element keyed]
  | .union members active, keyed => by
    cases active <;>
      simp [encode, tagged, Kind.label, decode?, typesField?, Table.get?, Json.text?, Json.nullable?, Json.count?,
        decodeAll?_encodeAll members keyed]
  | .operation parameters result, ⟨keyed, keyed'⟩ => by
    simp [encode, tagged, Kind.label, decode?, parametersField?, typeField?, Table.get?, Json.text?,
      decodeParameters?_encode parameters keyed, decode?_encode result keyed']
  | .condition result, keyed => by
    simp [encode, tagged, Kind.label, decode?, typeField?, Table.get?, Json.text?, decode?_encode result keyed]
  | .reference target, keyed => by
    simp [encode, tagged, Kind.label, decode?, typeField?, Table.get?, Json.text?, decode?_encode target keyed]
  | .error kind, _ => by cases kind <;> rfl
  | .instanceOf className arguments, keyed => by
    simp [encode, tagged, Kind.label, decode?, parametersField?, Table.get?, Json.text?, Json.required?,
      decodeParameters?_encode arguments keyed]
termination_by structural type => type

theorem decodeAll?_encodeAll : ∀ types : List DataType, allKeyed types → decodeAll? (encodeAll types) = some types
  | [], _ => rfl
  | type :: rest, ⟨keyed, others⟩ => by
    simp [encodeAll, decodeAll?, decode?_encode type keyed, decodeAll?_encodeAll rest others]
termination_by structural types => types

theorem decodeProperties?_encode : ∀ properties : List (String × DataType), propertiesKeyed properties →
    decodeProperties? (encodeProperties properties) = some properties
  | [], _ => rfl
  | (name, type) :: rest, ⟨keyed, others⟩ => by
    simp [encodeProperties, decodeProperties?, decode?_encode type keyed, decodeProperties?_encode rest others]
termination_by structural properties => properties

theorem decodeParameters?_encode : ∀ parameters : List Parameter, parametersKeyed parameters →
    decodeParameters? (encodeParameters parameters) = some parameters
  | [], _ => rfl
  | ⟨name, type, isOptional⟩ :: rest, ⟨keyed, others⟩ => by
    cases name <;> cases isOptional <;>
      simp [encodeParameters, decodeParameters?, typeField?, Table.get?, Json.text?, Json.bool?, Json.nullable?,
        Json.defaulted?, decode?_encode type keyed, decodeParameters?_encode rest others]
termination_by structural parameters => parameters

end

/-! ### Types that are read -/

mutual

theorem keyed_of_decode? : ∀ (json : Json) {type : DataType}, decode? json = some type → type.Keyed
  | .object fields, type, found => by
    have field {key : String} {type : DataType} (found : typeField? key fields = some type) : type.Keyed :=
      keyed_of_typeField? key fields found
    have fields' {key : String} {types : List DataType} (found : typesField? key fields = some types) : allKeyed types :=
      keyed_of_typesField? key fields found
    have parameters {key : String} {fallback : Option (List Parameter)} (known : ∀ all ∈ fallback, parametersKeyed all)
        {all : List Parameter} (found : parametersField? key fallback fields = some all) : parametersKeyed all :=
      keyed_of_parametersField? key fields known found
    unfold decode? at found
    split at found
    · cases found; trivial
    · cases found; trivial
    · cases found; trivial
    · cases found; trivial
    · cases found; trivial
    · cases found; trivial
    · obtain ⟨element, given, rfl⟩ := Option.map_eq_some_iff.mp found
      exact (field given : element.Keyed)
    · obtain ⟨elements, given, rfl⟩ := Option.map_eq_some_iff.mp found
      exact fields' given
    · obtain ⟨properties, given, found⟩ := Option.bind_eq_some_iff.mp found
      obtain ⟨required, _, found⟩ := Option.bind_eq_some_iff.mp found
      cases found
      exact ⟨Table.nodup_ofEntries properties, propertiesKeyed_iff.mpr
        (Table.all_ofEntries (propertiesKeyed_iff.mp (keyed_of_propertiesField? "properties" fields given)))⟩
    · obtain ⟨element, given, rfl⟩ := Option.map_eq_some_iff.mp found
      exact (field given : element.Keyed)
    · obtain ⟨members, given, found⟩ := Option.bind_eq_some_iff.mp found
      obtain ⟨active, _, found⟩ := Option.bind_eq_some_iff.mp found
      cases found
      exact fields' given
    · obtain ⟨all, given, found⟩ := Option.bind_eq_some_iff.mp found
      obtain ⟨result, given', found⟩ := Option.bind_eq_some_iff.mp found
      cases found
      exact ⟨parameters (by simp) given, field given'⟩
    · obtain ⟨result, given, rfl⟩ := Option.map_eq_some_iff.mp found
      exact (field given : result.Keyed)
    · obtain ⟨target, given, rfl⟩ := Option.map_eq_some_iff.mp found
      exact (field given : target.Keyed)
    · obtain ⟨label, _, found⟩ := Option.bind_eq_some_iff.mp found
      obtain ⟨kind, _, found⟩ := Option.bind_eq_some_iff.mp found
      cases found
      trivial
    · obtain ⟨className, _, found⟩ := Option.bind_eq_some_iff.mp found
      obtain ⟨all, given, found⟩ := Option.bind_eq_some_iff.mp found
      cases found
      exact parameters (by simp) given
    · cases found
  | .null, _, found | .bool _, _, found | .int _, _, found | .float _, _, found | .text _, _, found
  | .array _, _, found => nomatch found
termination_by structural json => json

theorem keyed_of_typeField? (key : String) : ∀ (fields : List (String × Json)) {type : DataType},
    typeField? key fields = some type → type.Keyed
  | [], _, found => nomatch found
  | (name, json) :: rest, type, found => by
    unfold typeField? at found
    split at found
    · exact keyed_of_decode? json found
    · exact keyed_of_typeField? key rest found
termination_by structural fields => fields

theorem keyed_of_typesField? (key : String) : ∀ (fields : List (String × Json)) {types : List DataType},
    typesField? key fields = some types → allKeyed types
  | [], _, found => nomatch found
  | (name, json) :: rest, types, found => by
    unfold typesField? at found
    split at found
    · cases json with
      | array items => exact keyed_of_decodeAll? items found
      | _ => cases found
    · exact keyed_of_typesField? key rest found
termination_by structural fields => fields

theorem keyed_of_propertiesField? (key : String) : ∀ (fields : List (String × Json)) {properties : List (String × DataType)},
    propertiesField? key fields = some properties → propertiesKeyed properties
  | [], _, found => nomatch found
  | (name, json) :: rest, properties, found => by
    unfold propertiesField? at found
    split at found
    · cases json with
      | object fields => exact keyed_of_decodeProperties? fields found
      | _ => cases found
    · exact keyed_of_propertiesField? key rest found
termination_by structural fields => fields

theorem keyed_of_parametersField? (key : String) : ∀ (fields : List (String × Json)) {fallback : Option (List Parameter)},
    (∀ all ∈ fallback, parametersKeyed all) → ∀ {parameters : List Parameter},
      parametersField? key fallback fields = some parameters → parametersKeyed parameters
  | [], _, known, parameters, found => known parameters found
  | (name, json) :: rest, fallback, known, parameters, found => by
    unfold parametersField? at found
    split at found
    · cases json with
      | array items => exact keyed_of_decodeParameters? items found
      | _ => cases found
    · exact keyed_of_parametersField? key rest known found
termination_by structural fields => fields

theorem keyed_of_decodeAll? : ∀ (items : List Json) {types : List DataType}, decodeAll? items = some types → allKeyed types
  | [], _, found => by cases found; trivial
  | json :: rest, types, found => by
    unfold decodeAll? at found
    obtain ⟨type, first, found⟩ := Option.bind_eq_some_iff.mp found
    obtain ⟨others, later, found⟩ := Option.bind_eq_some_iff.mp found
    cases found
    exact ⟨keyed_of_decode? json first, keyed_of_decodeAll? rest later⟩
termination_by structural items => items

theorem keyed_of_decodeProperties? : ∀ (fields : List (String × Json)) {properties : List (String × DataType)},
    decodeProperties? fields = some properties → propertiesKeyed properties
  | [], _, found => by cases found; trivial
  | (name, json) :: rest, properties, found => by
    unfold decodeProperties? at found
    obtain ⟨type, first, found⟩ := Option.bind_eq_some_iff.mp found
    obtain ⟨others, later, found⟩ := Option.bind_eq_some_iff.mp found
    cases found
    exact ⟨keyed_of_decode? json first, keyed_of_decodeProperties? rest later⟩
termination_by structural fields => fields

theorem keyed_of_decodeParameters? : ∀ (items : List Json) {parameters : List Parameter},
    decodeParameters? items = some parameters → parametersKeyed parameters
  | [], _, found => by cases found; trivial
  | .object fields :: rest, parameters, found => by
    unfold decodeParameters? at found
    obtain ⟨name, _, found⟩ := Option.bind_eq_some_iff.mp found
    obtain ⟨type, first, found⟩ := Option.bind_eq_some_iff.mp found
    obtain ⟨isOptional, _, found⟩ := Option.bind_eq_some_iff.mp found
    obtain ⟨others, later, found⟩ := Option.bind_eq_some_iff.mp found
    cases found
    exact ⟨keyed_of_typeField? "type" fields first, keyed_of_decodeParameters? rest later⟩
  | .null :: _, _, found | .bool _ :: _, _, found | .int _ :: _, _, found | .float _ :: _, _, found
  | .text _ :: _, _, found | .array _ :: _, _, found => nomatch found
termination_by structural items => items

end

/-! ### Types that are inferred -/

theorem Keyed.dereference : ∀ {type : DataType}, type.Keyed → type.dereference.Keyed
  | .reference target, keyed => @Keyed.dereference target keyed
  | .unknown, keyed | .never, keyed | .undefined, keyed | .string, keyed | .number, keyed | .boolean, keyed
  | .array _, keyed | .tuple _, keyed | .object _ _, keyed | .dictionary _, keyed | .union _ _, keyed
  | .operation _ _, keyed | .condition _, keyed | .error _, keyed | .instanceOf _ _, keyed => keyed

mutual

theorem Keyed.flatten : ∀ type : DataType, type.Keyed → allKeyed type.flatten
  | .union members _, keyed => allKeyed_flattenAll members keyed
  | .unknown, keyed | .never, keyed | .undefined, keyed | .string, keyed | .number, keyed | .boolean, keyed
  | .array _, keyed | .tuple _, keyed | .object _ _, keyed | .dictionary _, keyed | .reference _, keyed
  | .operation _ _, keyed | .condition _, keyed | .error _, keyed | .instanceOf _ _, keyed => ⟨keyed, trivial⟩
termination_by structural type => type

theorem allKeyed_flattenAll : ∀ types : List DataType, allKeyed types → allKeyed (flattenAll types)
  | [], _ => trivial
  | type :: rest, ⟨keyed, others⟩ => by
    have first := allKeyed_iff.mp (Keyed.flatten type keyed)
    have later := allKeyed_iff.mp (allKeyed_flattenAll rest others)
    exact allKeyed_iff.mpr (List.forall_mem_append.mpr ⟨first, later⟩)
termination_by structural types => types

end

theorem keyed_distinctMembers {types : List DataType} (keyed : ∀ type ∈ types, type.Keyed) :
    ∀ member ∈ distinctMembers types, member.Keyed := by
  have flat := allKeyed_iff.mp (allKeyed_flattenAll types (allKeyed_iff.mpr keyed))
  have start : ∀ member ∈ ([] : List DataType), member.Keyed := by simp
  unfold distinctMembers
  generalize flattenAll types = candidates at flat
  generalize ([] : List DataType) = members at start
  induction candidates generalizing members with
  | nil => exact start
  | cons type rest ih =>
    rw [List.forall_mem_cons] at flat
    refine ih flat.2 _ ?_
    unfold addMember
    split
    · exact start
    · exact List.forall_mem_append.mpr ⟨start, by simpa using flat.1⟩

theorem keyed_unionOf {types : List DataType} (keyed : ∀ type ∈ types, type.Keyed) : (unionOf types).Keyed := by
  have all := keyed_distinctMembers keyed
  unfold unionOf unionWith
  split
  · trivial
  · next single given => exact all single (given ▸ List.mem_singleton_self single)
  · exact allKeyed_iff.mpr all

end DataType

/-- The statements that a value is made of. -/
def Value.parts : Value → List Statement
  | .array items => items
  | .record entries => Table.values entries
  | .operation _ parameters body => parameters ++ body
  | .condition test whenTrue whenFalse => [test, whenTrue, whenFalse]
  | .handle _ arguments _ => arguments
  | .undefined | .text _ | .number _ | .boolean _ | .reference _ _ | .error _ => []

/-- No type that the statement declares names a property twice. -/
structure Statement.Keyed (statement : Statement) : Prop where
  data : statement.data.type.Keyed
  operations : ∀ operation ∈ statement.operations, operation.type.Keyed

theorem Statement.Keyed.resultType {statement : Statement} (keyed : statement.Keyed) : statement.resultType.Keyed := by
  unfold Statement.resultType
  split
  · next id parameters result value last =>
    exact (keyed.operations _ (List.mem_of_getLast? last)).2
  · exact keyed.data.dereference

/-- The type that is inferred for a value from what its parts declare. -/
theorem Value.keyed_inferType {value : Value} (parts : ∀ part ∈ value.parts, part.Keyed)
    (distinct : ∀ entries, value = .record entries → (Table.keys entries).Nodup) :
    (value.inferType .declared).Keyed := by
  cases value with
  | array items =>
    have types : ∀ type ∈ items.map Statement.resultType, type.Keyed :=
      List.forall_mem_map.mpr fun item among => (parts item among).resultType
    change (Value.inferArray .declared items).Keyed
    unfold Value.inferArray
    dsimp only [TypeHints.declared, Option.map_none]
    split
    · trivial
    · exact (DataType.keyed_unionOf types : DataType.Keyed _)
  | record entries =>
    refine ⟨?_, DataType.propertiesKeyed_iff.mpr (List.forall_mem_map.mpr fun entry among => ?_)⟩
    · rw [Table.keys, List.map_map]
      exact distinct entries rfl
    · exact (parts entry.2 (List.mem_map_of_mem among)).resultType
  | operation name parameters body =>
    refine ⟨DataType.parametersKeyed_iff.mpr (List.forall_mem_map.mpr fun parameter among => ?_), ?_⟩
    · exact (parts parameter (List.mem_append_left _ among)).resultType
    · cases last : body.getLast? with
      | none => trivial
      | some statement =>
        exact (parts statement (List.mem_append_right _ (List.mem_of_getLast? last))).resultType
  | condition test whenTrue whenFalse =>
    have types : ∀ type ∈ [whenTrue.resultType, whenFalse.resultType], type.Keyed := by
      simpa using ⟨(parts whenTrue (by simp [Value.parts])).resultType, (parts whenFalse (by simp [Value.parts])).resultType⟩
    exact (DataType.keyed_unionOf types : DataType.Keyed _)
  | handle className arguments instanceId =>
    refine DataType.parametersKeyed_iff.mpr (List.forall_mem_map.mpr fun argument among => ?_)
    exact (parts argument among).resultType
  | _ => trivial

end LivePipeline
