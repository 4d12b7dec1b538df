import LivePipeline.Proofs.CanonicalUnions
import LivePipeline.Proofs.Correspondence.Building
import LivePipeline.Proofs.Making
import LivePipeline.Proofs.Reordering
import LivePipeline.Scope

/-! The types of default data. The default of a type is made for what stands behind its references and, of a union, for a
member. The type that is inferred from it is told from the children's types and from the type that is asked for, and it
is compatible with that type. Inference cannot tell everything: it has no value of a type without values, it takes items for
an array and entries for an object unless the very type that is asked for is one of tuples or of dictionaries, and
it opens a union of a single member. -/

namespace LivePipeline

namespace DataType

/-! ## What a default is made for -/

mutual

/-- The type that default data is made for: behind references, and of a union the member that its default takes. -/
def picked : DataType → DataType
  | reference target => picked target
  | union members active => ((defaultMember members active).bind ((pickedAll members)[·]?)).getD undefined
  | type => type

def pickedAll : List DataType → List DataType
  | [] => []
  | type :: rest => picked type :: pickedAll rest

end

theorem pickedAll_eq_map (types : List DataType) : pickedAll types = types.map picked := by
  induction types with
  | nil => rfl
  | cons type rest ih => rw [pickedAll, ih, List.map_cons]

theorem memberDefaults_eq_map (full : Bool) (types : List DataType) : memberDefaults full types = types.map (defaultValue full) := by
  induction types with
  | nil => rfl
  | cons type rest ih => rw [memberDefaults, ih, List.map_cons]

mutual

theorem defaultValue_picked (full : Bool) : ∀ type : DataType, type.picked.defaultValue full = type.defaultValue full
  | reference target => defaultValue_picked full target
  | union members active => by
    have each := defaultValue_pickedAll full members
    rw [picked, defaultValue]
    cases chosen : defaultMember members active with
    | none => rfl
    | some index =>
      rw [Option.bind_some, Option.bind_some, memberDefaults_eq_map, pickedAll_eq_map, List.getElem?_map, List.getElem?_map]
      cases found : members[index]? with
      | none => rfl
      | some member => exact each member (List.mem_of_getElem? found)
  | unknown | never | undefined | string | number | boolean | array _ | tuple _ | object _ _ | dictionary _
  | operation _ _ | condition _ | error _ | instanceOf _ _ => rfl
termination_by structural type => type

theorem defaultValue_pickedAll (full : Bool) : ∀ types : List DataType, ∀ type ∈ types,
    type.picked.defaultValue full = type.defaultValue full
  | [], _, among => nomatch among
  | first :: rest, type, among => by
    rcases List.mem_cons.mp among with same | later
    · exact same ▸ defaultValue_picked full first
    · exact defaultValue_pickedAll full rest type later
termination_by structural types => types

end

/-- A union with members has a member to take. -/
theorem defaultMember_lt {members : List DataType} (inhabited : members ≠ []) (active : Option Nat) :
    ∃ index < members.length, defaultMember members active = some index := by
  have otherwise : ∃ index < members.length,
      (members.findIdx? (·.kind != .undefined)).or (members.head?.map fun _ => 0) = some index := by
    cases first : members.findIdx? (·.kind != .undefined) with
    | some index => exact ⟨index, (List.findIdx?_eq_some_iff_getElem.mp first).1, rfl⟩
    | none =>
      obtain ⟨member, rest, rfl⟩ := List.exists_cons_of_ne_nil inhabited
      exact ⟨0, Nat.zero_lt_succ _, rfl⟩
  unfold defaultMember
  cases active with
  | none => exact otherwise
  | some index =>
    by_cases within : index < members.length
    · exact ⟨index, within, if_pos within⟩
    · simp only [if_neg within]
      exact otherwise

mutual

theorem picked_mem_alternatives : ∀ type : DataType, type.wellFormed → type.picked ∈ type.alternatives
  | reference target, formed => picked_mem_alternatives target formed
  | union members active, formed => by
    simp only [wellFormed, Bool.and_eq_true] at formed
    have each := picked_mem_alternativesAll members formed.2
    have inhabited : members ≠ [] := by simpa using formed.1
    obtain ⟨index, within, chosen⟩ := defaultMember_lt inhabited active
    rw [picked, chosen, Option.bind_some, pickedAll_eq_map, List.getElem?_map, List.getElem?_eq_getElem within]
    exact each _ (List.getElem_mem within)
  | unknown, _ | never, _ | undefined, _ | string, _ | number, _ | boolean, _ | array _, _ | tuple _, _ | object _ _, _ | dictionary _, _
  | operation _ _, _ | condition _, _ | error _, _ | instanceOf _ _, _ => List.mem_singleton_self _
termination_by structural type => type

theorem picked_mem_alternativesAll : ∀ types : List DataType, allWellFormed types →
    ∀ type ∈ types, type.picked ∈ alternativesAll types
  | [], _, _, among => nomatch among
  | first :: rest, formed, type, among => by
    simp only [allWellFormed, Bool.and_eq_true] at formed
    rw [alternativesAll, List.mem_append]
    rcases List.mem_cons.mp among with same | later
    · exact .inl (same ▸ picked_mem_alternatives first formed.1)
    · exact .inr (picked_mem_alternativesAll rest formed.2 type later)
termination_by structural types => types

end

theorem picked_of_not_isUnion {type : DataType} (single : ¬ type.IsUnion) : type.dereference = type.picked := by
  unfold IsUnion at single
  fun_induction dereference type with
  | case1 target ih => exact ih single
  | case2 type other =>
    cases type with
    | reference target => exact absurd rfl (other target)
    | union => exact absurd rfl single
    | _ => rfl

/-! ## What is inferred for a type joined of one -/

instance (members : List DataType) : Decidable (Canonical members) :=
  decidable_of_iff ((∀ member ∈ members, member.kind ≠ .union)
      ∧ members.Pairwise fun earlier later => earlier.interchangeable later = false)
    ⟨fun both => ⟨both.1, both.2⟩, fun canonical => ⟨canonical.flat, canonical.apart⟩⟩

/-- A union has the members that joining types leaves. -/
def Condenses : DataType → Prop
  | union members _ => Canonical members
  | _ => True

instance : DecidablePred Condenses
  | union members _ => inferInstanceAs (Decidable (Canonical members))
  | unknown | never | undefined | string | number | boolean | array _ | tuple _ | object _ _ | dictionary _ | operation _ _
  | condition _ | reference _ | error _ | instanceOf _ _ => isTrue trivial

/-- Every union type in it has the members that joining types leaves. -/
def Resolved (type : DataType) : Prop := ∀ part ∈ type.nested, part.Condenses

instance (type : DataType) : Decidable type.Resolved := inferInstanceAs (Decidable (∀ part ∈ type.nested, part.Condenses))

/-- A union of a single member, which stands for a union in its turn. Joining leaves the inner union, whose members are
counted against the one. -/
def Collapses (type : DataType) : Prop := ∃ member active, type.dereference = union [member] active ∧ member.IsUnion

theorem wellFormed_member {members : List DataType} {active : Option Nat} (formed : (union members active).wellFormed)
    {member : DataType} (among : member ∈ members) : member.wellFormed := by
  simp only [wellFormed, Bool.and_eq_true] at formed
  exact allWellFormed_iff.mp formed.2 member among

/-- A member that stands for no union is compatible with the union that it is a member of. -/
theorem member_compatible_union {members : List DataType} {active : Option Nat} {member : DataType} (among : member ∈ members)
    (formed : member.wellFormed) (single : ¬ member.IsUnion) : member.compatible (union members active) = true := by
  have self := compatible_self member formed
  rw [← compatible_dereference_left] at self ⊢
  apply (isPlain_of_not_isUnion single).compatible_mono self
  intro part within
  exact mem_alternativesAll.mpr ⟨member, among, within⟩

/-- Joined alone, a type in canonical form stays what it is, but for the active member and for a union of one. -/
theorem unionOf_single_compatible {element : DataType} (formed : element.wellFormed)
    (canonical : ∀ members active, element.dereference = union members active → Canonical members) (opened : ¬ element.Collapses) :
    (unionOf [element.dereference]).compatible element = true := by
  rw [← compatible_dereference_right]
  have formed' : element.dereference.wellFormed := by rwa [wellFormed_dereference]
  by_cases joined : element.IsUnion
  · obtain ⟨members, active, target⟩ : ∃ members active, element.dereference = union members active := by
      unfold IsUnion at joined
      cases target : element.dereference <;> simp [target, kind] at joined ⊢
    have distinct : distinctMembers [union members active] = members := by
      have flat : flattenAll [union members active] = flattenAll members := List.append_nil _
      exact (congrArg (·.foldl addMember []) flat).trans (canonical members active target).distinctMembers
    rw [target] at formed' ⊢
    have some : distinctMembers [union members active] ≠ [] := by
      rw [distinct]
      simp only [wellFormed, Bool.and_eq_true, Bool.not_eq_true', List.isEmpty_eq_false_iff] at formed'
      exact formed'.1
    rcases unionWith_cases false none some with ⟨_, single⟩ | ⟨_, place, _, made⟩
    · rw [distinct] at single
      have only := List.mem_singleton_self (unionOf [union members active])
      rw [unionOf, ← single] at only
      apply member_compatible_union only (wellFormed_member formed' only)
      intro inner
      exact opened ⟨_, active, target.trans (congrArg (union · active) single), inner⟩
    · have each : ∀ member ∈ members, member.compatible member = true :=
        fun member among => compatible_self member (wellFormed_member formed' among)
      rw [unionOf, made, distinct, union_compatible_union_iff]
      exact ⟨rfl, fun member among => ⟨member, among, each member among⟩, fun member among => ⟨member, among, each member among⟩⟩
  · have alone : distinctMembers [element.dereference] = [element.dereference] := by
      rw [distinctMembers, flattenAll, flattenAll, List.append_nil, flatten_of_kind joined]
      rfl
    have same : unionOf [element.dereference] = element.dereference := by rw [unionOf, unionWith, alone]; rfl
    rw [same]
    exact compatible_self _ formed'

end DataType

/-! ## The children of defaults -/

open Fresh

namespace Statement

theorem holding_gives (name : Option String) (isOptional : Bool) (type : DataType) (value : Fresh Value) :
    Gives (holding name isOptional type value) fun statement =>
      statement.resultType = type.dereference ∧ statement.name = name ∧ statement.isOptional = isOptional := by
  intro next
  refine ⟨?_, rfl, rfl⟩
  exact DataType.dereference_dereference type

end Statement

theorem defaultStatements_gives (full : Bool) (types : List DataType) : Gives (defaultStatements full types) fun statements =>
    statements.map Statement.resultType = types.map DataType.dereference := by
  induction types with
  | nil => exact .pure rfl
  | cons type rest ih =>
    refine .bind (Statement.holding_gives _ _ type _) fun statement made => .bind ih fun others later => .pure ?_
    rw [List.map_cons, made.1, later, List.map_cons]

/-- The properties that default data of an object has. -/
def defaultProperties (full : Bool) (required : List String) (properties : Table DataType) : Table DataType :=
  properties.filter fun property => full || required.contains property.1

theorem get?_defaultProperties {full : Bool} {required : List String} {key : String} (asked : key ∈ required)
    (properties : Table DataType) : Table.get? (defaultProperties full required properties) key = Table.get? properties key := by
  induction properties with
  | nil => rfl
  | cons property rest ih =>
    obtain ⟨name, type⟩ := property
    by_cases same : name = key
    · have kept : (full || required.contains name) = true := by simp [same, asked]
      have first : defaultProperties full required ((name, type) :: rest) = (name, type) :: defaultProperties full required rest :=
        List.filter_cons_of_pos kept
      rw [first, Table.get?, Table.get?, if_pos same, if_pos same]
    · rw [Table.get?, if_neg same, ← ih, defaultProperties, List.filter_cons]
      split
      · rw [Table.get?, if_neg same, defaultProperties]
      · rfl

theorem defaultEntries_gives (full : Bool) (required : List String) (properties : List (String × DataType)) :
    Gives (defaultEntries full required properties) fun entries =>
      Table.mapValues Statement.resultType entries
        = Table.mapValues DataType.dereference (defaultProperties full required properties) := by
  induction properties with
  | nil => exact .pure rfl
  | cons property rest ih =>
    obtain ⟨key, type⟩ := property
    rw [defaultEntries]
    split
    · next kept =>
      have first : defaultProperties full required ((key, type) :: rest) = (key, type) :: defaultProperties full required rest :=
        List.filter_cons_of_pos kept
      refine .bind (Statement.holding_gives _ _ type _) fun statement made => .bind ih fun entries later => .pure ?_
      rw [Table.mapValues] at later ⊢
      rw [first, List.map_cons, later, made.1]
      rfl
    · next dropped =>
      have skipped : defaultProperties full required ((key, type) :: rest) = defaultProperties full required rest :=
        List.filter_cons_of_neg dropped
      rw [skipped]
      exact ih

theorem defaultParameters_gives (full : Bool) (parameters : List Parameter) :
    Gives (defaultParameters full parameters) fun statements =>
      statements.map (fun statement => Parameter.mk statement.name statement.resultType statement.isOptional)
        = parameters.map fun parameter => ⟨parameter.name, parameter.type.dereference, parameter.isOptional⟩ := by
  induction parameters with
  | nil => exact .pure rfl
  | cons parameter rest ih =>
    obtain ⟨name, type, isOptional⟩ := parameter
    refine .bind (Statement.holding_gives name isOptional type _) fun statement made => .bind ih fun others later => .pure ?_
    rw [List.map_cons, later, List.map_cons, made.1, made.2.1, made.2.2]

/-! ## What is inferred from defaults -/

theorem Table.has_of_mem_keys {table : Table α} {key : String} (among : key ∈ keys table) : has table key = true := by
  cases found : get? table key with
  | none => exact absurd among (get?_eq_none found)
  | some value => rw [has, found, Option.isSome_some]

namespace DataType

theorem parametersFit_dereference {parameters : List Parameter} (formed : parametersWellFormed parameters) :
    parametersFit (parameters.map fun parameter => ⟨parameter.name, parameter.type.dereference, parameter.isOptional⟩) parameters
      = true := by
  induction parameters with
  | nil => rfl
  | cons parameter rest ih =>
    obtain ⟨name, type, isOptional⟩ := parameter
    simp only [parametersWellFormed, Bool.and_eq_true] at formed
    rw [List.map_cons, parametersFit, compatible_dereference_left, compatible_self type formed.1, ih formed.2]
    rfl

theorem element?_of_isUnion {type : DataType} (joined : type.IsUnion) : type.element? = none := by
  unfold IsUnion at joined
  cases target : type.dereference <;> simp [target, kind, element?] at joined ⊢

end DataType

/-- Nothing has been evaluated, and a type is asked for. -/
structure TypeHints.Asks (hints : TypeHints) (type : DataType) : Prop where
  child : hints.child = Statement.resultType
  expected : hints.expected = some type

/-- What a value is inferred as is neither a union nor a reference, and is compatible with the type. -/
structure TypeHints.Meets (hints : TypeHints) (type : DataType) (value : Value) : Prop where
  plain : (value.inferType hints).IsPlain
  fits : (value.inferType hints).compatible type = true

theorem TypeHints.Meets.of_eq {hints : TypeHints} {type inferred : DataType} {value : Value} (same : value.inferType hints = inferred)
    (plain : inferred.IsPlain) (fits : inferred.compatible type = true) : hints.Meets type value :=
  ⟨same ▸ plain, same ▸ fits⟩

/-- An error is compatible with errors of every kind. -/
theorem TypeHints.error_default (hints : TypeHints) (full : Bool) (kind : ErrorKind) :
    Gives ((DataType.error kind).defaultValue full) (hints.Meets (.error kind)) := by
  obtain ⟨found, inferred⟩ : ∃ found, (Value.error "").inferType hints = .error found := by
    rw [Value.inferType]
    split
    · exact ⟨_, rfl⟩
    · exact ⟨_, rfl⟩
  exact .pure (.of_eq inferred (by simp [DataType.IsPlain, DataType.kind]) rfl)

namespace TypeHints.Asks

open DataType

variable {hints : TypeHints} {type : DataType} (asks : hints.Asks type) (full : Bool)
include asks

theorem inferArray_tuple {elements : List DataType} (told : type.dereference = .tuple elements) (items : List Statement) :
    Value.inferArray hints items = .tuple (items.map Statement.resultType) := by
  simp only [Value.inferArray, asks.expected, asks.child, Option.map_some, told]

theorem inferArray_nil (apart : type.dereference.kind ≠ .tuple) :
    Value.inferArray hints [] = .array (type.element?.getD .unknown) := by
  simp only [Value.inferArray, asks.expected, Option.map_some]
  split
  · next elements found => exact absurd (congrArg kind (Option.some.inj found)) apart
  · simp only [List.map_nil, List.isEmpty_nil, if_true, Option.bind_some, DataType.element?, dereference_dereference]

theorem inferArray_single (apart : type.dereference.kind ≠ .tuple) (item : Statement) :
    Value.inferArray hints [item] = .array (unionOf [item.resultType]) := by
  simp only [Value.inferArray, asks.expected, asks.child, Option.map_some]
  split
  · next elements found => exact absurd (congrArg kind (Option.some.inj found)) apart
  · rfl

theorem inferRecord_nil {element : DataType} (told : type.dereference = .dictionary element) :
    Value.inferRecord hints [] = .dictionary element := by
  simp only [Value.inferRecord, asks.expected, Option.map_some, told]
  rfl

theorem inferRecord_single {element : DataType} (told : type.dereference = .dictionary element) (key : String) (item : Statement) :
    Value.inferRecord hints [(key, item)] = .dictionary (unionOf [item.resultType]) := by
  simp only [Value.inferRecord, asks.expected, asks.child, Option.map_some, told]
  rfl

theorem inferRecord_object (apart : type.dereference.kind ≠ .dictionary) (entries : Table Statement) :
    Value.inferRecord hints entries = .object (Table.mapValues Statement.resultType entries)
      ((entries.filter fun (_, statement) => !statement.isOptional).map (·.1)) := by
  simp only [Value.inferRecord, asks.expected, asks.child, Option.map_some]
  split
  · next element found => exact absurd (congrArg kind (Option.some.inj found)) apart
  · rfl

theorem array_default {element : DataType} (formed : element.wellFormed)
    (canonical : ∀ members active, element.dereference = union members active → Canonical members) (opened : ¬ element.Collapses)
    (apart : type.dereference.kind ≠ .tuple) (asked : type.element? = some element ∨ type.element? = none) :
    Gives ((array element).defaultValue full) (hints.Meets (array element)) := by
  have empty : hints.Meets (array element) (.array []) := by
    have fits : (type.element?.getD unknown).compatible element = true := by
      rcases asked with told | silent
      · rw [told]
        exact compatible_self element formed
      · rw [silent]
        rfl
    exact .of_eq (asks.inferArray_nil apart) (by simp [IsPlain, kind]) fits
  unfold defaultValue
  split
  · exact .pure empty
  · exact .pure empty
  · refine .bind (Statement.holding_gives _ _ element _) fun item made => ?_
    refine .pure (.of_eq (asks.inferArray_single apart item) (by simp [IsPlain, kind]) ?_)
    rw [made.1]
    exact unionOf_single_compatible formed canonical opened

theorem dictionary_default {element : DataType} (formed : element.wellFormed)
    (canonical : ∀ members active, element.dereference = union members active → Canonical members) (opened : ¬ element.Collapses)
    (told : type.dereference = dictionary element) :
    Gives ((dictionary element).defaultValue full) (hints.Meets (dictionary element)) := by
  have empty : hints.Meets (dictionary element) (.record []) :=
    .of_eq (asks.inferRecord_nil told) (by simp [IsPlain, kind]) (compatible_self (dictionary element) formed)
  unfold defaultValue
  split
  · exact .pure empty
  · exact .pure empty
  · refine .bind (Statement.holding_gives _ _ element _) fun item made => ?_
    refine .pure (.of_eq (asks.inferRecord_single told _ item) (by simp [IsPlain, kind]) ?_)
    rw [made.1]
    exact unionOf_single_compatible formed canonical opened

theorem tuple_default {elements : List DataType} (formed : (tuple elements).wellFormed) (told : type.dereference = tuple elements) :
    Gives ((tuple elements).defaultValue full) (hints.Meets (tuple elements)) := by
  refine .bind (defaultStatements_gives full elements) fun items made => ?_
  refine .pure (.of_eq (asks.inferArray_tuple told items) (by simp [IsPlain, kind]) ?_)
  rw [made]
  apply eachFits_iff.mpr
  intro part among
  obtain ⟨element, listed, rfl⟩ := List.mem_map.mp among
  refine ⟨element, listed, ?_⟩
  rw [compatible_dereference_left]
  exact compatible_self element (allWellFormed_iff.mp formed element listed)

theorem object_default {properties : Table DataType} {required : List String} (formed : (object properties required).wellFormed)
    (apart : type.dereference.kind ≠ .dictionary) :
    Gives ((object properties required).defaultValue full) (hints.Meets (object properties required)) := by
  simp only [wellFormed, Bool.and_eq_true, List.all_eq_true] at formed
  refine .bind (defaultEntries_gives full required properties) fun entries made => ?_
  refine .pure (.of_eq (asks.inferRecord_object apart entries) (by simp [IsPlain, kind]) ?_)
  rw [object_compatible_object_iff, made]
  constructor
  · intro key asked
    obtain ⟨declared, found⟩ := Option.isSome_iff_exists.mp (formed.1 key asked)
    refine ⟨declared.dereference, declared, ?_, found, ?_⟩
    · rw [Table.get?_mapValues, get?_defaultProperties asked, found, Option.map_some]
    · rw [compatible_dereference_left]
      exact compatible_self_properties properties formed.2 key declared found
  · intro key among
    obtain ⟨entry, kept, rfl⟩ := List.mem_map.mp among
    have keys : Table.keys entries = Table.keys (defaultProperties full required properties) := by
      rw [← Table.keys_mapValues, made, Table.keys_mapValues]
    have present : entry.1 ∈ Table.keys entries := List.mem_map.mpr ⟨entry, (List.mem_filter.mp kept).1, rfl⟩
    rw [keys] at present
    exact Table.has_of_mem_keys ((List.filter_sublist.map _).subset present)

theorem operation_default {parameters : List Parameter} {result : DataType} (formed : (operation parameters result).wellFormed) :
    Gives ((operation parameters result).defaultValue full) (hints.Meets (operation parameters result)) := by
  simp only [wellFormed, Bool.and_eq_true] at formed
  refine .bind (defaultParameters_gives full parameters) fun arguments made => .pure ?_
  refine .of_eq (by rw [Value.inferType, asks.child, made]) (by simp [IsPlain, kind]) ?_
  exact (Bool.true_and _).trans (parametersFit_dereference formed.1)

/-- Default data of a type that is neither a union nor a reference, when that type is asked for or is a member of a
union that is. -/
theorem default_meets {leaf : DataType} (plain : leaf.IsPlain) (inhabited : leaf ≠ never) (formed : leaf.wellFormed)
    (resolved : leaf.Resolved)
    (opened : ∀ element, leaf = array element ∨ leaf = dictionary element → ¬ element.Collapses)
    (told : type.dereference = leaf ∨ type.IsUnion ∧ leaf.kind ≠ .tuple ∧ leaf.kind ≠ .dictionary) :
    Gives (leaf.defaultValue full) (hints.Meets leaf) := by
  have inside {element : DataType} (within : element.nested ⊆ leaf.nested) (members : List DataType) (active : Option Nat)
      (same : element.dereference = union members active) : Canonical members := by
    have part := resolved _ (within (nested_dereference_subset element (mem_nested_self _)))
    rwa [same] at part
  have apart {other : Kind} (differs : leaf.kind ≠ other) (single : other ≠ .union) : type.dereference.kind ≠ other := by
    intro found
    rcases told with same | ⟨joined, _⟩
    · exact differs (same ▸ found)
    · exact single (found.symm.trans joined)
  have plainly {value : Value} {inferred : DataType} (same : value.inferType hints = inferred) (kind : inferred.kind = leaf.kind)
      (fits : inferred.compatible leaf = true) : hints.Meets leaf value :=
    .of_eq same ⟨kind ▸ plain.1, kind ▸ plain.2⟩ fits
  cases leaf with
  | never => exact absurd rfl inhabited
  | union => exact absurd rfl plain.1
  | reference => exact absurd rfl plain.2
  | unknown =>
    have nothing : Value.undefined.inferType hints = undefined := rfl
    exact .pure (.of_eq nothing (by simp [IsPlain, kind]) (compatible_unknown undefined))
  | undefined => exact .pure (plainly rfl rfl rfl)
  | string => exact .pure (plainly rfl rfl rfl)
  | number => exact .pure (plainly rfl rfl rfl)
  | boolean => exact .pure (plainly rfl rfl rfl)
  | array element =>
    refine asks.array_default full formed (inside (List.subset_cons_self _ _)) (opened element (.inl rfl)) (apart (by simp [kind]) (by decide)) ?_
    rcases told with same | ⟨joined, _⟩
    · exact .inl (by rw [element?, same])
    · exact .inr (element?_of_isUnion joined)
  | dictionary element =>
    refine asks.dictionary_default full formed (inside (List.subset_cons_self _ _)) (opened element (.inr rfl)) ?_
    rcases told with same | ⟨_, _, apart⟩
    · exact same
    · exact absurd rfl apart
  | tuple elements =>
    apply asks.tuple_default full formed
    rcases told with same | ⟨_, apart, _⟩
    · exact same
    · exact absurd rfl apart
  | object properties required =>
    exact asks.object_default full formed (apart (by simp [kind]) (by decide))
  | operation parameters result => exact asks.operation_default full formed
  | condition result =>
    exact .behind _ fun _ => .behind _ fun _ => .behind _ fun _ => .behind _ fun _ => .pure (plainly rfl rfl rfl)
  | error kind => exact hints.error_default full kind
  | instanceOf className arguments =>
    exact .behind _ fun _ => .behind _ fun _ => .pure (plainly rfl rfl (beq_self_eq_true className))

end TypeHints.Asks

namespace DataType

/-- What is inferred from default data of the type can be told from what is asked for. -/
structure Telling (type : DataType) : Prop where
  /-- The default is made for a type that has values. -/
  inhabited : type.picked ≠ never
  /-- Only a tuple type asks for tuples, and only a dictionary type for dictionaries. A union with such members does not. -/
  single : type.IsUnion → type.picked.kind ≠ .tuple ∧ type.picked.kind ≠ .dictionary
  /-- The elements are not of a union that is opened to another one. -/
  opened : ∀ element, type.picked = array element ∨ type.picked = dictionary element → ¬ element.Collapses

/-- Default data inhabits its type. Objects declare what they require, and unions have the members that joining leaves; then what is
inferred from the default value, where nothing is known but that the type is asked for, is compatible with it. -/
theorem default_inhabits (full : Bool) (type : DataType) (formed : type.wellFormed = true)
    (resolved : type.Resolved) (telling : type.Telling) (next : Nat) :
    let data := ((type.defaultData full).run next).1
    ((({} : Scope).expecting (some type)).inferType data.value {}).1.compatible type = true := by
  have asks : ((({} : Scope).expecting (some type)).hints {}).Asks type := ⟨rfl, rfl⟩
  have among := picked_mem_alternatives type formed
  have plain := isPlain_of_mem_alternatives type _ among
  have formed' := wellFormed_alternatives type formed _ among
  have inside := nested_alternative_subset type _ among
  have told : type.dereference = type.picked ∨ type.IsUnion ∧ type.picked.kind ≠ .tuple ∧ type.picked.kind ≠ .dictionary := by
    by_cases joined : type.IsUnion
    · exact .inr ⟨joined, telling.single joined⟩
    · exact .inl (picked_of_not_isUnion joined)
  have meets := asks.default_meets full plain telling.inhabited formed' (fun part within => resolved part (inside within))
    telling.opened told
  rw [defaultValue_picked] at meets
  obtain ⟨inferred, fits⟩ := meets next
  apply inferred.compatible_mono fits
  intro part within
  rw [plain.alternatives] at within
  exact List.mem_singleton.mp within ▸ among

/-- A union behind a reference picks an object, with a list of which the elements have two types. -/
theorem default_inhabits_member :
    let size := union [number, string] (some 1)
    let shape := object [("sizes", array size), ("pair", tuple [size, reference string]), ("note", string)] ["pair"]
    let type := reference (union [undefined, shape] none)
    let data := ((type.defaultData true).run 0).1
    type.wellFormed = true ∧ type.Resolved ∧ type.Telling
      ∧ ((({} : Scope).expecting (some type)).inferType data.value {}).1.compatible type = true := by
  intro size shape type data
  have formed : type.wellFormed = true := by decide
  have resolved : type.Resolved := by decide
  have picked : type.picked = shape := rfl
  have telling : type.Telling := by
    constructor
    · rw [picked]
      nofun
    · rw [picked]
      exact fun _ => ⟨nofun, nofun⟩
    · rw [picked]
      nofun
  exact ⟨formed, resolved, telling, default_inhabits true type formed resolved telling 0⟩

/-- There is no default without values; the items of a tuple and the entries of a dictionary, as members of a union, are taken for an
array and an object; and a union of a single member is opened, here to a union of two. -/
theorem defaults_of_other_types :
    let inferred (type : DataType) := ((({} : Scope).expecting (some type)).inferType ((type.defaultData false).run 0).1.value {}).1
    let fails (type : DataType) := type.wellFormed = true ∧ type.Resolved ∧ (inferred type).compatible type = false
    fails never ∧ fails (union [tuple [string, number], boolean] (some 0)) ∧ fails (union [dictionary string, number] (some 0))
      ∧ fails (array (union [reference (union [string, number] (some 0))] (some 0))) := by
  decide +kernel

end DataType

end LivePipeline
