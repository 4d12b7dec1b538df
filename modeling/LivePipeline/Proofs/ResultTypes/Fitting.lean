import LivePipeline.Proofs.Reachability

/-! Types alternative by alternative. Compatibility counts the members of two unions, and lets a union stand
for any type that one of its members fits. A value has only one of these members at a time, so what may
become of it is told by the alternatives of its type: each of them has to fit. -/

namespace LivePipeline.DataType

/-- Everything is compatible with the unknown type. -/
theorem compatible_unknown : ∀ type : DataType, type.compatible unknown
  | reference target => by rw [compatible]; exact compatible_unknown target
  | union _ _ | unknown | never | undefined | string | number | boolean | array _ | tuple _ | object _ _ | dictionary _
  | operation _ _ | condition _ | error _ | instanceOf _ _ => by simp [compatible, offers, dereference]

/-! ## Alternatives -/

mutual

/-- The types that a value of the type may have: members of unions, nested or behind references. -/
def alternatives : DataType → List DataType
  | union members _ => alternativesAll members
  | reference target => alternatives target
  | type => [type]

def alternativesAll : List DataType → List DataType
  | [] => []
  | type :: rest => alternatives type ++ alternativesAll rest

end

theorem mem_alternativesAll {types : List DataType} {part : DataType} :
    part ∈ alternativesAll types ↔ ∃ type ∈ types, part ∈ type.alternatives := by
  induction types with
  | nil => simp [alternativesAll]
  | cons type rest ih => simp [alternativesAll, ih]

/-- A type that is neither a union nor a reference is its only alternative. -/
def IsPlain (type : DataType) : Prop := type.kind ≠ .union ∧ type.kind ≠ .reference

theorem IsPlain.alternatives {type : DataType} (plain : type.IsPlain) : type.alternatives = [type] := by
  cases type with
  | union => exact absurd rfl plain.1
  | reference => exact absurd rfl plain.2
  | _ => rfl

mutual

theorem isPlain_of_mem_alternatives : ∀ (type : DataType), ∀ part ∈ type.alternatives, part.IsPlain
  | union members _, part, among => isPlain_of_mem_alternativesAll members part among
  | reference target, part, among => isPlain_of_mem_alternatives target part among
  | unknown, part, among | never, part, among | undefined, part, among | string, part, among | number, part, among
  | boolean, part, among | array _, part, among | tuple _, part, among | object _ _, part, among | dictionary _, part, among
  | operation _ _, part, among | condition _, part, among | error _, part, among | instanceOf _ _, part, among => by
    obtain rfl := List.mem_singleton.mp among
    exact ⟨nofun, nofun⟩
termination_by structural type => type

theorem isPlain_of_mem_alternativesAll : ∀ (types : List DataType), ∀ part ∈ alternativesAll types, part.IsPlain
  | [], _, among => nomatch among
  | type :: rest, part, among => by
    rcases List.mem_append.mp among with first | later
    · exact isPlain_of_mem_alternatives type part first
    · exact isPlain_of_mem_alternativesAll rest part later
termination_by structural types => types

end

theorem alternatives_dereference (type : DataType) : type.dereference.alternatives = type.alternatives := by
  fun_induction dereference type with
  | case1 target ih => rw [ih, alternatives]
  | case2 => rfl

mutual

/-- A shape is offered when an alternative has it. -/
theorem offers_eq_any (shape : DataType → Bool) : ∀ type : DataType,
    type.offers shape = type.alternatives.any (offers shape)
  | union members _ => offersAny_eq_any shape members
  | reference target => offers_eq_any shape target
  | unknown | never | undefined | string | number | boolean | array _ | tuple _ | object _ _ | dictionary _
  | operation _ _ | condition _ | error _ | instanceOf _ _ => (Bool.or_false _).symm
termination_by structural type => type

theorem offersAny_eq_any (shape : DataType → Bool) : ∀ types : List DataType,
    offersAny shape types = (alternativesAll types).any (offers shape)
  | [] => rfl
  | type :: rest => by
    rw [offersAny, alternativesAll, List.any_append, offers_eq_any shape type, offersAny_eq_any shape rest]
termination_by structural types => types

end

/-- What a plain type is compatible with goes by the alternatives of the other type. -/
theorem IsPlain.compatible_eq {type : DataType} (plain : type.IsPlain) (known : type ≠ unknown) (other : DataType) :
    type.compatible other = other.alternatives.any (type.compatible ·) := by
  cases type with
  | unknown => exact absurd rfl known
  | union => exact absurd rfl plain.1
  | reference => exact absurd rfl plain.2
  | _ => simp only [compatible]; exact offers_eq_any _ other

/-- A plain type is compatible with what has more alternatives, too. -/
theorem IsPlain.compatible_mono {type a b : DataType} (plain : type.IsPlain) (fits : type.compatible a)
    (more : ∀ part ∈ a.alternatives, part ∈ b.alternatives) : type.compatible b := by
  by_cases known : type = unknown
  · subst known; rfl
  · rw [plain.compatible_eq known, List.any_eq_true] at fits ⊢
    obtain ⟨part, among, fits⟩ := fits
    exact ⟨part, more part among, fits⟩

/-! ## References -/

theorem dereference_kind (type : DataType) : type.dereference.kind ≠ .reference := by
  fun_induction dereference type with
  | case1 target ih => exact ih
  | case2 type other =>
    cases type with
    | reference target => exact absurd rfl (other target)
    | _ => simp [kind]

theorem offers_dereference (shape : DataType → Bool) (type : DataType) : type.dereference.offers shape = type.offers shape := by
  rw [offers_eq_any, offers_eq_any, alternatives_dereference]

theorem compatible_dereference_left (a b : DataType) : a.dereference.compatible b = a.compatible b := by
  fun_induction dereference a with
  | case1 target ih => rw [ih, compatible]
  | case2 => rfl

theorem compatible_dereference_right : ∀ a b : DataType, a.compatible b.dereference = a.compatible b
  | unknown, _ => by simp only [compatible]
  | reference target, b => by simp only [compatible]; exact compatible_dereference_right target b
  | union _ _, b => by simp only [compatible, dereference_dereference]
  | never, b | undefined, b | string, b | number, b | boolean, b | array _, b | tuple _, b | object _ _, b | dictionary _, b
  | operation _ _, b | condition _, b | error _, b | instanceOf _ _, b => by
    simp only [compatible]; exact offers_dereference _ b

/-! ## Types that are compatible with themselves -/

mutual

/-- The properties that an object must have are among its properties, and a union has members. -/
def wellFormed : DataType → Bool
  | array element => wellFormed element
  | dictionary element => wellFormed element
  | tuple elements => allWellFormed elements
  | object properties required => required.all (Table.has properties) && propertiesWellFormed properties
  | union members _ => !members.isEmpty && allWellFormed members
  | operation parameters result => parametersWellFormed parameters && wellFormed result
  | condition result => wellFormed result
  | reference target => wellFormed target
  | unknown | never | undefined | string | number | boolean | error _ | instanceOf _ _ => true
termination_by structural type => type

def allWellFormed : List DataType → Bool
  | [] => true
  | type :: rest => wellFormed type && allWellFormed rest
termination_by structural types => types

def propertiesWellFormed : List (String × DataType) → Bool
  | [] => true
  | (_, type) :: rest => wellFormed type && propertiesWellFormed rest
termination_by structural properties => properties

def parametersWellFormed : List Parameter → Bool
  | [] => true
  | ⟨_, type, _⟩ :: rest => wellFormed type && parametersWellFormed rest
termination_by structural parameters => parameters

end

theorem eachFits_iff {types others : List DataType} :
    eachFits types others ↔ ∀ type ∈ types, ∃ other ∈ others, type.compatible other := by
  induction types with
  | nil => simp [eachFits]
  | cons type rest ih => simp [eachFits, ih]

theorem someFits_iff {types : List DataType} {b : DataType} : someFits types b ↔ ∃ type ∈ types, type.compatible b := by
  induction types with
  | nil => simp [someFits]
  | cons type rest ih => simp [someFits, ih]

theorem propertyFits_eq_any (properties : Table DataType) (key : String) (b : DataType) :
    propertyFits properties key b = (Table.get? properties key).any (·.compatible b) := by
  induction properties with
  | nil => rfl
  | cons entry rest ih =>
    rw [propertyFits.eq_def, Table.get?]
    dsimp only
    split
    · rfl
    · exact ih

/-- A union is compatible with itself when its members are. -/
theorem union_compatible_self {members : List DataType} {active : Option Nat} (each : ∀ member ∈ members, member.compatible member) :
    (union members active).compatible (union members active) := by
  have all : eachFits members members := eachFits_iff.mpr fun member among => ⟨member, among, each member among⟩
  have covered : members.all fun other => someFits members other :=
    List.all_eq_true.mpr fun member among => someFits_iff.mpr ⟨member, among, each member among⟩
  simp only [compatible, dereference, beq_self_eq_true, all, covered, Bool.and_self]

/-- An object type is compatible with itself when the required properties are there and the types of the
properties are compatible with themselves. -/
theorem object_compatible_self {properties : Table DataType} {required : List String}
    (present : ∀ key ∈ required, Table.has properties key)
    (each : ∀ key type, Table.get? properties key = some type → type.compatible type) :
    (object properties required).compatible (object properties required) := by
  simp only [compatible, offers, Bool.and_eq_true, List.all_eq_true]
  refine ⟨fun key among => ?_, present⟩
  obtain ⟨type, found⟩ := Option.isSome_iff_exists.mp (present key among)
  rw [found, Option.any_some, propertyFits_eq_any, found, Option.any_some]
  exact each key type found

mutual

theorem compatible_self : ∀ type : DataType, type.wellFormed → type.compatible type
  | unknown, _ => rfl
  | never, _ | undefined, _ | string, _ | number, _ | boolean, _ | condition _, _ | error _, _ => rfl
  | instanceOf _ _, _ => by simp only [compatible, offers, beq_self_eq_true]
  | array element, formed => by simpa only [compatible, offers] using compatible_self element formed
  | dictionary element, formed => by simpa only [compatible, offers] using compatible_self element formed
  | reference target, formed => by
    rw [compatible, ← compatible_dereference_right, dereference, compatible_dereference_right]
    exact compatible_self target formed
  | tuple elements, formed => by
    simp only [compatible, offers]
    exact eachFits_iff.mpr fun element among => ⟨element, among, compatible_self_all elements formed element among⟩
  | union members active, formed => by
    simp only [wellFormed, Bool.and_eq_true] at formed
    exact union_compatible_self (compatible_self_all members formed.2)
  | object properties required, formed => by
    simp only [wellFormed, Bool.and_eq_true, List.all_eq_true] at formed
    exact object_compatible_self formed.1 (compatible_self_properties properties formed.2)
  | operation parameters result, formed => by
    simp only [wellFormed, Bool.and_eq_true] at formed
    simp only [compatible, offers, Bool.and_eq_true]
    exact ⟨compatible_self result formed.2, parametersFit_self parameters formed.1⟩
termination_by structural type => type

theorem compatible_self_all : ∀ types : List DataType, allWellFormed types → ∀ type ∈ types, type.compatible type
  | [], _, _, among => nomatch among
  | first :: rest, formed, type, among => by
    simp only [allWellFormed, Bool.and_eq_true] at formed
    rcases List.mem_cons.mp among with same | later
    · exact same ▸ compatible_self first formed.1
    · exact compatible_self_all rest formed.2 type later
termination_by structural types => types

theorem compatible_self_properties : ∀ properties : List (String × DataType), propertiesWellFormed properties →
    ∀ key type, Table.get? properties key = some type → type.compatible type
  | [], _, _, _, found => nomatch found
  | (name, first) :: rest, formed, key, type, found => by
    simp only [propertiesWellFormed, Bool.and_eq_true] at formed
    rw [Table.get?] at found
    split at found
    · cases found; exact compatible_self first formed.1
    · exact compatible_self_properties rest formed.2 key type found
termination_by structural properties => properties

theorem parametersFit_self : ∀ parameters : List Parameter, parametersWellFormed parameters → parametersFit parameters parameters
  | [], _ => rfl
  | ⟨_, type, _⟩ :: rest, formed => by
    simp only [parametersWellFormed, Bool.and_eq_true] at formed
    simp only [parametersFit, Bool.and_eq_true]
    exact ⟨compatible_self type formed.1, parametersFit_self rest formed.2⟩
termination_by structural parameters => parameters

end

/-! ## Types that fit alternative by alternative -/

/-- Whatever alternative of the first type a value has, it is compatible with the second. -/
structure Fits (a b : DataType) : Prop where
  wellFormed : a.wellFormed
  each : ∀ alternative ∈ a.alternatives, alternative.compatible b

instance (a b : DataType) : Decidable (a.Fits b) := decidable_of_iff (a.wellFormed ∧ ∀ alternative ∈ a.alternatives, alternative.compatible b)
  ⟨fun both => ⟨both.1, both.2⟩, fun fits => ⟨fits.wellFormed, fits.each⟩⟩

theorem allWellFormed_iff {types : List DataType} : allWellFormed types ↔ ∀ type ∈ types, type.wellFormed := by
  induction types with
  | nil => simp [allWellFormed]
  | cons type rest ih => simp [allWellFormed, ih]

theorem wellFormed_dereference (type : DataType) : type.dereference.wellFormed = type.wellFormed := by
  fun_induction dereference type with
  | case1 target ih => rw [ih, wellFormed]
  | case2 => rfl

mutual

theorem wellFormed_alternatives : ∀ type : DataType, type.wellFormed → ∀ part ∈ type.alternatives, part.wellFormed
  | union members _, formed, part, among => by
    simp only [wellFormed, Bool.and_eq_true] at formed
    exact wellFormed_alternativesAll members formed.2 part among
  | reference target, formed, part, among => wellFormed_alternatives target formed part among
  | unknown, formed, part, among | never, formed, part, among | undefined, formed, part, among | string, formed, part, among
  | number, formed, part, among | boolean, formed, part, among | array _, formed, part, among | tuple _, formed, part, among
  | object _ _, formed, part, among | dictionary _, formed, part, among | operation _ _, formed, part, among
  | condition _, formed, part, among | error _, formed, part, among | instanceOf _ _, formed, part, among => by
    obtain rfl := List.mem_singleton.mp among
    exact formed
termination_by structural type => type

theorem wellFormed_alternativesAll : ∀ types : List DataType, allWellFormed types → ∀ part ∈ alternativesAll types, part.wellFormed
  | [], _, _, among => nomatch among
  | first :: rest, formed, part, among => by
    simp only [allWellFormed, Bool.and_eq_true] at formed
    rcases List.mem_append.mp among with here | later
    · exact wellFormed_alternatives first formed.1 part here
    · exact wellFormed_alternativesAll rest formed.2 part later
termination_by structural types => types

end

theorem Fits.self {type : DataType} (formed : type.wellFormed) : type.Fits type := by
  refine ⟨formed, fun part among => ?_⟩
  have plain := isPlain_of_mem_alternatives type part among
  refine plain.compatible_mono (compatible_self part (wellFormed_alternatives type formed part among)) fun same within => ?_
  rw [plain.alternatives] at within
  exact List.mem_singleton.mp within ▸ among

theorem Fits.unknown {type : DataType} (formed : type.wellFormed) : type.Fits unknown := ⟨formed, fun part _ => compatible_unknown part⟩

/-! ### Unions -/

mutual

theorem mem_alternativesAll_flatten : ∀ (type part : DataType), part ∈ alternativesAll type.flatten ↔ part ∈ type.alternatives
  | union members _, part => mem_alternativesAll_flattenAll members part
  | reference _, _ | unknown, _ | never, _ | undefined, _ | string, _ | number, _ | boolean, _ | array _, _ | tuple _, _ | object _ _, _
  | dictionary _, _ | operation _ _, _ | condition _, _ | error _, _ | instanceOf _ _, _ => by
    simp [flatten, alternativesAll]
termination_by structural type => type

theorem mem_alternativesAll_flattenAll : ∀ (types : List DataType) (part : DataType),
    part ∈ alternativesAll (flattenAll types) ↔ part ∈ alternativesAll types
  | [], _ => Iff.rfl
  | type :: rest, part => by
    have first := mem_alternativesAll_flatten type part
    have later := mem_alternativesAll_flattenAll rest part
    simp only [mem_alternativesAll, flattenAll, List.mem_append, List.mem_cons, or_and_right, exists_or, exists_eq_left] at first later ⊢
    exact or_congr first later
termination_by structural types => types

end

mutual

theorem wellFormed_flatten : ∀ type : DataType, type.wellFormed → ∀ part ∈ type.flatten, part.wellFormed
  | union members _, formed, part, among => by
    simp only [wellFormed, Bool.and_eq_true] at formed
    exact wellFormed_flattenAll members formed.2 part among
  | reference _, formed, part, among | unknown, formed, part, among | never, formed, part, among
  | undefined, formed, part, among | string, formed, part, among | number, formed, part, among
  | boolean, formed, part, among | array _, formed, part, among | tuple _, formed, part, among
  | object _ _, formed, part, among | dictionary _, formed, part, among | operation _ _, formed, part, among
  | condition _, formed, part, among | error _, formed, part, among | instanceOf _ _, formed, part, among => by
    obtain rfl := List.mem_singleton.mp among
    exact formed
termination_by structural type => type

theorem wellFormed_flattenAll : ∀ types : List DataType, allWellFormed types → ∀ part ∈ flattenAll types, part.wellFormed
  | [], _, _, among => nomatch among
  | first :: rest, formed, part, among => by
    simp only [allWellFormed, Bool.and_eq_true] at formed
    rcases List.mem_append.mp among with here | later
    · exact wellFormed_flatten first formed.1 part here
    · exact wellFormed_flattenAll rest formed.2 part later
termination_by structural types => types

end

theorem alternatives_ne_nil : ∀ {type : DataType}, type.wellFormed → type.alternatives ≠ []
  | union [] _, formed => by simp [wellFormed] at formed
  | union (first :: rest) active, formed => by
    simp only [wellFormed, allWellFormed, Bool.and_eq_true] at formed
    simp [alternatives, alternativesAll, alternatives_ne_nil formed.2.1]
  | reference target, formed => @alternatives_ne_nil target formed
  | unknown, _ | never, _ | undefined, _ | string, _ | number, _ | boolean, _ | array _, _ | tuple _, _ | object _ _, _
  | dictionary _, _ | operation _ _, _ | condition _, _ | error _, _ | instanceOf _ _, _ => by simp [alternatives]

theorem flatten_ne_nil {type : DataType} (formed : type.wellFormed) : type.flatten ≠ [] := by
  obtain ⟨part, among⟩ := List.exists_mem_of_ne_nil _ (alternatives_ne_nil formed)
  intro empty
  rw [← mem_alternativesAll_flatten, empty] at among
  cases among

section

variable {types : List DataType}

theorem wellFormed_unionOf (formed : ∀ type ∈ types, type.wellFormed) : (unionOf types).wellFormed := by
  have all : ∀ member ∈ distinctMembers types, member.wellFormed := fun member among =>
    wellFormed_flattenAll types (allWellFormed_iff.mpr formed) member (mem_of_mem_distinctMembers among)
  unfold unionOf unionWith
  split
  · rfl
  · next single found => exact all single (found ▸ List.mem_singleton_self single)
  · next noneMade _ =>
    have some : (distinctMembers types).isEmpty = false := by simpa using noneMade
    simp only [wellFormed, some, allWellFormed_iff.mpr all, Bool.not_false, Bool.and_self]

/-- A union has the alternatives of the members that stay. -/
theorem alternatives_unionOf (nonempty : distinctMembers types ≠ []) :
    (unionOf types).alternatives = alternativesAll (distinctMembers types) := by
  unfold unionOf unionWith
  split
  · next empty => exact absurd empty nonempty
  · next single found => simp [found, alternativesAll]
  · rfl

theorem distinctMembers_ne_nil_of_wellFormed {type : DataType} (among : type ∈ types) (formed : type.wellFormed) :
    distinctMembers types ≠ [] := distinctMembers_ne_nil among (flatten_ne_nil formed)

/-- The alternatives of a union are alternatives of what it joins. -/
theorem mem_alternatives_of_unionOf {type part : DataType} (among : type ∈ types) (formed : type.wellFormed)
    (within : part ∈ (unionOf types).alternatives) : part ∈ alternativesAll types := by
  rw [alternatives_unionOf (distinctMembers_ne_nil_of_wellFormed among formed), mem_alternativesAll] at within
  obtain ⟨member, stays, part⟩ := within
  rw [← mem_alternativesAll_flattenAll, mem_alternativesAll]
  exact ⟨member, mem_of_mem_distinctMembers stays, part⟩

/-- A union fits what each of its types fits. -/
theorem unionOf_fits {b : DataType} (nonempty : types ≠ []) (each : ∀ type ∈ types, type.Fits b) : (unionOf types).Fits b := by
  obtain ⟨type, among⟩ := List.exists_mem_of_ne_nil types nonempty
  refine ⟨wellFormed_unionOf fun type among => (each type among).wellFormed, fun part within => ?_⟩
  obtain ⟨source, joined, part⟩ := mem_alternativesAll.mp (mem_alternatives_of_unionOf among (each type among).wellFormed within)
  exact (each source joined).each _ part

/-- Joining the types loses none of them: what fits one of them fits their union. A member is left out
when it is interchangeable with an earlier one, and then what fits the one need not fit the other. -/
def Lossless (types : List DataType) : Prop := ∀ type ∈ types, ∀ a : DataType, a.Fits type → a.Fits (unionOf types)

/-- Types lose none when no member is left out. -/
theorem lossless_of_distinct (distinct : distinctMembers types = flattenAll types) : Lossless types := by
  intro type among a fits
  refine ⟨fits.wellFormed, fun part within => ?_⟩
  refine (isPlain_of_mem_alternatives a part within).compatible_mono (fits.each part within) fun alternative found => ?_
  have present : alternative ∈ alternativesAll (distinctMembers types) := by
    rw [distinct, mem_alternativesAll_flattenAll, mem_alternativesAll]
    exact ⟨type, among, found⟩
  rwa [alternatives_unionOf]
  intro empty
  rw [empty] at present
  cases present

end

/-! ## Declared types -/

mutual

/-- A type that is no union is met by a union as soon as one alternative fits. -/
theorem compatible_of_alternative {b part : DataType} (single : b.dereference.IsPlain) (fits : part.compatible b) :
    ∀ type : DataType, part ∈ type.alternatives → type.compatible b
  | union members active, among => by
    have some := someFits_of_alternative single fits members among
    rw [← compatible_dereference_right]
    have apart := single.1
    unfold compatible
    rw [dereference_dereference]
    split
    · rfl
    · next others _ found => exact absurd (by rw [found]; rfl) apart
    · exact some
  | reference target, among => by
    rw [compatible]
    exact compatible_of_alternative single fits target among
  | unknown, among | never, among | undefined, among | string, among | number, among | boolean, among | array _, among
  | tuple _, among | object _ _, among | dictionary _, among | operation _ _, among | condition _, among | error _, among
  | instanceOf _ _, among => List.mem_singleton.mp among ▸ fits
termination_by structural type => type

theorem someFits_of_alternative {b part : DataType} (single : b.dereference.IsPlain) (fits : part.compatible b) :
    ∀ types : List DataType, part ∈ alternativesAll types → someFits types b.dereference
  | [], among => nomatch among
  | first :: rest, among => by
    simp only [someFits, Bool.or_eq_true]
    rcases List.mem_append.mp among with here | later
    · exact .inl ((compatible_dereference_right first b).trans (compatible_of_alternative single fits first here))
    · exact .inr (someFits_of_alternative single fits rest later)
termination_by structural types => types

end

def IsUnion (type : DataType) : Prop := type.dereference.kind = .union

theorem isPlain_of_not_isUnion {type : DataType} (single : ¬ type.IsUnion) : type.dereference.IsPlain :=
  ⟨single, dereference_kind type⟩

/-- Compatibility, but two unions are compared alternative by alternative. -/
def Suits (a b : DataType) : Prop := a.compatible b ∨ (a.IsUnion ∧ b.IsUnion ∧ a.Fits b)

theorem Fits.suits {a b : DataType} (fits : a.Fits b) : a.Suits b := by
  by_cases joined : a.IsUnion
  · by_cases asked : b.IsUnion
    · exact .inr ⟨joined, asked, fits⟩
    · obtain ⟨part, among⟩ := List.exists_mem_of_ne_nil _ (alternatives_ne_nil fits.wellFormed)
      exact .inl (compatible_of_alternative (isPlain_of_not_isUnion asked) (fits.each part among) a among)
  · have plain := isPlain_of_not_isUnion joined
    have only : a.dereference ∈ a.alternatives := by rw [← alternatives_dereference, plain.alternatives]; exact List.mem_singleton_self _
    exact .inl ((compatible_dereference_left a b).symm.trans (fits.each _ only))

/-- Where a union is asked for, a type without nested unions fits when it is compatible. -/
theorem Fits.of_compatible {a b : DataType} (formed : a.wellFormed)
    (flat : ∀ members, a.members? = some members → ∀ member ∈ members, ¬ member.IsUnion) (asked : b.IsUnion)
    (compatible : a.compatible b) : a.Fits b := by
  refine ⟨formed, fun part among => ?_⟩
  by_cases joined : a.IsUnion
  · obtain ⟨members, active, union⟩ : ∃ members active, a.dereference = .union members active := by
      unfold IsUnion at joined
      cases shape : a.dereference <;> simp [shape, kind] at joined ⊢
    obtain ⟨others, other, target⟩ : ∃ others other, b.dereference = .union others other := by
      unfold IsUnion at asked
      cases shape : b.dereference <;> simp [shape, kind] at asked ⊢
    rw [← compatible_dereference_left, ← compatible_dereference_right, union, target] at compatible
    simp only [DataType.compatible, dereference, Bool.and_eq_true] at compatible
    rw [← alternatives_dereference, union] at among
    obtain ⟨member, listed, part⟩ := mem_alternativesAll.mp among
    have plain := isPlain_of_not_isUnion (flat members (by rw [members?, union]) member listed)
    rw [← alternatives_dereference, plain.alternatives, List.mem_singleton] at part
    obtain ⟨source, offered, fits⟩ := eachFits_iff.mp compatible.1.2 member listed
    rw [← compatible_dereference_left, ← part] at fits
    refine (part ▸ plain).compatible_mono fits fun alternative found => ?_
    rw [← alternatives_dereference, target]
    exact mem_alternativesAll.mpr ⟨source, offered, found⟩
  · have plain := isPlain_of_not_isUnion joined
    rw [← alternatives_dereference, plain.alternatives, List.mem_singleton] at among
    rw [among, compatible_dereference_left]
    exact compatible

theorem mem_foldl_addMember {found : List DataType} {member : DataType} (among : member ∈ found) (parts : List DataType) :
    member ∈ parts.foldl addMember found := by
  induction parts generalizing found with
  | nil => exact among
  | cons part rest ih =>
    refine ih ?_
    unfold addMember
    split
    · exact among
    · exact List.mem_append_left _ among

/-- Adding a compatible type to another widens it at most by alternatives that fit already. -/
theorem unionOf_pair_suits {a b : DataType} (formed : a.wellFormed) (formed' : b.wellFormed)
    (flat : ∀ members, b.members? = some members → ∀ member ∈ members, ¬ member.IsUnion) (compatible : b.compatible a) :
    (unionOf [a, b]).Suits a := by
  by_cases asked : a.IsUnion
  · refine (unionOf_fits (by simp) fun type among => ?_).suits
    simp only [List.mem_cons, List.not_mem_nil, or_false] at among
    rcases among with rfl | rfl
    · exact .self formed
    · exact .of_compatible formed' flat asked compatible
  · have plain := isPlain_of_not_isUnion asked
    have alone : a.flatten = [a] := by
      cases a with
      | union => exact absurd rfl asked
      | _ => rfl
    have stays : a ∈ distinctMembers [a, b] := by
      unfold distinctMembers
      rw [flattenAll, alone, List.singleton_append, List.foldl_cons]
      exact mem_foldl_addMember (by simp [addMember]) _
    have first : a.dereference ∈ (unionOf [a, b]).alternatives := by
      rw [alternatives_unionOf (List.ne_nil_of_mem stays), mem_alternativesAll]
      exact ⟨a, stays, by rw [← alternatives_dereference, plain.alternatives]; exact List.mem_singleton_self _⟩
    refine .inl (compatible_of_alternative plain ?_ _ first)
    rw [compatible_dereference_left]
    exact compatible_self a formed

/-- Nothing is told from the unknown type. -/
theorem unionOf_unknown (type : DataType) : unionOf [unknown, type] = unknown := by
  have swallowed (parts : List DataType) : parts.foldl addMember [unknown] = [unknown] := by
    induction parts with
    | nil => rfl
    | cons part rest ih =>
      have same : interchangeable unknown part := by
        rw [interchangeable, compatible_unknown, Bool.and_true, compatible]
      rw [List.foldl_cons, addMember, if_pos (by rw [List.any_cons, same, Bool.true_or])]
      exact ih
  have alone : distinctMembers [unknown, type] = [unknown] := swallowed _
  rw [unionOf, unionWith, alone]
  rfl

/-- What a value of the first type may stand for where the second is declared. It is compatibility but for unions,
those of elements and properties among them. -/
inductive Within : DataType → DataType → Prop
  | suits {a b : DataType} (suits : a.Suits b) : Within a b
  | array {a b : DataType} (suits : a.Suits b) : Within (array a) (array b)
  | dictionary {a b : DataType} (suits : a.Suits b) : Within (dictionary a) (dictionary b)
  | object {properties declared : Table DataType} {required demanded : List String}
    (known : ∀ key ∈ required, Table.has declared key)
    (each : ∀ key ∈ demanded, ∃ a b, Table.get? properties key = some a ∧ Table.get? declared key = some b ∧ a.Suits b) :
    Within (object properties required) (object declared demanded)

theorem Within.compatible {a b : DataType} (compatible : a.compatible b) : Within a b := .suits (.inl compatible)

end LivePipeline.DataType
