import LivePipeline.Operation.Logic
import LivePipeline.Operation.Optional
import LivePipeline.Proofs.CanonicalUnions

/-! Types and the shapes of values. A type names the kind of value that it stands for; the unknown type admits every value,
a reference those of its target, and a union those of its members. A union of types admits the values of each type that
says itself which these are. The unknown type does not, and no more does a reference to a union: they are
interchangeable with types that admit less, and a union may keep such a type in their place. -/

namespace LivePipeline

/-- The value is of the kind that types of this kind stand for. Unions and references stand for none of their own. -/
def Kind.names : Kind → Value → Bool
  | .undefined, .undefined | .string, .text _ | .number, .number _ | .boolean, .boolean _ => true
  | .array, .array _ | .tuple, .array _ | .object, .record _ | .dictionary, .record _ => true
  | .operation, .operation _ _ _ | .condition, .condition _ _ _ | .error, .error _ | .instanceOf, .handle _ _ _ => true
  | _, _ => false

namespace DataType

/-- A value of this kind can have the type. Nothing is said about what is inside of it. -/
def admits (type : DataType) (value : Value) : Bool := type.offers (·.kind.names value)

/-- Each part of the type says itself which values it has. -/
def isExplicit (type : DataType) : Bool :=
  type.flatten.all fun part => part.dereference.kind != .unknown && part.dereference.kind != .union

section

variable {value : Value} {type other : DataType}

/-! ## What a type admits -/

@[simp] theorem admits_dereference : type.dereference.admits value = type.admits value := offers_dereference _ type

@[simp] theorem admits_unknown : unknown.admits value = true := rfl

mutual

/-- A value of the type is one of a part of it. -/
theorem admits_eq_any (value : Value) : ∀ type : DataType, type.admits value = type.flatten.any (·.admits value)
  | union members _ => admits_eq_any_all value members
  | reference _ | unknown | never | undefined | string | number | boolean | array _ | tuple _ | object _ _ | dictionary _
  | operation _ _ | condition _ | error _ | instanceOf _ _ => (Bool.or_false _).symm
termination_by structural type => type

theorem admits_eq_any_all (value : Value) : ∀ types : List DataType,
    offersAny (·.kind.names value) types = (flattenAll types).any (·.admits value)
  | [] => rfl
  | type :: rest => by
    rw [offersAny, flattenAll, List.any_append, ← admits_eq_any value type, ← admits_eq_any_all value rest]
    rfl
termination_by structural types => types

end

/-- A union admits what one of its members admits, whichever is active. -/
theorem admits_union {members : List DataType} {active : Option Nat} :
    (union members active).admits value = members.any (·.admits value) := by
  change offersAny _ members = _
  induction members with
  | nil => rfl
  | cons member rest ih =>
    rw [offersAny, ih, List.any_cons]
    rfl

theorem IsPlain.of_offers {shape : DataType → Bool} (plain : type.IsPlain) (offers : type.offers shape = true) :
    type = unknown ∨ shape type = true := by
  cases type with
  | unknown => exact .inl rfl
  | union => exact absurd rfl plain.1
  | reference => exact absurd rfl plain.2
  | _ => exact .inr offers

theorem IsPlain.admits_eq (plain : type.IsPlain) (known : type ≠ unknown) : type.admits value = type.kind.names value := by
  cases type with
  | unknown => exact absurd rfl known
  | union => exact absurd rfl plain.1
  | reference => exact absurd rfl plain.2
  | _ => rfl

/-- The undefined type has one value. -/
theorem eq_undefined_of_admits (nothing : type.kind = .undefined) (admitted : type.admits value = true) : value = .undefined := by
  cases type with
  | undefined =>
    cases value with
    | undefined => rfl
    | _ => cases admitted
  | _ => cases nothing

/-! ## Compatible types -/

/-- A plain type fits plain types of its own kind only. -/
theorem IsPlain.kind_of_compatible (plain : type.IsPlain) (known : type ≠ unknown) (plain' : other.IsPlain)
    (fits : type.compatible other = true) : other = unknown ∨ other.kind = type.kind := by
  cases type with
  | unknown => exact absurd rfl known
  | union => exact absurd rfl plain.1
  | reference => exact absurd rfl plain.2
  | never | undefined | string | number | boolean | condition | error =>
    simp only [compatible] at fits
    exact (plain'.of_offers fits).imp_right fun same => eq_of_beq same
  | array | tuple | object | dictionary | operation | instanceOf =>
    simp only [compatible] at fits
    refine (plain'.of_offers fits).imp_right fun same => ?_
    split at same
    · rfl
    · cases same

/-- What a plain type admits is admitted by the types that it is compatible with. -/
theorem IsPlain.admits_of_compatible (plain : type.IsPlain) (known : type ≠ unknown) (admitted : type.admits value = true)
    (fits : type.compatible other = true) : other.admits value = true := by
  rw [plain.compatible_eq known, List.any_eq_true] at fits
  obtain ⟨part, among, fits⟩ := fits
  have plain' := isPlain_of_mem_alternatives other part among
  rw [admits, offers_eq_any, List.any_eq_true]
  refine ⟨part, among, ?_⟩
  change part.admits value = true
  rcases plain.kind_of_compatible known plain' fits with rfl | same
  · exact admits_unknown
  · by_cases known' : part = unknown
    · rw [known', admits_unknown]
    · rw [plain'.admits_eq known', same, ← plain.admits_eq known]
      exact admitted

theorem plain_of_isExplicit (explicit : type.isExplicit = true) {part : DataType} (within : part ∈ type.flatten) :
    part.dereference.IsPlain ∧ part.dereference ≠ unknown := by
  have said := List.all_eq_true.mp explicit part within
  rw [Bool.and_eq_true, bne_iff_ne, bne_iff_ne] at said
  exact ⟨⟨said.2, dereference_kind part⟩, fun unknown => said.1 (unknown ▸ rfl)⟩

/-! ## Unions -/

/-- Of the types that are joined each has a member that stands for it. -/
theorem exists_distinctMember {types : List DataType} {part : DataType} (within : part ∈ flattenAll types) :
    ∃ member ∈ distinctMembers types, member = part ∨ member.interchangeable part = true := by
  obtain ⟨before, after, split⟩ := List.append_of_mem within
  obtain ⟨kept, _, begun, taken | ⟨earlier, among, stands⟩⟩ := (condensed_distinctMembers types).covered before part after split
  · exact ⟨part, taken.subset (by simp), .inl rfl⟩
  · exact ⟨earlier, begun.subset among, .inr stands⟩

/-- A union admits the values of the explicit types that it is made of. -/
theorem admits_unionWith (force : Bool) (active : Option Nat) {types : List DataType} (among : type ∈ types)
    (explicit : type.isExplicit = true) (admitted : type.admits value = true) : (unionWith force active types).admits value = true := by
  rw [admits_eq_any, List.any_eq_true] at admitted
  obtain ⟨part, within, admitted⟩ := admitted
  obtain ⟨member, stays, stands⟩ := exists_distinctMember (mem_flattenAll.mpr ⟨type, among, within⟩)
  have nonempty : distinctMembers types ≠ [] := List.ne_nil_of_mem stays
  rw [admits_eq_any, flatten_unionWith force active nonempty, List.any_eq_true]
  refine ⟨member, stays, ?_⟩
  rcases stands with rfl | same
  · exact admitted
  · obtain ⟨plain, known⟩ := plain_of_isExplicit explicit within
    have fits : part.dereference.compatible member = true := by
      rw [compatible_dereference_left]
      exact (Bool.and_eq_true _ _ ▸ same).2
    apply plain.admits_of_compatible known _ fits
    rw [admits_dereference]
    exact admitted

theorem admits_unionOf {types : List DataType} (among : type ∈ types) (explicit : type.isExplicit = true)
    (admitted : type.admits value = true) : (unionOf types).admits value = true := admits_unionWith false none among explicit admitted

/-- The unknown type goes under in a union with a type before it. -/
example : (unionOf [string, unknown]).admits (.number 5) = false := by decide

end

end DataType

/-! ## Types that operations make of unions -/

namespace Operation

section

variable {value : Value}

/-- Of a choice only the active member goes by which type was chosen. -/
theorem choiceType_admits {onTrue onFalse chosen : DataType} (among : chosen ∈ [onTrue, onFalse])
    (explicit : chosen.isExplicit = true) (admitted : chosen.admits value = true) :
    (choiceType onTrue onFalse chosen).admits value = true := by
  have joined := DataType.admits_unionOf among explicit admitted
  unfold choiceType
  split
  · next members active union =>
    rw [union, DataType.admits_union] at joined
    rw [DataType.admits_union]
    exact joined
  · exact joined

/-- A value that is there is not one of the member that is taken out. -/
theorem definedType_admits {data : Data} (explicit : data.type.dereference.isExplicit = true)
    (admitted : data.type.admits data.value = true) (there : data.value ≠ .undefined) :
    (definedType data).admits data.value = true := by
  rw [← DataType.admits_dereference] at admitted
  unfold definedType
  split
  · next members active union =>
    rw [union] at explicit admitted
    rw [DataType.admits_union, List.any_eq_true] at admitted
    obtain ⟨member, among, admitted⟩ := admitted
    have kept : member ∈ members.filter (·.kind != .undefined) := by
      rw [List.mem_filter, bne_iff_ne]
      exact ⟨among, fun nothing => there (DataType.eq_undefined_of_admits nothing admitted)⟩
    have explicit' : member.isExplicit = true := by
      apply List.all_eq_true.mpr
      intro part within
      exact List.all_eq_true.mp explicit part (DataType.mem_flattenAll.mpr ⟨member, among, within⟩)
    exact DataType.admits_unionOf kept explicit' admitted
  · exact admitted

end

end Operation

end LivePipeline
