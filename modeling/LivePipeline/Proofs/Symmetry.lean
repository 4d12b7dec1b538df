import LivePipeline.Proofs.NestedTypes

/-! Where compatibility has no direction. Tuples are compatible when each element of the first finds one of the second, and
objects when the first has what the second requires; both tests go one way. Everything else is compared alike from
both sides, although the test looks through the first type before it looks at the second. -/

namespace LivePipeline.DataType

/-- No tuple and no object occurs in the type, at any depth. -/
def Undirected (type : DataType) : Prop := ∀ part ∈ type.nested, part.kind ≠ .tuple ∧ part.kind ≠ .object

instance (type : DataType) : Decidable type.Undirected :=
  inferInstanceAs (Decidable (∀ part ∈ type.nested, part.kind ≠ .tuple ∧ part.kind ≠ .object))

theorem Undirected.of_subset {type other : DataType} (undirected : type.Undirected) (within : other.nested ⊆ type.nested) :
    other.Undirected := fun part among => undirected part (within among)

/-! ## Unions -/

/-- Two unions cover each other. -/
theorem union_compatible_union_iff {members others : List DataType} {active active' : Option Nat} :
    (union members active).compatible (union others active') ↔ members.length = others.length
      ∧ (∀ member ∈ members, ∃ other ∈ others, member.compatible other)
      ∧ ∀ other ∈ others, ∃ member ∈ members, member.compatible other := by
  simp only [compatible, dereference, Bool.and_eq_true, beq_iff_eq, eachFits_iff, List.all_eq_true, someFits_iff, and_assoc]

/-- What is no union is compatible with a union when it is with a member. -/
theorem IsPlain.compatible_union_iff {type : DataType} (plain : type.IsPlain) (known : type ≠ unknown) {members : List DataType}
    {active : Option Nat} : type.compatible (union members active) ↔ ∃ member ∈ members, type.compatible member := by
  rw [plain.compatible_eq known, List.any_eq_true]
  constructor
  · rintro ⟨part, among, fits⟩
    obtain ⟨member, listed, within⟩ := mem_alternativesAll.mp among
    refine ⟨member, listed, ?_⟩
    rw [plain.compatible_eq known, List.any_eq_true]
    exact ⟨part, within, fits⟩
  · rintro ⟨member, listed, fits⟩
    rw [plain.compatible_eq known, List.any_eq_true] at fits
    obtain ⟨part, within, fits⟩ := fits
    exact ⟨part, mem_alternativesAll.mpr ⟨member, listed, within⟩, fits⟩

/-- A union and a type that is none, when the members are compared alike from both sides. -/
theorem IsPlain.union_compatible_comm {type : DataType} (plain : type.IsPlain) {members : List DataType} {active : Option Nat}
    (each : ∀ member ∈ members, member.compatible type = type.compatible member) :
    (union members active).compatible type = type.compatible (union members active) := by
  by_cases known : type = unknown
  · subst known
    exact compatible_unknown _
  · have tested : (union members active).compatible type = someFits members type := by
      cases type with
      | unknown => exact absurd rfl known
      | union => exact absurd rfl plain.1
      | reference => exact absurd rfl plain.2
      | _ => rfl
    rw [tested, Bool.eq_iff_iff, someFits_iff, plain.compatible_union_iff known]
    constructor
    · rintro ⟨member, among, fits⟩
      exact ⟨member, among, each member among ▸ fits⟩
    · rintro ⟨member, among, fits⟩
      exact ⟨member, among, (each member among).symm ▸ fits⟩

theorem union_compatible_union_comm {members others : List DataType} {active active' : Option Nat}
    (each : ∀ member ∈ members, ∀ other ∈ others, member.compatible other = other.compatible member) :
    (union members active).compatible (union others active') = (union others active').compatible (union members active) := by
  rw [Bool.eq_iff_iff, union_compatible_union_iff, union_compatible_union_iff]
  constructor
  · rintro ⟨length, fit, covered⟩
    refine ⟨length.symm, fun other asked => ?_, fun member among => ?_⟩
    · obtain ⟨member, among, fits⟩ := covered other asked
      exact ⟨member, among, each member among other asked ▸ fits⟩
    · obtain ⟨other, asked, fits⟩ := fit member among
      exact ⟨other, asked, each member among other asked ▸ fits⟩
  · rintro ⟨length, fit, covered⟩
    refine ⟨length.symm, fun member among => ?_, fun other asked => ?_⟩
    · obtain ⟨other, asked, fits⟩ := covered member among
      exact ⟨other, asked, (each member among other asked).symm ▸ fits⟩
    · obtain ⟨member, among, fits⟩ := fit other asked
      exact ⟨member, among, (each member among other asked).symm ▸ fits⟩

/-! ## Symmetry -/

/-- A reference stands for its target on the right, too. -/
theorem compatible_reference (type target : DataType) : type.compatible (reference target) = type.compatible target := by
  rw [← compatible_dereference_right, dereference, compatible_dereference_right]

mutual

/-- What is no union is compared alike from both sides with a type when it is so with the alternatives of that type. -/
theorem IsPlain.compatible_comm {type : DataType} (plain : type.IsPlain) : ∀ other : DataType,
    (∀ part ∈ other.alternatives, type.compatible part = part.compatible type) → type.compatible other = other.compatible type
  | union members _, each => (plain.union_compatible_comm fun member among => (plain.compatible_comm_all members each member among).symm).symm
  | reference target, each => by
    rw [compatible_reference, compatible]
    exact plain.compatible_comm target each
  | unknown, each | never, each | undefined, each | string, each | number, each | boolean, each | array _, each | tuple _, each
  | object _ _, each | dictionary _, each | operation _ _, each | condition _, each | error _, each | instanceOf _ _, each =>
    each _ (List.mem_singleton_self _)
termination_by structural other => other

theorem IsPlain.compatible_comm_all {type : DataType} (plain : type.IsPlain) : ∀ others : List DataType,
    (∀ part ∈ alternativesAll others, type.compatible part = part.compatible type) →
      ∀ other ∈ others, type.compatible other = other.compatible type
  | [], _, _, among => nomatch among
  | first :: rest, each, other, among => by
    rw [alternativesAll, List.forall_mem_append] at each
    rcases List.mem_cons.mp among with same | later
    · exact same ▸ plain.compatible_comm first each.1
    · exact plain.compatible_comm_all rest each.2 other later
termination_by structural others => others

end

/-- It is enough to look at parts of the other type that are no unions. -/
theorem IsPlain.compatible_comm_parts {type other : DataType} (plain : type.IsPlain) (undirected : other.Undirected)
    (each : ∀ part : DataType, part.IsPlain → part.Undirected → type.compatible part = part.compatible type) :
    type.compatible other = other.compatible type :=
  plain.compatible_comm other fun part among =>
    each part (isPlain_of_mem_alternatives other part among) (undirected.of_subset (nested_alternative_subset other part among))

theorem parametersFit_nil (parameters : List Parameter) : parametersFit parameters [] = parameters.all (·.isOptional) := by
  induction parameters with
  | nil => rfl
  | cons parameter rest ih =>
    obtain ⟨name, type, isOptional⟩ := parameter
    rw [parametersFit, ih, List.all_cons]

mutual

/-- Where no tuple and no object occurs, compatibility is symmetric. The induction is on the first type; the second is
taken alternative by alternative, unless both are unions. -/
theorem compatible_comm : ∀ a b : DataType, a.Undirected → b.Undirected → a.compatible b = b.compatible a
  | unknown, b, _, _ => (compatible_unknown b).symm
  | reference target, b, undirected, undirected' => by
    rw [compatible, compatible_reference]
    exact compatible_comm target b (undirected.of_subset (List.subset_cons_self _ _)) undirected'
  | union members active, b, undirected, undirected' => by
    have each := compatible_comm_all members fun part among => undirected part (List.mem_cons_of_mem _ among)
    have inner := undirected'.of_subset (nested_dereference_subset b)
    rw [← compatible_dereference_right, ← compatible_dereference_left b]
    by_cases joined : b.IsUnion
    · unfold IsUnion at joined
      cases target : b.dereference with
      | union others active' =>
        rw [target] at inner
        refine union_compatible_union_comm fun member among other asked => each member among other ?_
        exact inner.of_subset (List.subset_cons_of_subset _ (nested_subset_nestedAll asked))
      | _ => rw [target] at joined; cases joined
    · exact (isPlain_of_not_isUnion joined).union_compatible_comm fun member among => each member among _ inner
  | array element, b, undirected, undirected' => by
    refine IsPlain.compatible_comm_parts (by simp [IsPlain, kind]) undirected' fun part plain inner => ?_
    cases part with
    | array other =>
      exact compatible_comm element other (undirected.of_subset (List.subset_cons_self _ _)) (inner.of_subset (List.subset_cons_self _ _))
    | union => exact absurd rfl plain.1
    | reference => exact absurd rfl plain.2
    | _ => rfl
  | dictionary element, b, undirected, undirected' => by
    refine IsPlain.compatible_comm_parts (by simp [IsPlain, kind]) undirected' fun part plain inner => ?_
    cases part with
    | dictionary other =>
      exact compatible_comm element other (undirected.of_subset (List.subset_cons_self _ _)) (inner.of_subset (List.subset_cons_self _ _))
    | union => exact absurd rfl plain.1
    | reference => exact absurd rfl plain.2
    | _ => rfl
  | operation parameters result, b, undirected, undirected' => by
    refine IsPlain.compatible_comm_parts (by simp [IsPlain, kind]) undirected' fun part plain inner => ?_
    cases part with
    | operation others otherResult =>
      obtain ⟨inParameters, inResult⟩ := List.forall_mem_append.mp (List.forall_mem_cons.mp undirected).2
      obtain ⟨inOthers, inOther⟩ := List.forall_mem_append.mp (List.forall_mem_cons.mp inner).2
      have results := compatible_comm result otherResult inResult inOther
      have lists := parametersFit_comm parameters others inParameters inOthers
      simp only [compatible, offers, results, lists]
    | union => exact absurd rfl plain.1
    | reference => exact absurd rfl plain.2
    | _ => rfl
  | instanceOf className _, b, _, undirected' => by
    refine IsPlain.compatible_comm_parts (by simp [IsPlain, kind]) undirected' fun part plain _ => ?_
    cases part with
    | instanceOf other _ => exact BEq.comm
    | union => exact absurd rfl plain.1
    | reference => exact absurd rfl plain.2
    | _ => rfl
  | never, b, _, undirected' | undefined, b, _, undirected' | string, b, _, undirected' | number, b, _, undirected'
  | boolean, b, _, undirected' | condition _, b, _, undirected' | error _, b, _, undirected' => by
    refine IsPlain.compatible_comm_parts (by simp [IsPlain, kind]) undirected' fun part plain _ => ?_
    cases part with
    | union => exact absurd rfl plain.1
    | reference => exact absurd rfl plain.2
    | _ => rfl
  | tuple _, _, undirected, _ => absurd rfl (undirected _ (mem_nested_self _)).1
  | object _ _, _, undirected, _ => absurd rfl (undirected _ (mem_nested_self _)).2
termination_by structural a => a

theorem compatible_comm_all : ∀ types : List DataType, (∀ part ∈ nestedAll types, part.kind ≠ .tuple ∧ part.kind ≠ .object) →
    ∀ type ∈ types, ∀ b : DataType, b.Undirected → type.compatible b = b.compatible type
  | [], _, _, among, _, _ => nomatch among
  | first :: rest, undirected, type, among, b, undirected' => by
    rw [nestedAll, List.forall_mem_append] at undirected
    rcases List.mem_cons.mp among with same | later
    · exact same ▸ compatible_comm first b undirected.1 undirected'
    · exact compatible_comm_all rest undirected.2 type later b undirected'
termination_by structural types => types

theorem parametersFit_comm : ∀ parameters others : List Parameter,
    (∀ part ∈ nestedParameters parameters, part.kind ≠ .tuple ∧ part.kind ≠ .object) →
    (∀ part ∈ nestedParameters others, part.kind ≠ .tuple ∧ part.kind ≠ .object) →
    parametersFit parameters others = parametersFit others parameters
  | [], [], _, _ => rfl
  | [], _ :: _, _, _ => by rw [parametersFit_nil, parametersFit]
  | _ :: _, [], _, _ => by rw [parametersFit_nil, parametersFit]
  | ⟨_, type, _⟩ :: rest, ⟨_, other, _⟩ :: others, undirected, undirected' => by
    rw [nestedParameters, List.forall_mem_append] at undirected undirected'
    rw [parametersFit, parametersFit, parametersFit_comm rest others undirected.2 undirected'.2]
    exact congrArg (· && _) (compatible_comm type other undirected.1 undirected'.1)
termination_by structural parameters => parameters

end

/-- Types without tuples and objects are compatible in both directions or in none. -/
theorem compatible_symmetric (a b : DataType) (undirected : a.Undirected) (undirected' : b.Undirected) :
    a.compatible b = b.compatible a := compatible_comm a b undirected undirected'

/-- Unions with their members in another order, one of them behind a reference, a member with a parameter that the other lacks. -/
theorem compatible_symmetric_unions :
    let callback := operation [.receiver number, .optional "index" number] (array boolean)
    let plain := operation [.receiver (reference number)] (array unknown)
    let a := union [dictionary string, union [callback, undefined] none] (some 1)
    let b := reference (union [plain, dictionary (reference string)] none)
    a.Undirected ∧ b.Undirected ∧ a.compatible b = b.compatible a := by
  intro callback plain a b
  have undirected : a.Undirected := by decide
  have undirected' : b.Undirected := by decide
  exact ⟨undirected, undirected', compatible_symmetric a b undirected undirected'⟩

/-- An element that both tuples have is found by each, one that only the second has is not asked for. -/
example : (tuple [string, string]).compatible (tuple [number, string]) = true
    ∧ (tuple [number, string]).compatible (tuple [string, string]) = false := by decide

end LivePipeline.DataType
