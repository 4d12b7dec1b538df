import Mathlib.Data.List.Perm.Subperm
import LivePipeline.Proofs.Files
import LivePipeline.Proofs.ResultTypes.Fitting

/-! Members of unions. Types that are equal up to the order of properties pass the same tests, so it does not
matter which of them is kept; and a union whose members are told apart by compatibility is not changed by what
brings unions into their canonical form. -/

namespace LivePipeline

namespace DataType

/-! ## Equal types -/

mutual

theorem beq_self : ∀ type : DataType, type.Keyed → type.beq type = true
  | .array element, keyed | .dictionary element, keyed | .condition element, keyed | .reference element, keyed =>
    beq_self element keyed
  | .tuple elements, keyed => beqAll_self elements keyed
  | .union members active, keyed => by rw [beq, beqAll_self members keyed, beq_self_eq_true, Bool.and_true]
  | .object properties required, ⟨distinct, keyed⟩ => by
    have found : ∀ entry ∈ properties, Table.get? properties entry.1 = some entry.2 :=
      fun _ among => Table.get?_of_mem distinct among
    rw [beq, beqProperties_self properties keyed properties found, beq_self_eq_true, beq_self_eq_true, Bool.and_true, Bool.and_true]
  | .operation parameters result, ⟨keyed, keyed'⟩ => by
    rw [beq, beqParameters_self parameters keyed, beq_self result keyed', Bool.and_true]
  | .instanceOf className arguments, keyed => by
    rw [beq, beqParameters_self arguments keyed, beq_self_eq_true, Bool.and_true]
  | .error kind, _ => by rw [beq, beq_self_eq_true]
  | .unknown, _ | .never, _ | .undefined, _ | .string, _ | .number, _ | .boolean, _ => rfl
termination_by structural type => type

theorem beqAll_self : ∀ types : List DataType, allKeyed types → beqAll types types = true
  | [], _ => rfl
  | type :: rest, ⟨keyed, others⟩ => by rw [beqAll, beq_self type keyed, beqAll_self rest others, Bool.and_true]
termination_by structural types => types

theorem beqProperties_self : ∀ properties : List (String × DataType), propertiesKeyed properties →
    ∀ table : Table DataType, (∀ entry ∈ properties, Table.get? table entry.1 = some entry.2) → beqProperties properties table = true
  | [], _, _, _ => rfl
  | (name, type) :: rest, ⟨keyed, others⟩, table, found => by
    obtain ⟨here, later⟩ := List.forall_mem_cons.mp found
    rw [beqProperties, here, Option.any_some, beq_self type keyed, beqProperties_self rest others table later, Bool.and_true]
termination_by structural properties => properties

theorem beqParameters_self : ∀ parameters : List Parameter, parametersKeyed parameters → beqParameters parameters parameters = true
  | [], _ => rfl
  | ⟨name, type, isOptional⟩ :: rest, ⟨keyed, others⟩ => by
    rw [beqParameters, beq_self type keyed, beqParameters_self rest others]
    simp only [beq_self_eq_true, Bool.and_true]
termination_by structural parameters => parameters

end

theorem kind_eq_of_beq {x y : DataType} (same : x.beq y = true) : x.kind = y.kind := by
  cases x <;> cases y <;> first | rfl | cases same

theorem beqAll_length : ∀ {xs ys : List DataType}, beqAll xs ys = true → xs.length = ys.length
  | [], [], _ => rfl
  | _ :: _, _ :: _, same => congrArg (· + 1) (beqAll_length ((Bool.and_eq_true _ _).mp same).2)

/-- What is a property of one side is a property of the other. -/
theorem keys_subset_of_beqProperties {xs ys : Table DataType} (same : beqProperties xs ys = true) :
    Table.keys xs ⊆ Table.keys ys := by
  induction xs with
  | nil => exact List.nil_subset _
  | cons entry rest ih =>
    obtain ⟨first, later⟩ := (Bool.and_eq_true _ _).mp same
    obtain ⟨type, found, _⟩ := (Option.any_eq_true _ _).mp first
    have present : entry.1 ∈ Table.keys ys := List.mem_map.mpr ⟨_, Table.mem_of_get? found, rfl⟩
    exact List.cons_subset.mpr ⟨present, ih later⟩

theorem propertyFits_of_not_mem {properties : Table DataType} {key : String} (absent : key ∉ Table.keys properties)
    (b : DataType) : propertyFits properties key b = false := by
  rw [propertyFits_eq_any]
  cases found : Table.get? properties key with
  | none => rfl
  | some type => exact absurd (List.mem_map.mpr ⟨_, Table.mem_of_get? found, rfl⟩) absent

/-- Equal properties fit the same types, those that are missing included: there are as many on both sides. -/
theorem propertyFits_eq_of_beq {xs ys : Table DataType} (distinct : (Table.keys xs).Nodup)
    (length : xs.length = ys.length) (same : beqProperties xs ys = true)
    (each : ∀ key ∈ Table.keys xs, ∀ b, propertyFits xs key b = propertyFits ys key b) : propertyFits xs = propertyFits ys := by
  have fewer : (Table.keys ys).length ≤ (Table.keys xs).length := by simp [Table.keys, length]
  have perm := (List.subperm_of_subset distinct (keys_subset_of_beqProperties same)).perm_of_length_le fewer
  funext key b
  by_cases among : key ∈ Table.keys xs
  · exact each key among b
  · have missing : key ∉ Table.keys ys := fun present => among (perm.mem_iff.mpr present)
    rw [propertyFits_of_not_mem among, propertyFits_of_not_mem missing]

mutual

/-- Equal types are compatible with the same types. -/
theorem compatible_congr : ∀ (x y : DataType), x.Keyed → y.Keyed → x.beq y = true → ∀ b, x.compatible b = y.compatible b
  | .reference x, y, keyed, keyed', same, b => by
    cases y with
    | reference y => simpa only [compatible] using compatible_congr x y keyed keyed' same b
    | _ => cases same
  | .union xs _, y, keyed, keyed', same, b => by
    cases y with
    | union ys _ =>
      have equal := ((Bool.and_eq_true _ _).mp same).1
      have length := beqAll_length equal
      have each := eachFits_congr xs ys keyed keyed' equal
      have some := someFits_congr xs ys keyed keyed' equal
      simp only [compatible, length, each, some]
    | _ => cases same
  | .operation xs x, y, keyed, keyed', same, b => by
    cases y with
    | operation ys y =>
      have equal := (Bool.and_eq_true _ _).mp same
      have result := compatible_congr x y keyed.2 keyed'.2 equal.2
      have parameters := parametersFit_congr xs ys keyed.1 keyed'.1 equal.1
      simp only [compatible, result, parameters]
    | _ => cases same
  | .array x, y, keyed, keyed', same, b => by
    cases y with
    | array y => simp only [compatible, compatible_congr x y keyed keyed' same]
    | _ => cases same
  | .dictionary x, y, keyed, keyed', same, b => by
    cases y with
    | dictionary y => simp only [compatible, compatible_congr x y keyed keyed' same]
    | _ => cases same
  | .tuple xs, y, keyed, keyed', same, b => by
    cases y with
    | tuple ys => simp only [compatible, eachFits_congr xs ys keyed keyed' same]
    | _ => cases same
  | .object xs required, y, keyed, keyed', same, b => by
    cases y with
    | object ys required' =>
      obtain ⟨counted, listed⟩ := (Bool.and_eq_true _ _).mp same
      obtain ⟨length, equal⟩ := (Bool.and_eq_true _ _).mp counted
      have properties := propertyFits_congr xs ys keyed.2 keyed'.2 equal
      have all := propertyFits_eq_of_beq keyed.1 (beq_iff_eq.mp length) equal properties
      simp only [compatible, all, beq_iff_eq.mp listed]
    | _ => cases same
  | .instanceOf _ _, y, _, _, same, b => by
    cases y with
    | instanceOf _ _ => simp only [compatible, beq_iff_eq.mp ((Bool.and_eq_true _ _).mp same).1]
    | _ => cases same
  | .condition _, y, _, _, same, b => by
    cases y with
    | condition _ => rfl
    | _ => cases same
  | .error _, y, _, _, same, b => by
    cases y with
    | error _ => rfl
    | _ => cases same
  | .unknown, y, _, _, same, b | .never, y, _, _, same, b | .undefined, y, _, _, same, b | .string, y, _, _, same, b
  | .number, y, _, _, same, b | .boolean, y, _, _, same, b => by
    cases y <;> first | rfl | cases same
termination_by structural x => x

theorem eachFits_congr : ∀ (xs ys : List DataType), allKeyed xs → allKeyed ys → beqAll xs ys = true →
    ∀ others, eachFits xs others = eachFits ys others
  | [], ys, _, _, same, others => by
    cases ys with
    | nil => rfl
    | cons => cases same
  | x :: xs, ys, keyed, keyed', same, others => by
    cases ys with
    | nil => cases same
    | cons y ys =>
      have equal := (Bool.and_eq_true _ _).mp same
      have first := compatible_congr x y keyed.1 keyed'.1 equal.1
      have later := eachFits_congr xs ys keyed.2 keyed'.2 equal.2
      simp only [eachFits, later, funext first]
termination_by structural xs => xs

theorem someFits_congr : ∀ (xs ys : List DataType), allKeyed xs → allKeyed ys → beqAll xs ys = true →
    ∀ b, someFits xs b = someFits ys b
  | [], ys, _, _, same, b => by
    cases ys with
    | nil => rfl
    | cons => cases same
  | x :: xs, ys, keyed, keyed', same, b => by
    cases ys with
    | nil => cases same
    | cons y ys =>
      have equal := (Bool.and_eq_true _ _).mp same
      have first := compatible_congr x y keyed.1 keyed'.1 equal.1
      have later := someFits_congr xs ys keyed.2 keyed'.2 equal.2
      simp only [someFits, later, first]
termination_by structural xs => xs

/-- A property has an equal type on the other side, which fits the same types. -/
theorem propertyFits_congr : ∀ (xs ys : List (String × DataType)), propertiesKeyed xs → propertiesKeyed ys →
    beqProperties xs ys = true → ∀ key ∈ Table.keys xs, ∀ b, propertyFits xs key b = propertyFits ys key b
  | [], _, _, _, _, _, among, _ => by cases among
  | (name, x) :: rest, ys, keyed, keyed', same, key, among, b => by
    obtain ⟨first, later⟩ := (Bool.and_eq_true _ _).mp same
    rw [propertyFits]
    split
    · next equal =>
      subst equal
      rw [Option.any_eq_true] at first
      obtain ⟨y, found, like⟩ := first
      have keyed'' : y.Keyed := propertiesKeyed_iff.mp keyed' _ (Table.mem_of_get? found)
      rw [propertyFits_eq_any, found, Option.any_some]
      exact compatible_congr x y keyed.1 keyed'' like b
    · next apart =>
      apply propertyFits_congr rest ys keyed.2 keyed' later
      exact (List.mem_cons.mp among).resolve_left fun equal => apart equal.symm
termination_by structural xs => xs

theorem parametersFit_congr : ∀ (xs ys : List Parameter), parametersKeyed xs → parametersKeyed ys →
    beqParameters xs ys = true → ∀ others, parametersFit xs others = parametersFit ys others
  | [], ys, _, _, same, others => by
    cases ys with
    | nil => rfl
    | cons => cases same
  | ⟨_, x, _⟩ :: xs, ys, keyed, keyed', same, others => by
    cases ys with
    | nil => cases same
    | cons parameter ys =>
      obtain ⟨_, y, _⟩ := parameter
      obtain ⟨front, back⟩ := (Bool.and_eq_true _ _).mp same
      obtain ⟨named, isOptional⟩ := (Bool.and_eq_true _ _).mp front
      have first := compatible_congr x y keyed.1 keyed'.1 ((Bool.and_eq_true _ _).mp named).2
      have later := parametersFit_congr xs ys keyed.2 keyed'.2 back
      cases others <;> simp only [parametersFit, later, first, beq_iff_eq.mp isOptional]
termination_by structural xs => xs

end

/-- References on both sides are removed together. -/
theorem dereference_beq {x y : DataType} (same : x.beq y = true) : x.dereference.beq y.dereference = true := by
  induction x using dereference.induct generalizing y with
  | case1 x ih =>
    cases y with
    | reference y => exact @ih y same
    | _ => cases same
  | case2 x other =>
    have plain : x.dereference = x := by cases x <;> first | rfl | exact absurd rfl (other _)
    have plain' : y.dereference = y := by
      cases y with
      | reference y => cases x <;> first | cases same | exact absurd rfl (other _)
      | _ => rfl
    rwa [plain, plain']

/-- What is no object meets no object, and is compared otherwise. -/
theorem meetsPlain_of_kind {x : DataType} (other : x.kind ≠ .object) (target : DataType) :
    x.meetsPlain target = (target.kind != .object && x.compatible target) := by
  unfold meetsPlain
  split
  · exact absurd rfl other
  · exact absurd rfl other
  · rfl
  · next unlike _ =>
    have known : target.kind ≠ .object := by
      cases target with
      | object properties required => exact absurd rfl (unlike properties required)
      | _ => simp [kind]
    rw [bne_iff_ne.mpr known, Bool.true_and]

/-- Equal types meet the same types. -/
theorem meetsPlain_congr {x y : DataType} (keyed : x.Keyed) (keyed' : y.Keyed) (same : x.beq y = true) (target : DataType) :
    x.meetsPlain target = y.meetsPlain target := by
  have kinds := kind_eq_of_beq same
  by_cases shaped : x.kind = .object
  · cases x with
    | object xs required =>
      cases y with
      | object ys required' =>
        obtain ⟨length, equal⟩ := (Bool.and_eq_true _ _).mp ((Bool.and_eq_true _ _).mp same).1
        have each := propertyFits_congr xs ys keyed.2 keyed'.2 equal
        have all := propertyFits_eq_of_beq keyed.1 (beq_iff_eq.mp length) equal each
        cases target with
        | object want _ => simp only [meetsPlain, ← propertyFits_eq_any, all]
        | _ => rfl
      | _ => cases same
    | _ => cases shaped
  · rw [meetsPlain_of_kind shaped, meetsPlain_of_kind (kinds ▸ shaped), compatible_congr x y keyed keyed' same]

mutual

theorem meets_congr {x y : DataType} (keyed : x.Keyed) (keyed' : y.Keyed) (same : x.beq y = true) :
    ∀ target, x.meets target = y.meets target
  | .reference target => meets_congr keyed keyed' same target
  | .union targets _ => meetsAny_congr keyed keyed' same targets
  | .unknown | .never | .undefined | .string | .number | .boolean | .array _ | .tuple _ | .object _ _ | .dictionary _
  | .operation _ _ | .condition _ | .error _ | .instanceOf _ _ =>
    meetsPlain_congr keyed.dereference keyed'.dereference (dereference_beq same) _
termination_by structural target => target

theorem meetsAny_congr {x y : DataType} (keyed : x.Keyed) (keyed' : y.Keyed) (same : x.beq y = true) :
    ∀ targets, meetsAny x targets = meetsAny y targets
  | [] => rfl
  | target :: rest => congrArg₂ or (meets_congr keyed keyed' same target) (meetsAny_congr keyed keyed' same rest)
termination_by structural targets => targets

end

mutual

theorem dereference_meets (member : DataType) : ∀ target, member.dereference.meets target = member.meets target
  | .reference target => dereference_meets member target
  | .union targets _ => dereference_meetsAny member targets
  | .unknown | .never | .undefined | .string | .number | .boolean | .array _ | .tuple _ | .object _ _ | .dictionary _
  | .operation _ _ | .condition _ | .error _ | .instanceOf _ _ => by rw [meets, meets, dereference_dereference] <;> simp
termination_by structural target => target

theorem dereference_meetsAny (member : DataType) : ∀ targets, meetsAny member.dereference targets = meetsAny member targets
  | [] => rfl
  | target :: rest => congrArg₂ or (dereference_meets member target) (dereference_meetsAny member rest)
termination_by structural targets => targets

end

/-! ## Unions in canonical form -/

/-- Members that a union keeps: no unions themselves, and no two of them interchangeable. -/
structure Canonical (members : List DataType) : Prop where
  flat : ∀ member ∈ members, member.kind ≠ .union
  apart : members.Pairwise fun earlier later => earlier.interchangeable later = false

theorem flatten_of_kind {type : DataType} (single : type.kind ≠ .union) : type.flatten = [type] := by
  cases type with
  | union => exact absurd rfl single
  | _ => rfl

theorem flattenAll_eq_self {types : List DataType} (flat : ∀ type ∈ types, type.kind ≠ .union) : flattenAll types = types := by
  induction types with
  | nil => rfl
  | cons type rest ih =>
    obtain ⟨single, others⟩ := List.forall_mem_cons.mp flat
    rw [flattenAll, flatten_of_kind single, ih others, List.singleton_append]

/-- Members that are told apart are all added. -/
theorem foldl_addMember_eq_append {members found : List DataType}
    (apart : (found ++ members).Pairwise fun earlier later => earlier.interchangeable later = false) :
    members.foldl addMember found = found ++ members := by
  induction members generalizing found with
  | nil => rw [List.foldl_nil, List.append_nil]
  | cons member rest ih =>
    have new : found.any (interchangeable · member) = false := by
      rw [List.any_eq_false]
      intro other among same
      have differ := (List.pairwise_append.mp apart).2.2 other among member List.mem_cons_self
      rw [differ] at same
      cases same
    have added : addMember found member = found ++ [member] := by rw [addMember, new, if_neg Bool.false_ne_true]
    rw [List.append_cons] at apart
    rw [List.foldl_cons, added, ih apart, ← List.append_cons]

namespace Canonical

variable {members : List DataType}

protected theorem filter (canonical : Canonical members) (test : DataType → Bool) : Canonical (members.filter test) := by
  refine ⟨?_, canonical.apart.filter test⟩
  intro member among
  exact canonical.flat member (List.mem_filter.mp among).1

theorem distinctMembers (canonical : Canonical members) : distinctMembers members = members := by
  rw [DataType.distinctMembers, flattenAll_eq_self canonical.flat]
  exact foldl_addMember_eq_append canonical.apart

end Canonical

end DataType

end LivePipeline
