import LivePipeline.Proofs.CanonicalUnions
import LivePipeline.Proofs.Partition

/-! What checks leave of a variable whose type has nothing inside: one basic type, a union of some, or the type without
values. Sides are intersected by narrowing one to the other and joined by their union. The type
without values comes out of an intersection, but a join takes it in as if it were a member: it may then stand beside
the members that are left. -/

namespace LivePipeline

/-- The kinds of values that have a type of their own, with nothing inside. -/
inductive Basic where
  | string
  | number
  | boolean
  | undefined
  deriving DecidableEq

def Basic.type : Basic → DataType
  | string => .string
  | number => .number
  | boolean => .boolean
  | undefined => .undefined

theorem Basic.type_injective : Function.Injective Basic.type := by
  intro kind kind' same
  cases kind <;> cases kind' <;> first | rfl | cases same

namespace DataType

/-! ## Types without parts -/

/-- A basic type, or the type without values. -/
inductive IsSimple : DataType → Prop where
  | never : IsSimple never
  | basic (kind : Basic) : IsSimple kind.type

/-- A simple type, or a union of simple types. -/
inductive IsFlat : DataType → Prop where
  | single {type : DataType} (simple : type.IsSimple) : IsFlat type
  | union {members : List DataType} {active : Option Nat} (simple : ∀ member ∈ members, member.IsSimple) :
    IsFlat (union members active)

namespace IsSimple

variable {a b : DataType}

/-- Simple types are compatible with themselves alone. -/
theorem compatible_iff (simple : a.IsSimple) (simple' : b.IsSimple) : a.compatible b = true ↔ a = b := by
  obtain _ | kind := simple <;> obtain _ | kind' := simple' <;> try cases kind
  all_goals try cases kind'
  all_goals simp [Basic.type, compatible, offers, kind]

theorem interchangeable_iff (simple : a.IsSimple) (simple' : b.IsSimple) : a.interchangeable b = true ↔ a = b := by
  rw [interchangeable, Bool.and_eq_true, simple.compatible_iff simple', simple'.compatible_iff simple]
  exact ⟨And.left, fun same => ⟨same, same.symm⟩⟩

theorem kind_ne_union (simple : a.IsSimple) : a.kind ≠ .union := by
  obtain _ | kind := simple
  · decide
  · cases kind <;> decide

theorem flatten (simple : a.IsSimple) : a.flatten = [a] := flatten_of_kind simple.kind_ne_union

theorem meets_iff_eq (simple : a.IsSimple) (simple' : b.IsSimple) : a.meets b = true ↔ a = b := by
  rw [← simple.compatible_iff simple']
  obtain _ | kind := simple <;> obtain _ | kind' := simple' <;> try cases kind
  all_goals try cases kind'
  all_goals rfl

/-- A type without parts is narrowed to itself or to nothing. -/
theorem narrow (simple : a.IsSimple) (target : DataType) : a.narrow target = if a.meets target then a else .never := by
  obtain _ | kind := simple
  · rfl
  · cases kind <;> rfl

/-- Unions of simple types have nothing to open inside. -/
theorem flattenAll_eq {members : List DataType} (all : ∀ member ∈ members, member.IsSimple) : flattenAll members = members :=
  flattenAll_eq_self fun member among => (all member among).kind_ne_union

/-- A simple type meets a flat one when it is among its members. -/
theorem meets_iff (simple : a.IsSimple) (flat : b.IsFlat) : a.meets b = true ↔ a ∈ b.flatten := by
  cases flat with
  | single simple' => rw [simple.meets_iff_eq simple', simple'.flatten, List.mem_singleton]
  | @union members active all =>
    have any : a.meets (DataType.union members active) = true ↔ ∃ member ∈ members, a.meets member = true := by
      rw [meets]
      induction members with
      | nil => simp [meetsAny]
      | cons member rest ih => simp [meetsAny, ih fun other among => all other (List.mem_cons_of_mem _ among)]
    rw [any, DataType.flatten, IsSimple.flattenAll_eq all]
    constructor
    · rintro ⟨member, among, met⟩
      exact ((simple.meets_iff_eq (all member among)).mp met) ▸ among
    · intro among
      exact ⟨a, among, (simple.meets_iff_eq simple).mpr rfl⟩

end IsSimple

theorem isSimple_map (members : List Basic) : ∀ member ∈ members.map Basic.type, member.IsSimple :=
  List.forall_mem_map.mpr fun kind _ => .basic kind

theorem flattenAll_pair (a b : DataType) : flattenAll [a, b] = a.flatten ++ b.flatten := by simp [flattenAll]

theorem IsFlat.simple {type : DataType} (flat : type.IsFlat) : ∀ member ∈ type.flatten, member.IsSimple := by
  cases flat with
  | single simple =>
    rw [simple.flatten]
    exact List.forall_mem_singleton.mpr simple
  | union all =>
    rwa [flatten, IsSimple.flattenAll_eq all]

theorem IsFlat.members {members : List DataType} {active : Option Nat} (flat : (DataType.union members active).IsFlat) :
    ∀ member ∈ members, member.IsSimple := by
  cases flat with
  | single simple => exact absurd rfl simple.kind_ne_union
  | union all => exact all

/-- Of simple types nothing is lost in their union: only repetitions are left out. -/
theorem mem_distinctMembers_iff {types : List DataType} (simple : ∀ member ∈ flattenAll types, member.IsSimple) {member : DataType} :
    member ∈ distinctMembers types ↔ member ∈ flattenAll types := by
  have form := condensed_distinctMembers types
  refine ⟨fun among => form.sublist.subset among, fun among => ?_⟩
  obtain ⟨before, after, split⟩ := List.append_of_mem among
  obtain ⟨kept, _, begins, next | ⟨earlier, stands, same⟩⟩ := form.covered before member after split
  · exact next.subset (by simp)
  · have within := begins.subset stands
    have equal := (simple earlier (form.sublist.subset within)).interchangeable_iff (simple member among)
    exact equal.mp same ▸ within

/-- Nor is anything repeated. -/
theorem nodup_distinctMembers {types : List DataType} (simple : ∀ member ∈ flattenAll types, member.IsSimple) :
    (distinctMembers types).Nodup := by
  have form := condensed_distinctMembers types
  refine form.apart.imp_of_mem fun {earlier later} among among' differ same => ?_
  have equal := (simple earlier (form.sublist.subset among)).interchangeable_iff (simple later (form.sublist.subset among'))
  rw [equal.mpr same] at differ
  cases differ

/-! ## Sides of a check -/

/-- What a side leaves of a variable: basic members, those in `left`, and perhaps the type without values. This
stands alone when there are no others. -/
structure Side (type : DataType) (left : Basic → Bool) : Prop where
  flat : type.IsFlat
  distinct : type.flatten.Nodup
  mem : ∀ kind : Basic, kind.type ∈ type.flatten ↔ left kind = true
  empty : (∀ kind, left kind = false) → type = never

theorem Side.never {left : Basic → Bool} (none : ∀ kind, left kind = false) : Side never left := by
  refine ⟨.single .never, List.nodup_singleton _, fun kind => ?_, fun _ => rfl⟩
  rw [none kind]
  cases kind <;> simp [flatten, Basic.type]

/-- The type without values is no member beside others. -/
def Tidy (type : DataType) : Prop := never ∈ type.flatten → type = never

section

variable {types : List DataType} {left : Basic → Bool}

/-- A union of simple types is a side with the basic ones among them. -/
theorem side_unionWith (place : Option Nat) (simple : ∀ member ∈ flattenAll types, member.IsSimple)
    (mem : ∀ kind : Basic, kind.type ∈ flattenAll types ↔ left kind = true) : Side (unionWith false place types) left := by
  have form := condensed_distinctMembers types
  have members : ∀ member ∈ distinctMembers types, member.IsSimple := fun member among => simple member (form.sublist.subset among)
  by_cases none : distinctMembers types = []
  · have empty : unionWith false place types = never := by rw [unionWith, none]
    rw [empty]
    apply Side.never
    intro kind
    rw [← Bool.not_eq_true, ← mem kind, distinctMembers_eq_nil_iff.mp none]
    exact List.not_mem_nil
  · have opened := flatten_unionWith false place none
    refine ⟨?_, opened ▸ nodup_distinctMembers simple, fun kind => ?_, fun empty => ?_⟩
    · rcases unionWith_cases false place none with ⟨_, single⟩ | ⟨_, index, _, made⟩
      · exact .single (members _ (single ▸ List.mem_singleton_self _))
      · rw [made]
        exact .union members
    · rw [opened, mem_distinctMembers_iff simple, mem kind]
    · have all : ∀ member ∈ distinctMembers types, member = never := by
        intro member among
        obtain _ | kind := members member among
        · rfl
        · have present := (mem kind).mp ((mem_distinctMembers_iff simple).mp among)
          rw [empty kind] at present
          cases present
      -- The type without values is there only once, so that it needs no union.
      have once : distinctMembers types = [never] := by
        have distinct := nodup_distinctMembers simple
        rcases found : distinctMembers types with _ | ⟨first, _ | ⟨second, rest⟩⟩
        · exact absurd found none
        · rw [all first (by simp [found])]
        · have equal : first = second := (all first (by simp [found])).trans (all second (by simp [found])).symm
          rw [found] at distinct
          exact absurd (by simp [equal]) (List.nodup_cons.mp distinct).1
      rw [unionWith, once]
      rfl

theorem tidy_unionWith (place : Option Nat) (proper : never ∉ flattenAll types) : (unionWith false place types).Tidy := by
  intro within
  by_cases none : distinctMembers types = []
  · rw [unionWith, none]
  · rw [flatten_unionWith false place none] at within
    exact absurd ((condensed_distinctMembers types).sublist.subset within) proper

end

namespace Side

variable {a b : DataType} {left right : Basic → Bool}

theorem congr (side : Side a left) (same : ∀ kind, left kind = right kind) : Side a right :=
  funext same ▸ side

theorem basic (kind : Basic) : Side kind.type (· == kind) := by
  have opened := (IsSimple.basic kind).flatten
  refine ⟨.single (.basic kind), opened ▸ List.nodup_singleton _, fun other => ?_, fun empty => ?_⟩
  · rw [opened, List.mem_singleton, Basic.type_injective.eq_iff, beq_iff_eq]
  · have missing := empty kind
    rw [beq_self_eq_true] at missing
    cases missing

theorem union {members : List Basic} (inhabited : members ≠ []) (distinct : members.Nodup) (active : Option Nat) :
    Side (.union (members.map Basic.type) active) members.contains := by
  have opened : (DataType.union (members.map Basic.type) active).flatten = members.map Basic.type :=
    IsSimple.flattenAll_eq (isSimple_map members)
  refine ⟨.union (isSimple_map members), ?_, fun kind => ?_, fun empty => ?_⟩
  · rw [opened]
    exact distinct.map Basic.type_injective
  · rw [opened, List.mem_map_of_injective Basic.type_injective, List.contains_iff_mem]
  · obtain ⟨kind, among⟩ := List.exists_mem_of_ne_nil members inhabited
    have missing := empty kind
    rw [List.contains_iff_mem.mpr among] at missing
    cases missing

/-- The union of two sides. -/
theorem join (side : Side a left) (side' : Side b right) : Side (unionOf [a, b]) fun kind => left kind || right kind := by
  apply side_unionWith
  · rw [flattenAll_pair]
    exact List.forall_mem_append.mpr ⟨side.flat.simple, side'.flat.simple⟩
  · intro kind
    rw [flattenAll_pair, List.mem_append, side.mem, side'.mem, Bool.or_eq_true]

/-- Some members of a union. -/
theorem filter {members : List DataType} {active : Option Nat} (side : Side (.union members active) left) (place : Option Nat)
    {test : DataType → Bool} (same : ∀ kind : Basic, test kind.type = right kind) :
    Side (unionWith false place (members.filter test)) fun kind => left kind && right kind := by
  have all := side.flat.members
  have opened : (DataType.union members active).flatten = members := IsSimple.flattenAll_eq all
  have simple : ∀ member ∈ members.filter test, member.IsSimple := fun member among => all member (List.mem_filter.mp among).1
  apply side_unionWith
  · rwa [IsSimple.flattenAll_eq simple]
  · intro kind
    rw [IsSimple.flattenAll_eq simple, List.mem_filter, ← opened, side.mem, same, Bool.and_eq_true]

theorem meets_eq (side : Side b right) (kind : Basic) : kind.type.meets b = right kind := by
  rw [Bool.eq_iff_iff, (IsSimple.basic kind).meets_iff side.flat, side.mem]

/-- What two sides have in common. -/
theorem intersect (side : Side a left) (side' : Side b right) : Side (a.narrow b) fun kind => left kind && right kind := by
  have flat := side.flat
  cases flat with
  | single simple =>
    -- A side that is no union has one member at most, and `b` has this member or has nothing in common with it.
    have alone (kind : Basic) (here : left kind = true) : kind.type = a := by
      rwa [← side.mem kind, simple.flatten, List.mem_singleton] at here
    rw [simple.narrow]
    split
    · next meets =>
      apply side.congr
      intro kind
      cases here : left kind with
      | true => rw [← side'.meets_eq, alone kind here, meets, Bool.and_self]
      | false => rw [Bool.false_and]
    · next apart =>
      apply Side.never
      intro kind
      cases here : left kind with
      | true => rw [← side'.meets_eq, alone kind here, Bool.true_and, Bool.eq_false_iff.mpr apart]
      | false => rw [Bool.false_and]
  | union =>
    simp only [narrow, DataType.dereference]
    exact side.filter _ side'.meets_eq

/-- The members of the first side that are not on the second. -/
theorem exclude {members : List DataType} {active : Option Nat} (side : Side (.union members active) left) (side' : Side b right) :
    Side ((DataType.union members active).exclude b) fun kind => left kind && !right kind := by
  simp only [DataType.exclude, DataType.dereference, unionOf]
  exact side.filter none fun kind => congrArg not (side'.meets_eq kind)

end Side

/-! ### The type without values -/

theorem IsSimple.tidy {type : DataType} (simple : type.IsSimple) : type.Tidy := by
  intro within
  rw [simple.flatten, List.mem_singleton] at within
  exact within.symm

section

variable {members : List DataType} {active : Option Nat}

theorem Tidy.filter (tidy : (union members active).Tidy) (flat : (union members active).IsFlat) (place : Option Nat)
    (test : DataType → Bool) : (unionWith false place (members.filter test)).Tidy := by
  have all := flat.members
  have opened : (DataType.union members active).flatten = members := IsSimple.flattenAll_eq all
  have simple : ∀ member ∈ members.filter test, member.IsSimple := fun member among => all member (List.mem_filter.mp among).1
  apply tidy_unionWith
  rw [IsSimple.flattenAll_eq simple]
  intro among
  have within := (List.mem_filter.mp among).1
  rw [← opened] at within
  cases tidy within

theorem Tidy.narrow {type : DataType} (tidy : type.Tidy) (flat : type.IsFlat) (target : DataType) : (type.narrow target).Tidy := by
  cases flat with
  | single simple =>
    rw [simple.narrow]
    split
    · exact tidy
    · exact IsSimple.never.tidy
  | union all =>
    simp only [DataType.narrow, DataType.dereference]
    exact tidy.filter (.union all) _ _

theorem Tidy.exclude (tidy : (union members active).Tidy) (flat : (union members active).IsFlat) (target : DataType) :
    ((union members active).exclude target).Tidy := by
  simp only [DataType.exclude, DataType.dereference, unionOf]
  exact tidy.filter flat none _

theorem tidy_union (members : List Basic) (active : Option Nat) : (union (members.map Basic.type) active).Tidy := by
  intro within
  rw [flatten, IsSimple.flattenAll_eq (isSimple_map members), List.mem_map] at within
  obtain ⟨kind, _, equal⟩ := within
  cases kind <;> cases equal

end

/-- A union is tidy when both sides have members, or neither has. -/
theorem Tidy.join {a b : DataType} (tidy : a.Tidy) (tidy' : b.Tidy) (alike : a = never ↔ b = never) : (unionOf [a, b]).Tidy := by
  by_cases empty : a = never
  · rw [empty, alike.mp empty]
    exact IsSimple.never.tidy
  · apply tidy_unionWith
    rw [flattenAll_pair, List.mem_append]
    rintro (within | within)
    · exact empty (tidy within)
    · exact empty (alike.mpr (tidy' within))

theorem IsFlat.mem_parts {type part : DataType} (flat : type.IsFlat) : part ∈ type.parts ↔ part ∈ type.flatten ∧ type ≠ never := by
  cases flat with
  | single simple =>
    obtain _ | kind := simple
    · simp [parts]
    · cases kind <;> simp [parts, flatten, Basic.type]
  | union all =>
    rw [flatten, IsSimple.flattenAll_eq all]
    simp [parts]

theorem IsFlat.nodup_parts {type : DataType} (flat : type.IsFlat) (distinct : type.flatten.Nodup) : type.parts.Nodup := by
  cases flat with
  | single simple =>
    obtain _ | kind := simple
    · exact List.nodup_nil
    · cases kind <;> exact List.nodup_singleton _
  | union all =>
    rwa [flatten, IsSimple.flattenAll_eq all] at distinct

theorem Tidy.never_not_mem_parts {type : DataType} (tidy : type.Tidy) (flat : type.IsFlat) : never ∉ type.parts := by
  rw [flat.mem_parts]
  rintro ⟨within, proper⟩
  exact proper (tidy within)

/-- A side leaves the members in `left`: these are its members, but for the type without values, and it is this type when
there are none. -/
structure Leaves (type : DataType) (left : List Basic) : Prop where
  distinct : type.parts.Nodup
  never_iff : type = never ↔ left = []
  mem_parts : ∀ part, part ≠ never → (part ∈ type.parts ↔ ∃ kind ∈ left, part = kind.type)

theorem Side.never_iff {type : DataType} {left : Basic → Bool} (side : Side type left) :
    type = DataType.never ↔ ∀ kind, left kind = false := by
  refine ⟨fun empty kind => ?_, side.empty⟩
  rw [← Bool.not_eq_true, ← side.mem kind, empty]
  cases kind <;> simp [flatten, Basic.type]

theorem Side.never_iff_forall {type : DataType} {members : List Basic} {test : Basic → Bool}
    (side : Side type fun kind => members.contains kind && test kind) : type = DataType.never ↔ ∀ member ∈ members, test member = false := by
  simp [side.never_iff]

theorem Side.leaves {type : DataType} {members : List Basic} {test : Basic → Bool}
    (side : Side type fun kind => members.contains kind && test kind) : type.Leaves (members.filter test) := by
  have listed (kind : Basic) : (members.contains kind && test kind) = true ↔ kind ∈ members.filter test := by
    rw [Bool.and_eq_true, List.contains_iff_mem, List.mem_filter]
  refine ⟨side.flat.nodup_parts side.distinct, ?_, ?_⟩
  · rw [side.never_iff, List.eq_nil_iff_forall_not_mem]
    simp only [← listed, Bool.not_eq_true]
  · intro part proper
    rw [side.flat.mem_parts]
    constructor
    · rintro ⟨within, _⟩
      obtain _ | kind := side.flat.simple part within
      · exact absurd rfl proper
      · exact ⟨kind, (listed kind).mp ((side.mem kind).mp within), rfl⟩
    · rintro ⟨kind, among, rfl⟩
      have holds := (listed kind).mpr among
      refine ⟨(side.mem kind).mpr holds, fun empty => ?_⟩
      rw [side.never_iff.mp empty kind] at holds
      cases holds

end DataType

end LivePipeline
