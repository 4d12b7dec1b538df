import LivePipeline.Proofs.UnionMembers

/-! Both sides of a type test. A test divides the members of a union: what narrowing leaves and what the inverse
leaves are the members that pass and those that fail, each of them on one side, in their order. A type
that is no union is left on one side as a whole. -/

namespace LivePipeline.DataType

/-- The members of a type, read alike for all forms that a side of a test takes: the type without values has none, and a
type that is no union is its only one. -/
def parts : DataType → List DataType
  | never => []
  | union members _ => members
  | type => [type]

theorem parts_of_kind {type : DataType} (proper : type.kind ≠ .never) (single : type.kind ≠ .union) : type.parts = [type] := by
  cases type with
  | never => exact absurd rfl proper
  | union => exact absurd rfl single
  | _ => rfl

/-- Members that are told apart are the members of their union. -/
theorem parts_unionWith {members : List DataType} (canonical : Canonical members)
    (proper : ∀ member ∈ members, member.kind ≠ .never) (active : Option Nat) : (unionWith false active members).parts = members := by
  rw [unionWith, canonical.distinctMembers]
  split
  · rfl
  · next single =>
    have alone := List.mem_singleton_self single
    exact parts_of_kind (proper single alone) (canonical.flat single alone)
  · rfl

/-- Two lists share out the members between them: one has those that pass the test, the other those that fail it, and
both have them in their order. -/
structure Divides (test : DataType → Bool) (members passed failed : List DataType) : Prop where
  mem_passed : ∀ member ∈ members, member ∈ passed ↔ test member = true
  mem_failed : ∀ member ∈ members, member ∈ failed ↔ test member = false
  passed_sublist : passed.Sublist members
  failed_sublist : failed.Sublist members
  /-- Nothing is left out, nothing is on both sides, and there is nothing else. -/
  all : (passed ++ failed).Perm members

theorem divides_filter (test : DataType → Bool) (members : List DataType) :
    Divides test members (members.filter test) (members.filter (!test ·)) where
  mem_passed member among := by simp [List.mem_filter, among]
  mem_failed member among := by simp [List.mem_filter, among]
  passed_sublist := List.filter_sublist
  failed_sublist := List.filter_sublist
  all := List.filter_append_perm test members

/-- The two sides of a type test divide a union whose members are told apart, by which of its members meet the target. Of
a type that is no union, unknown or empty, one side has all and the other nothing. -/
theorem test_divides (original target : DataType) :
    (∀ members active, original.dereference = union members active → Canonical members →
        (∀ member ∈ members, member.kind ≠ .never) →
          Divides (meets · target) members (original.narrow target).parts (original.exclude target).parts)
      ∧ (original.dereference.kind ∉ [Kind.union, .unknown, .never] →
        original.meets target = true ∧ original.narrow target = original.dereference ∧ original.exclude target = never
          ∨ original.meets target = false ∧ original.narrow target = never ∧ original.exclude target = original.dereference) := by
  constructor
  · intro members active union canonical proper
    have kept (test : DataType → Bool) (place : Option Nat) :
        (unionWith false place (members.filter test)).parts = members.filter test := by
      apply parts_unionWith (canonical.filter test)
      intro member among
      exact proper member (List.mem_filter.mp among).1
    simp only [narrow, exclude, union, unionOf, kept]
    exact divides_filter (meets · target) members
  · intro known
    rw [← dereference_meets]
    unfold narrow exclude
    split
    · next unknown => simp [unknown, kind] at known
    · next members active union => simp [union, kind] at known
    · cases passes : original.dereference.meets target with
      | true => exact .inl ⟨rfl, rfl, rfl⟩
      | false => exact .inr ⟨rfl, rfl, rfl⟩

/-- A person or a text, tested for being a person, and a text alone. -/
theorem test_divides_person :
    let person := record [("name", string), ("age", number)]
    let original := reference (union [person, string] (some 0))
    let target := record [("name", string)]
    Divides (meets · target) [person, string] (original.narrow target).parts (original.exclude target).parts
      ∧ (string.meets target = true ∧ string.narrow target = string ∧ string.exclude target = never
        ∨ string.meets target = false ∧ string.narrow target = never ∧ string.exclude target = string) := by
  intro person original target
  have canonical : Canonical [person, string] := by
    refine ⟨by simp [person, record, kind], ?_⟩
    decide
  refine ⟨(test_divides original target).1 [person, string] (some 0) rfl canonical ?_, (test_divides string target).2 (by decide)⟩
  simp [person, record, kind]

end LivePipeline.DataType
