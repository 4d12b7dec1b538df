import LivePipeline.Proofs.UnionMembers

/-! The member of a union that a value has. A type test goes by the active member, and the branch that it selects
gives the variable the part of its type that passed or failed the test. As long as that part has the
same member active, later tests answer as they did before. The part that passed keeps it active. In the part that
failed the first member that is left becomes active, be it the one that the value has or another one. -/

namespace LivePipeline

namespace DataType

/-- A value of the type has the type `member` at the moment: it is the active member, or there is no other. -/
inductive Holds : DataType → DataType → Prop where
  | only (member : DataType) : Holds member member
  | active {members : List DataType} {active : Option Nat} {member : DataType} :
      activeMember? members active = some member → Holds (.union members active) member

namespace Canonical

variable {members : List DataType} {target member : DataType}

/-- A union of members that are told apart has the asked one active. -/
theorem holds_unionWith (canonical : Canonical members) {place : Option Nat} (found : members[place.getD 0]? = some member) :
    (unionWith false place members).Holds member := by
  obtain ⟨inside, at_place⟩ := List.getElem?_eq_some_iff.mp found
  rw [unionWith, canonical.distinctMembers]
  split
  · simp at inside
  · next single =>
    have first : place.getD 0 = 0 := by simpa using inside
    simp only [first, List.getElem_cons_zero] at at_place
    rw [if_neg Bool.false_ne_true, at_place]
    exact .only member
  · apply Holds.active
    have within : place.getD 0 ≤ members.length - 1 := by omega
    rw [activeMember?, Option.bind_some, min_eq_left within]
    exact found

/-- A member that passes the test stays active, or an equal one before it becomes active. -/
theorem holds_narrow (canonical : Canonical members) {active : Option Nat} (found : activeMember? members active = some member)
    (keyed : member.Keyed) (passes : member.meets target = true) {type : DataType} (union : type.dereference = .union members active) :
    ∃ kept ∈ members, kept.beq member = true ∧ (type.narrow target).Holds kept := by
  obtain ⟨index, _, at_index⟩ := Option.bind_eq_some_iff.mp found
  have among : member ∈ members.filter (meets · target) := List.mem_filter.mpr ⟨List.mem_of_getElem? at_index, passes⟩
  have present : ((members.filter (meets · target)).findIdx? (·.beq member)).isSome := by
    rw [List.findIdx?_isSome, List.any_eq_true]
    exact ⟨member, among, beq_self member keyed⟩
  obtain ⟨place, first⟩ := Option.isSome_iff_exists.mp present
  obtain ⟨inside, same, _⟩ := List.findIdx?_eq_some_iff_getElem.mp first
  have left := List.getElem_mem inside
  refine ⟨_, (List.mem_filter.mp left).1, same, ?_⟩
  have position : (activeMember? members active).bind (fun member => (members.filter (meets · target)).findIdx? (beq · member)) = some place := by
    rw [found, Option.bind_some, first]
  simp only [narrow, union, position]
  apply (canonical.filter _).holds_unionWith
  exact List.getElem?_eq_getElem inside

/-- Of the members that fail the test the first becomes active. -/
theorem holds_exclude (canonical : Canonical members) {active : Option Nat}
    (first : members.find? (fun other => !other.meets target) = some member)
    {type : DataType} (union : type.dereference = .union members active) : (type.exclude target).Holds member := by
  simp only [exclude, union, unionOf]
  apply (canonical.filter _).holds_unionWith
  rw [Option.getD_none, ← List.head?_eq_getElem?, List.head?_filter, first]

end Canonical

end DataType

namespace Data

open DataType (Holds Canonical activeMember?)

/-- Tests of a value go by the member that it has, if this is one type and known. -/
theorem isOfType_of_holds {data : Data} {member : DataType} (holds : data.type.Holds member)
    (known : member.dereference.kind ≠ .unknown) (single : member.dereference.kind ≠ .union) (target : DataType) :
    data.isOfType target = member.meets target := by
  generalize current : data.type = type at holds
  cases holds with
  | only =>
    rw [← DataType.dereference_meets, ← current]
    rw [← current] at known single
    apply isOfType_single
    · intro unknown
      rw [unknown] at known
      exact known rfl
    · intro members active union
      rw [union] at single
      exact single rfl
  | active found => simp only [isOfType, actualType, current, DataType.dereference, found, Option.getD_some]

/-- The value in the branch that a test for `target` selects. -/
def behind (data : Data) (target : DataType) : Data :=
  { data with type := if data.isOfType target then data.type.narrow target else data.type.exclude target }

section

variable {data : Data} {target : DataType} {members : List DataType} {active : Option Nat} {member : DataType}

/-- Behind a test the value has a member that is equal to the one it had before, if this one passed the test or is the
first that failed. -/
theorem holds_behind (union : data.type.dereference = .union members active) (found : activeMember? members active = some member)
    (canonical : Canonical members) (keyed : member.Keyed) (answer : data.isOfType target = member.meets target)
    (first : member.meets target = false → members.find? (fun other => !other.meets target) = some member) :
    ∃ kept ∈ members, kept.beq member = true ∧ (data.behind target).type.Holds kept := by
  unfold behind
  by_cases passes : member.meets target = true
  · rw [answer, if_pos passes]
    exact canonical.holds_narrow found keyed passes union
  · have fails := Bool.eq_false_iff.mpr passes
    rw [answer, if_neg passes]
    exact ⟨member, List.mem_of_find?_eq_some (first fails), DataType.beq_self member keyed, canonical.holds_exclude (first fails) union⟩

/-- A type test does not change what later tests answer, in the branch that it selects: the value still has the member
that it had, as the active one or the only one. In the branch of a failed test this takes that no
other member before it failed. -/
theorem isOfType_behind (union : data.type.dereference = .union members active) (found : activeMember? members active = some member)
    (canonical : Canonical members) (keyed : ∀ member ∈ members, member.Keyed) (known : member.dereference.kind ≠ .unknown)
    (single : member.dereference.kind ≠ .union)
    (first : member.meets target = false → members.find? (fun other => !other.meets target) = some member) :
    (∃ kept ∈ members, kept.beq member = true ∧ (data.behind target).type.Holds kept)
      ∧ ∀ later, (data.behind target).isOfType later = data.isOfType later := by
  have among : member ∈ members := by
    obtain ⟨index, _, at_index⟩ := Option.bind_eq_some_iff.mp found
    exact List.mem_of_getElem? at_index
  have before (target : DataType) : data.isOfType target = member.meets target := by
    simp only [isOfType, actualType, union, found, Option.getD_some]
  obtain ⟨kept, within, same, holds⟩ := holds_behind union found canonical (keyed member among) (before target) first
  have kinds := DataType.kind_eq_of_beq (DataType.dereference_beq same)
  refine ⟨⟨kept, within, same, holds⟩, ?_⟩
  intro later
  rw [isOfType_of_holds holds (kinds ▸ known) (kinds ▸ single), before]
  exact DataType.meets_congr (keyed kept within) (keyed member among) same later

end

/-- A number that may be a text, a number or a truth value, behind the failed test for a text. -/
theorem isOfType_behind_number :
    let data : Data := ⟨"x", .union [.string, .number, .boolean] (some 1), .number 5⟩
    (∃ kept ∈ [DataType.string, .number, .boolean], kept.beq .number = true ∧ (data.behind .string).type.Holds kept)
      ∧ ∀ later, (data.behind .string).isOfType later = data.isOfType later := by
  intro data
  have canonical : Canonical [.string, .number, .boolean] := by
    refine ⟨by simp [DataType.kind], ?_⟩
    decide
  have keyed : ∀ member ∈ [DataType.string, .number, .boolean], member.Keyed := by simp [DataType.Keyed]
  have first (_ : DataType.number.meets .string = false) :
      [DataType.string, .number, .boolean].find? (fun other => !other.meets .string) = some .number := rfl
  exact isOfType_behind rfl rfl canonical keyed (by decide) (by decide) first

/-- Of the members that fail a test the first becomes active. A truth value that may be a text, a number or a truth
value fails the test for a text, and behind it the value is taken for a number: a test for a truth
value, which it passes, fails. -/
theorem failed_test_activates_other_member :
    let data : Data := ⟨"x", .union [.string, .number, .boolean] (some 2), .boolean true⟩
    data.isOfType .string = false ∧ data.isOfType .boolean = true ∧ (data.behind .string).isOfType .boolean = false
      ∧ (data.behind .string).type = .union [.number, .boolean] (some 0) := by
  intro data
  refine ⟨?_, ?_, ?_, ?_⟩ <;> rfl

/-- The place of the active member is looked up before repetitions are left out. Two numbers before the text that
the value is move the mark on to the truth value, behind a test that the text passes. -/
theorem passed_test_activates_other_member :
    let data : Data := ⟨"x", .union [.number, .number, .string, .boolean] (some 2), .text "a"⟩
    let target := DataType.union [.number, .string, .boolean] (some 0)
    data.isOfType target = true ∧ data.isOfType .string = true ∧ (data.behind target).isOfType .string = false := by
  intro data target
  refine ⟨?_, ?_, ?_⟩ <;> rfl

end Data

end LivePipeline
