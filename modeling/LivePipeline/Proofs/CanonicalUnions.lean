import LivePipeline.Proofs.Loading.Unions
import LivePipeline.Proofs.UnionMembers

/-! The form that unions are brought into. Nested unions are opened from left to right, and the types are taken in
one after the other: a type joins the members unless it is interchangeable with one of them. Compatibility
is neither symmetric nor transitive, so nothing is said about types that were left out but that each of them has an
interchangeable member before it. Bringing the outcome into this form again changes nothing. -/

namespace LivePipeline.DataType

/-! ## Taking in one type -/

theorem prefix_addMember (members : List DataType) (type : DataType) : members <+: addMember members type := by
  unfold addMember
  split
  · exact List.prefix_rfl
  · exact List.prefix_append members [type]

theorem addMember_sublist (members : List DataType) (type : DataType) : (addMember members type).Sublist (members ++ [type]) := by
  unfold addMember
  split
  · exact List.sublist_append_left members [type]
  · exact List.Sublist.refl _

/-- Members that are told apart stay so when one more is taken in. -/
theorem pairwise_addMember {members : List DataType}
    (apart : members.Pairwise fun earlier later => earlier.interchangeable later = false) (type : DataType) :
    (addMember members type).Pairwise fun earlier later => earlier.interchangeable later = false := by
  unfold addMember
  split
  · exact apart
  · next new =>
    simp only [Bool.not_eq_true, List.any_eq_false] at new
    refine List.pairwise_append.mpr ⟨apart, List.pairwise_singleton _ _, fun earlier among later last => ?_⟩
    rw [List.mem_singleton.mp last]
    exact new earlier among

/-- A type is taken in, or a member stands for it. -/
theorem addMember_cases (members : List DataType) (type : DataType) :
    addMember members type = members ++ [type] ∨ ∃ earlier ∈ members, earlier.interchangeable type = true := by
  unfold addMember
  split
  · next found => exact .inr (List.any_eq_true.mp found)
  · exact .inl rfl

/-! ## Taking in one type after the other -/

theorem prefix_foldl_addMember (types members : List DataType) : members <+: types.foldl addMember members := by
  induction types generalizing members with
  | nil => exact List.prefix_rfl
  | cons type rest ih => exact (prefix_addMember members type).trans (ih _)

theorem foldl_addMember_sublist (types members : List DataType) :
    (types.foldl addMember members).Sublist (members ++ types) := by
  induction types generalizing members with
  | nil => rw [List.foldl_nil, List.append_nil]
  | cons type rest ih =>
    have first := (addMember_sublist members type).append_right rest
    rw [List.append_assoc, List.singleton_append] at first
    exact (ih _).trans first

theorem pairwise_foldl_addMember (types : List DataType) {members : List DataType}
    (apart : members.Pairwise fun earlier later => earlier.interchangeable later = false) :
    (types.foldl addMember members).Pairwise fun earlier later => earlier.interchangeable later = false := by
  induction types generalizing members with
  | nil => exact apart
  | cons type rest ih => exact ih (pairwise_addMember apart type)

/-- The members that stand for a list of types: some of the types in their order, the first of them first,
and for each type either this type itself or a member that comes before it and is interchangeable with it. -/
structure Condensed (types members : List DataType) : Prop extends Canonical members where
  sublist : members.Sublist types
  first : members.head? = types.head?
  /-- What stands for the types before a type is where the members begin. The type comes next, unless a member among
  these stands for it. -/
  covered : ∀ before type after, types = before ++ type :: after →
    ∃ kept, kept.Sublist before ∧ kept <+: members ∧
      (kept ++ [type] <+: members ∨ ∃ earlier ∈ kept, earlier.interchangeable type = true)

theorem condensed_foldl_addMember {types : List DataType} (flat : ∀ type ∈ types, type.kind ≠ .union) :
    Condensed types (types.foldl addMember []) := by
  have sublist : (types.foldl addMember []).Sublist types := foldl_addMember_sublist types []
  refine ⟨⟨fun member among => flat member (sublist.subset among), pairwise_foldl_addMember types .nil⟩, sublist, ?_, ?_⟩
  · cases types with
    | nil => rfl
    | cons type rest =>
      obtain ⟨later, same⟩ := prefix_foldl_addMember rest [type]
      have begun : (type :: rest).foldl addMember [] = rest.foldl addMember [type] := rfl
      rw [begun, ← same, List.singleton_append, List.head?_cons, List.head?_cons]
  · rintro before type after rfl
    have grown := prefix_foldl_addMember after (addMember (before.foldl addMember []) type)
    rw [List.foldl_append, List.foldl_cons]
    refine ⟨before.foldl addMember [], foldl_addMember_sublist before [], (prefix_addMember _ type).trans grown, ?_⟩
    rcases addMember_cases (before.foldl addMember []) type with taken | stands
    · rw [taken]
      exact .inl (taken ▸ grown)
    · exact .inr stands

theorem condensed_distinctMembers (types : List DataType) : Condensed (flattenAll types) (distinctMembers types) :=
  condensed_foldl_addMember (flattenAll_kind types)

theorem distinctMembers_eq_nil_iff {types : List DataType} : distinctMembers types = [] ↔ flattenAll types = [] := by
  have first := (condensed_distinctMembers types).first
  rw [← List.head?_eq_none_iff, first, List.head?_eq_none_iff]

/-! ## The outcome -/

/-- A single member stands by itself unless a union is asked for; more members form a union. -/
theorem unionWith_cases (force : Bool) (active : Option Nat) {types : List DataType} (some : distinctMembers types ≠ []) :
    (force = false ∧ distinctMembers types = [unionWith force active types])
      ∨ ((force = true ∨ 2 ≤ (distinctMembers types).length)
        ∧ ∃ place < (distinctMembers types).length, unionWith force active types = union (distinctMembers types) place) := by
  unfold unionWith
  split
  · next empty => exact absurd empty some
  · next single found =>
    rw [found]
    cases force with
    | false => exact .inl ⟨rfl, rfl⟩
    | true => exact .inr ⟨.inl rfl, _, by simp, rfl⟩
  · next noneMade several =>
    have many : 2 ≤ (distinctMembers types).length := by
      rcases members : distinctMembers types with _ | ⟨first, _ | ⟨second, rest⟩⟩
      · exact absurd members some
      · exact absurd members (several first)
      · simp
    exact .inr ⟨.inr many, _, by omega, rfl⟩

theorem unionWith_congr (force : Bool) (active : Option Nat) {types others : List DataType}
    (same : distinctMembers types = distinctMembers others) : unionWith force active types = unionWith force active others := by
  unfold unionWith
  rw [same]

/-- Opened again, the outcome is what it was made of. -/
theorem flatten_unionWith (force : Bool) (active : Option Nat) {types : List DataType} (some : distinctMembers types ≠ []) :
    (unionWith force active types).flatten = distinctMembers types := by
  have flat := (condensed_distinctMembers types).flat
  rcases unionWith_cases force active some with ⟨_, single⟩ | ⟨_, place, _, made⟩
  · rw [single] at flat ⊢
    exact flatten_of_kind (flat _ (List.mem_singleton_self _))
  · rw [made, flatten]
    exact flattenAll_eq_self flat

theorem distinctMembers_unionWith (force : Bool) (active : Option Nat) {types : List DataType} (some : distinctMembers types ≠ []) :
    distinctMembers [unionWith force active types] = distinctMembers types := by
  have canonical := (condensed_distinctMembers types).toCanonical
  rw [distinctMembers, flattenAll, flatten_unionWith force active some, flattenAll, List.append_nil]
  exact foldl_addMember_eq_append canonical.apart

/-- The canonical form of the union of a list of types. Without types there are no values. Otherwise there are members that
stand for the types: a single one by itself, or a union of them with one active. -/
inductive UnionForm (force : Bool) (types : List DataType) : DataType → Prop where
  | none (empty : flattenAll types = []) : UnionForm force types never
  | single {member : DataType} (condensed : Condensed (flattenAll types) [member]) (loose : force = false) :
    UnionForm force types member
  | several {members : List DataType} {active : Nat} (condensed : Condensed (flattenAll types) members)
    (wanted : force = true ∨ 2 ≤ members.length) (within : active < members.length) :
    UnionForm force types (union members active)

/-- Joining types brings their union into canonical form, and joining the outcome again gives it back. Only a union that is
asked for of no types at all is not given back: the second time there is a type, the one without values. -/
theorem unionWith_canonical (force : Bool) (active : Option Nat) (types : List DataType) :
    UnionForm force types (unionWith force active types)
      ∧ (flattenAll types ≠ [] ∨ force = false →
        unionWith force active [unionWith force active types] = unionWith force active types) := by
  by_cases none : flattenAll types = []
  · have empty : unionWith force active types = never := by rw [unionWith, distinctMembers_eq_nil_iff.mpr none]
    rw [empty]
    refine ⟨.none none, fun proper => ?_⟩
    rw [proper.resolve_left (absurd none)]
    rfl
  · have some : distinctMembers types ≠ [] := mt distinctMembers_eq_nil_iff.mp none
    have condensed := condensed_distinctMembers types
    refine ⟨?_, fun _ => unionWith_congr force active (distinctMembers_unionWith force active some)⟩
    rcases unionWith_cases force active some with ⟨loose, single⟩ | ⟨wanted, place, within, made⟩
    · rw [single] at condensed
      exact .single condensed loose
    · rw [made]
      exact .several condensed wanted within

/-- A repetition and a nested union, the last member active. -/
theorem unionWith_canonical_nested :
    let types := [string, number, string, union [boolean, number] none]
    let joined := union [string, number, boolean] (some 2)
    flattenAll types ≠ [] ∧ UnionForm false types joined ∧ unionWith false (some 7) [joined] = joined := by
  intro types joined
  have form := unionWith_canonical false (some 7) types
  have some : flattenAll types ≠ [] := by simp [types, flattenAll, flatten]
  exact ⟨some, form.1, form.2 (.inl some)⟩

end LivePipeline.DataType
