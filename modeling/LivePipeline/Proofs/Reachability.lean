import LivePipeline.Evaluation

/-! Which branches a type test leaves reachable. Behind `isTypeOf` the variable has what the test leaves
of its declared type, and a branch in which nothing is left of it is not run. The test itself goes
by the member of the type that the variable holds at the moment, so the branch it selects is run
as long as the argument has the type it declares. -/

namespace LivePipeline

namespace DataType

/-! ## Unions that keep a member -/

/-- The type without values is no part of the type; an empty union counts as such a type. -/
def Populated (type : DataType) : Prop := type.flatten ≠ [] ∧ ∀ part ∈ type.flatten, part.kind ≠ .never

theorem mem_flattenAll {types : List DataType} {part : DataType} :
    part ∈ flattenAll types ↔ ∃ type ∈ types, part ∈ type.flatten := by
  induction types with
  | nil => simp [flattenAll]
  | cons type rest ih => simp [flattenAll, ih]

theorem mem_of_mem_addMember {members : List DataType} {type member : DataType} (within : member ∈ addMember members type) :
    member ∈ members ∨ member = type := by
  unfold addMember at within
  split at within
  · exact .inl within
  · simpa using within

theorem addMember_ne_nil (members : List DataType) (type : DataType) : addMember members type ≠ [] := by
  unfold addMember
  split
  · next found =>
    intro empty
    simp [empty] at found
  · simp

/-- Leaving out repetitions keeps members only. -/
theorem mem_of_mem_distinctMembers {types : List DataType} {member : DataType} (within : member ∈ distinctMembers types) :
    member ∈ flattenAll types := by
  have added (parts found : List DataType) (among : member ∈ parts.foldl addMember found) : member ∈ found ∨ member ∈ parts := by
    induction parts generalizing found with
    | nil => exact .inl among
    | cons part rest ih =>
      obtain earlier | later := ih (addMember found part) among
      · obtain old | same := mem_of_mem_addMember earlier
        · exact .inl old
        · exact .inr (same ▸ List.mem_cons_self)
      · exact .inr (List.mem_cons_of_mem part later)
  obtain old | new := added (flattenAll types) [] within
  · cases old
  · exact new

theorem distinctMembers_ne_nil {types : List DataType} {type : DataType} (among : type ∈ types) (some : type.flatten ≠ []) :
    distinctMembers types ≠ [] := by
  have kept (parts found : List DataType) (nonempty : found ≠ []) : parts.foldl addMember found ≠ [] := by
    induction parts generalizing found with
    | nil => exact nonempty
    | cons part rest ih => exact ih (addMember found part) (addMember_ne_nil found part)
  obtain ⟨part, within⟩ := List.exists_mem_of_ne_nil _ some
  have present : part ∈ flattenAll types := mem_flattenAll.mpr ⟨type, among, within⟩
  unfold distinctMembers
  cases parts : flattenAll types with
  | nil => simp [parts] at present
  | cons first rest => exact kept rest _ (addMember_ne_nil [] first)

/-- A union of populated types is not the type without values. -/
theorem unionWith_kind_ne_never (force : Bool) (active : Option Nat) {types : List DataType} {type : DataType}
    (among : type ∈ types) (populated : ∀ type ∈ types, type.Populated) :
    (unionWith force active types).kind ≠ .never := by
  have nonempty := distinctMembers_ne_nil among (populated type among).1
  have proper : ∀ member ∈ distinctMembers types, member.kind ≠ .never := by
    intro member within
    obtain ⟨source, present, part⟩ := mem_flattenAll.mp (mem_of_mem_distinctMembers within)
    exact (populated source present).2 member part
  unfold unionWith
  split
  · next empty => exact absurd empty nonempty
  · next single found =>
    split
    · simp [kind]
    · exact proper single (by simp [found])
  · simp [kind]

/-! ## What a test leaves -/

theorem meets_dereference (member target : DataType) : member.meets target.dereference = member.meets target := by
  fun_induction dereference target with
  | case1 target ih => rw [ih, meets]
  | case2 => rfl

theorem dereference_dereference (type : DataType) : type.dereference.dereference = type.dereference := by
  fun_induction dereference type with
  | case1 target ih => exact ih
  | case2 type other =>
    cases type with
    | reference target => exact absurd rfl (other target)
    | _ => rfl

end DataType

/-- Data whose type says which of its members it is at the moment, and in which the type without values
has no part. -/
structure Data.Definite (data : Data) : Prop where
  proper : data.type.dereference.kind ≠ .never
  active : ∀ members active, data.type.dereference = .union members active →
    (DataType.activeMember? members active).isSome
  populated : ∀ members active, data.type.dereference = .union members active → ∀ member ∈ members, member.Populated

/-- A type that is known and no union is what a test goes by. -/
theorem Data.isOfType_single {data : Data} (target : DataType) (known : data.type.dereference = .unknown → False)
    (single : ∀ members active, data.type.dereference = .union members active → False) :
    data.isOfType target = data.type.dereference.meets target := by
  rw [isOfType, actualType]
  split
  · next members active union => exact absurd union (single members active)
  · next unknown => exact absurd unknown known
  · rfl

namespace Data.Definite

variable {data : Data} {target : DataType}

/-- Of a union a test goes by the active member. -/
theorem isOfType_union (definite : data.Definite) {members : List DataType} {active : Option Nat}
    (union : data.type.dereference = .union members active) :
    ∃ member ∈ members, data.isOfType target = member.meets target := by
  obtain ⟨member, found⟩ := Option.isSome_iff_exists.mp (definite.active members active union)
  refine ⟨member, ?_, ?_⟩
  · obtain ⟨index, _, at_index⟩ := Option.bind_eq_some_iff.mp found
    exact List.mem_of_getElem? at_index
  · rw [isOfType, actualType, union]
    simp only [found, Option.getD_some]

/-- A test that holds leaves something of the type. -/
theorem narrow_ne_never (definite : data.Definite) (proper : target.kind ≠ .never) (holds : data.isOfType target = true) :
    (data.type.dereference.narrow target).kind ≠ .never := by
  rw [DataType.narrow, DataType.dereference_dereference]
  split
  · exact proper
  · next members active union =>
    obtain ⟨member, among, same⟩ := definite.isOfType_union union
    have kept : member ∈ members.filter (DataType.meets · target) :=
      List.mem_filter.mpr ⟨among, same.symm.trans holds⟩
    apply DataType.unionWith_kind_ne_never false _ kept
    intro other within
    exact definite.populated members active union other (List.mem_filter.mp within).1
  · next other notUnknown notUnion =>
    have same := isOfType_single target notUnknown notUnion
    rw [if_pos (same.symm.trans holds)]
    exact definite.proper

/-- A test that fails leaves something of the type on the other side. -/
theorem exclude_ne_never (definite : data.Definite) (fails : data.isOfType target = false) :
    (data.type.dereference.exclude target).kind ≠ .never := by
  rw [DataType.exclude, DataType.dereference_dereference]
  split
  · simp [DataType.kind]
  · next members active union =>
    obtain ⟨member, among, same⟩ := definite.isOfType_union union
    have kept : member ∈ members.filter (!DataType.meets · target) := by
      rw [List.mem_filter, ← same, fails]
      exact ⟨among, rfl⟩
    apply DataType.unionWith_kind_ne_never false none kept
    intro other within
    exact definite.populated members active union other (List.mem_filter.mp within).1
  · next other notUnknown notUnion =>
    have same := isOfType_single target notUnknown notUnion
    rw [if_neg (by rw [← same, fails]; exact Bool.false_ne_true)]
    exact definite.proper

end Data.Definite

/-! ## Branches -/

/-- What a type test of a variable establishes. -/
theorem Scope.checkCall_isTypeOf {scope : Scope} {name : String} {found : Variable}
    (declared : scope.variableNamed? name = some found) (results : EntityId → Option Data) {receiver : Data} {id : EntityId}
    (refers : receiver.reference? = some (name, id)) {test : Data} {argument : Statement} {rest body : List Statement}
    (tests : test.value = .operation (some "isTypeOf") (argument :: rest) body) :
    scope.checkCall results receiver none test = some
      { narrowed := [(name, found.data.type.dereference.narrow argument.resultType)]
        inverse := [(name, found.data.type.dereference.exclude argument.resultType)] } := by
  obtain ⟨node, type, value⟩ := test
  cases tests
  simp only [checkCall, List.head?_cons, Option.bind_some, checkOf, refers, Option.map_some, variableType, declared,
    Bool.true_or, if_true]

/-- A type test never makes the branch that it selects unreachable, as long as its argument comes to
the type that it declares: the branch for a true answer when the answer is true, and the other one when
it is false. -/
theorem selected_branch_reachable (scope : Scope) (live : scope.isSkipping = false) (name : String) (found : Variable)
    (declared : scope.variableNamed? name = some found) (definite : found.data.Definite)
    (results : EntityId → Option Data) (receiver test given checked : Data) (id : EntityId)
    (refers : receiver.reference? = some (name, id)) (argument : Statement) (rest body : List Statement)
    (tests : test.value = .operation (some "isTypeOf") (argument :: rest) body)
    (proper : argument.resultType.kind ≠ .never)
    (honest : given.type.dereference = argument.resultType.dereference) (caller : Caller) (inner : Scope)
    (world after : World)
    (computes : (Operation.isTypeOf caller inner found.data [given]).run world = (.ok checked, after)) :
    let behind := scope.withNarrowing (scope.checkCall results receiver none test)
    (checked.bool? = some true → behind.skipBehind checked (some ("thenElse", 0)) = none)
      ∧ (checked.bool? = some false → behind.skipBehind checked (some ("thenElse", 1)) = none) := by
  have unskipped : scope.skip = none := by simpa [Scope.isSkipping] using live
  have answer : found.data.isOfType argument.resultType = found.data.isOfType given.type.dereference := by
    rw [honest, Data.isOfType, Data.isOfType, DataType.meets_dereference]
  obtain ⟨answered, rfl⟩ := Prod.mk.inj computes
  cases answered
  have sound (node : EntityId) (answer : Bool) : (⟨node, .boolean, .boolean answer⟩ : Data).isError = false := rfl
  rw [scope.checkCall_isTypeOf declared results refers tests]
  refine ⟨fun holds => ?_, fun fails => ?_⟩
  · have left := definite.narrow_ne_never proper (answer.trans (Option.some.inj holds))
    simp [Scope.skipBehind, Scope.withNarrowing, unskipped, sound, holds, Narrowing.narrowedIsNever, Narrowing.anyNever, left]
  · have left := definite.exclude_ne_never (answer.trans (Option.some.inj fails))
    simp [Scope.skipBehind, Scope.withNarrowing, unskipped, sound, fails, Narrowing.inverseIsNever, Narrowing.anyNever, left]

/-- A text that is tested for being a text. -/
theorem selected_branch_reachable_text :
    let text : Data := ⟨"text", .string, .text "hi"⟩
    let scope : Scope := { bindings := [("x", ⟨"declared", text⟩)] }
    let argument : Statement := ⟨"argument", ⟨"sample", .string, .text ""⟩, [], none, false⟩
    let test : Data := ⟨"test", .unknown, .operation (some "isTypeOf") [argument] []⟩
    let receiver : Data := ⟨"receiver", .reference .string, .reference "x" "declared"⟩
    let checked : Data := ⟨EntityId.drawn 0, .boolean, .boolean true⟩
    text.Definite ∧ (scope.withNarrowing (scope.checkCall (fun _ => none) receiver none test)).skipBehind checked
      (some ("thenElse", 0)) = none := by
  intro text scope argument test receiver checked
  have definite : text.Definite := by
    refine ⟨by decide, ?_, ?_⟩ <;> intro members active union <;> cases union
  refine ⟨definite, ?_⟩
  exact (selected_branch_reachable scope rfl "x" ⟨"declared", text⟩ rfl definite (fun _ => none) receiver test
    argument.data checked "declared" rfl argument [] [] rfl (by decide) rfl scope.caller scope {} _ rfl).1 rfl

/-- The argument of a test may come to another type than it declares. A condition declares to be a condition
and comes to one of its branches, so the test holds of a text while nothing is left of its type: the
branch that should give `A!` is not run, and the result is the empty default. -/
theorem true_branch_skipped_behind_condition :
    let word (id text : String) : Statement := ⟨id, ⟨id ++ "Data", .string, .text text⟩, [], none, false⟩
    let call (id name : String) (arguments : List Statement) : Data :=
      ⟨id, .unknown, .operation (some name) arguments []⟩
    let scope : Scope := { bindings := [("x", ⟨"declared", ⟨"text", .string, .text "hi"⟩⟩)] }
    let test : Statement := ⟨"test", ⟨"truth", .boolean, .boolean true⟩, [], none, false⟩
    let argument : Statement :=
      ⟨"argument", ⟨"choice", .condition .string, .condition test (word "p" "p") (word "q" "q")⟩, [], none, false⟩
    let shout : Statement := { word "A" "A" with operations := [call "shout" "concat" [word "mark" "!"]] }
    let statement : Statement := ⟨"statement", ⟨"receiver", .reference .string, .reference "x" "declared"⟩,
      [call "check" "isTypeOf" [argument], call "choose" "thenElse" [shout, word "B" "B"]], none, false⟩
    let (result, after) := scope.evaluate statement {}
    (after.store.result? "check").bind Data.bool? = some true ∧ result.text? = some "" := by
  refine ⟨?_, ?_⟩ <;> rfl

/-- Nor is what is left of the type always one that the value has. A number of unknown type that passes such a
test is taken for a condition in the branch, and the result is typed accordingly. -/
theorem number_typed_as_condition :
    let alone (id : String) (type : DataType) (value : Value) : Statement := ⟨id, ⟨id ++ "Data", type, value⟩, [], none, false⟩
    let call (id name : String) (arguments : List Statement) : Data :=
      ⟨id, .unknown, .operation (some name) arguments []⟩
    let argument := alone "argument" (.condition .number) (.condition (alone "test" .boolean (.boolean true))
      (alone "one" .number (.number 1)) (alone "two" .number (.number 2)))
    let found := alone "found" .unknown (.reference "x" "declared")
    let statement : Statement := { found with id := "statement", operations :=
      [call "check" "isTypeOf" [argument], call "choose" "thenElse" [found, alone "other" .string (.text "s")]] }
    let scope : Scope := { bindings := [("x", ⟨"declared", ⟨"five", .unknown, .number 5⟩⟩)] }
    let result := (scope.evaluate statement {}).1
    result.number?.isSome ∧ result.type.members?.map (·.map DataType.kind) = some [.condition, .string] := by
  dsimp only
  decide +kernel

end LivePipeline
