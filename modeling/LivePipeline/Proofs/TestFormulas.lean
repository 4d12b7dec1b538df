import LivePipeline.Proofs.Sides

/-! Type tests of one variable that are joined by `and`, `or` and `not`. Where such a formula holds the variable has
the members of its type for which it is true, where it fails those for which it is false. `and` intersects what its
operands leave where they hold, and joins what they leave where they fail; `or` does it the other way round. -/

namespace LivePipeline

/-- What is asked of a value. -/
inductive Formula where
  | test (kind : Basic)
  | negation (operand : Formula)
  | both (left right : Formula)
  | either (left right : Formula)

namespace Formula

def holds : Formula → Basic → Bool
  | test kind, value => value == kind
  | negation operand, value => !operand.holds value
  | both left right, value => left.holds value && right.holds value
  | either left right, value => left.holds value || right.holds value

/-- Where the operands of `and` fail, and where those of `or` hold, either both leave some of the members or none does. -/
def Balanced (members : List Basic) : Formula → Prop
  | test _ => True
  | negation operand => operand.Balanced members
  | both left right => left.Balanced members ∧ right.Balanced members
    ∧ ((∃ member ∈ members, left.holds member = false) ↔ ∃ member ∈ members, right.holds member = false)
  | either left right => left.Balanced members ∧ right.Balanced members
    ∧ ((∃ member ∈ members, left.holds member = true) ↔ ∃ member ∈ members, right.holds member = true)

end Formula

/-- A chain of calls asks a formula of the variable: it begins with a type test of the variable, each later call takes
the answer so far, and the other operand of a connective is its first argument. -/
inductive Expresses (name : String) : Data → List Data → Formula → Prop where
  | test {receiver call : Data} {id : EntityId} {argument : Statement} {rest body : List Statement} (kind : Basic)
    (refers : receiver.reference? = some (name, id))
    (calls : call.value = .operation (some "isTypeOf") (argument :: rest) body)
    (sample : argument.resultType = kind.type) : Expresses name receiver [call] (.test kind)
  | negation {receiver call : Data} {calls : List Data} {operand : Formula} {arguments body : List Statement}
    (asked : Expresses name receiver calls operand)
    (negates : call.value = .operation (some "not") arguments body) :
    Expresses name receiver (calls ++ [call]) (.negation operand)
  | both {receiver call : Data} {calls : List Data} {left right : Formula} {argument : Statement} {rest body : List Statement}
    (asked : Expresses name receiver calls left) (other : Expresses name argument.data argument.operations right)
    (joins : call.value = .operation (some "and") (argument :: rest) body) :
    Expresses name receiver (calls ++ [call]) (.both left right)
  | either {receiver call : Data} {calls : List Data} {left right : Formula} {argument : Statement} {rest body : List Statement}
    (asked : Expresses name receiver calls left) (other : Expresses name argument.data argument.operations right)
    (joins : call.value = .operation (some "or") (argument :: rest) body) :
    Expresses name receiver (calls ++ [call]) (.either left right)

/-! ## Checks that ask a formula -/

open DataType (Side)

/-- What is known of the variable behind a check that asks the formula of it. Joins are tidy as long as the formula is
balanced; nothing else brings the type without values in beside members. -/
inductive Decides (name : String) (members : List Basic) (formula : Formula) : Narrowing → Prop where
  | intro {narrowed inverse : DataType} (holding : Side narrowed fun kind => members.contains kind && formula.holds kind)
    (failing : Side inverse fun kind => members.contains kind && !formula.holds kind)
    (tidy : formula.Balanced members → narrowed.Tidy ∧ inverse.Tidy) :
    Decides name members formula ⟨[(name, narrowed)], [(name, inverse)]⟩

namespace Decides

variable {name : String} {members : List Basic} {left right : Formula} {first second : Narrowing}

theorem test (inhabited : members ≠ []) (distinct : members.Nodup) (active : Option Nat) (kind : Basic) :
    let known := DataType.union (members.map Basic.type) active
    Decides name members (.test kind) ⟨[(name, known.narrow kind.type)], [(name, known.exclude kind.type)]⟩ := by
  intro known
  have all : Side known members.contains := .union inhabited distinct active
  have tidy : known.Tidy := DataType.tidy_union members active
  exact .intro (all.intersect (.basic kind)) (all.exclude (.basic kind)) fun _ => ⟨tidy.narrow all.flat _, tidy.exclude all.flat _⟩

theorem swap (decides : Decides name members left first) : Decides name members (.negation left) first.swap := by
  obtain ⟨holding, failing, tidy⟩ := decides
  refine ⟨failing, holding.congr fun kind => ?_, fun balanced => (tidy balanced).symm⟩
  rw [Formula.holds, Bool.not_not]

theorem both (decides : Decides name members left first) (decides' : Decides name members right second) :
    Decides name members (.both left right) (first.both second) := by
  obtain @⟨narrowed, inverse, holding, failing, tidy⟩ := decides
  obtain @⟨narrowed', inverse', holding', failing', tidy'⟩ := decides'
  have made : (⟨[(name, narrowed)], [(name, inverse)]⟩ : Narrowing).both ⟨[(name, narrowed')], [(name, inverse')]⟩
      = ⟨[(name, narrowed.narrow narrowed')], [(name, DataType.unionOf [inverse, inverse'])]⟩ := by
    simp [Narrowing.both, Narrowing.mergeWith, Narrowing.intersectWith, Narrowing.eitherOf, Table.insertAll, Table.insert, Table.get?]
  rw [made]
  refine .intro ((holding.intersect holding').congr fun kind => ?_) ((failing.join failing').congr fun kind => ?_) ?_
  · rw [Formula.holds]
    cases members.contains kind <;> rfl
  · rw [Formula.holds, Bool.not_and]
    cases members.contains kind <;> rfl
  · rintro ⟨balanced, balanced', alike⟩
    refine ⟨(tidy balanced).1.narrow holding.flat _, (tidy balanced).2.join (tidy' balanced').2 ?_⟩
    rw [failing.never_iff_forall, failing'.never_iff_forall]
    simpa using not_congr alike

theorem congr (decides : Decides name members left first) (same : ∀ kind, left.holds kind = right.holds kind)
    (balanced : right.Balanced members → left.Balanced members) : Decides name members right first := by
  obtain ⟨holding, failing, tidy⟩ := decides
  refine .intro (holding.congr fun kind => ?_) (failing.congr fun kind => ?_) (tidy ∘ balanced) <;> rw [same]

/-- A disjunction is a conjunction with the sides exchanged. -/
theorem either (decides : Decides name members left first) (decides' : Decides name members right second) :
    Decides name members (.either left right) (first.either second) := by
  have conjunction := (decides.swap.both decides'.swap).swap
  refine conjunction.congr (fun kind => ?_) fun ⟨balanced, balanced', alike⟩ => ⟨balanced, balanced', ?_⟩
  · simp only [Formula.holds, Bool.not_and, Bool.not_not]
  · simpa only [Formula.holds, Bool.not_eq_false'] using alike

end Decides

/-- The last call of a chain is checked behind the others. -/
theorem checkChain_concat (scope : Scope) (results : EntityId → Option Data) (receiver : Data) (current : Option Narrowing)
    (calls : List Data) (call : Data) : ∃ latest, checkChain scope results receiver current (calls ++ [call])
      = scope.checkCall results latest (checkChain scope results receiver current calls) call := by
  induction calls generalizing receiver current with
  | nil => exact ⟨receiver, rfl⟩
  | cons first rest ih => exact ih _ _

section

variable {scope : Scope} {results : EntityId → Option Data} {receiver call : Data} {current : Option Narrowing}
  {argument : Statement} {rest body : List Statement}

theorem checkFirst_cons : checkFirst scope results (argument :: rest)
    = some (checkChain scope results argument.data none argument.operations) := by
  obtain ⟨id, data, operations, name, isOptional⟩ := argument
  simp only [checkFirst]

theorem Scope.checkCall_not (negates : call.value = .operation (some "not") rest body) :
    scope.checkCall results receiver current call = current.map Narrowing.swap := by
  obtain ⟨node, type, value⟩ := call
  cases negates
  simp only [checkCall]

theorem Scope.checkCall_and (joins : call.value = .operation (some "and") (argument :: rest) body) :
    scope.checkCall results receiver current call
      = some ((current.getD {}).both ((checkChain scope results argument.data none argument.operations).getD {})) := by
  obtain ⟨node, type, value⟩ := call
  cases joins
  simp only [checkCall, checkFirst_cons, Option.map_some]

theorem Scope.checkCall_or (joins : call.value = .operation (some "or") (argument :: rest) body) :
    scope.checkCall results receiver current call
      = some ((current.getD {}).either ((checkChain scope results argument.data none argument.operations).getD {})) := by
  obtain ⟨node, type, value⟩ := call
  cases joins
  simp only [checkCall, checkFirst_cons, Option.map_some]

end

section

variable {scope : Scope} {name : String} {found : Variable} {members : List Basic} {active : Option Nat}

/-- Call by call, what is known is what the formula so far decides. -/
theorem checkChain_decides (declared : scope.variableNamed? name = some found)
    (union : found.data.type.dereference = .union (members.map Basic.type) active) (inhabited : members ≠ [])
    (distinct : members.Nodup) (results : EntityId → Option Data) {receiver : Data} {calls : List Data} {formula : Formula}
    (asks : Expresses name receiver calls formula) :
    ∃ narrowing, checkChain scope results receiver none calls = some narrowing ∧ Decides name members formula narrowing := by
  induction asks with
  | test kind refers calls sample =>
    have made := scope.checkCall_isTypeOf declared results refers calls
    rw [union, sample] at made
    exact ⟨_, made, .test inhabited distinct active kind⟩
  | @negation receiver call calls operand arguments body _ negates ih =>
    obtain ⟨narrowing, made, decides⟩ := ih
    obtain ⟨latest, last⟩ := checkChain_concat scope results receiver none calls call
    rw [made, Scope.checkCall_not negates] at last
    exact ⟨narrowing.swap, last, decides.swap⟩
  | @both receiver call calls left right argument rest body _ _ joins ih ih' =>
    obtain ⟨first, made, decides⟩ := ih
    obtain ⟨second, made', decides'⟩ := ih'
    obtain ⟨latest, last⟩ := checkChain_concat scope results receiver none calls call
    rw [made, Scope.checkCall_and joins, made'] at last
    exact ⟨first.both second, last, decides.both decides'⟩
  | @either receiver call calls left right argument rest body _ _ joins ih ih' =>
    obtain ⟨first, made, decides⟩ := ih
    obtain ⟨second, made', decides'⟩ := ih'
    obtain ⟨latest, last⟩ := checkChain_concat scope results receiver none calls call
    rw [made, Scope.checkCall_or joins, made'] at last
    exact ⟨first.either second, last, decides.either decides'⟩

/-- A statement that asks a formula of a variable with basic types narrows the variable to the members for which the formula
is true, and on the other side to those for which it is false; a side is the type without values when
it has no members. Where `and` and `or` join two sides that both have members, or both have none, there is nothing
beside these members. -/
theorem formula_narrows (store : Store) (declared : scope.variableNamed? name = some found)
    (union : found.data.type.dereference = .union (members.map Basic.type) active) (inhabited : members ≠ [])
    (distinct : members.Nodup) (statement : Statement) (formula : Formula)
    (asks : Expresses name statement.data statement.operations formula) :
    ∃ narrowed inverse, scope.checkStatement store statement = some ⟨[(name, narrowed)], [(name, inverse)]⟩
      ∧ narrowed.Leaves (members.filter formula.holds) ∧ inverse.Leaves (members.filter (!formula.holds ·))
      ∧ (formula.Balanced members → .never ∉ narrowed.parts ∧ .never ∉ inverse.parts) := by
  obtain ⟨narrowing, made, decides⟩ := checkChain_decides declared union inhabited distinct store.result? asks
  obtain @⟨narrowed, inverse, holding, failing, tidy⟩ := decides
  refine ⟨narrowed, inverse, made, holding.leaves, failing.leaves, fun balanced => ?_⟩
  exact ⟨(tidy balanced).1.never_not_mem_parts holding.flat, (tidy balanced).2.never_not_mem_parts failing.flat⟩

end

/-- A variable that may be a text, a number or a truth value is asked to be neither a text nor a number. -/
theorem formula_narrows_neither :
    let call (id name : String) (arguments : List Statement) : Data := ⟨id, .unknown, .operation (some name) arguments []⟩
    let sample (id : String) (type : DataType) (value : Value) : Statement := ⟨id, ⟨id ++ "Data", type, value⟩, [], none, false⟩
    let x : Data := ⟨"receiver", .reference .unknown, .reference "x" "declared"⟩
    let known : DataType := .union [.string, .number, .boolean] (some 2)
    let scope : Scope := { bindings := [("x", ⟨"declared", ⟨"truth", known, .boolean true⟩⟩)] }
    let other : Statement := ⟨"other", x, [call "second" "isTypeOf" [sample "zero" .number (.number 0)]], none, false⟩
    let statement : Statement := ⟨"statement", x,
      [call "first" "isTypeOf" [sample "empty" .string (.text "")], call "join" "or" [other], call "turn" "not" []], none, false⟩
    let formula : Formula := .negation (.either (.test .string) (.test .number))
    let members : List Basic := [.string, .number, .boolean]
    Expresses "x" statement.data statement.operations formula ∧ formula.Balanced members
      ∧ ∃ narrowed inverse, scope.checkStatement {} statement = some ⟨[("x", narrowed)], [("x", inverse)]⟩
        ∧ narrowed.Leaves (members.filter formula.holds) ∧ inverse.Leaves (members.filter (!formula.holds ·))
        ∧ (formula.Balanced members → .never ∉ narrowed.parts ∧ .never ∉ inverse.parts) := by
  intro call sample x known scope other statement formula members
  have first : Expresses "x" x [call "first" "isTypeOf" [sample "empty" .string (.text "")]] (.test .string) := .test .string rfl rfl rfl
  have second : Expresses "x" other.data other.operations (.test .number) := .test .number rfl rfl rfl
  have asks : Expresses "x" statement.data statement.operations formula := .negation (.either first second rfl) rfl
  have balanced : formula.Balanced members := by
    refine ⟨trivial, trivial, ?_⟩
    decide
  have declared : scope.variableNamed? "x" = some ⟨"declared", ⟨"truth", known, .boolean true⟩⟩ := rfl
  have union : known.dereference = .union (members.map Basic.type) (some 2) := rfl
  exact ⟨asks, balanced, formula_narrows {} declared union (by decide) (by decide) statement formula asks⟩

/-- A join keeps the type without values as if it were a member. A text or a number that is a truth value or a text is a
text, but behind this check nothing can be done with it that can be done with a text. -/
theorem joined_side_keeps_never :
    let call (id name : String) (arguments : List Statement) : Data := ⟨id, .unknown, .operation (some name) arguments []⟩
    let sample (id : String) (type : DataType) (value : Value) : Statement := ⟨id, ⟨id ++ "Data", type, value⟩, [], none, false⟩
    let x (id : String) : Data := ⟨id, .reference .unknown, .reference "x" "declared"⟩
    let scope : Scope := { bindings := [("x", ⟨"declared", ⟨"letter", .union [.string, .number] (some 0), .text "a"⟩⟩)] }
    let other : Statement := ⟨"other", x "again", [call "second" "isTypeOf" [sample "empty" .string (.text "")]], none, false⟩
    let checks := [call "first" "isTypeOf" [sample "yes" .boolean (.boolean true)], call "join" "or" [other]]
    let shout : Statement := ⟨"shout", x "shouted", [call "append" "concat" [sample "mark" .string (.text "!")]], none, false⟩
    let choice := call "choice" "thenElse" [shout, sample "no" .string (.text "no")]
    (scope.checkStatement {} ⟨"check", x "checked", checks, none, false⟩).map (·.narrowed)
        = some [("x", .union [.never, .string] (some 0))]
      ∧ ((scope.evaluate ⟨"statement", x "checked", checks ++ [choice], none, false⟩ {}).1.error?
        = some (.typeError, "Operation `concat` cannot be chained on `never | string`")) := by
  refine ⟨?_, ?_⟩ <;> rfl

end LivePipeline
