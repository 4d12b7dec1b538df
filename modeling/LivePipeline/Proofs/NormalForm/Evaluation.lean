import LivePipeline.Proofs.NormalForm
import LivePipeline.Proofs.Standards.Evaluation

/-! Evaluation keeps to normal form. In a scope whose data is normal a statement is evaluated to
normal data, whether calls are run or skipped, and normal data is all that is recorded on the way, kept
for reuse or put into promises. What the program says is not assumed to be normal: its containers may
hold references and calls at any depth. -/

namespace LivePipeline

/-- All code may be evaluated. -/
theorem Standard.normal_admits (earlier : EntityId → Option Data) (mentions : List Mention) :
    (Standard.normal earlier).Admits mentions := fun _ _ => trivial

theorem Caller.Upholds.statement {earlier : EntityId → Option Data} {caller : Caller} (calls : caller.Upholds (.normal earlier))
    (statement : Statement) : statement.Upholds (.normal earlier) caller :=
  (upholds_steps calls).ofStatement statement (Standard.normal_admits earlier _)

theorem Caller.Upholds.node {earlier : EntityId → Option Data} {caller : Caller} (calls : caller.Upholds (.normal earlier))
    (data : Data) : data.Upholds (.normal earlier) caller :=
  (upholds_steps calls).ofData data (Standard.normal_admits earlier _)

theorem callerWithin_normal (earlier : EntityId → Option Data) (levels : Nat) : (callerWithin levels).Upholds (.normal earlier) :=
  callerWithin_upholds (fun _ _ _ => Standard.normal_admits earlier _) levels

theorem Scope.evaluate_upholds {scope : Scope} (normal : scope.Normal) (earlier : EntityId → Option Data) (statement : Statement) :
    Run.Upholds (.normal earlier) (scope.evaluate statement) Data.Normal :=
  (callerWithin_normal earlier _).statement statement scope (normal.provides earlier)

/-! ## Results -/

/-- Results are in normal form. Evaluating any statement gives normal data, whose plain view leaves nothing
out, in every scope that provides normal data: variables, extensions, and the error for which
calls are skipped if there is one. Fingerprints and promises are normal then if they were normal before, and
so is every result in the store but those that were there under the same identity before. -/
theorem evaluate_normal (scope : Scope) (statement : Statement) (world : World) (normal : scope.Normal)
    (fingerprints : ∀ key data, world.store.fingerprint? key = some data → data.Normal)
    (instances : ∀ id external, world.store.instance? id = some external → external.Normal) :
    let (result, ended) := (scope.evaluate statement).run world
    result.Normal ∧ result.value.exactPlain? = some result.plain ∧ ended.store.Normal world.store.result? := by
  have before : world.store.Normal world.store.result? := ⟨fun _ _ => .inr, fingerprints, instances⟩
  obtain ⟨after, made⟩ := Scope.evaluate_upholds normal world.store.result? statement world before
  exact ⟨made, (Data.normal_iff.mp made).exactPlain?, after⟩

/-- A list inside a list holds a reference and a call, and calls are skipped because of an error. -/
theorem evaluate_nested_normal :
    let failure : Data := ⟨"failure", .error .customError, .error "no value"⟩
    let word : Data := ⟨"word", .string, .text "a"⟩
    let referring : Statement := ⟨"first", ⟨"use", .reference .string, .reference "x" "declaration"⟩, [], none, false⟩
    let added : Statement := ⟨"added", ⟨"end", .string, .text "c"⟩, [], none, false⟩
    let joined : Statement :=
      ⟨"second", ⟨"text", .string, .text "b"⟩, [⟨"join", .unknown, .operation (some "concat") [added] []⟩], none, false⟩
    let inner : Statement := ⟨"inner", ⟨"items", .unknown, .array [referring, joined]⟩, [], none, false⟩
    let statement : Statement := ⟨"outer", ⟨"list", .unknown, .array [inner]⟩, [], none, false⟩
    let scope (skip : Option Skip) : Scope := { bindings := [("x", ⟨"declaration", word⟩)], skip := skip }
    let world : World :=
      { store := { fingerprints := [("key", word)], instances := [("pending", .promise (.resolved word))] } }
    (¬statement.Normal)
      ∧ (((scope none).evaluate statement).run world).1.value.exactPlain? = some (.array [.array [.text "a", .text "bc"]])
      ∧ (((scope (some (.failed failure))).evaluate statement).run world).2.store.Normal world.store.result? := by
  intro failure word referring added joined inner statement scope world
  have normal (skip : Option Skip) (failed : ∀ error, skip = some (.failed error) → error.Normal) : (scope skip).Normal :=
    ⟨by simp [scope, word, Value.Normal], by simp [scope], failed⟩
  have fingerprints : ∀ key data, world.store.fingerprint? key = some data → data.Normal := by
    intro key data found
    simp only [world, Store.fingerprint?, Table.get?] at found
    split at found
    · cases found; trivial
    · cases found
  have instances : ∀ id external, world.store.instance? id = some external → external.Normal := by
    intro id external found
    simp only [world, Store.instance?, Table.get?] at found
    split at found
    · cases found; trivial
    · cases found
  have plain := (evaluate_normal (scope none) statement world (normal none (by simp)) fingerprints instances).2.1
  have stored := (evaluate_normal (scope (some (.failed failure))) statement world
    (normal _ fun error given => by cases given; trivial) fingerprints instances).2.2
  refine ⟨fun allNormal => allNormal.2.1.2.1.2, plain.trans ?_, stored⟩
  rfl

/-- The error for which calls are skipped is recorded as it is: if it is a reference to error data, a
reference is recorded, though every variable is normal and the statement itself has a normal result. -/
theorem skipped_call_records_reference :
    let failure : Data := ⟨"boom", .error .customError, .error "no value"⟩
    let reference : Data := ⟨"failure", .reference (.error .customError), .reference "failed" "boomer"⟩
    let scope : Scope := { bindings := [("failed", ⟨"boomer", failure⟩)], skip := some (.failed reference) }
    let measured : Statement :=
      ⟨"s", ⟨"a", .string, .text "a"⟩, [⟨"op", .operation [] .number, .operation (some "getLength") [] []⟩], none, false⟩
    let (result, ended) := (scope.evaluate measured).run {}
    (∀ entry ∈ scope.bindings, entry.2.data.Normal) ∧ result = failure
      ∧ ended.store.result? "op" = some reference ∧ ¬reference.Normal := by
  refine ⟨?_, rfl, rfl, fun normal => normal⟩
  simp [Value.Normal]

end LivePipeline
