import Mathlib.Data.List.Forall2
import LivePipeline.Operation
import LivePipeline.Proofs.Correspondence

/-! Simulations: two runs in linked worlds give the same up to the names of the link, and leave
linked worlds again. -/

namespace LivePipeline

/-! ## Simulations -/

/-- Two runs that correspond: from worlds that know the ledger they come to worlds that know more,
and their results are related by what is known then. -/
def Link.Sim (link : Link) (ledger : Ledger) (left : Run α) (right : Run β)
    (post : Ledger → α → β → Prop) : Prop :=
  ∀ world world', Linked link ledger world world' →
    ∃ later, ledger ≤ later ∧ Linked link later (left world).2 (right world').2
      ∧ Steps link ledger world (left world).2 ∧ post later (left world).1 (right world').1

namespace Link.Sim

variable {link : Link} {ledger : Ledger}

protected theorem pure {value : α} {value' : β} {post : Ledger → α → β → Prop}
    (holds : post ledger value value') : link.Sim ledger (Pure.pure value) (Pure.pure value') post :=
  fun _ _ linked => ⟨ledger, le_refl _, linked, .refl, holds⟩

protected theorem bind {left : Run α} {right : Run β} {middle : Ledger → α → β → Prop}
    {next : α → Run γ} {next' : β → Run δ} {post : Ledger → γ → δ → Prop}
    (first : link.Sim ledger left right middle)
    (second : ∀ later value value', ledger ≤ later → middle later value value' →
      link.Sim later (next value) (next' value') post) :
    link.Sim ledger (left >>= next) (right >>= next') post := by
  intro world world' linked
  obtain ⟨later, le, linked, steps, holds⟩ := first world world' linked
  obtain ⟨last, le', linked, steps', holds⟩ := second later _ _ le holds _ _ linked
  exact ⟨last, le.trans le', linked, steps.trans le steps', holds⟩

theorem weaken {left : Run α} {right : Run β} {post post' : Ledger → α → β → Prop}
    (sim : link.Sim ledger left right post)
    (implies : ∀ later value value', ledger ≤ later → post later value value' → post' later value value') :
    link.Sim ledger left right post' := by
  intro world world' linked
  obtain ⟨later, le, linked, steps, holds⟩ := sim world world' linked
  exact ⟨later, le, linked, steps, implies later _ _ le holds⟩

/-- Reading the store: what the worlds share at this moment may be used. -/
theorem store {next : Store → Run α} {next' : Store → Run β} {post : Ledger → α → β → Prop}
    (continues : ∀ world world', Linked link ledger world world' →
      link.Sim ledger (next world.store) (next' world'.store) post) :
    link.Sim ledger (Run.store >>= next) (Run.store >>= next') post :=
  fun world world' linked => continues world world' linked world world' linked

end Link.Sim

/-! ## Simulations of single steps -/

namespace Link

/-- Settled data on the left, and the same under other names on the right. -/
def Same (link : Link) (ledger : Ledger) (data data' : Data) : Prop :=
  data' = data.rename link.names ∧ ledger.Settles link data

theorem Same.mono {link : Link} {before after : Ledger} {data data' : Data} (same : link.Same before data data')
    (le : before ≤ after) : link.Same after data data' :=
  ⟨same.1, same.2.mono le⟩

theorem Same.isError {link : Link} {ledger : Ledger} {data data' : Data} (same : link.Same ledger data data') :
    data'.isError = data.isError := by
  rw [same.1, Data.rename_isError]

theorem Same.type {link : Link} {ledger : Ledger} {data data' : Data} (same : link.Same ledger data data') :
    data'.type = data.type := by
  rw [same.1, Data.rename_type]

theorem Same.bool? {link : Link} {ledger : Ledger} {data data' : Data} (same : link.Same ledger data data') :
    data'.bool? = data.bool? := by
  rw [same.1, Data.rename_bool?]

namespace Sim

variable {link : Link} {ledger : Ledger}

theorem draw_bind (build : Fresh α) (next : α → Fresh β) :
    Run.draw (build >>= next) = Run.draw build >>= fun value => Run.draw (next value) := rfl

protected theorem build {build : Fresh α} {build' : Fresh β} {middle : Ledger → α → β → Prop}
    {next : α → Fresh γ} {next' : β → Fresh δ} {post : Ledger → γ → δ → Prop}
    (first : link.Sim ledger (Run.draw build) (Run.draw build') middle)
    (second : ∀ later value value', ledger ≤ later → middle later value value' →
      link.Sim later (Run.draw (next value)) (Run.draw (next' value')) post) :
    link.Sim ledger (Run.draw (build >>= next)) (Run.draw (build' >>= next')) post :=
  .bind first second

theorem built {value : α} {value' : β} {post : Ledger → α → β → Prop} (holds : post ledger value value') :
    link.Sim ledger (Run.draw (Pure.pure value)) (Run.draw (Pure.pure value')) post :=
  .pure holds

theorem freshId : link.Sim ledger (Run.draw freshId) (Run.draw freshId)
    fun later id id' => id' = link.names id ∧ later.Permits link (.node id) := by
  intro world world' linked
  refine ⟨ledger.draw, ledger.le_draw, linked.draw, ⟨Nat.le_succ _, fun _ _ _ _ => rfl, fun _ _ found => found,
    fun _ _ => rfl⟩, linked.names_next.symm, ⟨?_, linked.code_next⟩, .inr (congrArg EntityId.drawn linked.bound)⟩
  exact EntityId.below_drawn.mpr (by rw [linked.bound]; exact Nat.lt_succ_self _)

/-- The identity of an object that is not made yet. -/
theorem freshKey (className : String) (text : Option String) :
    link.Sim ledger (Run.draw LivePipeline.freshId) (Run.draw LivePipeline.freshId)
      fun later id id' => id' = link.names id ∧ later.Permits link (.object id className text) := by
  intro world world' linked
  have drew := congrArg EntityId.drawn linked.bound
  exact ⟨ledger.enlist className text True, ledger.le_enlist _ _ _, linked.enlist className text True,
    ⟨Nat.le_succ _, fun _ _ _ _ => rfl, fun _ _ found => found, fun _ _ => rfl⟩, linked.names_next.symm,
    .inr ⟨drew, rfl, rfl⟩, .inr ⟨trivial, drew⟩⟩

/-- The identity of an object that is made at once. -/
theorem makeObject (className : String) (text : Option String) {external external' : External}
    (same : external' = external.rename link.names) (settled : external.Settled link ledger) :
    link.Sim ledger
      (do let id ← Run.draw LivePipeline.freshId; Run.updateStore (·.setInstance id external); return id)
      (do let id ← Run.draw LivePipeline.freshId; Run.updateStore (·.setInstance id external'); return id)
      fun later id id' => id' = link.names id ∧ later.object id className text := by
  subst same
  intro world world' linked
  refine ⟨ledger.enlist className text False, ledger.le_enlist _ _ _, linked.make className text settled,
    ⟨Nat.le_succ _, fun id className' text' known => ?_, fun _ _ found => found, fun _ _ => rfl⟩,
    linked.names_next.symm, .inr ⟨congrArg EntityId.drawn linked.bound, rfl, rfl⟩⟩
  refine (world.store.external?_setInstance _ _ _ _ _).trans (if_neg ?_)
  rintro rfl
  have less := EntityId.below_drawn.mp (ledger.object_below known)
  rw [linked.bound] at less
  exact absurd less (Nat.lt_irrefl _)

/-- Recording a result for a node of the code. -/
theorem record (cacheable : Bool) {id id' : EntityId} {data data' : Data} (named : id' = link.names id)
    (code : link.code id) (same : data' = data.rename link.names) (firm : data.reference? = none) :
    link.Sim ledger (Run.updateStore (·.record cacheable id data)) (Run.updateStore (·.record cacheable id' data'))
      fun later _ _ => later.synced id := by
  subst named same
  intro world world' linked
  refine ⟨ledger.sync id, ledger.le_sync id, linked.record cacheable id firm,
    ⟨Nat.le_refl _, fun _ _ _ _ => rfl, fun _ _ found => found, fun other foreign => ?_⟩, .inr rfl⟩
  refine (world.store.result?_record cacheable id other data).trans (if_neg ?_)
  rintro rfl
  exact foreign code

theorem observe (event event' : Event) : link.Sim ledger (Run.observe event) (Run.observe event') fun _ _ _ => True :=
  fun _ _ linked => ⟨ledger, le_refl _, { linked with }, ⟨Nat.le_refl _, fun _ _ _ _ => rfl, fun _ _ found => found,
    fun _ _ => rfl⟩, trivial⟩

/-- Two lists of work in lockstep. -/
theorem mapM {left : α → Run γ} {right : β → Run δ} (post : Ledger → γ → δ → Prop)
    (mono : ∀ before after value value', before ≤ after → post before value value' → post after value value') :
    ∀ {items : List α} {items' : List β} {ledger : Ledger},
      List.Forall₂ (fun item item' => ∀ later, ledger ≤ later → link.Sim later (left item) (right item') post)
        items items' →
      link.Sim ledger (items.mapM left) (items'.mapM right)
        fun later values values' => List.Forall₂ (post later) values values'
  | [], [], _, _ => .pure .nil
  | item :: items, item' :: items', ledger, .cons head tail => by
    rw [List.mapM_cons, List.mapM_cons]
    refine .bind (head ledger (le_refl _)) fun later value value' le related => ?_
    have rest := tail.imp fun _ _ works last le' => works last (le.trans le')
    refine .bind (mapM post mono rest) fun last values values' le' all => .pure ?_
    exact .cons (mono _ _ _ _ le' related) all

end Sim

/-! ## Work that may fail -/

/-- Outcomes that correspond: both succeed, or both fail. -/
def Outcomes (fail : ε → ε' → Prop) (succeed : α → β → Prop) : Except ε α → Except ε' β → Prop
  | .ok value, .ok value' => succeed value value'
  | .error error, .error error' => fail error error'
  | _, _ => False

/-- A simulation of work that may fail. -/
def Try (link : Link) (fail : Ledger → ε → ε' → Prop) (ledger : Ledger) (left : ExceptT ε Run α)
    (right : ExceptT ε' Run β) (post : Ledger → α → β → Prop) : Prop :=
  link.Sim ledger left.run right.run fun later => Outcomes (fail later) (post later)

/-- Failures are told apart by their messages only. -/
def SameMessage (failure failure' : Failure) : Prop := failure'.message = failure.message

abbrev Attempts (link : Link) (ledger : Ledger) (left : Attempt α) (right : Attempt β)
    (post : Ledger → α → β → Prop) : Prop :=
  link.Try (fun _ => SameMessage) ledger left right post

/-- Outcomes of reading that do not depend on names at all. -/
abbrev Reads (outcome outcome' : Except Failure α) : Prop :=
  Outcomes SameMessage (fun value value' => value' = value) outcome outcome'

namespace Try

variable {link : Link} {ledger : Ledger} {fail : Ledger → ε → ε' → Prop}

protected theorem pure {value : α} {value' : β} {post : Ledger → α → β → Prop} (holds : post ledger value value') :
    link.Try fail ledger (Pure.pure value) (Pure.pure value') post :=
  Sim.pure holds

protected theorem throw {error : ε} {error' : ε'} {post : Ledger → α → β → Prop} (holds : fail ledger error error') :
    link.Try fail ledger (throw error) (throw error') post :=
  Sim.pure holds

protected theorem bind {left : ExceptT ε Run α} {right : ExceptT ε' Run β} {middle : Ledger → α → β → Prop}
    {next : α → ExceptT ε Run γ} {next' : β → ExceptT ε' Run δ} {post : Ledger → γ → δ → Prop}
    (first : link.Try fail ledger left right middle)
    (second : ∀ later value value', ledger ≤ later → middle later value value' →
      link.Try fail later (next value) (next' value') post) :
    link.Try fail ledger (left >>= next) (right >>= next') post := by
  change link.Sim ledger (left.run >>= ExceptT.bindCont next) (right.run >>= ExceptT.bindCont next') _
  refine Sim.bind first fun later outcome outcome' le related => ?_
  cases outcome with
  | ok value =>
    cases outcome' with
    | ok value' => exact second later value value' le related
    | error error' => exact related.elim
  | error error =>
    cases outcome' with
    | ok value' => exact related.elim
    | error error' => exact Sim.pure related

/-- Work that cannot fail. -/
theorem lift {left : Run α} {right : Run β} {post : Ledger → α → β → Prop} (sim : link.Sim ledger left right post) :
    link.Try fail ledger (liftM left) (liftM right) post :=
  Sim.bind sim fun _ _ _ _ holds => Sim.pure holds

theorem build {left : Fresh α} {right : Fresh β} {post : Ledger → α → β → Prop}
    (sim : link.Sim ledger (Run.draw left) (Run.draw right) post) :
    link.Try fail ledger (liftM left) (liftM right) post :=
  lift sim

/-- Work that looks at data only. -/
theorem read {outcome : Except ε α} {outcome' : Except ε' β} {post : Ledger → α → β → Prop}
    (related : Outcomes (fail ledger) (post ledger) outcome outcome') :
    link.Try fail ledger (liftM outcome) (liftM outcome') post := by
  cases outcome <;> cases outcome' <;> first | exact related.elim | exact Sim.pure related

theorem mapM {left : α → ExceptT ε Run γ} {right : β → ExceptT ε' Run δ} (post : Ledger → γ → δ → Prop)
    (mono : ∀ before after value value', before ≤ after → post before value value' → post after value value') :
    ∀ {items : List α} {items' : List β} {ledger : Ledger},
      List.Forall₂ (fun item item' => ∀ later, ledger ≤ later → link.Try fail later (left item) (right item') post)
        items items' →
      link.Try fail ledger (items.mapM left) (items'.mapM right)
        fun later values values' => List.Forall₂ (post later) values values'
  | [], [], _, _ => .pure .nil
  | item :: items, item' :: items', ledger, .cons head tail => by
    rw [List.mapM_cons, List.mapM_cons]
    refine .bind (head ledger (le_refl _)) fun later value value' le related => ?_
    have rest := tail.imp fun _ _ works last le' => works last (le.trans le')
    refine .bind (mapM post mono rest) fun last values values' le' all => .pure ?_
    exact .cons (mono _ _ _ _ le' related) all

theorem reads {outcome outcome' : Except Failure α} (related : Reads outcome outcome') :
    link.Attempts ledger (liftM outcome) (liftM outcome') fun _ value value' => value' = value :=
  read related

/-- A failure under a condition that both sides see alike. -/
theorem guard {condition : Prop} [Decidable condition] {error : ε} {error' : ε'} {left : PUnit → ExceptT ε Run α}
    {right : PUnit → ExceptT ε' Run β} {post : Ledger → α → β → Prop} (fails : fail ledger error error')
    (continues : link.Try fail ledger (left ()) (right ()) post) :
    link.Try fail ledger (if condition then throw error >>= left else left ())
      (if condition then throw error' >>= right else right ()) post := by
  split
  · exact .throw fails
  · exact continues

theorem reject {condition : Prop} [Decidable condition] (failure : Failure) {left : PUnit → Attempt α}
    {right : PUnit → Attempt β} {post : Ledger → α → β → Prop}
    (continues : link.Attempts ledger (left ()) (right ()) post) :
    link.Attempts ledger (if condition then throw failure >>= left else left ())
      (if condition then throw failure >>= right else right ()) post :=
  guard rfl continues

end Try

end Link

end LivePipeline
