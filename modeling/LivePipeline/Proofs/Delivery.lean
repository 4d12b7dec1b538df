import Mathlib.Data.List.Forall2
import LivePipeline.Proofs.Drawing
import LivePipeline.Proofs.Making
import LivePipeline.Proofs.Sorting

/-! Attempts that succeed in every world. They leave the world as it is but for the identities that they draw, so
whatever was recorded, made or called before stays as it was. -/

namespace LivePipeline

/-- The array holds the texts, in order. -/
def Data.HoldsTexts (data : Data) (texts : List String) : Prop :=
  ∃ items, data.items? = some items ∧ List.Forall₂ (fun item text => item.data.text? = some text) items texts

/-- Whatever the world is, the attempt comes to a good value, and it only draws identities. -/
def Attempt.Delivers (attempt : Attempt α) (good : α → Prop) : Prop :=
  ∀ world, ∃ value next, attempt.run world = (.ok value, { world with nextId := next }) ∧ world.nextId ≤ next ∧ good value

theorem Attempt.read_eq {outcome : Except Failure α} {value : α} (found : outcome = .ok value) (next : α → Attempt β) :
    (liftM outcome >>= next) = next value := by
  subst found
  rfl

namespace Attempt.Delivers

variable {attempt : Attempt α} {good : α → Prop}

protected theorem pure {value : α} (holds : good value) : Delivers (Pure.pure value) good :=
  fun world => ⟨value, world.nextId, rfl, Nat.le_refl _, holds⟩

protected theorem bind {next : α → Attempt β} {middle : α → Prop} {good : β → Prop} (first : attempt.Delivers middle)
    (second : ∀ value, middle value → (next value).Delivers good) : Delivers (attempt >>= next) good := by
  intro world
  obtain ⟨value, drawn, ran, grows, holds⟩ := first world
  obtain ⟨result, last, ran', grows', holds'⟩ := second value holds { world with nextId := drawn }
  refine ⟨result, last, ?_, Nat.le_trans grows grows', holds'⟩
  rw [ExceptT.bind_answered ran, ran']

theorem weaken {good' : α → Prop} (delivers : attempt.Delivers good) (implied : ∀ value, good value → good' value) :
    attempt.Delivers good' := by
  intro world
  obtain ⟨value, next, ran, grows, holds⟩ := delivers world
  exact ⟨value, next, ran, grows, implied value holds⟩

theorem build {work : Fresh α} (grows : work.Grows) (gives : work.Gives good) : Delivers (liftM work) good :=
  fun world => ⟨_, _, rfl, grows world.nextId, gives world.nextId⟩

/-- Behind a look at data that has found something. -/
theorem read {outcome : Except Failure α} {value : α} {next : α → Attempt β} {good : β → Prop} (found : outcome = .ok value)
    (second : (next value).Delivers good) : Delivers (liftM outcome >>= next) good := by
  rwa [read_eq found]

/-- Each item comes to a value that belongs to it. -/
theorem mapM {work : α → Attempt β} {relates : α → β → Prop} {items : List α}
    (each : ∀ item ∈ items, (work item).Delivers (relates item)) :
    Delivers (items.mapM work) (List.Forall₂ relates items) := by
  induction items with
  | nil => exact .pure .nil
  | cons item rest ih =>
    rw [List.forall_mem_cons] at each
    rw [List.mapM_cons]
    apply Delivers.bind each.1
    intro value first
    apply Delivers.bind (ih each.2)
    intro values others
    exact .pure (.cons first others)

/-! ## New data -/

theorem make {type : DataType} {value : Value} {good : Data → Prop} (holds : ∀ id, good ⟨id, type, value⟩) :
    Delivers (liftM (Data.make type value)) good := build (.make type value) (.data holds)

/-- A new array holds the items. -/
theorem array (items : List Data) (fallback : DataType) :
    Delivers (liftM (Data.array items fallback)) fun data =>
      ∃ statements, data.items? = some statements ∧ statements.map (·.data) = items := by
  have gives : (Data.array items fallback).Gives fun data =>
      ∃ statements, data.items? = some statements ∧ statements.map (·.data) = items :=
    .bind (.statements items) fun statements same => .data fun id => ⟨statements, rfl, same⟩
  exact build (.array items fallback) gives

/-- A new array of new texts. -/
theorem texts (texts : List String) (fallback : DataType) :
    Delivers (do
      let made ← texts.mapM fun text => (Data.text text : Attempt Data)
      (Data.array made fallback : Attempt Data)) fun data => data.HoldsTexts texts := by
  have each : ∀ text ∈ texts, Delivers (liftM (Data.text text)) fun data => data.text? = some text := fun _ _ => .make fun _ => rfl
  apply Delivers.bind (.mapM each)
  intro made holds
  apply weaken (array made fallback)
  rintro data ⟨items, given, rfl⟩
  refine ⟨items, given, ?_⟩
  rw [List.forall₂_map_right_iff] at holds
  exact holds.flip

end Attempt.Delivers

/-! ## Looking at data -/

namespace Operation

theorem expect_ok {read : Data → Option α} {data : Data} {value : α} (found : read data = some value) (wanted : Wanted)
    (name : String) : expect read wanted name data = .ok value := by
  rw [expect, found]

theorem optional?_zero {argument : Data} {arguments : List Data} (given : argument.value ≠ .undefined) :
    optional? (argument :: arguments) 0 = some argument := by
  obtain ⟨id, type, value⟩ := argument
  cases value with
  | undefined => exact absurd rfl given
  | _ => rfl

end Operation

end LivePipeline
