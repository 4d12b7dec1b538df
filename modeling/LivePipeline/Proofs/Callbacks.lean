import LivePipeline.Proofs.Correspondence.Sequences
import LivePipeline.Proofs.Delivery
import LivePipeline.Proofs.Standards.Evaluation

/-! Callbacks of operations on arrays. An operation asks its callback about one element after the other, whatever it
answers, and looks at the answers when it has them all. Where an answer depends on nothing but the element and its place,
what is kept by a filter tells what it comes to when an element is looked for, or when some or all of them have to
be right. -/

namespace LivePipeline

/-- The other data is the same but for the identities that were drawn for it. -/
def Data.Resembles (data other : Data) : Prop :=
  ∃ numbers : Nat → Nat, Function.Injective numbers ∧ other = data.rename (EntityId.renumber numbers)

namespace Data.Resembles

variable {data other : Data}

theorem refl (data : Data) : data.Resembles data := by
  have same : EntityId.renumber (fun number => number) = fun id => id := funext fun _ => EntityId.renumber_eq_self fun _ _ => rfl
  exact ⟨fun number => number, Function.injective_id, by rw [same, Data.rename_self]⟩

theorem isError (resembles : data.Resembles other) : other.isError = data.isError := by
  obtain ⟨numbers, -, rfl⟩ := resembles
  exact Data.rename_isError _ _

theorem saysYes_eq (resembles : data.Resembles other) : Operation.saysYes other = Operation.saysYes data := by
  obtain ⟨numbers, -, rfl⟩ := resembles
  rw [Operation.saysYes, Operation.saysYes, Data.rename_bool?]

end Data.Resembles

/-- The data is the boolean, by its type and by its value. -/
def Data.IsBoolean (data : Data) (value : Bool) : Prop := data.type = .boolean ∧ data.value = .boolean value

namespace Data.IsBoolean

variable {data : Data} {value other : Bool}

theorem isError (holds : data.IsBoolean value) : data.isError = false := by
  rw [Data.isError, holds.2, holds.1]
  rfl

theorem unique (holds : data.IsBoolean value) (holds' : data.IsBoolean other) : value = other :=
  Value.boolean.inj (holds.2.symm.trans holds'.2)

end Data.IsBoolean

namespace Operation

variable {question : Statement × Nat → Run Data} {entries : List (Statement × Nat)} {world world' last last' : World}
  {answers answers' : List Data} {kind : World → Prop} {caller : Caller} {scope : Scope} {data operation result : Data}
  {more : List Data} {items kept : List Statement} {pairs pairs' : List (Statement × Data)} {bound : Nat}

/-! ## Asking -/

/-- Calls the callback with an element and its place, for which a number is made. -/
def ask (caller : Caller) (scope : Scope) (operation : Data) (entry : Statement × Nat) : Run Data := do
  let index ← (Data.number (Float.ofNat entry.2) : Run Data)
  caller scope operation [entry.1.data, index]

/-- The question is put once for each entry, in the world that the one before has left. -/
inductive Asked (question : Statement × Nat → Run Data) : List (Statement × Nat) → World → List Data → World → Prop
  | done (world : World) : Asked question [] world [] world
  | next {entry : Statement × Nat} {rest : List (Statement × Nat)} {world last : World} {answers : List Data} :
    Asked question rest (question entry world).2 answers last →
      Asked question (entry :: rest) world ((question entry world).1 :: answers) last

/-- In worlds of a kind that the question does not leave, its answers for an entry are the same but for new identities. -/
structure Steady (kind : World → Prop) (question : Statement × Nat → Run Data) (entries : List (Statement × Nat)) : Prop where
  stays : ∀ entry ∈ entries, ∀ world, kind world → kind (question entry world).2
  agrees : ∀ entry ∈ entries, ∀ world world', kind world → kind world' →
    (question entry world).1.Resembles (question entry world').1

theorem Steady.tail {entry : Statement × Nat} (steady : Steady kind question (entry :: entries)) : Steady kind question entries :=
  ⟨fun other among => steady.stays other (.tail _ among), fun other among => steady.agrees other (.tail _ among)⟩

namespace Asked

theorem mapM (question : Statement × Nat → Run Data) (entries : List (Statement × Nat)) (world : World) :
    Asked question entries world (entries.mapM question world).1 (entries.mapM question world).2 := by
  induction entries generalizing world with
  | nil => exact .done world
  | cons entry rest ih =>
    rw [List.mapM_cons]
    exact .next (ih (question entry world).2)

theorem length (asked : Asked question entries world answers last) : answers.length = entries.length := by
  induction asked with
  | done => rfl
  | next _ ih => exact congrArg Nat.succ ih

theorem grows (each : ∀ entry world, world.nextId ≤ (question entry world).2.nextId)
    (asked : Asked question entries world answers last) : world.nextId ≤ last.nextId := by
  induction asked with
  | done => exact Nat.le_refl _
  | next _ ih => exact Nat.le_trans (each _ _) ih

theorem length_items (asked : Asked question items.zipIdx world answers last) : answers.length = items.length :=
  asked.length.trans List.length_zipIdx

theorem map_fst_zip (asked : Asked question items.zipIdx world answers last) : (items.zip answers).map (·.1) = items :=
  List.map_fst_zip (Nat.le_of_eq asked.length_items.symm)

/-- Answers to the same questions belong to the same elements. -/
theorem zip_resembles (asked : Asked question items.zipIdx world answers last) (alike : List.Forall₂ Data.Resembles answers answers') :
    List.Forall₂ (fun pair answer => pair.2.Resembles answer) (items.zip answers) answers' := by
  rwa [← List.map_snd_zip (Nat.le_of_eq asked.length_items), List.forall₂_map_left_iff] at alike

/-- The answers to the same questions in two worlds. -/
theorem resemble (steady : Steady kind question entries) (asked : Asked question entries world answers last)
    (asked' : Asked question entries world' answers' last') (fits : kind world) (fits' : kind world') :
    List.Forall₂ Data.Resembles answers answers' := by
  induction asked generalizing world' answers' last' with
  | done =>
    cases asked'
    exact .nil
  | @next entry rest world last answers _ ih =>
    cases asked' with
    | next behind =>
      have stays := steady.stays entry (.head _)
      have agrees := steady.agrees entry (.head _) _ _ fits fits'
      exact .cons agrees (ih steady.tail behind (stays _ fits) (stays _ fits'))

end Asked

/-! ## Looking at the answers -/

/-- Asks about all elements first. -/
def fanOut (question : Statement × Nat → Run Data) (items : List Statement) (finish : List Data → Attempt α) : Attempt α := do
  let answers ← (items.zipIdx.mapM question : Run (List Data))
  finish answers

theorem fanOut_run (question : Statement × Nat → Run Data) (items : List Statement) (finish : List Data → Attempt α) (world : World) :
    ∃ answers last, Asked question items.zipIdx world answers last ∧
      (fanOut question items finish).run world = (finish answers).run last :=
  ⟨_, _, Asked.mapM question items.zipIdx world, ExceptT.bind_answered (ExceptT.lift_answered rfl) finish⟩

/-- Behind the questions nothing happens but that identities are drawn. -/
theorem fanOut_delivers {finish : List Data → Attempt α} {good : List Data → α → Prop}
    (delivers : ∀ answers, (finish answers).Delivers (good answers)) (question : Statement × Nat → Run Data)
    (items : List Statement) (world : World) : ∃ answers last result next, Asked question items.zipIdx world answers last ∧
      (fanOut question items finish).run world = (.ok result, { last with nextId := next }) ∧ last.nextId ≤ next ∧
      good answers result := by
  obtain ⟨answers, last, asked, ran⟩ := fanOut_run question items finish world
  obtain ⟨result, next, ends, grows, holds⟩ := delivers answers last
  exact ⟨answers, last, result, next, asked, ran.trans ends, grows, holds⟩

/-- An error, or a yes. -/
def finds (answer : Data) : Bool := answer.isError || saysYes answer

/-- An error, or anything but a yes. -/
def refutes (answer : Data) : Bool := answer.isError || !saysYes answer

/-- The first answer that decides, if it is an error, else a boolean. -/
def settle (decides : Data → Bool) (found otherwise : Bool) (answers : List Data) : Attempt Data :=
  match answers.find? decides with
  | some answer => if answer.isError then return answer else Data.boolean found
  | none => Data.boolean otherwise

theorem finds_eq {other : Data} (resembles : data.Resembles other) : finds other = finds data := by
  rw [finds, finds, resembles.isError, resembles.saysYes_eq]

theorem refutes_eq {other : Data} (resembles : data.Resembles other) : refutes other = refutes data := by
  rw [refutes, refutes, resembles.isError, resembles.saysYes_eq]

/-- The element that the first yes is for, or the first error. -/
def pick (pairs : List (Statement × Data)) : Attempt Data :=
  match pairs.find? fun pair => finds pair.2 with
  | some (item, answer) => return if answer.isError then answer else item.data
  | none => Data.undefined

/-- What is kept for the pairs, as an array like the data. -/
def sift (data : Data) (pairs : List (Statement × Data)) : Attempt Data := do
  let kept ← (keepAnswered pairs : Attempt (List Statement))
  withItems data kept

section

variable (received : data.items? = some items) (callable : operation.isOperation = true)

include received callable

theorem asks_eq (name label : String) (finish : Data → List Data → Attempt α) :
    (do
      let argument ← first name (operation :: more)
      let operation ← expectOperation name argument
      let items ← expectItems label data
      let results ← callEach caller scope operation items
      finish operation results) = fanOut (ask caller scope operation) items (finish operation) := by
  have called : expectOperation name operation = .ok operation := if_pos callable
  have given : expectItems label data = .ok items := expect_ok received .array label
  rw [Attempt.read_eq (show first name (operation :: more) = .ok operation from rfl), Attempt.read_eq called, Attempt.read_eq given]
  rfl

theorem answered_eq (name : String) : answered name caller scope data (operation :: more)
    = fanOut (ask caller scope operation) items fun answers => return items.zip answers := by
  have called : expectOperation name operation = .ok operation := if_pos callable
  have given : expectItems name data = .ok items := expect_ok received .array name
  rw [answered, Attempt.read_eq (show first name (operation :: more) = .ok operation from rfl), Attempt.read_eq called,
    Attempt.read_eq given]
  rfl

theorem mapSequence_eq : mapSequence caller scope data (operation :: more)
    = fanOut (ask caller scope operation) items fun answers => Data.array answers (declaredResult operation.type) :=
  asks_eq received callable "map" "callback" fun operation results => Data.array results (declaredResult operation.type)

theorem filterSequence_eq : filterSequence caller scope data (operation :: more)
    = fanOut (ask caller scope operation) items fun answers => sift data (items.zip answers) := by
  rw [filterSequence, answered_eq received callable, fanOut, bind_assoc]
  rfl

theorem findElement_eq : findElement caller scope data (operation :: more)
    = fanOut (ask caller scope operation) items fun answers => pick (items.zip answers) := by
  rw [findElement, answered_eq received callable, fanOut, bind_assoc]
  rfl

theorem someElement_eq : someElement caller scope data (operation :: more)
    = fanOut (ask caller scope operation) items (settle finds true false) :=
  asks_eq received callable "some" "callback" fun _ => settle finds true false

theorem everyElement_eq : everyElement caller scope data (operation :: more)
    = fanOut (ask caller scope operation) items (settle refutes false true) :=
  asks_eq received callable "every" "callback" fun _ => settle refutes false true

end

theorem settle_delivers (decides : Data → Bool) (found otherwise : Bool) (answers : List Data) :
    (settle decides found otherwise answers).Delivers fun result => match answers.find? decides with
      | some answer => if answer.isError then result = answer else result.IsBoolean found
      | none => result.IsBoolean otherwise := by
  rw [settle]
  cases answers.find? decides with
  | some answer =>
    by_cases error : answer.isError
    · simp only [error, if_true]
      exact .pure rfl
    · simp only [error]
      exact .make fun _ => ⟨rfl, rfl⟩
  | none => exact .make fun _ => ⟨rfl, rfl⟩

theorem pick_delivers (pairs : List (Statement × Data)) :
    (pick pairs).Delivers fun result => match pairs.find? fun pair => finds pair.2 with
      | some (item, answer) => result = if answer.isError then answer else item.data
      | none => result.value = .undefined := by
  rw [pick]
  cases pairs.find? fun pair => finds pair.2 with
  | some pair => exact .pure rfl
  | none => exact .make fun _ => rfl

theorem sift_delivers (data : Data) (pairs : List (Statement × Data)) : (sift data pairs).Delivers fun _ => True := by
  have keeps : Attempt.Delivers (liftM (keepAnswered pairs)) fun _ => True := .build (.keepAnswered pairs) fun _ => trivial
  exact .bind keeps fun kept _ => .build (.withItems data kept) fun _ => trivial

/-- What is kept for the pairs of an element and the answer for it: a new statement for each error, and the elements with a yes. -/
inductive Kept (bound : Nat) : List (Statement × Data) → List Statement → Prop
  | nil : Kept bound [] []
  | error {item statement : Statement} {answer : Data} {pairs : List (Statement × Data)} {kept : List Statement} :
    answer.isError = true → statement.data = answer → ¬ statement.id.Below bound → Kept bound pairs kept →
      Kept bound ((item, answer) :: pairs) (statement :: kept)
  | yes {item : Statement} {answer : Data} {pairs : List (Statement × Data)} {kept : List Statement} :
    answer.isError = false → saysYes answer = true → Kept bound pairs kept → Kept bound ((item, answer) :: pairs) (item :: kept)
  | other {item : Statement} {answer : Data} {pairs : List (Statement × Data)} {kept : List Statement} :
    answer.isError = false → saysYes answer = false → Kept bound pairs kept → Kept bound ((item, answer) :: pairs) kept

theorem keepAnswered_kept (pairs : List (Statement × Data)) {number : Nat} (drawn : bound ≤ number) :
    Kept bound pairs ((keepAnswered pairs).run number).1 := by
  induction pairs generalizing number with
  | nil => exact .nil
  | cons pair rest ih =>
    obtain ⟨item, answer⟩ := pair
    rw [keepAnswered]
    split
    · next error =>
      have apart : ¬ (EntityId.drawn number).Below bound := by
        rw [EntityId.below_drawn]
        omega
      exact .error error rfl apart (ih (Nat.le_succ_of_le drawn))
    · next error =>
      have noError : answer.isError = false := Bool.eq_false_iff.mpr error
      cases yes : saysYes answer with
      | true => exact .yes noError yes (ih drawn)
      | false => exact .other noError yes (ih drawn)

namespace Kept

theorem length_le (known : Kept bound pairs kept) : kept.length ≤ pairs.length := by
  induction known with
  | nil => exact Nat.le_refl _
  | error _ _ _ _ ih | yes _ _ _ ih => exact Nat.succ_le_succ ih
  | other _ _ _ ih => exact Nat.le_succ_of_le ih

/-- The first one that is kept. -/
theorem head (known : Kept bound pairs kept) : match pairs.find? fun pair => finds pair.2 with
    | some (item, answer) => ∃ first rest, kept = first :: rest ∧
      if answer.isError then first.data = answer ∧ ¬ first.id.Below bound else first = item
    | none => kept = [] := by
  induction known with
  | nil => rfl
  | @error item statement answer pairs kept error same apart _ _ =>
    have decides : finds answer = true := by rw [finds, error, Bool.true_or]
    simp only [List.find?_cons, decides, error, if_true]
    exact ⟨statement, kept, rfl, same, apart⟩
  | @yes item answer pairs kept noError yes _ _ =>
    have decides : finds answer = true := by rw [finds, yes, Bool.or_true]
    simp only [List.find?_cons, decides, noError]
    exact ⟨item, kept, rfl, rfl⟩
  | @other item answer pairs kept noError no _ ih =>
    have passes : finds answer = false := by rw [finds, noError, no]; rfl
    simp only [List.find?_cons, passes]
    exact ih

/-- All elements are kept just when no answer refutes. -/
theorem all_iff (known : Kept bound pairs kept) (below : ∀ pair ∈ pairs, pair.1.id.Below bound) :
    kept = pairs.map (·.1) ↔ ∀ pair ∈ pairs, refutes pair.2 = false := by
  induction known with
  | nil => simp
  | @error item statement answer pairs kept error _ apart _ _ =>
    obtain ⟨own, -⟩ := List.forall_mem_cons.mp below
    apply iff_of_false
    · -- the statement of the error is new, and the element is old
      intro same
      rw [List.map_cons, List.cons.injEq] at same
      exact apart (same.1 ▸ own)
    · intro none
      have passes := none _ (.head _)
      rw [refutes, error, Bool.true_or] at passes
      cases passes
  | @yes item answer pairs kept noError yes _ ih =>
    obtain ⟨-, others⟩ := List.forall_mem_cons.mp below
    have passes : refutes answer = false := by rw [refutes, noError, yes]; rfl
    rw [List.map_cons, List.cons.injEq, List.forall_mem_cons, ih others]
    exact and_congr_left' (iff_of_true rfl passes)
  | @other item answer pairs kept noError no known _ =>
    apply iff_of_false
    · -- the elements behind cannot make up for the one that is left out
      intro same
      have short := known.length_le
      rw [same, List.length_map, List.length_cons] at short
      omega
    · intro none
      have passes := none _ (.head _)
      rw [refutes, noError, no] at passes
      cases passes

/-! ## The same questions in another world -/

/-- What is picked is the data of what is kept first. -/
theorem picked (known : Kept bound pairs kept)
    (same : List.Forall₂ (fun pair pair' => pair'.1 = pair.1 ∧ pair.2.Resembles pair'.2) pairs pairs')
    (picks : match pairs'.find? fun pair => finds pair.2 with
      | some (item, answer) => result = if answer.isError then answer else item.data
      | none => result.value = .undefined) :
    (kept = [] → result.value = .undefined) ∧ ∀ first rest, kept = first :: rest → first.data.Resembles result := by
  have first := known.head
  have related := forall₂_find? (fun _ _ related => finds_eq related.2) same
  generalize pairs.find? (fun pair => finds pair.2) = found at first related
  generalize pairs'.find? (fun pair => finds pair.2) = found' at picks related
  cases related with
  | none =>
    subst first
    exact ⟨fun _ => picks, fun _ _ absent => nomatch absent⟩
  | @some pair pair' related =>
    obtain ⟨item, answer⟩ := pair
    obtain ⟨_, answer'⟩ := pair'
    obtain ⟨rfl, resembles⟩ := related
    obtain ⟨first, rest, rfl, stands⟩ := first
    have errors : answer'.isError = answer.isError := resembles.isError
    subst picks
    refine ⟨fun absent => absurd absent (List.cons_ne_nil _ _), ?_⟩
    rintro _ _ ⟨⟩
    by_cases error : answer.isError
    · rw [if_pos error] at stands
      simp only [errors, error, if_true, stands.1]
      exact resembles
    · rw [if_neg error] at stands
      simp only [errors, error, stands]
      exact .refl _

/-- Whether there is a yes is told by what is kept first, if anything is. -/
theorem settled (known : Kept bound pairs kept) (below : ∀ pair ∈ pairs, pair.1.id.Below bound)
    (same : List.Forall₂ (fun pair answer => pair.2.Resembles answer) pairs answers)
    (settles : match answers.find? finds with
      | some answer => if answer.isError then result = answer else result.IsBoolean true
      | none => result.IsBoolean false) :
    (result.IsBoolean false ↔ kept = []) ∧ ∀ first rest, kept = first :: rest →
      (first ∈ pairs.map (·.1) → result.IsBoolean true) ∧
      (first ∉ pairs.map (·.1) → first.data.isError = true ∧ first.data.Resembles result) := by
  have first := known.head
  have listed : ∀ item answer, pairs.find? (fun pair => finds pair.2) = some (item, answer) → item ∈ pairs.map (·.1) :=
    fun item answer found => List.mem_map_of_mem (List.mem_of_find?_eq_some found)
  have related := forall₂_find? (fun _ _ related => finds_eq related) same
  generalize pairs.find? (fun pair => finds pair.2) = found at first related listed
  generalize answers.find? finds = found' at settles related
  cases related with
  | none =>
    subst first
    exact ⟨iff_of_true settles rfl, fun _ _ absent => nomatch absent⟩
  | @some pair answer' resembles =>
    obtain ⟨item, answer⟩ := pair
    obtain ⟨first, rest, rfl, stands⟩ := first
    have errors : answer'.isError = answer.isError := resembles.isError
    by_cases error : answer.isError
    · rw [if_pos error] at stands
      simp only [errors, error, if_true] at settles
      subst settles
      refine ⟨iff_of_false (fun boolean => ?_) (List.cons_ne_nil _ _), ?_⟩
      · rw [← errors, boolean.isError] at error
        cases error
      · rintro _ _ ⟨⟩
        obtain ⟨rfl, apart⟩ := stands
        -- what stands for an error is new, so it is none of the elements
        refine ⟨fun among => absurd ?_ apart, fun _ => ⟨error, resembles⟩⟩
        obtain ⟨pair, paired, same⟩ := List.mem_map.mp among
        exact same ▸ below pair paired
    · rw [if_neg error] at stands
      simp only [errors, error] at settles
      subst stands
      refine ⟨iff_of_false (fun boolean => ?_) (List.cons_ne_nil _ _), ?_⟩
      · cases boolean.unique settles
      · rintro _ _ ⟨⟩
        exact ⟨fun _ => settles, fun absent => absurd (listed _ _ rfl) absent⟩

/-- Whether all answers are a yes is told by whether all elements are kept. -/
theorem agreed (known : Kept bound pairs kept) (below : ∀ pair ∈ pairs, pair.1.id.Below bound)
    (same : List.Forall₂ (fun pair answer => pair.2.Resembles answer) pairs answers)
    (settles : match answers.find? refutes with
      | some answer => if answer.isError then result = answer else result.IsBoolean false
      | none => result.IsBoolean true) :
    (result.IsBoolean true ↔ kept = pairs.map (·.1)) ∧ (kept ≠ pairs.map (·.1) → ∃ first, answers.find? refutes = some first ∧
      if first.isError then result = first else result.IsBoolean false) := by
  have every := known.all_iff below
  have related := forall₂_find? (fun _ _ related => refutes_eq related) same
  have none_iff : pairs.find? (fun pair => refutes pair.2) = none ↔ kept = pairs.map (·.1) := by
    rw [every, List.find?_eq_none]
    simp
  generalize pairs.find? (fun pair => refutes pair.2) = found at none_iff related
  generalize answers.find? refutes = found' at settles related ⊢
  cases related with
  | none =>
    have all := none_iff.mp rfl
    exact ⟨iff_of_true settles all, fun some => absurd all some⟩
  | @some pair answer resembles =>
    refine ⟨iff_of_false (fun boolean => ?_) (fun all => nomatch none_iff.mpr all), fun _ => ⟨answer, rfl, settles⟩⟩
    by_cases error : answer.isError
    · simp only [error, if_true] at settles
      rw [← settles, boolean.isError] at error
      cases error
    · simp only [error] at settles
      cases boolean.unique settles

end Kept

/-! ## The operations -/

section

variable (received : data.items? = some items) (callable : operation.isOperation = true)

include received callable

/-- Every element is asked about once, and then only identities are drawn. -/
theorem asks_once : ∀ handler ∈ [mapSequence, filterSequence, findElement, someElement, everyElement], ∀ world,
    ∃ answers last result next, Asked (ask caller scope operation) items.zipIdx world answers last ∧
      (handler caller scope data (operation :: more)).run world = (.ok result, { last with nextId := next }) ∧
      last.nextId ≤ next := by
  have once {finish : List Data → Attempt Data} {good : List Data → Data → Prop}
      (delivers : ∀ answers, (finish answers).Delivers (good answers)) (world : World) :
      ∃ answers last result next, Asked (ask caller scope operation) items.zipIdx world answers last ∧
        (fanOut (ask caller scope operation) items finish).run world = (.ok result, { last with nextId := next }) ∧
        last.nextId ≤ next := by
    obtain ⟨answers, last, result, next, asked, ran, grows, -⟩ := fanOut_delivers delivers (ask caller scope operation) items world
    exact ⟨answers, last, result, next, asked, ran, grows⟩
  simp only [List.forall_mem_cons, mapSequence_eq received callable, filterSequence_eq received callable,
    findElement_eq received callable, someElement_eq received callable, everyElement_eq received callable]
  exact ⟨once fun answers => .array answers _, once fun answers => sift_delivers data _, once fun answers => pick_delivers _,
    once (settle_delivers _ _ _), once (settle_delivers _ _ _), List.forall_mem_nil _⟩

theorem filterSequence_keeps (grows : ∀ entry world, world.nextId ≤ (ask caller scope operation entry world).2.nextId) (world : World) :
    ∃ filtered kept answers last, ((filterSequence caller scope data (operation :: more)).run world).1 = .ok filtered ∧
      filtered.items? = some kept ∧ Asked (ask caller scope operation) items.zipIdx world answers last ∧
      Kept world.nextId (items.zip answers) kept := by
  obtain ⟨answers, last, asked, ran⟩ := fanOut_run (ask caller scope operation) items (fun answers => sift data (items.zip answers)) world
  rw [filterSequence_eq received callable, ran]
  exact ⟨_, _, answers, last, rfl, rfl, asked, keepAnswered_kept (items.zip answers) (asked.grows grows)⟩

/-! ### Behind a filter -/

variable (asked : Asked (ask caller scope operation) items.zipIdx world answers last)
  (known : Kept bound (items.zip answers) kept) (steady : Steady kind (ask caller scope operation) items.zipIdx)
  (fits : kind world) (fits' : kind world')

include asked known steady fits fits'

theorem findElement_agrees : ∃ found, ((findElement caller scope data (operation :: more)).run world').1 = .ok found ∧
    (kept = [] → found.value = .undefined) ∧ ∀ first rest, kept = first :: rest → first.data.Resembles found := by
  obtain ⟨answers', last', found, next, asked', ran, -, picks⟩ :=
    fanOut_delivers (fun answers => pick_delivers (items.zip answers)) (ask caller scope operation) items world'
  have alike := asked.resemble steady asked' fits fits'
  have itself : List.Forall₂ (fun item item' : Statement => item' = item) items items := List.forall₂_same.mpr fun _ _ => rfl
  rw [findElement_eq received callable, ran]
  exact ⟨found, rfl, known.picked (forall₂_zip itself alike) picks⟩

variable (below : ∀ item ∈ items, item.id.Below bound)

include below

theorem someElement_agrees : ∃ answer, ((someElement caller scope data (operation :: more)).run world').1 = .ok answer ∧
    (answer.IsBoolean false ↔ kept = []) ∧ ∀ first rest, kept = first :: rest →
      (first ∈ items → answer.IsBoolean true) ∧
      (first ∉ items → first.data.isError = true ∧ first.data.Resembles answer) := by
  obtain ⟨answers', last', answer, next, asked', ran, -, settles⟩ :=
    fanOut_delivers (settle_delivers finds true false) (ask caller scope operation) items world'
  have listed := asked.map_fst_zip
  have within : ∀ pair ∈ items.zip answers, pair.1.id.Below bound := fun pair among => below _ (List.of_mem_zip among).1
  have same := asked.zip_resembles (asked.resemble steady asked' fits fits')
  have told := known.settled within same settles
  rw [listed] at told
  rw [someElement_eq received callable, ran]
  exact ⟨answer, rfl, told⟩

theorem everyElement_agrees : ∃ answer answers' last', Asked (ask caller scope operation) items.zipIdx world' answers' last' ∧
    ((everyElement caller scope data (operation :: more)).run world').1 = .ok answer ∧
    (answer.IsBoolean true ↔ kept = items) ∧ (kept ≠ items → ∃ first, answers'.find? refutes = some first ∧
      if first.isError then answer = first else answer.IsBoolean false) := by
  obtain ⟨answers', last', answer, next, asked', ran, -, settles⟩ :=
    fanOut_delivers (settle_delivers refutes false true) (ask caller scope operation) items world'
  have listed := asked.map_fst_zip
  have within : ∀ pair ∈ items.zip answers, pair.1.id.Below bound := fun pair among => below _ (List.of_mem_zip among).1
  have same := asked.zip_resembles (asked.resemble steady asked' fits fits')
  have told := known.agreed within same settles
  rw [listed] at told
  rw [everyElement_eq received callable, ran]
  exact ⟨answer, answers', last', asked', rfl, told⟩

end

end Operation

/-! ## Identities of calls -/

/-- Whatever is done, the identities below the bound are drawn already. -/
def Standard.beyond (bound : Nat) : Standard where
  data _ := True
  child _ := True
  code _ := True
  world world := bound ≤ world.nextId
  leaf _ _ _ _ := trivial
  array := by simp
  record := by simp
  operation _ _ _ _ _ _ := trivial
  retyped _ _ _ := trivial
  held _ := trivial
  bare _ _ _ _ _ := trivial
  drawn _ _ := trivial
  draws drawn grows := Nat.le_trans drawn grows
  observes _ drawn := drawn
  records _ drawn _ _ := drawn
  remembers _ drawn _ := drawn
  places _ drawn _ := drawn
  remembered _ _ := trivial
  answers {_ _ external} _ _ := by
    cases external with
    | promise state => cases state <;> trivial
    | _ => trivial

theorem callerWithin_grows (levels : Nat) (scope : Scope) (operation : Data) (arguments : List Data) (world : World) :
    world.nextId ≤ (callerWithin levels scope operation arguments world).2.nextId := by
  have opens : (Standard.beyond world.nextId).Opens := fun _ _ _ _ _ => trivial
  have provides : scope.Provides (.beyond world.nextId) := ⟨fun _ _ => trivial, fun _ _ _ _ _ _ _ _ => trivial, fun _ _ => trivial⟩
  exact (callerWithin_upholds opens levels scope operation arguments provides trivial (fun _ _ => trivial) world (Nat.le_refl _)).1

open Operation in
/-- Each operation asks its callback about every element once, from the first to the last, with the element and its
place, and does no more than draw identities then. Where a callback's answers depend on nothing else, and the identities of the
elements are old, what `filter` keeps tells what the others come to in any world. What `find` finds is the data of
the first statement that is kept, and nothing if none is. For `some` it is false just when none is kept; otherwise the
first one is an element, and it is true, or it stands for an error, and that is the result. For `every` it is true just when
the elements are kept as they are; otherwise the first answer that is no yes is the result if it is an error, and else
it is false. -/
theorem callbacks_agree (levels : Nat) (scope : Scope) {data operation : Data} {items : List Statement}
    (received : data.items? = some items) (callable : operation.isOperation = true) (more : List Data) :
    (∀ caller, ∀ handler ∈ [mapSequence, filterSequence, findElement, someElement, everyElement], ∀ world,
      ∃ answers last result next, Asked (ask caller scope operation) items.zipIdx world answers last ∧
        (handler caller scope data (operation :: more)).run world = (.ok result, { last with nextId := next }) ∧
        last.nextId ≤ next) ∧
    ∀ kind world, Steady kind (ask (callerWithin levels) scope operation) items.zipIdx → kind world →
      (∀ item ∈ items, item.id.Below world.nextId) →
      ∃ filtered kept, ((filterSequence (callerWithin levels) scope data (operation :: more)).run world).1 = .ok filtered ∧
        filtered.items? = some kept ∧ ∀ world', kind world' →
          (∃ found, ((findElement (callerWithin levels) scope data (operation :: more)).run world').1 = .ok found ∧
            (kept = [] → found.value = .undefined) ∧ ∀ first rest, kept = first :: rest → first.data.Resembles found) ∧
          (∃ answer, ((someElement (callerWithin levels) scope data (operation :: more)).run world').1 = .ok answer ∧
            (answer.IsBoolean false ↔ kept = []) ∧ ∀ first rest, kept = first :: rest →
              (first ∈ items → answer.IsBoolean true) ∧
              (first ∉ items → first.data.isError = true ∧ first.data.Resembles answer)) ∧
          ∃ answer answers last, Asked (ask (callerWithin levels) scope operation) items.zipIdx world' answers last ∧
            ((everyElement (callerWithin levels) scope data (operation :: more)).run world').1 = .ok answer ∧
            (answer.IsBoolean true ↔ kept = items) ∧ (kept ≠ items → ∃ first, answers.find? refutes = some first ∧
              if first.isError then answer = first else answer.IsBoolean false) := by
  refine ⟨fun caller => asks_once received callable, fun kind world steady fits below => ?_⟩
  have grows : ∀ entry world, world.nextId ≤ (ask (callerWithin levels) scope operation entry world).2.nextId :=
    fun entry world => Nat.le_trans (Nat.le_succ _) (callerWithin_grows levels scope operation _ { world with nextId := world.nextId + 1 })
  obtain ⟨filtered, kept, answers, last, ran, held, asked, known⟩ := filterSequence_keeps received callable grows world
  exact ⟨filtered, kept, ran, held, fun world' fits' => ⟨findElement_agrees received callable asked known steady fits fits',
    someElement_agrees received callable asked known steady fits fits' below,
    everyElement_agrees received callable asked known steady fits fits' below⟩⟩

open Operation in
/-- A callback that answers with the element itself: the filter keeps the one that is true. -/
theorem callbacks_agree_itself :
    let no : Statement := ⟨"no", ⟨"false", .boolean, .boolean false⟩, [], none, false⟩
    let yes : Statement := ⟨"yes", ⟨"true", .boolean, .boolean true⟩, [], none, false⟩
    let itself : Data := ⟨"itself", .operation [.named "item" .boolean] .boolean, .operation none
      [⟨"item", ⟨"default", .boolean, .boolean false⟩, [], some "item", false⟩]
      [⟨"body", ⟨"use", .reference .boolean, .reference "item" "item"⟩, [], none, false⟩]⟩
    let both : Data := ⟨"both", .array .boolean, .array [no, yes]⟩
    both.items? = some [no, yes] ∧ itself.isOperation = true ∧
      Steady (fun _ => True) (ask (callerWithin 1) {} itself) [no, yes].zipIdx ∧
      (∀ item ∈ [no, yes], item.id.Below ({} : World).nextId) ∧
      ∀ world, (∃ found, ((findElement (callerWithin 1) {} both [itself]).run world).1 = .ok found ∧ yes.data.Resembles found) ∧
        (∃ answer, ((someElement (callerWithin 1) {} both [itself]).run world).1 = .ok answer ∧ answer.IsBoolean true) ∧
        ∃ answer, ((everyElement (callerWithin 1) {} both [itself]).run world).1 = .ok answer ∧ ¬ answer.IsBoolean true := by
  intro no yes itself both
  have answers : ∀ entry ∈ [no, yes].zipIdx, ∀ world, (ask (callerWithin 1) {} itself entry world).1 = entry.1.data :=
    List.forall_mem_cons.mpr ⟨fun _ => rfl, List.forall_mem_singleton.mpr fun _ => rfl⟩
  have steady : Steady (fun _ => True) (ask (callerWithin 1) {} itself) [no, yes].zipIdx := by
    refine ⟨fun _ _ _ _ => trivial, fun entry among world world' _ _ => ?_⟩
    rw [answers entry among, answers entry among]
    exact .refl _
  have below : ∀ item ∈ [no, yes], item.id.Below ({} : World).nextId :=
    List.forall_mem_cons.mpr ⟨EntityId.below_of_number?_eq_none (by decide +kernel),
      List.forall_mem_singleton.mpr (EntityId.below_of_number?_eq_none (by decide +kernel))⟩
  have received : both.items? = some [no, yes] := rfl
  have callable : itself.isOperation = true := rfl
  obtain ⟨filtered, kept, ran, held, agree⟩ := (callbacks_agree 1 {} received callable []).2 _ {} steady trivial below
  have only : kept = [yes] := by
    cases ran
    exact (Option.some.inj held).symm
  refine ⟨received, callable, steady, below, fun world => ?_⟩
  obtain ⟨⟨found, finds, -, resembles⟩, ⟨some, somes, -, told⟩, ⟨every, _, _, -, everys, all, -⟩⟩ := agree world trivial
  refine ⟨⟨found, finds, resembles yes [] only⟩, ⟨some, somes, (told yes [] only).1 (by simp)⟩, ⟨every, everys, fun boolean => ?_⟩⟩
  have same := congrArg List.length (only.symm.trans (all.mp boolean))
  exact absurd same (by decide)

end LivePipeline
