import LivePipeline.Operation.Sequence
import LivePipeline.Proofs.Chains
import Mathlib.Data.List.Basic

/-! Sorting under any comparison. The comparisons that a sort asks for, and the order in which it asks for them,
depend on the answers only: they are the trace of a merge sort. A sort is the replay of such a trace, up to the
first comparison that fails. What a sort comes to is then shown for traces, where no effects are in the way. -/

namespace LivePipeline

variable {α ε : Type}

/-- A question to the comparison and its answer. -/
structure Comparison (α : Type) where
  left : α
  right : α
  order : Ordering

/-- The merge of two lists, along the answers to the comparisons that it asks for. -/
inductive Merging : List α → List α → List (Comparison α) → List α → Prop
  | left_used (right : List α) : Merging [] right [] right
  | right_used (x : α) (xs : List α) : Merging (x :: xs) [] [] (x :: xs)
  | right_first {x y : α} {xs ys merged : List α} {asked : List (Comparison α)} :
    Merging (x :: xs) ys asked merged → Merging (x :: xs) (y :: ys) (⟨x, y, .gt⟩ :: asked) (y :: merged)
  | left_first {x y : α} {xs ys merged : List α} {asked : List (Comparison α)} {order : Ordering} : order ≠ .gt →
    Merging xs (y :: ys) asked merged → Merging (x :: xs) (y :: ys) (⟨x, y, order⟩ :: asked) (x :: merged)

/-- The sort of a list: of its first half, of its second half, and the merge of what they come to. -/
inductive Sorting : List α → List (Comparison α) → List α → Prop
  | short {items : List α} : items.length ≤ 1 → Sorting items [] items
  | halves {items lefts rights sorted : List α} {first second third : List (Comparison α)} : 1 < items.length →
    Sorting (items.take (items.length / 2)) first lefts → Sorting (items.drop (items.length / 2)) second rights →
    Merging lefts rights third sorted → Sorting items (first ++ (second ++ third)) sorted

/-- The order is a total preorder among the items. -/
structure Preorders (order : α → α → Ordering) (items : List α) : Prop where
  swap : ∀ a ∈ items, ∀ b ∈ items, order b a = (order a b).swap
  trans : ∀ a ∈ items, ∀ b ∈ items, ∀ c ∈ items, order a b ≠ .gt → order b c ≠ .gt → order a c ≠ .gt

/-- Each is at most every later one. -/
def Ascending (order : α → α → Ordering) (items : List α) : Prop := items.Pairwise fun a b => order a b ≠ .gt

/-- The answers are those of one order. -/
def Consistent (order : α → α → Ordering) (asked : List (Comparison α)) : Prop :=
  ∀ comparison ∈ asked, comparison.order = order comparison.left comparison.right

/-- The items that compare equal to one. -/
def equals (order : α → α → Ordering) (item : α) (items : List α) : List α := items.filter fun other => order item other == .eq

namespace Preorders

variable {order : α → α → Ordering} {items : List α} {x y item : α}

theorem self (known : Preorders order items) (present : x ∈ items) : order x x = .eq := by
  have swapped := known.swap x present x present
  cases answer : order x x with
  | eq => rfl
  | lt => rw [answer] at swapped; cases swapped
  | gt => rw [answer] at swapped; cases swapped

theorem turned (known : Preorders order items) (inx : x ∈ items) (iny : y ∈ items) (least : order x y ≠ .lt) :
    order y x ≠ .gt := by
  rw [known.swap x inx y iny]
  cases answer : order x y with
  | lt => exact absurd answer least
  | _ => exact nofun

/-- What is below an element is strictly below all that the element is not above. -/
theorem below (known : Preorders order items) (inx : x ∈ items) (iny : y ∈ items) (present : item ∈ items)
    (greater : order x y = .gt) (upper : order x item ≠ .gt) : order y item = .lt := by
  by_contra other
  exact known.trans x inx item present y iny upper (known.turned iny present other) greater

theorem head (known : Preorders order items) {rest : List α} (inx : x ∈ items) (ascending : Ascending order (x :: rest))
    (among : item ∈ x :: rest) : order x item ≠ .gt := by
  rcases List.mem_cons.mp among with rfl | among
  · rw [known.self inx]
    exact nofun
  · exact List.rel_of_pairwise_cons ascending among

end Preorders

namespace Merging

variable {left right merged : List α} {asked : List (Comparison α)} {order : α → α → Ordering}

theorem perm (merging : Merging left right asked merged) : merged.Perm (left ++ right) := by
  induction merging with
  | left_used right => exact .refl _
  | right_used x xs => rw [List.append_nil]
  | right_first _ ih => exact (ih.cons _).trans List.perm_middle.symm
  | left_first _ _ ih => exact ih.cons _

/-- Every comparison is of an element of the left list with one of the right list. -/
theorem sides (merging : Merging left right asked merged) :
    ∀ comparison ∈ asked, comparison.left ∈ left ∧ comparison.right ∈ right := by
  induction merging with
  | left_used right => nofun
  | right_used x xs => nofun
  | right_first _ ih =>
    refine List.forall_mem_cons.mpr ⟨⟨.head _, .head _⟩, fun comparison among => ?_⟩
    exact ⟨(ih comparison among).1, .tail _ (ih comparison among).2⟩
  | left_first _ _ ih =>
    refine List.forall_mem_cons.mpr ⟨⟨.head _, .head _⟩, fun comparison among => ?_⟩
    exact ⟨.tail _ (ih comparison among).1, (ih comparison among).2⟩

variable {all : List α}

theorem ascending (merging : Merging left right asked merged) (known : Preorders order all) (lefts : left ⊆ all)
    (rights : right ⊆ all) (answers : Consistent order asked) (first : Ascending order left) (second : Ascending order right) :
    Ascending order merged := by
  induction merging with
  | left_used right => exact second
  | right_used x xs => exact first
  | @right_first x y xs ys merged asked rest ih =>
    have inx := lefts (.head _)
    refine List.pairwise_cons.mpr ⟨fun item among => ?_,
      ih lefts (List.subset_of_cons_subset rights) (fun _ among => answers _ (.tail _ among)) first second.of_cons⟩
    rcases List.mem_append.mp (rest.perm.mem_iff.mp among) with among | among
    · rw [known.below inx (rights (.head _)) (lefts among) (answers _ (.head _)).symm (known.head inx first among)]
      exact nofun
    · exact List.rel_of_pairwise_cons second among
  | @left_first x y xs ys merged asked answer upper rest ih =>
    have lower : order x y ≠ .gt := answers _ (.head _) ▸ upper
    have iny := rights (.head _)
    refine List.pairwise_cons.mpr ⟨fun item among => ?_,
      ih (List.subset_of_cons_subset lefts) rights (fun _ among => answers _ (.tail _ among)) first.of_cons second⟩
    rcases List.mem_append.mp (rest.perm.mem_iff.mp among) with among | among
    · exact List.rel_of_pairwise_cons first among
    · exact known.trans x (lefts (.head _)) y iny item (rights among) lower (known.head iny second among)

/-- Of what compares equal, the elements of the left list stay ahead of those of the right list. -/
theorem stable (merging : Merging left right asked merged) (known : Preorders order all) (lefts : left ⊆ all)
    (rights : right ⊆ all) (answers : Consistent order asked) (first : Ascending order left) {item : α} (present : item ∈ all) :
    equals order item merged = equals order item left ++ equals order item right := by
  induction merging with
  | left_used right => rfl
  | right_used x xs => exact (List.append_nil _).symm
  | @right_first x y xs ys merged asked rest ih =>
    have behind := ih lefts (List.subset_of_cons_subset rights) (fun _ among => answers _ (.tail _ among)) first
    by_cases same : order item y = .eq
    · -- all of the left list is above the element that goes first, so none of it compares equal
      have none : equals order item (x :: xs) = [] := by
        refine List.filter_eq_nil_iff.mpr fun other among equal => ?_
        have inx := lefts (.head _)
        have iny := rights (.head _)
        have above := known.below inx iny (lefts among) (answers _ (.head _)).symm (known.head inx first among)
        have equal : order item other = .eq := eq_of_beq equal
        have upper : order item other ≠ .gt := by rw [equal]; exact nofun
        have turned := known.turned present (lefts among) (by rw [equal]; exact nofun)
        refine known.trans other (lefts among) item present y iny turned (by rw [same]; exact nofun) ?_
        rw [known.swap y iny other (lefts among), above]
        rfl
      rw [none] at behind ⊢
      simpa [equals, same] using behind
    · simpa [equals, same] using behind
  | @left_first x y xs ys merged asked answer upper rest ih =>
    have behind := ih (List.subset_of_cons_subset lefts) rights (fun _ among => answers _ (.tail _ among)) first.of_cons
    by_cases same : order item x = .eq
    · simpa [equals, same] using behind
    · simpa [equals, same] using behind

end Merging

namespace Sorting

variable {items sorted : List α} {asked : List (Comparison α)} {order : α → α → Ordering}

theorem perm (sorting : Sorting items asked sorted) : sorted.Perm items := by
  induction sorting with
  | short => exact .refl _
  | @halves items lefts rights sorted first second third long _ _ merging left right =>
    rw [← List.take_append_drop (items.length / 2) items]
    exact merging.perm.trans (left.append right)

/-- What is compared are two elements in the order of the list. -/
theorem pairs (sorting : Sorting items asked sorted) : ∀ comparison ∈ asked, [comparison.left, comparison.right].Sublist items := by
  induction sorting with
  | short => nofun
  | @halves items lefts rights sorted first second third long before behind merging left right =>
    intro comparison among
    rcases List.mem_append.mp among with among | among
    · exact (left comparison among).trans (List.take_sublist _ _)
    rcases List.mem_append.mp among with among | among
    · exact (right comparison among).trans (List.drop_sublist _ _)
    · obtain ⟨inLeft, inRight⟩ := merging.sides comparison among
      rw [← List.take_append_drop (items.length / 2) items]
      exact .append (List.singleton_sublist.mpr (before.perm.mem_iff.mp inLeft)) (List.singleton_sublist.mpr (behind.perm.mem_iff.mp inRight))

theorem single (item : α) : Sorting [item] [] [item] := .short (Nat.le_refl 1)

theorem pair {a b : α} (merging : Merging [a] [b] asked sorted) : Sorting [a, b] asked sorted :=
  @halves α [a, b] [a] [b] sorted [] [] asked Nat.one_lt_two (by simpa using single a) (by simpa using single b) merging

theorem ascending_stable (sorting : Sorting items asked sorted) {all : List α} (known : Preorders order all) (within : items ⊆ all)
    (answers : Consistent order asked) :
    Ascending order sorted ∧ ∀ item ∈ all, equals order item sorted = equals order item items := by
  induction sorting with
  | @short items short =>
    refine ⟨?_, fun _ _ => rfl⟩
    match items, short with
    | [], _ => exact .nil
    | [item], _ => exact List.pairwise_singleton _ _
  | @halves items lefts rights sorted first second third long before behind merging left right =>
    have inTake := List.Subset.trans (List.take_subset (items.length / 2) items) within
    have inDrop := List.Subset.trans (List.drop_subset (items.length / 2) items) within
    obtain ⟨ascending, stable⟩ := left inTake fun _ among => answers _ (List.mem_append_left _ among)
    obtain ⟨ascending', stable'⟩ := right inDrop fun _ among => answers _ (List.mem_append_right _ (List.mem_append_left _ among))
    have answers : Consistent order third := fun _ among => answers _ (List.mem_append_right _ (List.mem_append_right _ among))
    have lefts' := List.Subset.trans before.perm.subset inTake
    have rights' := List.Subset.trans behind.perm.subset inDrop
    refine ⟨merging.ascending known lefts' rights' answers ascending ascending', fun item present => ?_⟩
    calc equals order item sorted
      _ = equals order item lefts ++ equals order item rights := merging.stable known lefts' rights' answers ascending present
      _ = equals order item (items.take _) ++ equals order item (items.drop _) := by rw [stable item present, stable' item present]
      _ = equals order item items := by rw [equals, equals, ← List.filter_append, List.take_append_drop, equals]

end Sorting

/-! ## Replays -/

/-- Comparisons are made one at a time, each in the world that the one before it left: they give the answers of
the trace, up to the first that fails. -/
inductive Replays (compare : α → α → ExceptT ε Run Ordering) : World → List (Comparison α) → Except ε Unit → World → Prop
  | done (world : World) : Replays compare world [] (.ok ()) world
  | answered {world next last : World} {a b : α} {order : Ordering} {rest : List (Comparison α)} {outcome : Except ε Unit} :
    (compare a b).run world = (.ok order, next) → Replays compare next rest outcome last →
    Replays compare world (⟨a, b, order⟩ :: rest) outcome last
  | failed {world last : World} {a b : α} {error : ε} (order : Ordering) (rest : List (Comparison α)) :
    (compare a b).run world = (.error error, last) → Replays compare world (⟨a, b, order⟩ :: rest) (.error error) last

section

variable {compare : α → α → ExceptT ε Run Ordering} {world last : World} {items sorted left right merged : List α}
  {asked first second : List (Comparison α)} {outcome : Except ε Unit}

/-- Two traces after one another are replayed one after the other. -/
theorem Replays.split (replays : Replays compare world (first ++ second) outcome last) :
    (∃ middle, Replays compare world first (.ok ()) middle ∧ Replays compare middle second outcome last) ∨
      ∃ error, outcome = .error error ∧ Replays compare world first (.error error) last := by
  induction first generalizing world with
  | nil => exact .inl ⟨world, .done world, replays⟩
  | cons comparison rest ih =>
    cases replays with
    | failed order _ failed => exact .inr ⟨_, rfl, .failed order rest failed⟩
    | answered answer behind =>
      rcases ih behind with ⟨middle, reached, behind⟩ | ⟨error, same, failed⟩
      · exact .inl ⟨middle, .answered answer reached, behind⟩
      · exact .inr ⟨error, same, .answered answer failed⟩

theorem Replays.append {middle : World} (before : Replays compare world first (.ok ()) middle)
    (behind : Replays compare middle second outcome last) : Replays compare world (first ++ second) outcome last := by
  generalize reached : (.ok () : Except ε Unit) = ok at before
  induction before with
  | done => exact behind
  | answered answer _ ih => exact .answered answer (ih behind reached)
  | failed => cases reached

theorem Replays.append_failed {error : ε} (before : Replays compare world first (.error error) last)
    (second : List (Comparison α)) : Replays compare world (first ++ second) (.error error) last := by
  generalize reached : (.error error : Except ε Unit) = failure at before
  induction before with
  | done => cases reached
  | answered answer _ ih => exact .answered answer (ih reached)
  | failed order rest failed => exact .failed order _ failed

/-- A failed comparison ends the work, and nothing comes after it. -/
theorem ExceptT.bind_failed {β : Type} {work : ExceptT ε Run α} {error : ε} (failed : work.run world = (.error error, last))
    (next : α → ExceptT ε Run β) : (work >>= next).run world = (.error error, last) := by
  change (work.run >>= ExceptT.bindCont next) world = _
  rw [Run.bind_eq failed]
  rfl

theorem ExceptT.bind_answered {β : Type} {work : ExceptT ε Run α} {value : α} {middle : World}
    (answered : work.run world = (.ok value, middle)) (next : α → ExceptT ε Run β) :
    (work >>= next).run world = (next value).run middle := by
  change (work.run >>= ExceptT.bindCont next) world = _
  rw [Run.bind_eq answered]
  rfl

theorem ExceptT.lift_answered {run : Run α} {value : α} (came : run world = (value, last)) :
    (liftM run : ExceptT ε Run α).run world = (.ok value, last) := by
  change (Except.ok (run world).1, (run world).2) = _
  rw [came]

theorem ExceptT.bind_return {β : Type} {work : ExceptT ε Run α} {value : α}
    (comes : work.run world = (outcome.map fun _ => value, last)) (shape : α → β) :
    (do return shape (← work) : ExceptT ε Run β).run world = (outcome.map fun _ => shape value, last) := by
  cases outcome with
  | error error => exact ExceptT.bind_failed comes _
  | ok _ => exact ExceptT.bind_answered comes _

/-- A merge is the replay of its trace. -/
theorem Merging.runs (merging : Merging left right asked merged) (replays : Replays compare world asked outcome last) :
    (mergeM compare left right).run world = (outcome.map fun _ => merged, last) := by
  induction merging generalizing world with
  | left_used right =>
    cases replays
    rw [mergeM]
    rfl
  | right_used x xs =>
    cases replays
    rw [mergeM]
    rfl
  | right_first merging ih =>
    rw [mergeM]
    cases replays with
    | failed _ _ failed => exact ExceptT.bind_failed failed _
    | answered answer behind =>
      rw [ExceptT.bind_answered answer]
      exact ExceptT.bind_return (ih behind) _
  | @left_first x y xs ys merged asked order upper merging ih =>
    rw [mergeM]
    cases replays with
    | failed _ _ failed => exact ExceptT.bind_failed failed _
    | answered answer behind =>
      rw [ExceptT.bind_answered answer]
      cases order with
      | gt => exact absurd rfl upper
      | _ => exact ExceptT.bind_return (ih behind) _

/-- A sort is the replay of its trace. -/
theorem Sorting.runs (sorting : Sorting items asked sorted) (replays : Replays compare world asked outcome last) :
    (mergeSortM compare items).run world = (outcome.map fun _ => sorted, last) := by
  induction sorting generalizing world outcome last with
  | short short =>
    cases replays
    rw [mergeSortM, if_pos short]
    rfl
  | halves long _ _ merging left right =>
    rw [mergeSortM, if_neg (Nat.not_le.mpr long)]
    rcases replays.split with ⟨middle, before, behind⟩ | ⟨error, rfl, failed⟩
    · have answered := left before
      rw [ExceptT.bind_answered answered]
      rcases behind.split with ⟨middle, before, behind⟩ | ⟨error, rfl, failed⟩
      · have answered := right before
        rw [ExceptT.bind_answered answered]
        exact merging.runs behind
      · exact ExceptT.bind_failed (right failed) _
    · exact ExceptT.bind_failed (left failed) _

theorem Merging.replayed (compare : α → α → ExceptT ε Run Ordering) (left right : List α) (world : World) :
    ∃ asked merged outcome last, Merging left right asked merged ∧ Replays compare world asked outcome last := by
  induction left, right using mergeM.induct generalizing world with
  | case1 right => exact ⟨_, _, _, _, .left_used right, .done world⟩
  | case2 x xs => exact ⟨_, _, _, _, .right_used x xs, .done world⟩
  | case3 x xs y ys later earlier =>
    cases found : (compare x y).run world with
    | mk answer next =>
      obtain ⟨asked, merged, outcome, last, merging, replays⟩ := earlier next
      cases answer with
      | error error =>
        have upper : Ordering.eq ≠ .gt := nofun
        exact ⟨_, _, _, _, .left_first upper merging, .failed _ _ found⟩
      | ok order =>
        by_cases greater : order = .gt
        · obtain ⟨asked, merged, outcome, last, merging, replays⟩ := later next
          exact ⟨_, _, _, _, .right_first merging, .answered (greater ▸ found) replays⟩
        · exact ⟨_, _, _, _, .left_first greater merging, .answered found replays⟩

/-- In every world there is a trace that a sort is the replay of. -/
theorem Sorting.replayed (compare : α → α → ExceptT ε Run Ordering) (items : List α) (world : World) :
    ∃ asked sorted outcome last, Sorting items asked sorted ∧ Replays compare world asked outcome last := by
  induction items using mergeSortM.induct generalizing world with
  | case1 items short => exact ⟨_, _, _, _, .short short, .done world⟩
  | case2 items long left right =>
    have long := Nat.not_le.mp long
    obtain ⟨first, lefts, outcome, middle, lefting, replays⟩ := left world
    obtain ⟨second, rights, outcome', middle', righting, replays'⟩ := right middle
    obtain ⟨third, sorted, outcome'', last, merging, replays''⟩ := Merging.replayed compare lefts rights middle'
    have sorting := Sorting.halves long lefting righting merging
    cases outcome with
    | error error => exact ⟨_, _, _, _, sorting, replays.append_failed _⟩
    | ok _ =>
      cases outcome' with
      | error error => exact ⟨_, _, _, _, sorting, replays.append (replays'.append_failed _)⟩
      | ok _ => exact ⟨_, _, _, _, sorting, replays.append (replays'.append replays'')⟩

/-- Comparisons that never fail give the order that they go by. -/
theorem Replays.consistent {order : α → α → Ordering} (replays : Replays compare world asked outcome last)
    (answers : ∀ comparison ∈ asked, ∀ world, ∃ next, (compare comparison.left comparison.right).run world
      = (.ok (order comparison.left comparison.right), next)) : outcome = .ok () ∧ Consistent order asked := by
  induction replays with
  | done => exact ⟨rfl, nofun⟩
  | @answered world next last a b given rest outcome answer _ ih =>
    obtain ⟨first, later⟩ := List.forall_mem_cons.mp answers
    obtain ⟨finished, consistent⟩ := ih later
    obtain ⟨next', answer'⟩ := first world
    have same : given = order a b := Except.ok.inj (congrArg Prod.fst (answer.symm.trans answer'))
    exact ⟨finished, List.forall_mem_cons.mpr ⟨same, consistent⟩⟩
  | @failed world last a b error given rest failed =>
    obtain ⟨next, answer⟩ := answers _ (.head _) world
    cases congrArg Prod.fst (failed.symm.trans answer)

end

/-! ## Sorts without effects -/

theorem Merging.plain (order : α → α → Ordering) (left right : List α) :
    ∃ asked, Merging left right asked (Id.run (mergeM (fun a b => pure (order a b)) left right)) ∧ Consistent order asked := by
  fun_induction mergeM (fun a b => (pure (order a b) : Id Ordering)) left right with
  | case1 right => exact ⟨[], .left_used right, nofun⟩
  | case2 x xs => exact ⟨[], .right_used x xs, nofun⟩
  | case3 x xs y ys later earlier =>
    rw [pure_bind]
    split
    · next greater =>
      obtain ⟨asked, merging, consistent⟩ := later
      exact ⟨_, .right_first merging, List.forall_mem_cons.mpr ⟨greater.symm, consistent⟩⟩
    · next upper =>
      obtain ⟨asked, merging, consistent⟩ := earlier
      exact ⟨_, .left_first upper merging, List.forall_mem_cons.mpr ⟨rfl, consistent⟩⟩

theorem Sorting.plain (order : α → α → Ordering) (items : List α) :
    ∃ asked, Sorting items asked (Id.run (mergeSortM (fun a b => pure (order a b)) items)) ∧ Consistent order asked := by
  fun_induction mergeSortM (fun a b => (pure (order a b) : Id Ordering)) items with
  | case1 items short => exact ⟨[], .short short, nofun⟩
  | case2 items long left right =>
    obtain ⟨first, lefting, consistent⟩ := left
    obtain ⟨second, righting, consistent'⟩ := right
    obtain ⟨third, merging, consistent''⟩ := Merging.plain order _ _
    refine ⟨_, .halves (Nat.not_le.mp long) lefting righting merging, ?_⟩
    exact List.forall_mem_append.mpr ⟨consistent, List.forall_mem_append.mpr ⟨consistent', consistent''⟩⟩

/-! ## The operation -/

namespace Operation

variable {caller : Caller} {scope : Scope} {data comparator : Data} {arguments : List Data} {items sorted : List Statement}
  {asked : List (Comparison Statement)} {outcome : Except Interruption Unit} {world last : World}

/-- What a sort answers behind its comparisons. -/
def settled (data : Data) (sorted : List Statement) : Except Interruption Unit → Attempt Data
  | .ok _ => withItems data sorted
  | .error (.answer error) => return error
  | .error (.failure failure) => throw failure

theorem sortSequence_runs (elements : data.items? = some items) (given : optional? arguments 0 = some comparator)
    (callable : comparator.isOperation = true) (sorting : Sorting items asked sorted)
    (replays : Replays (compareBy caller scope comparator) world asked outcome last) :
    (sortSequence caller scope data arguments).run world = (settled data sorted outcome).run last := by
  have received : (liftM (expectItems "sort" data) : Attempt _).run world = (.ok items, world) := by
    rw [expectItems, expect, elements]
    rfl
  have read : (liftM (expectOperation "sort" comparator) : Attempt _).run world = (.ok comparator, world) := by
    rw [expectOperation, if_pos callable]
    rfl
  have sorts : (liftM (mergeSortM (compareBy caller scope comparator) items).run : Attempt _).run world
      = (.ok (outcome.map fun _ => sorted), last) := ExceptT.lift_answered (sorting.runs replays)
  rw [sortSequence, ExceptT.bind_answered received, given]
  dsimp only
  rw [ExceptT.bind_answered read, ExceptT.bind_answered sorts]
  match outcome with
  | .ok _ => rfl
  | .error (.answer error) => rfl
  | .error (.failure failure) => rfl

/-- A comparator's error ends the comparison with it. -/
theorem compareBy_answers {a b : Statement} {error : Data} (called : caller scope comparator [a.data, b.data] world = (error, last))
    (failed : error.isError = true) : (compareBy caller scope comparator a b).run world = (.error (.answer error), last) := by
  have answered : (liftM (caller scope comparator [a.data, b.data]) : ExceptT Interruption Run Data).run world = (.ok error, last) :=
    ExceptT.lift_answered called
  rw [compareBy, ExceptT.bind_answered answered, if_pos failed]
  rfl

/-- Without a comparator the elements are put in their natural order. -/
theorem sortSequence_natural_order (elements : data.items? = some items) (left_out : optional? arguments 0 = none) :
    ∃ asked sorted, Sorting items asked sorted ∧ Consistent (fun a b : Statement => naturalOrder a.data b.data) asked ∧
      (sortSequence caller scope data arguments).run world = (withItems data sorted : Attempt Data).run world := by
  obtain ⟨asked, sorting, consistent⟩ := Sorting.plain (fun a b : Statement => naturalOrder a.data b.data) items
  refine ⟨asked, _, sorting, consistent, ?_⟩
  have received : (liftM (expectItems "sort" data) : Attempt _).run world = (.ok items, world) := by
    rw [expectItems, expect, elements]
    rfl
  rw [sortSequence, ExceptT.bind_answered received, left_out]

end Operation

open Operation in
/-- A sort is a stable merge sort for any comparison. It is the replay of a trace, in which the comparisons are made
one at a time; by any trace, the items are only put in another order, the first element that is compared stands
before the second one in the list, and along a total preorder the outcome ascends and what compares equal keeps its
order. The operation on arrays replays such a trace with its comparator, and where the comparator gives an error, that
error is the answer and the world is the one which the comparator left. -/
theorem sort_merges_stably :
    (∀ {α ε : Type} (compare : α → α → ExceptT ε Run Ordering) (items : List α) (world : World),
      ∃ asked sorted outcome last, Sorting items asked sorted ∧ Replays compare world asked outcome last ∧
        (mergeSortM compare items).run world = (outcome.map fun _ => sorted, last)) ∧
    (∀ {α : Type} {items sorted : List α} {asked : List (Comparison α)}, Sorting items asked sorted →
      sorted.Perm items ∧ (∀ comparison ∈ asked, [comparison.left, comparison.right].Sublist items) ∧
      ∀ order, Preorders order items → Consistent order asked →
        Ascending order sorted ∧ ∀ item ∈ items, equals order item sorted = equals order item items) ∧
    (∀ {α ε : Type} (compare : α → α → ExceptT ε Run Ordering) (order : α → α → Ordering) (items : List α),
      Preorders order items →
      (∀ a ∈ items, ∀ b ∈ items, ∀ world, ∃ next, (compare a b).run world = (.ok (order a b), next)) →
      ∀ world, ∃ sorted last, (mergeSortM compare items).run world = (.ok sorted, last) ∧ sorted.Perm items ∧
        Ascending order sorted ∧ ∀ item ∈ items, equals order item sorted = equals order item items) ∧
    (∀ (caller : Caller) (scope : Scope) (data : Data) (arguments : List Data) (items : List Statement) (world : World),
      data.items? = some items →
      (optional? arguments 0 = none → ∃ asked sorted, Sorting items asked sorted ∧
        Consistent (fun a b : Statement => naturalOrder a.data b.data) asked ∧
        (sortSequence caller scope data arguments).run world = (withItems data sorted : Attempt Data).run world) ∧
      ∀ comparator, optional? arguments 0 = some comparator → comparator.isOperation = true →
        (∃ asked sorted outcome last, Sorting items asked sorted ∧
          Replays (compareBy caller scope comparator) world asked outcome last ∧
          (sortSequence caller scope data arguments).run world = (settled data sorted outcome).run last) ∧
        ∀ {before last : World} {answered later : List (Comparison Statement)} {a b : Statement} {order : Ordering}
          {sorted : List Statement} {error : Data}, Sorting items (answered ++ ⟨a, b, order⟩ :: later) sorted →
          Replays (compareBy caller scope comparator) world answered (.ok ()) before →
          caller scope comparator [a.data, b.data] before = (error, last) → error.isError = true →
          (sortSequence caller scope data arguments).run world = (.ok error, last)) := by
  refine ⟨fun compare items world => ?_, fun sorting => ?_, fun compare order items known answers world => ?_,
    fun caller scope data arguments items world elements => ⟨sortSequence_natural_order elements, fun comparator given callable => ⟨?_, ?_⟩⟩⟩
  · obtain ⟨asked, sorted, outcome, last, sorting, replays⟩ := Sorting.replayed compare items world
    exact ⟨asked, sorted, outcome, last, sorting, replays, sorting.runs replays⟩
  · exact ⟨sorting.perm, sorting.pairs, fun order known answers => sorting.ascending_stable known (List.Subset.refl _) answers⟩
  · obtain ⟨asked, sorted, outcome, last, sorting, replays⟩ := Sorting.replayed compare items world
    have within : ∀ comparison ∈ asked, comparison.left ∈ items ∧ comparison.right ∈ items := fun comparison among =>
      ⟨(sorting.pairs comparison among).subset (.head _), (sorting.pairs comparison among).subset (.tail _ (.head _))⟩
    obtain ⟨rfl, consistent⟩ := replays.consistent fun comparison among =>
      answers _ (within comparison among).1 _ (within comparison among).2
    obtain ⟨ascending, stable⟩ := sorting.ascending_stable known (List.Subset.refl _) consistent
    exact ⟨sorted, last, sorting.runs replays, sorting.perm, ascending, stable⟩
  · obtain ⟨asked, sorted, outcome, last, sorting, replays⟩ := Sorting.replayed (compareBy caller scope comparator) items world
    exact ⟨asked, sorted, outcome, last, sorting, replays, sortSequence_runs elements given callable sorting replays⟩
  · intro before last answered later a b order sorted error sorting replays called failed
    have ends := replays.append (.failed order later (compareBy_answers called failed))
    exact sortSequence_runs elements given callable sorting ends

open Operation in
/-- Pairs that are sorted by their first parts keep their order where these are equal; and a comparator that refuses its
first call ends the sort of two elements with its error. -/
theorem sort_merges_stably_pairs :
    (∃ sorted last, (mergeSortM (fun a b : Nat × Nat => (pure (compare a.1 b.1) : ExceptT Unit Run Ordering))
        [(2, 0), (1, 1), (2, 2)]).run {} = (.ok sorted, last) ∧
      equals (fun a b => compare a.1 b.1) (2, 0) sorted = [(2, 0), (2, 2)]) ∧
    let one : Statement := ⟨"a", ⟨"x", .number, .number 2⟩, [], none, false⟩
    let other : Statement := ⟨"b", ⟨"y", .number, .number 1⟩, [], none, false⟩
    let refusal : Data := ⟨"e", .error .customError, .error "no order"⟩
    (sortSequence (fun _ _ _ world => (refusal, world)) {} ⟨"d", .array .number, .array [one, other]⟩
      [⟨"f", .operation [] .number, .operation none [] []⟩]).run {} = (.ok refusal, {}) := by
  refine ⟨?_, ?_⟩
  · obtain ⟨sorted, last, ran, -, -, stable⟩ := sort_merges_stably.2.2.1
      (fun a b : Nat × Nat => (pure (compare a.1 b.1) : ExceptT Unit Run Ordering)) (fun a b => compare a.1 b.1)
      [(2, 0), (1, 1), (2, 2)] ⟨by decide, by decide⟩ (fun a _ b _ world => ⟨world, rfl⟩) {}
    exact ⟨sorted, last, ran, (stable (2, 0) (.head _)).trans rfl⟩
  · intro one other refusal
    have sorting : Sorting [one, other] ([] ++ ⟨one, other, .eq⟩ :: []) [one, other] :=
      .pair (.left_first nofun (.left_used [other]))
    exact ((sort_merges_stably.2.2.2 _ _ _ _ [one, other] {} rfl).2 _ rfl rfl).2 sorting (.done {}) rfl rfl

end LivePipeline
