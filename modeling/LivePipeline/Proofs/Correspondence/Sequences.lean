import LivePipeline.Proofs.Correspondence.Handlers

/-! Operations on arrays on both sides of a link. Callbacks run in lockstep, element by element; a
sort makes the same comparisons in the same order. -/

namespace LivePipeline

/-! ## Related lists -/

theorem forall₂_zipIdx {R : α → β → Prop} {items : List α} {items' : List β} (all : List.Forall₂ R items items') :
    ∀ start, List.Forall₂ (fun entry entry' => R entry.1 entry'.1 ∧ entry'.2 = entry.2) (items.zipIdx start)
      (items'.zipIdx start) := by
  induction all with
  | nil => intro start; exact .nil
  | cons head _ ih => intro start; exact .cons ⟨head, rfl⟩ (ih _)

theorem forall₂_zip {R : α → β → Prop} {S : γ → δ → Prop} {items : List α} {items' : List β}
    (all : List.Forall₂ R items items') : ∀ {others : List γ} {others' : List δ}, List.Forall₂ S others others' →
      List.Forall₂ (fun entry entry' => R entry.1 entry'.1 ∧ S entry.2 entry'.2) (items.zip others)
        (items'.zip others') := by
  induction all with
  | nil => intro others others' _; simp
  | cons head _ ih =>
    intro others others' related
    cases related with
    | nil => exact .nil
    | cons other rest => exact .cons ⟨head, other⟩ (ih rest)

/-- A search that cannot tell related items apart ends at related items. -/
theorem forall₂_find? {R : α → β → Prop} {test : α → Bool} {test' : β → Bool}
    (agree : ∀ item item', R item item' → test' item' = test item) {items : List α} {items' : List β}
    (all : List.Forall₂ R items items') : Option.Rel R (items.find? test) (items'.find? test') := by
  induction all with
  | nil => exact .none
  | @cons item item' _ _ head _ ih =>
    rw [List.find?_cons, List.find?_cons, agree item item' head]
    cases test item with
    | true => exact .some head
    | false => exact ih

theorem forall₂_findIdx? {R : α → β → Prop} {test : α → Bool} {test' : β → Bool}
    (agree : ∀ item item', R item item' → test' item' = test item) {items : List α} {items' : List β}
    (all : List.Forall₂ R items items') : items'.findIdx? test' = items.findIdx? test := by
  induction all with
  | nil => rfl
  | @cons item item' _ _ head _ ih => rw [List.findIdx?_cons, List.findIdx?_cons, agree item item' head, ih]

theorem forall₂_left {R : α → β → Prop} {P : α → Prop} (implies : ∀ item item', R item item' → P item) {items : List α}
    {items' : List β} (all : List.Forall₂ R items items') : ∀ item ∈ items, P item := by
  induction all with
  | nil => simp
  | cons head _ ih => exact List.forall_mem_cons.mpr ⟨implies _ _ head, ih⟩

theorem Link.SameAll.forall₂ {link : Link} {ledger : Ledger} :
    ∀ {items items' : List Statement}, link.SameAll ledger items items' →
      List.Forall₂ (link.SameStatement ledger) items items'
  | [], _, ⟨rfl, _⟩ => .nil
  | item :: rest, _, ⟨rfl, all⟩ => by
    rw [List.forall_mem_cons] at all
    exact .cons ⟨rfl, all.1⟩ (SameAll.forall₂ ⟨rfl, all.2⟩)

theorem Link.SameAll.mono {link : Link} {before after : Ledger} {items items' : List Statement}
    (same : link.SameAll before items items') (le : before ≤ after) : link.SameAll after items items' :=
  ⟨same.1, fun item member => (same.2 item member).mono le⟩

theorem Link.SameStatement.data {link : Link} {ledger : Ledger} {statement statement' : Statement}
    (same : link.SameStatement ledger statement statement') : link.Same ledger statement.data statement'.data :=
  ⟨by rw [same.1, Statement.rename_data], same.2.data⟩

/-! ## Related sorts -/

section

variable {m : Type → Type u} {m' : Type → Type v} [Monad m] [Monad m']

/-- A relation between the work of two monads that respects sequencing. -/
structure Lockstep (rel : ∀ {α β : Type}, (α → β → Prop) → m α → m' β → Prop) : Prop where
  pure : ∀ {α β : Type} {post : α → β → Prop} {value : α} {value' : β}, post value value' →
    rel post (Pure.pure value) (Pure.pure value')
  bind : ∀ {α β γ δ : Type} {middle : α → β → Prop} {post : γ → δ → Prop} {work : m α} {work' : m' β}
    {next : α → m γ} {next' : β → m' δ}, rel middle work work' →
    (∀ value value', middle value value' → rel post (next value) (next' value')) →
    rel post (work >>= next) (work' >>= next')

variable {rel : ∀ {α β : Type}, (α → β → Prop) → m α → m' β → Prop} (lockstep : Lockstep rel) {α β : Type}
  {R : α → β → Prop} {compare : α → α → m Ordering} {compare' : β → β → m' Ordering}
  (compares : ∀ x x' y y', R x x' → R y y' → rel (fun order order' => order' = order) (compare x y) (compare' x' y'))
include lockstep compares

theorem mergeM_related : ∀ {left right : List α} {left' right' : List β}, List.Forall₂ R left left' →
    List.Forall₂ R right right' →
    rel (List.Forall₂ R) (mergeM compare left right) (mergeM compare' left' right') := by
  intro left right
  induction left, right using mergeM.induct with
  | case1 right =>
    intro left' right' lefts rights
    cases lefts
    rw [mergeM, mergeM]
    exact lockstep.pure rights
  | case2 x xs =>
    intro left' right' lefts rights
    cases rights
    cases lefts with
    | cons head tail =>
      rw [mergeM, mergeM]
      exact lockstep.pure (.cons head tail)
  | case3 x xs y ys greater less =>
    intro left' right' lefts rights
    cases lefts with
    | @cons _ x' _ xs' head tail =>
      cases rights with
      | @cons _ y' _ ys' head' tail' =>
        rw [mergeM, mergeM]
        refine lockstep.bind (compares x x' y y' head head') fun order order' same => ?_
        subst same
        cases order' with
        | gt => exact lockstep.bind (greater (.cons head tail) tail') fun _ _ all => lockstep.pure (.cons head' all)
        | lt => exact lockstep.bind (less tail (.cons head' tail')) fun _ _ all => lockstep.pure (.cons head all)
        | eq => exact lockstep.bind (less tail (.cons head' tail')) fun _ _ all => lockstep.pure (.cons head all)

theorem mergeSortM_related : ∀ {items : List α} {items' : List β}, List.Forall₂ R items items' →
    rel (List.Forall₂ R) (mergeSortM compare items) (mergeSortM compare' items') := by
  intro items
  induction items using mergeSortM.induct with
  | case1 items short =>
    intro items' all
    rw [mergeSortM.eq_def compare items, mergeSortM.eq_def compare' items', ← all.length_eq, if_pos short, if_pos short]
    exact lockstep.pure all
  | case2 items long left right =>
    intro items' all
    rw [mergeSortM.eq_def compare items, mergeSortM.eq_def compare' items', ← all.length_eq, if_neg long, if_neg long]
    refine lockstep.bind (left (List.forall₂_take _ all)) fun first first' lefts => ?_
    refine lockstep.bind (right (List.forall₂_drop _ all)) fun second second' rights => ?_
    exact mergeM_related lockstep compares lefts rights

end

/-! ## Array operations -/

namespace Operation

open Link

theorem elementType_rename (names : Renaming) (data : Data) : elementType (data.rename names) = elementType data := by
  simp [elementType]

theorem withItems_sim {link : Link} {ledger : Ledger} {data data' : Data} {items items' : List Statement}
    (named : data' = data.rename link.names) (same : link.SameAll ledger items items') :
    link.Sim ledger (Run.draw (withItems data items)) (Run.draw (withItems data' items')) link.Same := by
  rw [withItems, withItems, named, Data.rename_type]
  exact .make _ same.array

theorem sequenceLength_natural : NaturalEager sequenceLength := by
  intro link caller _ ledger scope scope' data data' arguments arguments' inputs
  refine .bind (.read (expectItems_outcomes "length" inputs.data)) fun later items items' _ same => ?_
  rw [same.1, List.length_map]
  exact .build (.number _)

theorem elementByIndex_natural : NaturalEager elementByIndex := by
  intro link caller _ ledger scope scope' data data' arguments arguments' inputs
  refine .bind (.read (first_outcomes "at" inputs.arguments)) fun first index index' le indices => ?_
  refine .bind (.read (expectItems_outcomes "at" (inputs.data.mono le))) fun second items items' _ same => ?_
  refine .bind (.reads (expectNumber_reads "at" indices.1)) fun third position position' le positions => ?_
  obtain ⟨rfl, all⟩ := same
  have element : elementAt (items.map (Statement.rename link.names)) position
      = (elementAt items position).map (Data.rename link.names) := by
    have data : (fun item : Statement => item.data) ∘ Statement.rename link.names
        = Data.rename link.names ∘ fun item => item.data := funext fun item => item.rename_data link.names
    simp only [elementAt, List.length_map, List.getElem?_map, Option.map_map, data, Option.map_none,
      apply_ite (Option.map (Data.rename link.names))]
  rw [positions, element]
  cases found : elementAt items position with
  | none => exact .build .undefined
  | some value =>
    refine .pure ⟨rfl, ?_⟩
    simp only [elementAt, Option.ite_none_left_eq_some, Option.map_eq_some_iff] at found
    obtain ⟨_, item, stands, rfl⟩ := found
    exact (all item (List.mem_of_getElem? stands)).data.mono le

theorem concatSequences_natural : NaturalEager concatSequences := by
  intro link caller _ ledger scope scope' data data' arguments arguments' inputs
  refine .bind (.read (first_outcomes "concat" inputs.arguments)) fun first other other' le others => ?_
  refine .bind (.read (expectItems_outcomes "concat" (inputs.data.mono le))) fun second left left' le' lefts => ?_
  refine .bind (.read (expectItems_outcomes "concat" (others.mono le'))) fun third right right' le'' rights => ?_
  rw [inputs.data.1, elementType_rename, List.map_append, List.map_append]
  exact .build (.array _ (List.rel_append (lefts.mono le'').data.forall₂ rights.data.forall₂))

theorem includesElement_natural : NaturalEager includesElement := by
  intro link caller _ ledger scope scope' data data' arguments arguments' inputs
  refine .bind (.read (first_outcomes "includes" inputs.arguments)) fun first element element' le elements => ?_
  refine .bind (.read (expectItems_outcomes "includes" (inputs.data.mono le))) fun second items items' _ same => ?_
  have found : items'.any (·.data.sameValue element') = items.any (·.data.sameValue element) := by
    simp [same.1, elements.1, Function.comp_def]
  rw [found]
  exact .build (.boolean _)

theorem indexOfElement_natural : NaturalEager indexOfElement := by
  intro link caller _ ledger scope scope' data data' arguments arguments' inputs
  refine .bind (.read (first_outcomes "indexOf" inputs.arguments)) fun first element element' le elements => ?_
  refine .bind (.read (expectItems_outcomes "indexOf" (inputs.data.mono le))) fun second items items' _ same => ?_
  have found : items'.findIdx? (·.data.sameValue element') = items.findIdx? (·.data.sameValue element) := by
    refine forall₂_findIdx? (fun item item' related => ?_) same.forall₂
    rw [related.1, elements.1, Statement.rename_data, Data.rename_sameValue]
  rw [found]
  exact .build (.number _)

theorem join_natural : NaturalEager join := by
  intro link caller _ ledger scope scope' data data' arguments arguments' inputs
  refine .bind (.read (expectItems_outcomes "join" inputs.data)) fun first items items' le same => ?_
  have shown : (items'.map fun item => item.data.display) = items.map fun item => item.data.display := by
    simp [same.1, Function.comp_def]
  obtain ⟨given, settled⟩ := optional?_same 0 inputs.arguments
  rw [given, shown]
  cases optional? arguments 0 with
  | none =>
    simp only [pure_bind]
    exact .build (.text _)
  | some separator =>
    refine .bind (.reads (expectText_reads "join" rfl)) fun _ text text' _ same => ?_
    rw [same]
    exact .build (.text _)

theorem reverseSequence_natural : NaturalEager reverseSequence := by
  intro link caller _ ledger scope scope' data data' arguments arguments' inputs
  refine .bind (.read (expectItems_outcomes "reverse" inputs.data)) fun later items items' _ same => ?_
  refine .build (withItems_sim inputs.data.1 ⟨by rw [same.1, List.map_reverse], fun item member => ?_⟩)
  exact same.2 item (List.mem_reverse.mp member)

theorem sliceBounds_reads {link : Link} {ledger : Ledger} {arguments arguments' : List Data} (name : String)
    (given : link.SameList ledger arguments arguments') (length : Nat) :
    Reads (sliceBounds name arguments length) (sliceBounds name arguments' length) := by
  refine .bind (first_outcomes name given) fun start start' starts => ?_
  refine .bind (expectNumber_reads name starts.1) fun position position' same => ?_
  rw [(optional?_same 1 given).1, same]
  cases optional? arguments 1 with
  | none => exact rfl
  | some stop =>
    refine .bind (expectNumber_reads name rfl) fun last last' same => ?_
    rw [same]
    exact rfl

theorem sliceSequence_natural : NaturalEager sliceSequence := by
  intro link caller _ ledger scope scope' data data' arguments arguments' inputs
  refine .bind (.read (first_outcomes "slice" inputs.arguments)) fun first _ _ le _ => ?_
  refine .bind (.read (expectItems_outcomes "slice" (inputs.data.mono le))) fun second items items' le' same => ?_
  rw [same.1, List.length_map]
  refine .bind (.reads (sliceBounds_reads "slice" inputs.arguments _)) fun third bounds bounds' le'' same' => ?_
  rw [same']
  obtain ⟨start, stop⟩ := bounds
  refine .build (withItems_sim inputs.data.1 ⟨by simp [between, List.map_take, List.map_drop], fun item member => ?_⟩)
  exact (same.2 item (List.mem_of_mem_take (List.mem_of_mem_drop member))).mono le''

theorem push_natural : NaturalEager push := by
  intro link caller _ ledger scope scope' data data' arguments arguments' inputs
  refine .bind (.read (first_outcomes "push" inputs.arguments)) fun first element element' le elements => ?_
  refine .bind (.read (expectItems_outcomes "push" (inputs.data.mono le))) fun second items items' le' same => ?_
  refine .bind (.build (.makeStatement (elements.mono le'))) fun third statement statement' le'' made => ?_
  rw [inputs.data.1, elements.1, elementType_rename, Data.rename_type]
  refine .build (.make _ (SameAll.array ⟨by simp [same.1, made.1], fun item member => ?_⟩))
  rcases List.mem_append.mp member with old | new
  · exact (same.2 item old).mono le''
  · rw [List.mem_singleton.mp new]
    exact made.2

/-! ### Callbacks -/

section

variable {link : Link} {caller : Caller} (calls : link.Calls caller) {ledger : Ledger} {scope scope' : Scope}
include calls

theorem callEach_sim (scopes : link.SameScope ledger scope scope') {operation operation' : Data}
    (operations : link.Same ledger operation operation') {items items' : List Statement}
    (same : link.SameAll ledger items items') :
    link.Sim ledger (callEach caller scope operation items) (callEach caller scope' operation' items')
      fun later results results' => List.Forall₂ (link.Same later) results results' := by
  refine .mapM link.Same (fun _ _ _ _ le same => same.mono le) ?_
  refine (forall₂_zipIdx same.forall₂ 0).imp fun entry entry' related later le => ?_
  obtain ⟨item, index⟩ := entry
  obtain ⟨item', index'⟩ := entry'
  obtain ⟨item_same, rfl⟩ := related
  refine .bind (.number _) fun last number number' le' numbers => ?_
  have reach := le.trans le'
  exact calls last _ _ _ _ _ _ (scopes.mono reach) (operations.mono reach)
    (.of_forall₂ (.cons (item_same.data.mono reach) (.cons numbers .nil)))

/-- An element with the callback's answer for it, on both sides. -/
def SameAnswer (link : Link) (ledger : Ledger) (pair pair' : Statement × Data) : Prop :=
  link.SameStatement ledger pair.1 pair'.1 ∧ link.Same ledger pair.2 pair'.2

omit calls in
theorem SameAnswer.asks {pair pair' : Statement × Data} (same : SameAnswer link ledger pair pair') :
    (pair'.2.isError || saysYes pair'.2) = (pair.2.isError || saysYes pair.2) := by
  rw [same.2.1]
  simp [saysYes]

theorem answered_attempts (name : String) {data data' : Data} {arguments arguments' : List Data}
    (inputs : link.Inputs ledger scope scope' data data' arguments arguments') :
    link.Attempts ledger (answered name caller scope data arguments) (answered name caller scope' data' arguments')
      fun later pairs pairs' => List.Forall₂ (SameAnswer link later) pairs pairs' := by
  refine .bind (.read (first_outcomes name inputs.arguments)) fun first argument argument' le given => ?_
  refine .bind (.read (expectOperation_outcomes name given)) fun second operation operation' le' operations => ?_
  have reach := le.trans le'
  refine .bind (.read (expectItems_outcomes name (inputs.data.mono reach))) fun third items items' le'' same => ?_
  refine .bind (.lift (callEach_sim calls (inputs.scope.mono (reach.trans le'')) (operations.mono le'') same))
    fun fourth results results' le3 answers => .pure ?_
  exact forall₂_zip (same.mono le3).forall₂ answers

end

theorem mapSequence_natural : NaturalEager mapSequence := by
  intro link caller calls ledger scope scope' data data' arguments arguments' inputs
  refine .bind (.read (first_outcomes "map" inputs.arguments)) fun first argument argument' le given => ?_
  refine .bind (.read (expectOperation_outcomes "map" given)) fun second operation operation' le' operations => ?_
  have reach := le.trans le'
  refine .bind (.read (expectItems_outcomes "callback" (inputs.data.mono reach))) fun third items items' le'' same => ?_
  refine .bind (.lift (callEach_sim calls (inputs.scope.mono (reach.trans le'')) (operations.mono le'') same))
    fun fourth results results' _ answers => ?_
  rw [operations.1, Data.rename_type]
  exact .build (.array _ answers)

theorem SameAnswer.mono {link : Link} {before after : Ledger} {pair pair' : Statement × Data}
    (same : SameAnswer link before pair pair') (le : before ≤ after) : SameAnswer link after pair pair' :=
  ⟨same.1.mono le, same.2.mono le⟩

theorem keepAnswered_sim {link : Link} : ∀ {pairs pairs' : List (Statement × Data)} {ledger : Ledger},
    List.Forall₂ (SameAnswer link ledger) pairs pairs' →
    link.Sim ledger (Run.draw (keepAnswered pairs)) (Run.draw (keepAnswered pairs')) link.SameAll
  | [], [], _, .nil => .built .nil
  | (item, answer) :: rest, (item', answer') :: rest', ledger, .cons head tail => by
    have errors : answer'.isError = answer.isError := head.2.isError
    have agrees : saysYes answer' = saysYes answer := congrArg (· == some true) head.2.bool?
    simp only [keepAnswered, errors, agrees]
    split
    · refine .build (.makeStatement head.2) fun later statement statement' le made => ?_
      refine .build (keepAnswered_sim (tail.imp fun _ _ same => same.mono le)) fun last kept kept' le' all => ?_
      exact .built (.cons made le' all)
    · refine .build (keepAnswered_sim tail) fun later kept kept' le all => .built ?_
      split
      · exact .cons head.1 le all
      · exact all

theorem filterSequence_natural : NaturalEager filterSequence := by
  intro link caller calls ledger scope scope' data data' arguments arguments' inputs
  refine .bind (answered_attempts calls "filter" inputs) fun first pairs pairs' le answers => ?_
  refine .bind (.build (keepAnswered_sim answers)) fun second kept kept' _ same => ?_
  exact .build (withItems_sim inputs.data.1 same)

theorem findElement_natural : NaturalEager findElement := by
  intro link caller calls ledger scope scope' data data' arguments arguments' inputs
  refine .bind (answered_attempts calls "find" inputs) fun first pairs pairs' le answers => ?_
  have found := forall₂_find? (fun _ _ same => SameAnswer.asks same) answers
  revert found
  generalize pairs.find? (fun pair => pair.2.isError || saysYes pair.2) = pair
  generalize pairs'.find? (fun pair => pair.2.isError || saysYes pair.2) = pair'
  intro found
  cases found with
  | none => exact .build .undefined
  | @some pair pair' same =>
    obtain ⟨item, answer⟩ := pair
    obtain ⟨item', answer'⟩ := pair'
    have errors : answer'.isError = answer.isError := same.2.isError
    simp only [errors]
    refine .pure ?_
    split
    · exact same.2
    · exact same.1.data

/-- The answer that decides over all elements. -/
theorem decisive_attempts {link : Link} {ledger : Ledger} {results results' : List Data} {decides : Data → Bool}
    (agree : ∀ data, decides (data.rename link.names) = decides data)
    (all : List.Forall₂ (link.Same ledger) results results') (found otherwise : Bool) :
    link.Attempts ledger
      (match results.find? decides with
        | some answer => if answer.isError then Pure.pure answer else liftM (Data.boolean found)
        | none => liftM (Data.boolean otherwise))
      (match results'.find? decides with
        | some answer => if answer.isError then Pure.pure answer else liftM (Data.boolean found)
        | none => liftM (Data.boolean otherwise)) link.Same := by
  have same := forall₂_find? (fun data data' (same : link.Same ledger data data') => same.1 ▸ agree data) all
  revert same
  generalize results.find? decides = answer
  generalize results'.find? decides = answer'
  intro same
  cases same with
  | none => exact .build (.boolean _)
  | @some answer answer' same =>
    simp only [same.isError]
    split
    · exact .pure same
    · exact .build (.boolean _)

theorem someElement_natural : NaturalEager someElement := by
  intro link caller calls ledger scope scope' data data' arguments arguments' inputs
  refine .bind (.read (first_outcomes "some" inputs.arguments)) fun first argument argument' le given => ?_
  refine .bind (.read (expectOperation_outcomes "some" given)) fun second operation operation' le' operations => ?_
  have reach := le.trans le'
  refine .bind (.read (expectItems_outcomes "callback" (inputs.data.mono reach))) fun third items items' le'' same => ?_
  refine .bind (.lift (callEach_sim calls (inputs.scope.mono (reach.trans le'')) (operations.mono le'') same))
    fun fourth results results' _ answers => ?_
  exact decisive_attempts (fun data => by simp [saysYes]) answers true false

theorem everyElement_natural : NaturalEager everyElement := by
  intro link caller calls ledger scope scope' data data' arguments arguments' inputs
  refine .bind (.read (first_outcomes "every" inputs.arguments)) fun first argument argument' le given => ?_
  refine .bind (.read (expectOperation_outcomes "every" given)) fun second operation operation' le' operations => ?_
  have reach := le.trans le'
  refine .bind (.read (expectItems_outcomes "callback" (inputs.data.mono reach))) fun third items items' le'' same => ?_
  refine .bind (.lift (callEach_sim calls (inputs.scope.mono (reach.trans le'')) (operations.mono le'') same))
    fun fourth results results' _ answers => ?_
  exact decisive_attempts (fun data => by simp [saysYes]) answers false true

theorem reduceFrom_sim {link : Link} {caller : Caller} (calls : link.Calls caller) {scope scope' : Scope}
    {operation operation' : Data} : ∀ {items items' : List (Statement × Nat)} {ledger : Ledger} {start start' : Data},
    link.SameScope ledger scope scope' → link.Same ledger operation operation' →
    List.Forall₂ (fun entry entry' => link.SameStatement ledger entry.1 entry'.1 ∧ entry'.2 = entry.2) items items' →
    link.Same ledger start start' →
    link.Sim ledger (reduceFrom caller scope operation items start) (reduceFrom caller scope' operation' items' start')
      link.Same
  | [], [], _, _, _, _, _, .nil, starts => .pure starts
  | (item, index) :: rest, (item', index') :: rest', ledger, start, start', scopes, operations, .cons head tail, starts => by
    obtain ⟨items, rfl⟩ := head
    refine .bind (.number _) fun first number number' le numbers => ?_
    refine .bind (calls first _ _ _ _ _ _ (scopes.mono le) (operations.mono le)
      (.of_forall₂ (.cons (starts.mono le) (.cons (items.data.mono le) (.cons numbers .nil)))))
      fun second result result' le' results => ?_
    have reach := le.trans le'
    rw [results.isError]
    split
    · exact .pure results
    · exact reduceFrom_sim calls (scopes.mono reach) (operations.mono reach)
        (tail.imp fun _ _ same => ⟨same.1.mono reach, same.2⟩) results

theorem reduceSequence_natural : NaturalEager reduceSequence := by
  intro link caller calls ledger scope scope' data data' arguments arguments' inputs
  refine .bind (.read (firstTwo_outcomes "reduce" inputs.arguments)) fun first pair pair' le pairs => ?_
  obtain ⟨argument, initial⟩ := pair
  obtain ⟨argument', initial'⟩ := pair'
  refine .bind (.read (expectOperation_outcomes "reduce" pairs.1)) fun second operation operation' le' operations => ?_
  have reach := le.trans le'
  refine .bind (.read (expectItems_outcomes "reduce" (inputs.data.mono reach))) fun third items items' le'' same => ?_
  exact .lift (reduceFrom_sim calls (inputs.scope.mono (reach.trans le'')) (operations.mono le'')
    (forall₂_zipIdx same.forall₂ 0) (pairs.2.mono (le'.trans le'')))

/-! ### Sorting -/

theorem naturalOrder_rename (names : Renaming) (a b : Data) :
    naturalOrder (a.rename names) (b.rename names) = naturalOrder a b := by
  simp [naturalOrder]

/-- Work without effects. -/
def Plainly {α β : Type} (post : α → β → Prop) (left : Id α) (right : Id β) : Prop := post left.run right.run

theorem plainly_lockstep : Lockstep Plainly where
  pure holds := holds
  bind first second := second _ _ first

/-- What ends a sort early, on both sides. -/
def SameInterruption (link : Link) (ledger : Ledger) : Interruption → Interruption → Prop
  | .answer error, .answer error' => link.Same ledger error error'
  | .failure failure, .failure failure' => SameMessage failure failure'
  | _, _ => False

/-- Work that corresponds whatever both sides have learned since. -/
def Later (link : Link) (ledger : Ledger) {α β : Type} (post : α → β → Prop) (left : ExceptT Interruption Run α)
    (right : ExceptT Interruption Run β) : Prop :=
  ∀ later, ledger ≤ later → link.Try (SameInterruption link) later left right fun _ => post

theorem later_lockstep (link : Link) (ledger : Ledger) : Lockstep (Later link ledger) where
  pure holds _ _ := .pure holds
  bind first second later le := .bind (first later le) fun last _ _ le' holds => second _ _ holds last (le.trans le')

theorem compareBy_later {link : Link} {caller : Caller} (calls : link.Calls caller) {ledger : Ledger}
    {scope scope' : Scope} (scopes : link.SameScope ledger scope scope') {comparator comparator' : Data}
    (comparators : link.Same ledger comparator comparator') (a a' b b' : Statement)
    (left : link.SameStatement ledger a a') (right : link.SameStatement ledger b b') :
    Later link ledger (fun order order' => order' = order) (compareBy caller scope comparator a b)
      (compareBy caller scope' comparator' a' b') := by
  intro later le
  refine .bind (.lift (calls later _ _ _ _ _ _ (scopes.mono le) (comparators.mono le)
    (.of_forall₂ (.cons (left.data.mono le) (.cons (right.data.mono le) .nil))))) fun last result result' _ results => ?_
  have read := expectNumber_reads "sort" results.1
  rw [results.isError]
  refine .guard results ?_
  cases outcome : expectNumber "sort" result with
  | error failure =>
    cases outcome' : expectNumber "sort" result' with
    | error failure' => rw [outcome, outcome'] at read; exact .throw read
    | ok value' => rw [outcome, outcome'] at read; exact read.elim
  | ok value =>
    cases outcome' : expectNumber "sort" result' with
    | error failure' => rw [outcome, outcome'] at read; exact read.elim
    | ok value' =>
      rw [outcome, outcome'] at read
      obtain rfl : value' = value := read
      exact .pure rfl

theorem sortSequence_natural : NaturalEager sortSequence := by
  intro link caller calls ledger scope scope' data data' arguments arguments' inputs
  refine .bind (.read (expectItems_outcomes "sort" inputs.data)) fun first items items' le same => ?_
  obtain ⟨given, settled⟩ := optional?_same 0 inputs.arguments
  rw [given]
  cases found : optional? arguments 0 with
  | none =>
    have sorted : List.Forall₂ (link.SameStatement first)
        (Id.run (mergeSortM (fun a b => pure (naturalOrder a.data b.data)) items))
        (Id.run (mergeSortM (fun a b => pure (naturalOrder a.data b.data)) items')) := by
      refine mergeSortM_related plainly_lockstep (fun a a' b b' left right => ?_) same.forall₂
      rw [left.1, right.1, Statement.rename_data, Statement.rename_data, naturalOrder_rename]
      exact rfl
    exact .build (withItems_sim inputs.data.1 (.of_forall₂ sorted))
  | some argument =>
    refine .bind (.read (expectOperation_outcomes "sort" ⟨rfl, (settled argument found).mono le⟩))
      fun second comparator comparator' le' comparators => ?_
    have reach := le.trans le'
    have sorted := mergeSortM_related (later_lockstep link second)
      (compareBy_later calls (inputs.scope.mono reach) comparators) (same.mono le').forall₂ second (le_refl _)
    refine .bind (.lift sorted) fun third outcome outcome' le'' outcomes => ?_
    cases outcome with
    | ok sorted =>
      cases outcome' with
      | error _ => exact outcomes.elim
      | ok sorted' => exact .build (withItems_sim inputs.data.1 ((SameAll.of_forall₂ outcomes).mono le''))
    | error interruption =>
      cases outcome' with
      | ok _ => exact outcomes.elim
      | error interruption' =>
        cases interruption <;> cases interruption' <;>
          first | exact outcomes.elim | exact .pure outcomes | exact .throw outcomes

end Operation

end LivePipeline
