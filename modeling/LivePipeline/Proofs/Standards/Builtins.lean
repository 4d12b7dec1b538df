import LivePipeline.Proofs.Standards

/-! The built-in operations keep to every standard: of good receivers and arguments they make good results, and they place
only what the standard allows. Nearly all of them keep to every discipline for that. -/

namespace LivePipeline

namespace Operation

variable {way : Discipline} {std : Standard} {caller : Caller} {scope : Scope} {data : Data} {arguments : List Data}
  {good : Data → Prop}

/-! ### Reading receivers and arguments -/

theorem first_good {name : String} {argument : Data} (all : ∀ argument ∈ arguments, good argument)
    (found : first name arguments = .ok argument) : good argument := by
  cases arguments with
  | nil => cases found
  | cons given rest => cases found; exact all _ List.mem_cons_self

theorem firstTwo_good {name : String} {pair : Data × Data} (all : ∀ argument ∈ arguments, good argument)
    (found : firstTwo name arguments = .ok pair) : good pair.1 ∧ good pair.2 := by
  match arguments with
  | [] | [_] => cases found
  | a :: b :: rest => cases found; exact ⟨all a (by simp), all b (by simp)⟩

theorem optional_good {index : Nat} {argument : Data} (all : ∀ argument ∈ arguments, good argument)
    (found : optional? arguments index = some argument) : good argument :=
  all argument (List.mem_of_getElem? (Option.eq_some_of_filter_eq_some found))

theorem expectItems_good {name : String} {items : List Statement} (receiver : way.data data)
    (found : expectItems name data = .ok items) : ∀ item ∈ items, way.child item := by
  obtain ⟨id, type, value⟩ := data
  cases value with
  | array given => cases found; exact way.items receiver
  | _ => cases found

theorem expectEntries_good {name : String} {entries : Table Statement} (receiver : way.data data)
    (found : expectEntries name data = .ok entries) : ∀ entry ∈ entries, way.child entry.2 := by
  obtain ⟨id, type, value⟩ := data
  cases value with
  | record given => cases found; exact way.entries receiver
  | _ => cases found

theorem expectOperation_good {name : String} {operation : Data} (receiver : good data)
    (found : expectOperation name data = .ok operation) : good operation := by
  unfold expectOperation at found
  split at found
  · cases found; exact receiver
  · cases found

theorem item_data_good {items : List Statement} (all : ∀ item ∈ items, way.child item) :
    ∀ data ∈ items.map (·.data), way.data data := by
  rw [List.forall_mem_map]
  exact fun item among => way.held (all item among)

/-! ### Data of any type, numbers and texts -/

theorem make_obeys (type : DataType) {value : Value} (good : ∀ id, way.data ⟨id, type, value⟩) :
    Attempt.Obeys way (liftM (Data.make type value) : Attempt Data) way.data := .build (.make type good)

theorem leaf_obeys {type : DataType} {value : Value} (isLeaf : value.isLeaf = true) (admits : type.admits value = true) :
    Attempt.Obeys way (liftM (Data.make type value) : Attempt Data) way.data := .build (.admitted isLeaf admits)

theorem isEqual_obeys : EagerHandler.Obeys isEqual := fun _ _ _ _ _ _ _ _ =>
  .reading fun _ _ => leaf_obeys rfl rfl

theorem isTypeOf_obeys : EagerHandler.Obeys isTypeOf := fun _ _ _ _ _ _ _ _ =>
  .reading fun _ _ => leaf_obeys rfl rfl

theorem toText_obeys : EagerHandler.Obeys toText := fun _ _ _ _ _ _ _ _ => leaf_obeys rfl rfl

theorem isUndefined_obeys : EagerHandler.Obeys isUndefined := fun _ _ _ _ _ _ _ _ => leaf_obeys rfl rfl

theorem genericFamily_obeys : ∀ builtin ∈ genericFamily, builtin.handler.Obeys := by
  simp only [genericFamily, List.forall_mem_cons, List.not_mem_nil, false_implies, implies_true, and_true]
  exact ⟨isEqual_obeys, isTypeOf_obeys, toText_obeys, isUndefined_obeys⟩

theorem negate_obeys : EagerHandler.Obeys negate := fun _ _ _ _ _ _ _ _ =>
  .reading fun _ _ => leaf_obeys rfl rfl

theorem arithmetic_obeys (name : String) (compute : Float → Float → Float) :
    EagerHandler.Obeys (arithmetic name compute) :=
  fun _ _ _ _ _ _ _ _ => .reading fun _ _ => leaf_obeys rfl rfl

theorem comparison_obeys (name : String) (compare : Float → Float → Bool) :
    EagerHandler.Obeys (comparison name compare) :=
  fun _ _ _ _ _ _ _ _ => .reading fun _ _ => leaf_obeys rfl rfl

theorem transform_obeys (name : String) (compute : Float → Float) : EagerHandler.Obeys (transform name compute) :=
  fun _ _ _ _ _ _ _ _ => .reading fun _ _ => leaf_obeys rfl rfl

theorem divide_obeys : EagerHandler.Obeys divide :=
  fun _ _ _ _ _ _ _ _ => .reading fun _ _ => .reject trivial (leaf_obeys rfl rfl)

theorem modulo_obeys : EagerHandler.Obeys modulo :=
  fun _ _ _ _ _ _ _ _ => .reading fun _ _ => .reject trivial (leaf_obeys rfl rfl)

theorem toRange_obeys : EagerHandler.Obeys toRange := fun _ _ _ _ _ _ _ _ =>
  .reading fun _ _ => .reject trivial <| .reject trivial <|
    .bind (.mapM fun _ _ => leaf_obeys rfl rfl) fun _ all => .build (.array all _)

theorem toFixed_obeys : EagerHandler.Obeys toFixed := fun _ _ _ _ _ _ _ _ =>
  .reading fun _ _ => .reading fun _ _ => .reading fun _ _ => .reject trivial (leaf_obeys rfl rfl)

theorem numericFamily_obeys : ∀ builtin ∈ numericFamily, builtin.handler.Obeys := by
  simp only [numericFamily, List.forall_mem_cons, List.not_mem_nil, false_implies, implies_true, and_true]
  exact ⟨arithmetic_obeys _ _, arithmetic_obeys _ _, arithmetic_obeys _ _, divide_obeys, modulo_obeys,
    arithmetic_obeys _ _, arithmetic_obeys _ _, arithmetic_obeys _ _, transform_obeys _ _,
    transform_obeys _ _, transform_obeys _ _, transform_obeys _ _, comparison_obeys _ _,
    comparison_obeys _ _, comparison_obeys _ _, comparison_obeys _ _, toRange_obeys, toFixed_obeys⟩

theorem createInstance_obeys {className : String} {type : DataType} (arguments : List Data) {external : External}
    (admits : ∀ arguments instanceId, type.admits (.handle className arguments instanceId) = true)
    (holds : external.Holds way.data) : Run.Ensures way.world (createInstance className type arguments external) way.data := by
  refine .bind (.mapM fun _ _ => .drawAny (.statement _)) fun _ _ => .bind (.drawAny .freshId) fun _ _ => ?_
  exact .bind (.update fun _ kept => way.places _ kept holds) fun _ _ => .draw (.admitted rfl (admits _ _))

theorem createDate_obeys (moment : Moment) : Run.Ensures way.world (createDate moment) way.data :=
  .bind (.drawAny (.text _)) fun _ _ => createInstance_obeys _ (fun _ _ => rfl) trivial

theorem textLength_obeys : EagerHandler.Obeys textLength := fun _ _ _ _ _ _ _ _ =>
  .reading fun _ _ => leaf_obeys rfl rfl

theorem concatTexts_obeys : EagerHandler.Obeys concatTexts := fun _ _ _ _ _ _ _ _ =>
  .reading fun _ _ => leaf_obeys rfl rfl

theorem textTest_obeys (name : String) (test : String → String → Bool) : EagerHandler.Obeys (textTest name test) :=
  fun _ _ _ _ _ _ _ _ => .reading fun _ _ => leaf_obeys rfl rfl

theorem indexOfText_obeys : EagerHandler.Obeys indexOfText := fun _ _ _ _ _ _ _ _ =>
  .reading fun _ _ => leaf_obeys rfl rfl

theorem sliceText_obeys : EagerHandler.Obeys sliceText := fun _ _ _ _ _ _ _ _ =>
  .reading fun _ _ => .reading fun _ _ => .reading fun _ _ => leaf_obeys rfl rfl

theorem splitText_obeys : EagerHandler.Obeys splitText := fun _ _ _ _ _ _ _ _ =>
  .reading fun _ _ => .bind (.mapM fun _ _ => leaf_obeys rfl rfl) fun _ all => .build (.array all _)

theorem textTransform_obeys (name : String) (change : String → String) : EagerHandler.Obeys (textTransform name change) :=
  fun _ _ _ _ _ _ _ _ => .reading fun _ _ => leaf_obeys rfl rfl

theorem textReplacement_obeys (name : String) (change : String → String → String → String) :
    EagerHandler.Obeys (textReplacement name change) := fun _ _ _ _ _ _ _ _ =>
  .reading fun _ _ => .reading fun _ _ => .reading fun _ _ => .reading fun _ _ => leaf_obeys rfl rfl

theorem repeatText_obeys : EagerHandler.Obeys repeatText := fun _ _ _ _ _ _ _ _ =>
  .reading fun _ _ => .reading fun _ _ => .reading fun _ _ => .reject trivial <| .reject trivial <| leaf_obeys rfl rfl

theorem toNumber_obeys : EagerHandler.Obeys toNumber := by
  intro way caller scope data arguments _ _ _
  refine .reading fun text _ => ?_
  split
  · exact leaf_obeys rfl rfl
  · exact .fail _

theorem parseJson_obeys : EagerHandler.Obeys parseJson := by
  intro way caller scope data arguments _ _ _
  refine .reading fun text _ => ?_
  split
  · exact .build (.ofPlain _)
  · exact .fail _

theorem matchesPattern_obeys : EagerHandler.Obeys matchesPattern := by
  intro way caller scope data arguments _ _ _
  refine .reading fun texts _ => ?_
  dsimp only
  split
  · exact leaf_obeys rfl rfl
  · exact .fail _

theorem toDate_obeys : EagerHandler.Obeys toDate := fun _ _ _ _ _ _ _ _ =>
  .reading fun _ _ => .reading fun _ _ => .lift (createDate_obeys _)

theorem toUrl_obeys : EagerHandler.Obeys toUrl := fun _ _ _ _ _ _ _ _ =>
  .reading fun _ _ => .reading fun _ _ => .bind (leaf_obeys rfl rfl) fun _ _ =>
    .lift (createInstance_obeys _ (fun _ _ => rfl) trivial)

theorem textualFamily_obeys : ∀ builtin ∈ textualFamily, builtin.handler.Obeys := by
  simp only [textualFamily, List.forall_mem_cons, List.not_mem_nil, false_implies, implies_true, and_true]
  exact ⟨textLength_obeys, concatTexts_obeys, textTest_obeys _ _, textTest_obeys _ _, textTest_obeys _ _,
    indexOfText_obeys, sliceText_obeys, splitText_obeys, textTransform_obeys _ _, textTransform_obeys _ _,
    textTransform_obeys _ _, textReplacement_obeys _ _, textReplacement_obeys _ _, repeatText_obeys,
    toNumber_obeys, parseJson_obeys, matchesPattern_obeys, toDate_obeys, toUrl_obeys⟩

/-! ### Sequences -/

/-- The type of an array is kept for other elements. -/
theorem withItems_obeys {name : String} {given items : List Statement} (receiver : way.data data)
    (found : expectItems name data = .ok given) (all : ∀ item ∈ items, way.child item) :
    Attempt.Obeys way (liftM (withItems data items) : Attempt Data) way.data := by
  obtain ⟨id, type, value⟩ := data
  cases value with
  | array elements => exact make_obeys _ fun other => way.refilled receiver other items all
  | _ => cases found

theorem callEach_obeys (calls : caller.Obeys way scope) {operation : Data} (operates : way.data operation) {items : List Statement}
    (all : ∀ item ∈ items, way.child item) :
    Run.Ensures way.world (callEach caller scope operation items) fun results => ∀ result ∈ results, way.data result := by
  refine .mapM fun entry among => .bind (.draw (.admitted rfl rfl)) fun index known => ?_
  have item := item_data_good all entry.1.data (List.mem_map_of_mem (List.fst_mem_of_mem_zipIdx among))
  exact calls _ _ operates (by simp [item, known])

theorem answered_obeys (name : String) (calls : caller.Obeys way scope) (receiver : way.data data)
    (every : ∀ argument ∈ arguments, way.data argument) :
    Attempt.Obeys way (answered name caller scope data arguments)
      fun pairs => (∀ pair ∈ pairs, way.child pair.1 ∧ way.data pair.2) ∧ ∃ items, expectItems name data = .ok items := by
  refine .reading fun argument given => .reading fun operation given' => .reading fun items found => ?_
  have all := expectItems_good receiver found
  have operates := expectOperation_good (first_good every given) given'
  refine .bind (.lift (callEach_obeys calls operates all)) fun results each => .pure ⟨fun pair among => ?_, items, found⟩
  exact ⟨all _ (List.of_mem_zip among).1, each _ (List.of_mem_zip among).2⟩

theorem sequenceLength_obeys : EagerHandler.Obeys sequenceLength := fun _ _ _ _ _ _ _ _ =>
  .reading fun _ _ => leaf_obeys rfl rfl

theorem elementAt_good {items : List Statement} (all : ∀ item ∈ items, way.child item) {index : Float} {element : Data}
    (found : elementAt items index = some element) : way.data element := by
  obtain ⟨item, given, rfl⟩ := Option.map_eq_some_iff.mp (Option.ite_none_left_eq_some.mp found).2
  exact item_data_good all _ (List.mem_map_of_mem (List.mem_of_getElem? given))

theorem elementByIndex_obeys : EagerHandler.Obeys elementByIndex := by
  intro way caller scope data arguments _ receiver _
  refine .reading fun index _ => .reading fun items found => .reading fun position _ => ?_
  split
  · next given => exact .pure (elementAt_good (expectItems_good receiver found) given)
  · exact leaf_obeys rfl rfl

theorem concatSequences_obeys : EagerHandler.Obeys concatSequences := by
  intro way caller scope data arguments _ receiver all
  refine .reading fun other given => .reading fun left found => .reading fun right found' => ?_
  refine .build (.array (item_data_good ?_) _)
  rw [List.forall_mem_append]
  exact ⟨expectItems_good receiver found, expectItems_good (first_good all given) found'⟩

theorem includesElement_obeys : EagerHandler.Obeys includesElement := fun _ _ _ _ _ _ _ _ =>
  .reading fun _ _ => .reading fun _ _ => leaf_obeys rfl rfl

theorem indexOfElement_obeys : EagerHandler.Obeys indexOfElement := fun _ _ _ _ _ _ _ _ =>
  .reading fun _ _ => .reading fun _ _ => leaf_obeys rfl rfl

theorem join_obeys : EagerHandler.Obeys join := by
  intro way caller scope data arguments _ _ _
  refine .reading fun items _ => ?_
  split
  · exact .reading fun _ _ => leaf_obeys rfl rfl
  · exact .after (leaf_obeys rfl rfl)

theorem reverseSequence_obeys : EagerHandler.Obeys reverseSequence := fun _ _ _ _ _ _ receiver _ =>
  .reading fun _ found => withItems_obeys receiver found fun item among =>
    expectItems_good receiver found item (List.mem_reverse.mp among)

theorem sliceSequence_obeys : EagerHandler.Obeys sliceSequence := by
  intro way caller scope data arguments _ receiver _
  refine .reading fun _ _ => .reading fun items found => .reading fun bounds _ => withItems_obeys receiver found fun item among => ?_
  exact expectItems_good receiver found item (List.mem_of_mem_take (List.mem_of_mem_drop among))

theorem push_obeys : EagerHandler.Obeys push := by
  intro way caller scope data arguments _ receiver all
  refine .reading fun element given => .reading fun items found => ?_
  refine .bind (.build (.statement (first_good all given))) fun statement made => make_obeys _ fun id => way.array id rfl ?_
  rw [List.forall_mem_append, List.forall_mem_singleton]
  exact ⟨expectItems_good receiver found, made⟩

theorem mapSequence_obeys : EagerHandler.Obeys mapSequence := by
  intro way caller scope data arguments calls receiver every
  refine .reading fun argument given => .reading fun operation given' => .reading fun items found => ?_
  have operates := expectOperation_good (first_good every given) given'
  refine .bind (.lift (callEach_obeys calls operates (expectItems_good receiver found))) fun results each => ?_
  exact .build (.array each _)

theorem keepAnswered_makes {pairs : List (Statement × Data)} (all : ∀ pair ∈ pairs, way.child pair.1 ∧ way.data pair.2) :
    Fresh.Makes way.code (keepAnswered pairs) fun kept => ∀ item ∈ kept, way.child item := by
  induction pairs with
  | nil => exact .pure (by simp)
  | cons pair rest ih =>
    rw [List.forall_mem_cons] at all
    unfold keepAnswered
    split
    · exact .bind (.statement all.1.2) fun statement made => .bind (ih all.2) fun others kept =>
        .pure (List.forall_mem_cons.mpr ⟨made, kept⟩)
    · refine .bind (ih all.2) fun others kept => .pure ?_
      split
      · exact List.forall_mem_cons.mpr ⟨all.1.1, kept⟩
      · exact kept

theorem filterSequence_obeys : EagerHandler.Obeys filterSequence := by
  intro way caller scope data arguments calls receiver every
  refine .bind (answered_obeys _ calls receiver every) fun pairs all => .bind (.build (keepAnswered_makes all.1)) fun items kept => ?_
  obtain ⟨given, found⟩ := all.2
  exact withItems_obeys receiver found kept

theorem findElement_obeys : EagerHandler.Obeys findElement := by
  intro way caller scope data arguments calls receiver every
  refine .bind (answered_obeys _ calls receiver every) fun pairs all => ?_
  split
  · next item answer found =>
    obtain ⟨kept, given⟩ := all.1 _ (List.mem_of_find?_eq_some found)
    refine .pure ?_
    split
    · exact given
    · exact way.held kept
  · exact leaf_obeys rfl rfl

/-- The first answer that decides, if it is an error, else a boolean. -/
theorem decisive_obeys {results : List Data} (each : ∀ result ∈ results, way.data result) (decides : Data → Bool)
    (found otherwise : Bool) :
    Attempt.Obeys way (match results.find? decides with
      | some answer => if answer.isError then return answer else Data.boolean found
      | none => Data.boolean otherwise : Attempt Data) way.data := by
  split
  · next answer given =>
    split
    · exact .pure (each answer (List.mem_of_find?_eq_some given))
    · exact leaf_obeys rfl rfl
  · exact leaf_obeys rfl rfl

theorem someElement_obeys : EagerHandler.Obeys someElement := by
  intro way caller scope data arguments calls receiver every
  refine .reading fun argument given => .reading fun operation given' => .reading fun items found => ?_
  have operates := expectOperation_good (first_good every given) given'
  refine .bind (.lift (callEach_obeys calls operates (expectItems_good receiver found))) fun results each => ?_
  exact decisive_obeys each _ _ _

theorem everyElement_obeys : EagerHandler.Obeys everyElement := by
  intro way caller scope data arguments calls receiver every
  refine .reading fun argument given => .reading fun operation given' => .reading fun items found => ?_
  have operates := expectOperation_good (first_good every given) given'
  refine .bind (.lift (callEach_obeys calls operates (expectItems_good receiver found))) fun results each => ?_
  exact decisive_obeys each _ _ _

/-- An error of the comparator is good. -/
def Interruption.Good (way : Discipline) : Interruption → Prop
  | .answer error => way.data error
  | .failure _ => True

theorem compareBy_assures (calls : caller.Obeys way scope) {comparator : Data} (compares : way.data comparator) {a b : Statement}
    (left : way.child a) (right : way.child b) :
    Run.Assures way.world (compareBy caller scope comparator a b) (Interruption.Good way) fun _ => True := by
  have both : ∀ argument ∈ [a.data, b.data], way.data argument := by
    simpa using ⟨way.held left, way.held right⟩
  refine .bind (.lift (calls comparator _ compares both)) fun result known => .reject known ?_
  dsimp only
  split
  · exact .throw trivial
  · exact .pure trivial

theorem sortSequence_obeys : EagerHandler.Obeys sortSequence := by
  intro way caller scope data arguments calls receiver every
  refine .reading fun items found => ?_
  have all := expectItems_good receiver found
  split
  · exact withItems_obeys receiver found fun item among => all item (mem_of_mem_mergeSort among)
  · next argument given =>
    refine .reading fun comparator given' => ?_
    have compares := expectOperation_good (optional_good every given) given'
    have sorts := mergeSortM_assures (fun a b => compareBy_assures (a := a) (b := b) calls compares) items all
    refine .bind (.lift sorts) fun sorted met => ?_
    split
    · exact withItems_obeys receiver found met
    · exact .pure met
    · exact .fail _

theorem reduceFrom_obeys (calls : caller.Obeys way scope) {operation : Data} (operates : way.data operation)
    {items : List (Statement × Nat)} (all : ∀ item ∈ items, way.child item.1) {accumulator : Data} (start : way.data accumulator) :
    Run.Ensures way.world (reduceFrom caller scope operation items accumulator) way.data := by
  induction items generalizing accumulator with
  | nil => exact .pure start
  | cons item rest ih =>
    rw [List.forall_mem_cons] at all
    refine .bind (.draw (.admitted rfl rfl)) fun index known => ?_
    have three : ∀ argument ∈ [accumulator, item.1.data, index], way.data argument := by
      simpa using ⟨start, way.held all.1, known⟩
    refine .bind (calls operation _ operates three) fun result made => ?_
    split
    · exact .pure made
    · exact ih all.2 made

theorem reduceSequence_obeys : EagerHandler.Obeys reduceSequence := by
  intro way caller scope data arguments calls receiver all
  refine .reading fun pair given => .reading fun operation given' => .reading fun items found => ?_
  have two := firstTwo_good all given
  refine .lift (reduceFrom_obeys calls (expectOperation_good two.1 given') (fun entry among => ?_) two.2)
  exact expectItems_good receiver found _ (List.fst_mem_of_mem_zipIdx among)

theorem sequenceFamily_obeys : ∀ builtin ∈ sequenceFamily, builtin.handler.Obeys := by
  simp only [sequenceFamily, List.forall_mem_cons, List.not_mem_nil, false_implies, implies_true, and_true]
  exact ⟨sequenceLength_obeys, elementByIndex_obeys, concatSequences_obeys, includesElement_obeys,
    indexOfElement_obeys, join_obeys, reverseSequence_obeys, sliceSequence_obeys, push_obeys,
    mapSequence_obeys, filterSequence_obeys, findElement_obeys, someElement_obeys, everyElement_obeys,
    sortSequence_obeys, reduceSequence_obeys⟩

/-! ### Objects and dictionaries -/

theorem getEntry_obeys : EagerHandler.Obeys getEntry := by
  intro way caller scope data arguments _ receiver _
  refine .reading fun key _ => .reading fun entries found => .reading fun key _ => ?_
  split
  · next statement given =>
    have kept := Table.of_get? (P := way.child) (expectEntries_good receiver found) given
    exact .pure (way.held kept)
  · exact leaf_obeys rfl rfl

theorem written_obeys (receiver : way.data data) (all : ∀ argument ∈ arguments, way.data argument) :
    Attempt.Obeys way (written data arguments) fun made => ∀ entry ∈ made.1, way.child entry.2 := by
  refine .reading fun pair given => .reading fun entries found => .reading fun key _ => ?_
  refine .bind (.build (.statement (firstTwo_good all given).2)) fun statement made => .pure ?_
  exact Table.all_insert (expectEntries_good receiver found) key made

theorem setProperty_obeys : EagerHandler.Obeys setProperty := fun way _ _ _ _ _ receiver all =>
  .bind (written_obeys receiver all) fun _ made => make_obeys _ fun id => way.record id rfl made

theorem hasEntry_obeys : EagerHandler.Obeys hasEntry := fun _ _ _ _ _ _ _ _ =>
  .reading fun _ _ => .reading fun _ _ => .reading fun _ _ => leaf_obeys rfl rfl

theorem entryKeys_obeys : EagerHandler.Obeys entryKeys := fun _ _ _ _ _ _ _ _ =>
  .reading fun _ _ => .bind (.mapM fun _ _ => leaf_obeys rfl rfl) fun _ all => .build (.array all _)

theorem entryValues_obeys (fallback : Data → DataType) : EagerHandler.Obeys (entryValues fallback) := by
  intro way caller scope data arguments _ receiver _
  refine .reading fun entries found => .build (.array (item_data_good ?_) _)
  rw [Table.values, List.forall_mem_map]
  exact expectEntries_good receiver found

theorem merge_obeys : EagerHandler.Obeys merge := by
  intro way caller scope data arguments _ receiver all
  refine .reading fun other given => .reading fun entries found => .reading fun others found' => ?_
  refine make_obeys _ fun id => way.record id rfl (Table.all_insertAll (expectEntries_good receiver found) ?_)
  exact expectEntries_good (first_good all given) found'

theorem recordFamily_obeys : ∀ builtin ∈ recordFamily, builtin.handler.Obeys := by
  simp only [recordFamily, List.forall_mem_cons, List.not_mem_nil, false_implies, implies_true, and_true]
  exact ⟨getEntry_obeys, setProperty_obeys, hasEntry_obeys, entryKeys_obeys, entryValues_obeys _, merge_obeys⟩

theorem setElement_obeys : EagerHandler.Obeys setElement := fun way _ _ _ _ _ receiver all =>
  .bind (written_obeys receiver all) fun _ made => make_obeys _ fun id => way.record id rfl made

/-- The type of a dictionary is kept for other entries. -/
theorem keepingType_obeys {name : String} {given entries : Table Statement} (receiver : way.data data)
    (found : expectEntries name data = .ok given) (all : ∀ entry ∈ entries, way.child entry.2) :
    Attempt.Obeys way (liftM (Data.make data.type.dereference (.record entries)) : Attempt Data) way.data := by
  obtain ⟨id, type, value⟩ := data
  cases value with
  | record elements => exact make_obeys _ fun other => way.rewritten receiver other entries all
  | _ => cases found

theorem deleteEntry_obeys : EagerHandler.Obeys deleteEntry := by
  intro way caller scope data arguments _ receiver _
  refine .reading fun key _ => .reading fun entries found => .reading fun key _ => ?_
  exact keepingType_obeys receiver found (Table.all_erase (expectEntries_good receiver found) key)

theorem entryCount_obeys : EagerHandler.Obeys entryCount := fun _ _ _ _ _ _ _ _ =>
  .reading fun _ _ => leaf_obeys rfl rfl

theorem dictionaryFamily_obeys : ∀ builtin ∈ dictionaryFamily, builtin.handler.Obeys := by
  simp only [dictionaryFamily, List.forall_mem_cons, List.not_mem_nil, false_implies, implies_true, and_true]
  exact ⟨getEntry_obeys, setElement_obeys, hasEntry_obeys, deleteEntry_obeys, entryKeys_obeys,
    entryValues_obeys _, entryCount_obeys⟩

/-! ### Operations -/

theorem call_obeys : EagerHandler.Obeys call := fun _ _ _ _ _ calls receiver all =>
  .reading fun _ found => .lift (calls _ _ (expectOperation_good receiver found) all)

theorem callingFamily_obeys : ∀ builtin ∈ callingFamily, builtin.handler.Obeys := by
  simp only [callingFamily, List.forall_mem_cons, List.not_mem_nil, false_implies, implies_true, and_true]
  exact call_obeys

/-! ### External objects -/

/-- An object that is made from what a handle is made from is no promise. -/
theorem materialize_good {className : String} {arguments : List Statement} {external : External}
    (made : materialize className arguments = .ok external) : external.Holds way.data := by
  unfold materialize at made
  dsimp only at made
  split at made
  · cases made; trivial
  · split at made
    · next text _ =>
      split at made
      · cases parsed : parseDate text with
        | error failure => rw [parsed] at made; cases made
        | ok moment => rw [parsed] at made; cases made; trivial
      · split at made
        · cases parsed : parseUrl text with
          | error failure => rw [parsed] at made; cases made
          | ok url => rw [parsed] at made; cases made; trivial
        · cases made
    · cases made

theorem externalOf_obeys (className : String) (arguments : List Statement) (instanceId : EntityId) :
    Attempt.Obeys way (externalOf className arguments instanceId) (External.Holds way.data) := by
  refine .look fun world kept => ?_
  cases found : world.store.instance? instanceId with
  | some external => exact .pure (way.answers kept found)
  | none =>
    refine .reading fun external made => ?_
    refine .bind (.lift (.update fun _ kept => way.places _ kept (materialize_good made))) fun _ _ => ?_
    exact .pure (materialize_good made)

theorem expectExternal_obeys (name : String) (data : Data) :
    Attempt.Obeys way (expectExternal name data) (External.Holds way.data) := by
  unfold expectExternal
  split
  · exact externalOf_obeys _ _ _
  · exact .fail _

theorem expectDate_obeys (name : String) (data : Data) :
    Attempt.Obeys way (expectDate name data) fun _ => True := by
  refine .bind (expectExternal_obeys _ _) fun external _ => ?_
  cases external with
  | date moment => exact .pure trivial
  | _ => exact .fail _

theorem dateField_obeys (name : String) (read : Moment → Int) : EagerHandler.Obeys (dateField name read) :=
  fun _ _ _ _ _ _ _ _ => .bind (expectDate_obeys _ _) fun _ _ => leaf_obeys rfl rfl

theorem toISOString_obeys : EagerHandler.Obeys toISOString :=
  fun _ _ _ _ _ _ _ _ => .bind (expectDate_obeys _ _) fun _ _ => leaf_obeys rfl rfl

theorem addDays_obeys : EagerHandler.Obeys addDays := by
  intro way caller scope data arguments _ _ _
  refine .reading fun argument _ => .bind (expectDate_obeys _ _) fun moment _ => .reading fun days _ => .reject trivial ?_
  dsimp only
  split
  · exact .lift (createDate_obeys _)
  · exact .fail _

theorem dateFamily_obeys : ∀ builtin ∈ dateFamily, builtin.handler.Obeys := by
  simp only [dateFamily, List.forall_mem_cons, List.not_mem_nil, false_implies, implies_true, and_true]
  exact ⟨dateField_obeys _ _, toISOString_obeys, dateField_obeys _ _, dateField_obeys _ _,
    dateField_obeys _ _, dateField_obeys _ _, dateField_obeys _ _, dateField_obeys _ _,
    dateField_obeys _ _, addDays_obeys⟩

theorem expectUrl_obeys (name : String) (data : Data) : Attempt.Obeys way (expectUrl name data) fun _ => True := by
  refine .bind (expectExternal_obeys _ _) fun external _ => ?_
  cases external with
  | url url => exact .pure trivial
  | _ => exact .fail _

theorem urlField_obeys (name : String) (read : Url → String) : EagerHandler.Obeys (urlField name read) :=
  fun _ _ _ _ _ _ _ _ => .bind (expectUrl_obeys _ _) fun _ _ => leaf_obeys rfl rfl

theorem textEntry_obeys (key value : String) :
    Attempt.Obeys way (do
      let value ← (Data.text value : Attempt Data)
      let statement ← (Statement.make value : Attempt Statement)
      return (key, statement)) fun entry => way.child entry.2 :=
  .bind (leaf_obeys rfl rfl) fun _ known => .bind (.build (.statement known)) fun _ made => .pure made

theorem searchParams_obeys : EagerHandler.Obeys searchParams := by
  intro way caller scope data arguments _ _ _
  refine .bind (expectUrl_obeys _ _) fun url _ => ?_
  refine .bind (.mapM fun pair _ => textEntry_obeys pair.1 pair.2) fun entries all => ?_
  exact make_obeys _ fun id => way.record id rfl (Table.all_ofEntries all)

theorem locatorFamily_obeys : ∀ builtin ∈ locatorFamily, builtin.handler.Obeys := by
  simp only [locatorFamily, List.forall_mem_cons, List.not_mem_nil, false_implies, implies_true, and_true]
  exact ⟨urlField_obeys _ _, urlField_obeys _ _, urlField_obeys _ _, urlField_obeys _ _,
    urlField_obeys _ _, urlField_obeys _ _, searchParams_obeys⟩

theorem responseData_makes (response : Response) : Fresh.Makes way.code (responseData response) way.data := by
  refine .bind (.admitted rfl rfl) fun status first => .bind (.admitted rfl rfl) fun ok second => .bind (.admitted rfl rfl) fun body third => ?_
  refine .object ?_
  simpa using ⟨first, second, third⟩

theorem send_obeys (scope : Scope) (data : Data) (request : Request) :
    Attempt.Obeys way (send scope data request) way.data := by
  refine .bind (expectExternal_obeys _ _) fun external _ => ?_
  dsimp only
  split
  · split
    · exact .fail _
    · next transport _ =>
      refine .bind (.lift (.observe _)) fun _ _ => ?_
      cases transport request with
      | ok response =>
        refine .bind (.build (responseData_makes response)) fun value known => ?_
        exact .after (.lift (createInstance_obeys _ (fun _ _ => rfl) known))
      | error reason => exact .after (.lift (createInstance_obeys _ (fun _ _ => rfl) trivial))
  · exact .fail _

theorem httpGet_obeys : EagerHandler.Obeys httpGet := fun _ _ _ _ _ _ _ _ =>
  .reading fun _ _ => .reading fun _ _ => send_obeys _ _ _

theorem httpPost_obeys : EagerHandler.Obeys httpPost := fun _ _ _ _ _ _ _ _ =>
  .reading fun _ _ => .reading fun _ _ => .reading fun _ _ => send_obeys _ _ _

theorem httpFamily_obeys : ∀ builtin ∈ httpFamily, builtin.handler.Obeys := by
  simp only [httpFamily, List.forall_mem_cons, List.not_mem_nil, false_implies, implies_true, and_true]
  exact ⟨httpGet_obeys, httpPost_obeys⟩

theorem await_obeys : EagerHandler.Obeys await := by
  intro way caller scope data arguments _ _ _
  refine .bind (expectExternal_obeys _ _) fun external known => ?_
  split
  · exact .pure known
  · exact .fail _
  · exact .fail _

theorem promiseFamily_obeys : ∀ builtin ∈ promiseFamily, builtin.handler.Obeys := by
  simp only [promiseFamily, List.forall_mem_cons, List.not_mem_nil, false_implies, implies_true, and_true]
  exact await_obeys

/-! ### Operations that evaluate their arguments themselves or change types -/

theorem branchArgument_upholds (name : String) (provides : scope.Provides std) (receiver : std.data data) (index : Nat)
    {argument : Pending} (upholds : argument.Upholds std) (branch : Branch) (expected : Option DataType) :
    Run.Upholds std (branchArgument name scope data index argument branch expected) std.data := by
  have inside := ((provides.enter branch).withSkip (provides.skipBehind receiver (some (name, index)))).expecting expected
  refine .bind (upholds _ inside) fun value known => ?_
  split
  · split
    · exact .draw (.leaf _ rfl)
    · exact .pure known
  · exact .pure known

theorem connective_upholds (name : String) (decisive : Bool) (branch : Branch) :
    LazyHandler.Upholds (connective name decisive branch) := by
  intro std scope data arguments provides receiver each
  cases arguments with
  | nil => exact .fail _
  | cons argument rest =>
    refine .reading fun left _ => ?_
    refine .bind (.lift (branchArgument_upholds name provides receiver 0 (each argument List.mem_cons_self) _ _)) fun right known => ?_
    split
    · exact .build (.leaf _ rfl)
    · split
      · exact .pure known
      · exact .reading fun _ _ => .build (.leaf _ rfl)

theorem choose_upholds : LazyHandler.Upholds choose := by
  intro std scope data arguments provides receiver each
  unfold choose
  split
  · next whenTrue whenFalse rest =>
    refine .reading fun condition _ => ?_
    refine .bind (.lift (branchArgument_upholds _ provides receiver 0 (each whenTrue (by simp)) _ _)) fun onTrue trues => ?_
    refine .bind (.lift (branchArgument_upholds _ provides receiver 1 (each whenFalse (by simp)) _ _)) fun onFalse falses => ?_
    have chosen_good : std.data (if condition then onTrue else onFalse) := by split <;> assumption
    generalize (if condition then onTrue else onFalse) = chosen at chosen_good
    dsimp only
    split
    · exact .pure chosen_good
    · exact .build (.retyped chosen_good _)
  · exact .fail _

theorem orElse_upholds : EagerHandler.Upholds orElse := by
  intro std caller scope data arguments _ _ receiver all
  refine .reading fun fallback given => ?_
  split
  · exact .pure (first_good all given)
  · exact .build (.retyped receiver _)

end Operation

/-! ## All built-in operations -/

/-- How a built-in operation works. Most keep to every discipline; the others evaluate their arguments themselves or give
a value that is there already another type. -/
inductive Builtin.Works (builtin : Builtin) : Prop where
  | obedient (obeys : builtin.handler.Obeys)
  | conjunction (handler : builtin.handler = .lazy (Operation.connective "and" false .narrowed))
  | disjunction (handler : builtin.handler = .lazy (Operation.connective "or" true .inverse))
  | choice (named : builtin.name = "thenElse") (handler : builtin.handler = .lazy Operation.choose)
  | fallback (named : builtin.name = "orElse") (handler : builtin.handler = .eager Operation.orElse)

theorem builtins_work : ∀ builtin ∈ builtins, builtin.Works := by
  have logic : ∀ builtin ∈ Operation.logicFamily, builtin.Works := by
    simp only [Operation.logicFamily, List.forall_mem_cons, List.not_mem_nil, false_implies, implies_true, and_true]
    exact ⟨.conjunction rfl, .disjunction rfl, .obedient Operation.negate_obeys, .choice rfl rfl⟩
  have optional : ∀ builtin ∈ Operation.optionalFamily, builtin.Works := by
    simp only [Operation.optionalFamily, List.forall_mem_cons, List.not_mem_nil, false_implies, implies_true, and_true]
    exact .fallback rfl rfl
  have others {family : List Builtin} (all : ∀ builtin ∈ family, builtin.handler.Obeys) : ∀ builtin ∈ family, builtin.Works :=
    fun builtin among => .obedient (all builtin among)
  simp only [builtins, List.forall_mem_append]
  exact ⟨⟨⟨⟨⟨⟨⟨⟨⟨⟨⟨⟨others Operation.genericFamily_obeys, others Operation.textualFamily_obeys⟩,
    others Operation.numericFamily_obeys⟩, logic⟩, others Operation.sequenceFamily_obeys⟩,
    others Operation.recordFamily_obeys⟩, others Operation.dictionaryFamily_obeys⟩, optional⟩,
    others Operation.callingFamily_obeys⟩, others Operation.dateFamily_obeys⟩, others Operation.locatorFamily_obeys⟩,
    others Operation.httpFamily_obeys⟩, others Operation.promiseFamily_obeys⟩

/-- Every built-in operation keeps to every standard. -/
theorem builtins_uphold : ∀ builtin ∈ builtins, builtin.handler.Upholds := by
  intro builtin among
  cases builtins_work builtin among with
  | obedient obeys =>
    cases handler : builtin.handler with
    | eager run =>
      rw [handler] at obeys
      exact EagerHandler.Obeys.upholds obeys
    | lazy run =>
      rw [handler] at obeys
      cases obeys
  | conjunction handler => rw [handler]; exact Operation.connective_upholds _ _ _
  | disjunction handler => rw [handler]; exact Operation.connective_upholds _ _ _
  | choice named handler => rw [handler]; exact Operation.choose_upholds
  | fallback named handler => rw [handler]; exact Operation.orElse_upholds

end LivePipeline
