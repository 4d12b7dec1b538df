import LivePipeline.Proofs.Files
import LivePipeline.Proofs.Invariants
import LivePipeline.Proofs.ResultTypes.Fitting

/-! Handlers and the results they declare. What a handler gives is within the declared type: for most operations
because that type is fixed, for those on arrays, objects, dictionaries and unions because what they pass on
agrees with the type of the receiver. -/

namespace LivePipeline

open DataType Operation

/-! ## Attempts -/

namespace Run.Ends

variable {good : α → Prop}

theorem lift {run : Run α} (yields : run.Yields good) : Ends (liftM run : ExceptT ε Run α) good := by
  intro world value same
  cases same
  exact yields world

theorem build {work : Fresh α} (gives : work.Gives good) : Ends (liftM work : ExceptT ε Run α) good :=
  lift (.draw gives)

/-- Behind work that only looks at data, what it has found is known. -/
theorem reading {outcome : Except Failure β} {next : β → Attempt α} (second : ∀ value, outcome = .ok value → Ends (next value) good) :
    Ends (liftM outcome >>= next) good := by
  cases outcome with
  | ok value => exact second value rfl
  | error failure => exact .throw failure

theorem mapM {work : β → ExceptT ε Run α} {items : List β} (each : ∀ item ∈ items, Ends (work item) good) :
    Ends (items.mapM work) fun values => ∀ value ∈ values, good value := by
  induction items with
  | nil => exact .pure (by simp)
  | cons item rest ih =>
    rw [List.forall_mem_cons] at each
    rw [List.mapM_cons]
    refine .bind each.1 fun value first => .bind (ih each.2) fun values others => .pure ?_
    exact List.forall_mem_cons.mpr ⟨first, others⟩

theorem weaken {work : ExceptT ε Run α} {good' : α → Prop} (ends : Ends work good) (implied : ∀ value, good value → good' value) :
    Ends work good' := fun world value same => implied value (ends world value same)

end Run.Ends

/-- Whenever the work fails, it is for a reason of the kind. -/
def Run.Fails (work : ExceptT ε Run α) (reason : ε → Prop) : Prop :=
  Run.Yields work.run fun outcome => ∀ error, outcome = .error error → reason error

namespace Run.Fails

variable {reason : ε → Prop}

protected theorem pure (value : α) : Fails (Pure.pure value : ExceptT ε Run α) reason := fun _ _ same => nomatch same

protected theorem throw {error : ε} (holds : reason error) : Fails (throw error : ExceptT ε Run α) reason :=
  fun _ _ same => Except.error.inj same ▸ holds

protected theorem bind {work : ExceptT ε Run α} {next : α → ExceptT ε Run β} (first : Fails work reason)
    (second : ∀ value, Fails (next value) reason) : Fails (work >>= next) reason := by
  change Run.Yields (work.run >>= ExceptT.bindCont next) _
  refine Run.Yields.bind first fun outcome known => ?_
  cases outcome with
  | ok value => exact second value
  | error error => exact fun _ _ same => known _ (Except.error.inj same ▸ rfl)

theorem lift (run : Run α) : Fails (liftM run : ExceptT ε Run α) reason := fun _ _ same => nomatch same

/-- A failure under a condition. -/
theorem reject {condition : Prop} [Decidable condition] {error : ε} {next : PUnit → ExceptT ε Run α}
    (holds : condition → reason error) (continues : Fails (next ()) reason) :
    Fails (if condition then throw error >>= next else next ()) reason := by
  split
  · next met => exact .throw (holds met)
  · exact continues

/-- A sort fails only as its comparisons do. -/
theorem mergeM {compare : α → α → ExceptT ε Run Ordering} (each : ∀ a b, Fails (compare a b) reason) (left right : List α) :
    Fails (mergeM compare left right) reason := by
  fun_induction LivePipeline.mergeM compare left right with
  | case1 right => exact .pure _
  | case2 x xs => exact .pure _
  | case3 x xs y ys later earlier =>
    refine .bind (each x y) fun order => ?_
    cases order with
    | gt => exact .bind later fun _ => .pure _
    | _ => exact .bind earlier fun _ => .pure _

theorem mergeSortM {compare : α → α → ExceptT ε Run Ordering} (each : ∀ a b, Fails (compare a b) reason) (items : List α) :
    Fails (mergeSortM compare items) reason := by
  fun_induction LivePipeline.mergeSortM compare items with
  | case1 items => exact .pure _
  | case2 items long left right => exact .bind left fun lefts => .bind right fun rights => .mergeM each lefts rights

end Run.Fails

namespace Table

theorem has_insert {table : Table α} {key other : String} (there : has table other) (value : α) : has (insert table key value) other := by
  by_cases same : other = key
  · simp [same, has]
  · rwa [has, get?_insert_of_ne table value same]

theorem has_insertAll {table : Table α} {key : String} (there : has table key) (later : Table α) : has (insertAll table later) key := by
  induction later generalizing table with
  | nil => exact there
  | cons entry rest ih => exact ih (has_insert there entry.2)

theorem of_mem_insertAll {table later : Table α} {entry : String × α} (among : entry ∈ insertAll table later) :
    entry ∈ table ∨ entry ∈ later := by
  induction later generalizing table with
  | nil => exact .inl among
  | cons first rest ih =>
    rcases ih among with written | behind
    · rcases of_mem_insert written with rfl | before
      · exact .inr List.mem_cons_self
      · exact .inl before
    · exact .inr (List.mem_cons_of_mem _ behind)

end Table

/-! ## New data -/

namespace Fresh.Gives

/-- A new array holds the items, and is within an array of what each of them fits. -/
theorem sequence (items : List Data) {fallback declared : DataType} (otherwise : fallback.Fits declared) :
    Gives (Data.array items fallback) fun data => (∃ statements, data.items? = some statements ∧ statements.map (·.data) = items)
      ∧ ((∀ item ∈ items, item.type.Fits declared) → Within data.type (.array declared)) := by
  refine .bind (statements items) fun made same => data fun id => ⟨⟨made, rfl, same⟩, fun each => .array (Fits.suits ?_)⟩
  split
  · exact otherwise
  · next some =>
    refine unionOf_fits (by simpa using some) fun type named => ?_
    obtain ⟨item, among, rfl⟩ := List.mem_map.mp named
    exact each item among

end Fresh.Gives

/-! ## Calls that are typed -/

/-- The value of data is as its type says: it has a value when its type asks for one, and what it is made of fits
what the type says of its elements and properties. -/
structure Data.Agrees (data : Data) : Prop where
  wellFormed : data.type.wellFormed
  present : data.value ≠ .undefined → ∃ alternative ∈ data.type.alternatives, alternative.kind ≠ .undefined
  items : ∀ items, data.items? = some items → ∀ item ∈ items, item.data.type.Fits (elementType data)
  entries : ∀ entries, data.entries? = some entries → ∀ entry ∈ entries, entry.2.data.type.Fits (elementType data)
  properties : ∀ declared required, data.type.dereference = .object declared required → ∀ entries, data.entries? = some entries →
    (∀ entry ∈ entries, ∃ type, Table.get? declared entry.1 = some type ∧ entry.2.data.type.Fits type)
      ∧ ∀ key ∈ required, Table.has entries key

/-- The operation can be chained on the receiver, and the arguments have the types of its parameters. -/
structure Builtin.Accepts (builtin : Builtin) (data : Data) (arguments : List Data) : Prop where
  receiver : data.supports (builtin.parameters data)
  passed : ∀ pair ∈ arguments.zip ((builtin.parameters data).drop 1), pair.1.type.compatible pair.2.type

/-- Calling the operation on the values gives an error or what its type declares. -/
def Caller.Answers (caller : Caller) (scope : Scope) (operation : Data) (values : List Data) : Prop :=
  Run.Yields (caller scope operation values) fun answer => answer.isError = true ∨ answer.type.Fits (declaredResult operation.type)

/-- The object is declared to have the property, and it may be of the type. -/
def Data.Declares (data : Data) (key : String) (type : DataType) : Prop :=
  ∃ declared required, data.type.dereference = .object declared required
    ∧ ∃ expected, Table.get? declared key = some expected ∧ type.Fits expected

theorem Data.Declares.get? {data : Data} {key : String} {type : DataType} (declares : data.Declares key type)
    {declared : Table DataType} {required : List String} (shape : data.type.dereference = .object declared required) :
    ∃ expected, Table.get? declared key = some expected ∧ type.Fits expected := by
  obtain ⟨properties, needed, same, expected, given, fits⟩ := declares
  cases shape.symm.trans same
  exact ⟨expected, given, fits⟩

/-- What declared results rest on. Where one joins types, joining must lose none of them; an element that is added
has a type without nested unions; and what an operation changes must leave the receiver's type as it is. -/
structure Builtin.Foresees (builtin : Builtin) (data : Data) (arguments : List Data) : Prop where
  element : builtin.result = returnsElement → Lossless [elementType data, .undefined]
  joined : builtin.result = returnsConcat → ∀ other ∈ arguments, Lossless [elementType data, elementType other]
  values : builtin.result = returnsPropertyTypes → ∀ declared required, data.type.dereference = .object declared required →
    Lossless (Table.values declared)
  flat : builtin.name = "push" ∨ (builtin.group = "dictionary" ∧ builtin.name = "set") → ∀ argument ∈ arguments, ∀ members, argument.type.members? = some members →
    ∀ member ∈ members, ¬ member.IsUnion
  pushed : builtin.name = "push" → ∃ alternative ∈ data.type.alternatives, alternative.kind = .array
  rewritten : builtin.group = "object" → builtin.name = "set" ∨ builtin.name = "merge" → data.type.dereference.kind = .object
  property : builtin.group = "object" → builtin.name = "set" → ∀ key value rest, arguments = key :: value :: rest →
    ∀ text, key.text? = some text → data.Declares text value.type
  merged : builtin.group = "object" → builtin.name = "merge" → ∀ other rest, arguments = other :: rest →
    ∀ entries, other.entries? = some entries → ∀ entry ∈ entries, data.Declares entry.1 entry.2.data.type
  initial : builtin.name = "reduce" → data.items? = some [] → ∀ operation initial rest, arguments = operation :: initial :: rest →
    initial.type.Fits (declaredResult operation.type)

/-- The result is no error; nor has what `map` gives an error in the place of an element. -/
structure Builtin.Succeeds (builtin : Builtin) (result : Data) : Prop where
  noError : result.isError = false
  noAnswer : builtin.name = "map" → ∀ items, result.items? = some items → ∀ item ∈ items, item.data.isError = false

/-- A call with everything that its declared result rests on: callbacks answer as they declare for the elements that
they are called with, in a fold behind the initial value or what was folded. -/
structure Builtin.Typed (builtin : Builtin) (caller : Caller) (scope : Scope) (data : Data) (arguments : List Data) : Prop where
  accepts : builtin.Accepts data arguments
  receiver : data.Agrees
  passed : ∀ argument ∈ arguments, argument.Agrees
  mapped : builtin.name = "map" → ∀ operation rest, arguments = operation :: rest → ∀ items, data.items? = some items →
    ∀ item ∈ items, ∀ index, index.type = .number → caller.Answers scope operation [item.data, index]
  folded : builtin.name = "reduce" → ∀ operation initial rest, arguments = operation :: initial :: rest →
    ∀ items, data.items? = some items → ∀ item ∈ items, ∀ index, index.type = .number →
    ∀ before, before = initial ∨ before.type.Fits (declaredResult operation.type) → caller.Answers scope operation [before, item.data, index]
  foresees : builtin.Foresees data arguments

/-- What an eager operation gives is within the result that it declares. -/
def Builtin.Sound (builtin : Builtin) : Prop := ∀ run, builtin.handler = .eager run → ∀ caller scope data arguments,
  builtin.Typed caller scope data arguments → Run.Ends (run caller scope data arguments) fun result =>
    builtin.Succeeds result → Within result.type (builtin.result data (arguments.map (·.type)))

/-! ## Results of one type -/

/-- Whatever it is called on, the handler fails, gives an error or gives data of the type. -/
def EagerHandler.Fixes (handler : EagerHandler) (type : DataType) : Prop := ∀ caller scope data arguments,
  Run.Ends (handler caller scope data arguments) fun result => result.isError = false → result.type.compatible type

namespace Builtin.Sound

variable {name group : String} {parameters : Data → List Parameter} {result : Data → List DataType → DataType}

theorem eager {run : EagerHandler} (ends : ∀ caller scope data arguments,
    (Builtin.eager name group parameters result run).Typed caller scope data arguments → Run.Ends (run caller scope data arguments) fun value =>
      (Builtin.eager name group parameters result run).Succeeds value → Within value.type (result data (arguments.map (·.type)))) :
    (Builtin.eager name group parameters result run).Sound := by
  intro handler same
  obtain rfl := Handler.eager.inj same
  exact ends

theorem fixed {run : EagerHandler} {type : DataType} (fixes : run.Fixes type) (declares : ∀ data types, result data types = type) :
    (Builtin.eager name group parameters result run).Sound := by
  refine .eager fun caller scope data arguments _ => (fixes caller scope data arguments).weaken fun value known succeeds => ?_
  rw [declares]
  exact .compatible (known succeeds.noError)

theorem lazy {run : LazyHandler} : (Builtin.lazy name group parameters result run).Sound := fun _ same => nomatch same

end Builtin.Sound

namespace Operation

variable {scope : Scope} {data : Data} {arguments : List Data}

/-- An operation that results in a value of a type that is compatible with itself. -/
theorem plain_ends {type : DataType} (value : Value) (self : type.compatible type) :
    Run.Ends (liftM (Data.make type value) : Attempt Data) fun result => result.isError = false → result.type.compatible type :=
  .build (.data fun _ _ => self)

theorem isEqual_fixes : EagerHandler.Fixes isEqual .boolean := fun _ _ _ _ => .reading fun _ _ => plain_ends _ rfl

theorem isTypeOf_fixes : EagerHandler.Fixes isTypeOf .boolean := fun _ _ _ _ => .reading fun _ _ => plain_ends _ rfl

theorem toText_fixes : EagerHandler.Fixes toText .string := fun _ _ _ _ => plain_ends _ rfl

theorem isUndefined_fixes : EagerHandler.Fixes isUndefined .boolean := fun _ _ _ _ => plain_ends _ rfl

theorem genericFamily_sound : ∀ builtin ∈ genericFamily, builtin.Sound := by
  simp only [genericFamily, List.forall_mem_cons, List.not_mem_nil, false_implies, implies_true, and_true]
  exact ⟨.fixed isEqual_fixes fun _ _ => rfl, .fixed isTypeOf_fixes fun _ _ => rfl,
    .fixed toText_fixes fun _ _ => rfl, .fixed isUndefined_fixes fun _ _ => rfl⟩

theorem arithmetic_fixes (name : String) (compute : Float → Float → Float) : EagerHandler.Fixes (arithmetic name compute) .number :=
  fun _ _ _ _ => .reading fun _ _ => plain_ends _ rfl

theorem comparison_fixes (name : String) (compare : Float → Float → Bool) : EagerHandler.Fixes (comparison name compare) .boolean :=
  fun _ _ _ _ => .reading fun _ _ => plain_ends _ rfl

theorem transform_fixes (name : String) (compute : Float → Float) : EagerHandler.Fixes (transform name compute) .number :=
  fun _ _ _ _ => .reading fun _ _ => plain_ends _ rfl

theorem divide_fixes : EagerHandler.Fixes divide .number := fun _ _ _ _ => .reading fun _ _ => .reject _ (plain_ends _ rfl)

theorem modulo_fixes : EagerHandler.Fixes modulo .number := fun _ _ _ _ => .reading fun _ _ => .reject _ (plain_ends _ rfl)

theorem toFixed_fixes : EagerHandler.Fixes toFixed .string := fun _ _ _ _ =>
  .reading fun _ _ => .reading fun _ _ => .reading fun _ _ => .reject _ (plain_ends _ rfl)

/-- An array of values of a type that are made one by one. -/
theorem list_ends {type : DataType} {values : List α} {value : α → Value} (self : type.Fits type) :
    Run.Ends (do
      let items ← values.mapM fun item => (Data.make type (value item) : Attempt Data)
      Data.array items type : Attempt Data) fun result => Within result.type (.array type) := by
  have made (item : α) : Run.Ends (liftM (Data.make type (value item)) : Attempt Data) fun made => made.type = type :=
    .build (.data fun _ => rfl)
  refine .bind (.mapM fun item _ => made item) fun items all => ?_
  refine .build fun next => (Fresh.Gives.sequence items self next).2 fun item among => ?_
  rw [all item among]
  exact self

theorem toRange_sound {name group : String} {parameters : Data → List Parameter} :
    (Builtin.eager name group parameters (fun _ _ => .array .number) toRange).Sound :=
  .eager fun _ _ _ _ _ => .reading fun _ _ => .reject _ <| .reject _ <|
    Run.Ends.weaken (list_ends (Fits.self rfl)) fun _ within _ => within

theorem numericFamily_sound : ∀ builtin ∈ numericFamily, builtin.Sound := by
  have computes (name : String) (compute : Float → Float → Float) {group parameters} :
      (Builtin.eager name group parameters returnsNumber (arithmetic name compute)).Sound :=
    .fixed (arithmetic_fixes name compute) fun _ _ => rfl
  have compares (name : String) (compare : Float → Float → Bool) {group parameters} :
      (Builtin.eager name group parameters returnsBoolean (comparison name compare)).Sound :=
    .fixed (comparison_fixes name compare) fun _ _ => rfl
  have transforms (name : String) (compute : Float → Float) {group parameters} :
      (Builtin.eager name group parameters returnsNumber (transform name compute)).Sound :=
    .fixed (transform_fixes name compute) fun _ _ => rfl
  simp only [numericFamily, List.forall_mem_cons, List.not_mem_nil, false_implies, implies_true, and_true]
  exact ⟨computes _ _, computes _ _, computes _ _, .fixed divide_fixes fun _ _ => rfl, .fixed modulo_fixes fun _ _ => rfl,
    computes _ _, computes _ _, computes _ _, transforms _ _, transforms _ _, transforms _ _, transforms _ _, compares _ _,
    compares _ _, compares _ _, compares _ _, toRange_sound, .fixed toFixed_fixes fun _ _ => rfl⟩

theorem textLength_fixes : EagerHandler.Fixes textLength .number := fun _ _ _ _ => .reading fun _ _ => plain_ends _ rfl

theorem concatTexts_fixes : EagerHandler.Fixes concatTexts .string := fun _ _ _ _ => .reading fun _ _ => plain_ends _ rfl

theorem textTest_fixes (name : String) (test : String → String → Bool) : EagerHandler.Fixes (textTest name test) .boolean :=
  fun _ _ _ _ => .reading fun _ _ => plain_ends _ rfl

theorem indexOfText_fixes : EagerHandler.Fixes indexOfText .number := fun _ _ _ _ => .reading fun _ _ => plain_ends _ rfl

theorem sliceText_fixes : EagerHandler.Fixes sliceText .string := fun _ _ _ _ =>
  .reading fun _ _ => .reading fun _ _ => .reading fun _ _ => plain_ends _ rfl

theorem splitText_sound {name group : String} {parameters : Data → List Parameter} :
    (Builtin.eager name group parameters returnsStrings splitText).Sound :=
  .eager fun _ _ _ _ _ => .reading fun _ _ => Run.Ends.weaken (list_ends (Fits.self rfl)) fun _ within _ => within

theorem textTransform_fixes (name : String) (change : String → String) : EagerHandler.Fixes (textTransform name change) .string :=
  fun _ _ _ _ => .reading fun _ _ => plain_ends _ rfl

theorem textReplacement_fixes (name : String) (change : String → String → String → String) :
    EagerHandler.Fixes (textReplacement name change) .string := fun _ _ _ _ =>
  .reading fun _ _ => .reading fun _ _ => .reading fun _ _ => .reading fun _ _ => plain_ends _ rfl

theorem repeatText_fixes : EagerHandler.Fixes repeatText .string := fun _ _ _ _ =>
  .reading fun _ _ => .reading fun _ _ => .reading fun _ _ => .reject _ <| .reject _ <| plain_ends _ rfl

theorem toNumber_fixes : EagerHandler.Fixes toNumber .number := by
  intro caller scope data arguments
  refine .reading fun text _ => ?_
  split
  · exact plain_ends _ rfl
  · exact .throw _

theorem parseJson_fixes : EagerHandler.Fixes parseJson .unknown := fun _ _ _ _ _ _ _ _ => DataType.compatible_unknown _

theorem matchesPattern_fixes : EagerHandler.Fixes matchesPattern .boolean := by
  intro caller scope data arguments
  refine .reading fun texts _ => ?_
  dsimp only
  split
  · exact plain_ends _ rfl
  · exact .throw _

theorem createInstance_yields (className : String) {type : DataType} (self : type.compatible type) (arguments : List Data)
    (external : External) : Run.Yields (createInstance className type arguments external) fun result =>
      result.isError = false → result.type.compatible type :=
  .behind _ fun _ => .behind _ fun _ => .behind _ fun _ => fun _ _ => self

theorem toDate_fixes : EagerHandler.Fixes toDate dateType := fun _ _ _ _ =>
  .reading fun _ _ => .reading fun _ _ => .lift (.behind _ fun _ => createInstance_yields _ rfl _ _)

theorem toUrl_fixes : EagerHandler.Fixes toUrl urlType := fun _ _ _ _ =>
  .reading fun _ _ => .reading fun _ _ => .behind _ fun _ => .lift (createInstance_yields _ rfl _ _)

theorem textualFamily_sound : ∀ builtin ∈ textualFamily, builtin.Sound := by
  have tests (name : String) (test : String → String → Bool) {group parameters} :
      (Builtin.eager name group parameters returnsBoolean (textTest name test)).Sound :=
    .fixed (textTest_fixes name test) fun _ _ => rfl
  have transforms (name : String) (change : String → String) {group parameters} :
      (Builtin.eager name group parameters returnsString (textTransform name change)).Sound :=
    .fixed (textTransform_fixes name change) fun _ _ => rfl
  have replaces (name : String) (change : String → String → String → String) {group parameters} :
      (Builtin.eager name group parameters returnsString (textReplacement name change)).Sound :=
    .fixed (textReplacement_fixes name change) fun _ _ => rfl
  simp only [textualFamily, List.forall_mem_cons, List.not_mem_nil, false_implies, implies_true, and_true]
  exact ⟨.fixed textLength_fixes fun _ _ => rfl, .fixed concatTexts_fixes fun _ _ => rfl, tests _ _, tests _ _, tests _ _,
    .fixed indexOfText_fixes fun _ _ => rfl, .fixed sliceText_fixes fun _ _ => rfl, splitText_sound, transforms _ _,
    transforms _ _, transforms _ _, replaces _ _, replaces _ _, .fixed repeatText_fixes fun _ _ => rfl,
    .fixed toNumber_fixes fun _ _ => rfl, .fixed parseJson_fixes fun _ _ => rfl, .fixed matchesPattern_fixes fun _ _ => rfl,
    .fixed toDate_fixes fun _ _ => rfl, .fixed toUrl_fixes fun _ _ => rfl⟩

theorem negate_fixes : EagerHandler.Fixes negate .boolean := fun _ _ _ _ => .reading fun _ _ => plain_ends _ rfl

theorem logicFamily_sound : ∀ builtin ∈ logicFamily, builtin.Sound := by
  simp only [logicFamily, List.forall_mem_cons, List.not_mem_nil, false_implies, implies_true, and_true]
  exact ⟨.lazy, .lazy, .fixed negate_fixes fun _ _ => rfl, .lazy⟩

/-! ## Reading receivers and arguments -/

theorem first_eq {name : String} {argument : Data} (found : first name arguments = .ok argument) :
    ∃ rest, arguments = argument :: rest := by
  cases arguments with
  | nil => cases found
  | cons given rest => cases found; exact ⟨rest, rfl⟩

theorem firstTwo_eq {name : String} {pair : Data × Data} (found : firstTwo name arguments = .ok pair) :
    ∃ rest, arguments = pair.1 :: pair.2 :: rest := by
  match arguments with
  | [] | [_] => cases found
  | a :: b :: rest => cases found; exact ⟨rest, rfl⟩

theorem expectOperation_eq {name : String} {operation : Data} (found : expectOperation name data = .ok operation) : operation = data := by
  unfold expectOperation at found
  split at found
  · exact (Except.ok.inj found).symm
  · cases found

theorem wellFormed_elementType (agrees : data.Agrees) : (elementType data).wellFormed := by
  have formed := (wellFormed_dereference data.type).trans agrees.wellFormed
  unfold elementType elementOr element?
  split
  · next found => rw [found] at formed; exact formed
  · next found => rw [found] at formed; exact formed
  · next found =>
    rw [found] at formed
    exact wellFormed_unionOf (allWellFormed_iff.mp formed)
  · rfl

theorem wellFormed_declaredResult {type : DataType} (formed : type.wellFormed) : (declaredResult type).wellFormed := by
  rw [← wellFormed_dereference] at formed
  unfold declaredResult
  split
  · next found =>
    simp only [found, wellFormed, Bool.and_eq_true] at formed
    exact formed.2
  · rfl

/-! ## Sequences -/

/-- Data of the receiver's own type. -/
theorem receiver_ends (agrees : data.Agrees) (value : Value) :
    Run.Ends (liftM (Data.make data.type.dereference value) : Attempt Data) fun result => Within result.type data.type.dereference :=
  .build (.data fun _ => .compatible (compatible_self _ ((wellFormed_dereference data.type).trans agrees.wellFormed)))

/-- An element of the receiver, or nothing. -/
theorem within_element (lossless : Lossless [elementType data, .undefined]) {type : DataType}
    (known : type.Fits (elementType data) ∨ type = .undefined) : Within type (returnsElement data (arguments.map (·.type))) := by
  refine .suits (Fits.suits ?_)
  rcases known with fits | rfl
  · exact lossless _ (by simp) _ fits
  · exact lossless .undefined (by simp) .undefined (.self rfl)

theorem elementAt_mem {items : List Statement} {index : Float} {element : Data} (found : elementAt items index = some element) :
    ∃ item ∈ items, item.data = element := by
  obtain ⟨item, given, same⟩ := Option.map_eq_some_iff.mp (Option.ite_none_left_eq_some.mp found).2
  exact ⟨item, List.mem_of_getElem? given, same⟩

/-- A type of containers by their elements. -/
structure Containers (make : DataType → DataType) : Prop where
  plain : ∀ element, (make element).IsPlain
  unknown : ∀ element, (make unknown).compatible (make element)
  within : ∀ {a b : DataType}, a.Suits b → Within (make a) (make b)
  element : ∀ {data : Data} {element}, data.type.dereference = make element → elementType data = element

theorem array_containers : Containers DataType.array where
  plain _ := ⟨by simp [kind], by simp [kind]⟩
  unknown _ := by simp only [DataType.compatible, offers]
  within := .array
  element same := by rw [elementType, elementOr, element?, same]; rfl

theorem dictionary_containers : Containers DataType.dictionary where
  plain _ := ⟨by simp [kind], by simp [kind]⟩
  unknown _ := by simp only [DataType.compatible, offers]
  within := .dictionary
  element same := by rw [elementType, elementOr, element?, same]; rfl

/-- A receiver that is widened by a compatible element stays within its type. -/
theorem Containers.widened {make : DataType → DataType} (containers : Containers make) (agrees : data.Agrees) {type : DataType}
    (formed : type.wellFormed) (flat : ∀ members, type.members? = some members → ∀ member ∈ members, ¬ member.IsUnion)
    (offered : ∃ element, make element ∈ data.type.alternatives) (compatible : type.compatible (elementType data)) :
    Within (make (unionOf [elementType data, type])) data.type.dereference := by
  obtain ⟨element, among⟩ := offered
  by_cases joined : data.type.IsUnion
  · have anything : elementType data = .unknown := by
      unfold IsUnion at joined
      rw [elementType, elementOr, element?]
      cases shape : data.type.dereference <;> simp [shape, kind] at joined ⊢
    rw [anything, unionOf_unknown]
    refine .compatible ((containers.plain _).compatible_mono (containers.unknown element) fun part within => ?_)
    rw [(containers.plain element).alternatives, List.mem_singleton] at within
    rwa [within, alternatives_dereference]
  · have own : make element = data.type.dereference := by
      rw [← alternatives_dereference, (isPlain_of_not_isUnion joined).alternatives] at among
      exact List.mem_singleton.mp among
    have suits := unionOf_pair_suits (wellFormed_elementType agrees) formed flat compatible
    rw [containers.element own.symm] at suits ⊢
    exact own ▸ containers.within suits

section

variable {name group : String} {parameters : Data → List Parameter}

theorem elementByIndex_sound : (Builtin.eager name group parameters returnsElement elementByIndex).Sound := by
  refine .eager fun caller scope data arguments typed => ?_
  have lossless := typed.foresees.element rfl
  refine .reading fun index _ => .reading fun items found => .reading fun position _ => ?_
  split
  · next given =>
    obtain ⟨item, among, rfl⟩ := elementAt_mem given
    exact .pure fun _ => within_element lossless (.inl (typed.receiver.items items (expect_eq found) item among))
  · exact .build (.data fun _ _ => within_element lossless (.inr rfl))

theorem concatSequences_sound : (Builtin.eager name group parameters returnsConcat concatSequences).Sound := by
  refine .eager fun caller scope data arguments typed => .reading fun other given => .reading fun left found => .reading fun right found' => ?_
  obtain ⟨rest, rfl⟩ := first_eq given
  have lossless := typed.foresees.joined rfl other List.mem_cons_self
  have agrees := typed.passed other List.mem_cons_self
  have start := lossless _ (by simp) _ (.self (wellFormed_elementType typed.receiver))
  refine .build fun next => ?_
  obtain ⟨-, within⟩ := Fresh.Gives.sequence _ start next
  refine fun _ => within fun item among => ?_
  obtain ⟨statement, listed, rfl⟩ := List.mem_map.mp among
  rcases List.mem_append.mp listed with own | added
  · exact lossless _ (by simp) _ (typed.receiver.items left (expect_eq found) statement own)
  · exact lossless _ (by simp) _ (agrees.items right (expect_eq found') statement added)

theorem includesElement_fixes : EagerHandler.Fixes includesElement .boolean := fun _ _ _ _ =>
  .reading fun _ _ => .reading fun _ _ => plain_ends _ rfl

theorem indexOfElement_fixes : EagerHandler.Fixes indexOfElement .number := fun _ _ _ _ =>
  .reading fun _ _ => .reading fun _ _ => plain_ends _ rfl

theorem sequenceLength_fixes : EagerHandler.Fixes sequenceLength .number := fun _ _ _ _ => .reading fun _ _ => plain_ends _ rfl

theorem join_fixes : EagerHandler.Fixes join .string := by
  intro caller scope data arguments
  refine .reading fun items _ => ?_
  split
  · exact .reading fun _ _ => plain_ends _ rfl
  · exact .behind _ fun _ => plain_ends _ rfl

theorem reverseSequence_sound : (Builtin.eager name group parameters returnsReceiver reverseSequence).Sound :=
  .eager fun _ _ _ _ typed => .reading fun _ _ => (receiver_ends typed.receiver _).weaken fun _ within _ => within

theorem sliceSequence_sound : (Builtin.eager name group parameters returnsReceiver sliceSequence).Sound :=
  .eager fun _ _ _ _ typed => .reading fun _ _ => .reading fun _ _ => .reading fun _ _ =>
    (receiver_ends typed.receiver _).weaken fun _ within _ => within

theorem filterSequence_sound : (Builtin.eager name group parameters returnsReceiver filterSequence).Sound :=
  .eager fun _ _ _ _ typed => .behind _ fun _ => .behind _ fun _ =>
    (receiver_ends typed.receiver _).weaken fun _ within _ => within

theorem push_sound :
    (Builtin.eager "push" group (onSequence fun data => [.named "element" (elementType data)]) returnsReceiver push).Sound := by
  refine .eager fun caller scope data arguments typed => .reading fun element given => .reading fun items _ => .behind _ fun statement => ?_
  obtain ⟨rest, rfl⟩ := first_eq given
  have agrees := typed.passed element List.mem_cons_self
  have compatible := typed.accepts.passed (element, .named "element" (elementType data)) List.mem_cons_self
  have flat := typed.foresees.flat (.inl rfl) element List.mem_cons_self
  have offered : ∃ item, DataType.array item ∈ data.type.alternatives := by
    obtain ⟨alternative, among, shape⟩ := typed.foresees.pushed rfl
    cases alternative with
    | array item => exact ⟨item, among⟩
    | _ => cases shape
  exact .build (.data fun _ _ => array_containers.widened typed.receiver agrees.wellFormed flat offered compatible)

/-! ### Callbacks -/

theorem callEach_yields {caller : Caller} {operation : Data} {items : List Statement}
    (answers : ∀ item ∈ items, ∀ index, index.type = .number → caller.Answers scope operation [item.data, index]) :
    Run.Yields (callEach caller scope operation items) fun results =>
      ∀ answer ∈ results, answer.isError = true ∨ answer.type.Fits (declaredResult operation.type) :=
  .forall_mapM fun entry among => .bind (.draw (.data fun _ => rfl)) fun index counts =>
    answers entry.1 (List.fst_mem_of_mem_zipIdx among) index counts

theorem mapSequence_sound : (Builtin.eager "map" group parameters (fun _ types => .array (callbackResult types)) mapSequence).Sound := by
  refine .eager fun caller scope data arguments typed => .reading fun argument given => .reading fun operation found => .reading fun items found' => ?_
  obtain ⟨rest, rfl⟩ := first_eq given
  obtain rfl := expectOperation_eq found
  have answers := typed.mapped rfl operation rest rfl items (expect_eq found')
  have formed := wellFormed_declaredResult (typed.passed operation List.mem_cons_self).wellFormed
  refine .bind (.lift (callEach_yields answers)) fun results all => .build fun next => ?_
  obtain ⟨⟨statements, made, same⟩, within⟩ := Fresh.Gives.sequence results (.self formed) next
  refine fun succeeds => within fun answer among => (all answer among).resolve_left ?_
  rw [← same] at among
  obtain ⟨statement, listed, rfl⟩ := List.mem_map.mp among
  exact Bool.eq_false_iff.mp (succeeds.noAnswer rfl statements made statement listed)

theorem answered_ends (name : String) (caller : Caller) (agrees : data.Agrees) :
    Run.Ends (answered name caller scope data arguments) fun pairs => ∀ pair ∈ pairs, pair.1.data.type.Fits (elementType data) := by
  refine .reading fun argument _ => .reading fun operation _ => .reading fun items found => .behind _ fun results => .pure fun pair among => ?_
  exact agrees.items items (expect_eq found) pair.1 (List.of_mem_zip among).1

theorem findElement_sound : (Builtin.eager name group parameters returnsElement findElement).Sound := by
  refine .eager fun caller scope data arguments typed => .bind (answered_ends "find" caller typed.receiver) fun pairs all => ?_
  have lossless := typed.foresees.element rfl
  split
  · next item answer found =>
    refine .pure fun succeeds => ?_
    by_cases error : answer.isError = true
    · rw [if_pos error] at succeeds
      exact absurd error (Bool.eq_false_iff.mp succeeds.noError)
    · rw [if_neg error]
      exact within_element lossless (.inl (all _ (List.mem_of_find?_eq_some found)))
  · exact .build (.data fun _ _ => within_element lossless (.inr rfl))

/-- The first answer that decides, if it is an error, else a boolean. -/
theorem decisive_ends (results : List Data) (decides : Data → Bool) (found otherwise : Bool) :
    Run.Ends (match results.find? decides with
      | some answer => if answer.isError then return answer else Data.boolean found
      | none => Data.boolean otherwise : Attempt Data) fun result => result.isError = false → result.type.compatible .boolean := by
  split
  · next answer _ =>
    split
    · next error => exact .pure fun noError => by rw [error] at noError; cases noError
    · exact plain_ends _ rfl
  · exact plain_ends _ rfl

theorem someElement_fixes : EagerHandler.Fixes someElement .boolean := fun _ _ _ _ =>
  .reading fun _ _ => .reading fun _ _ => .reading fun _ _ => .behind _ fun _ => decisive_ends _ _ _ _

theorem everyElement_fixes : EagerHandler.Fixes everyElement .boolean := fun _ _ _ _ =>
  .reading fun _ _ => .reading fun _ _ => .reading fun _ _ => .behind _ fun _ => decisive_ends _ _ _ _

/-- Folding ends with an error, with what the callback gave last, or with the accumulator when there is no element. -/
theorem reduceFrom_yields {caller : Caller} {operation : Data} {start : Data → Prop} (items : List (Statement × Nat))
    (answers : ∀ item ∈ items, ∀ index, index.type = .number →
      ∀ before, start before ∨ before.type.Fits (declaredResult operation.type) → caller.Answers scope operation [before, item.1.data, index])
    {accumulator : Data} (known : start accumulator ∨ accumulator.type.Fits (declaredResult operation.type))
    (last : items = [] → accumulator.type.Fits (declaredResult operation.type)) :
    Run.Yields (reduceFrom caller scope operation items accumulator) fun result =>
      result.isError = true ∨ result.type.Fits (declaredResult operation.type) := by
  induction items generalizing accumulator with
  | nil => exact .pure (.inr (last rfl))
  | cons item rest ih =>
    rw [List.forall_mem_cons] at answers
    refine .bind (.draw (.data fun _ => rfl)) fun index counts => .bind (answers.1 index counts _ known) fun answer known => ?_
    split
    · next error => exact .pure (.inl error)
    · next noError =>
      have fits := known.resolve_left noError
      exact ih answers.2 (.inr fits) fun _ => fits

theorem reduceSequence_sound : (Builtin.eager "reduce" group parameters (fun _ types => callbackResult types) reduceSequence).Sound := by
  refine .eager fun caller scope data arguments typed => .reading fun pair given => .reading fun operation found => .reading fun items found' => ?_
  obtain ⟨argument, initial⟩ := pair
  obtain ⟨rest, rfl⟩ := firstTwo_eq given
  obtain rfl := expectOperation_eq found
  have answers := typed.folded rfl operation initial rest rfl items (expect_eq found')
  have folds := reduceFrom_yields items.zipIdx (fun entry among => answers entry.1 (List.fst_mem_of_mem_zipIdx among)) (.inl rfl)
    fun empty => ?_
  · exact (Run.Ends.lift folds).weaken fun result known succeeds =>
      .suits (known.resolve_left (Bool.eq_false_iff.mp succeeds.noError)).suits
  · have none : items = [] := by simpa using empty
    exact typed.foresees.initial rfl (none ▸ expect_eq found') operation initial rest rfl

/-- What a comparator gives ends a sort only when it is an error. -/
theorem compareBy_fails (caller : Caller) (comparator : Data) (a b : Statement) :
    Run.Fails (compareBy caller scope comparator a b) fun interruption => ∀ error, interruption = .answer error → error.isError = true := by
  refine .bind (.lift _) fun result => .reject (fun holds error same => Interruption.answer.inj same ▸ holds) ?_
  dsimp only
  split
  · exact .throw nofun
  · exact .pure _

theorem sortSequence_sound : (Builtin.eager name group parameters returnsReceiver sortSequence).Sound := by
  refine .eager fun caller scope data arguments typed => .reading fun items _ => ?_
  split
  · exact (receiver_ends typed.receiver _).weaken fun _ within _ => within
  · refine .reading fun comparator _ => .bind (.lift (Run.Fails.mergeSortM (compareBy_fails caller comparator) items)) fun sorted known => ?_
    split
    · exact (receiver_ends typed.receiver _).weaken fun _ within _ => within
    · next error => exact .pure fun succeeds => absurd (known _ rfl error rfl) (Bool.eq_false_iff.mp succeeds.noError)
    · exact .throw _

theorem sequenceFamily_sound : ∀ builtin ∈ sequenceFamily, builtin.Sound := by
  simp only [sequenceFamily, List.forall_mem_cons, List.not_mem_nil, false_implies, implies_true, and_true]
  exact ⟨.fixed sequenceLength_fixes fun _ _ => rfl, elementByIndex_sound, concatSequences_sound,
    .fixed includesElement_fixes fun _ _ => rfl, .fixed indexOfElement_fixes fun _ _ => rfl, .fixed join_fixes fun _ _ => rfl,
    reverseSequence_sound, sliceSequence_sound, push_sound, mapSequence_sound, filterSequence_sound, findElement_sound,
    .fixed someElement_fixes fun _ _ => rfl, .fixed everyElement_fixes fun _ _ => rfl, sortSequence_sound, reduceSequence_sound⟩

/-! ## Objects and dictionaries -/

theorem getEntry_fixes : EagerHandler.Fixes getEntry .unknown := fun _ _ _ _ _ _ _ _ => compatible_unknown _

theorem hasEntry_fixes : EagerHandler.Fixes hasEntry .boolean := fun _ _ _ _ =>
  .reading fun _ _ => .reading fun _ _ => .reading fun _ _ => plain_ends _ rfl

theorem entryCount_fixes : EagerHandler.Fixes entryCount .number := fun _ _ _ _ => .reading fun _ _ => plain_ends _ rfl

theorem entryKeys_sound : (Builtin.eager name group parameters returnsStrings entryKeys).Sound :=
  .eager fun _ _ _ _ _ => .reading fun _ _ => Run.Ends.weaken (list_ends (Fits.self rfl)) fun _ within _ => within

theorem getEntry_sound : (Builtin.eager name group parameters returnsElement getEntry).Sound := by
  refine .eager fun caller scope data arguments typed => ?_
  have lossless := typed.foresees.element rfl
  refine .reading fun key _ => .reading fun entries found => .reading fun key _ => ?_
  split
  · next statement given =>
    have fits := typed.receiver.entries entries (expect_eq found) _ (Table.mem_of_get? given)
    exact .pure fun _ => within_element lossless (.inl fits)
  · exact .build (.data fun _ _ => within_element lossless (.inr rfl))

/-- The data of entries, each of which fits, in an array. -/
theorem values_ends {fallback declared : DataType} {entries : Table Statement} (otherwise : fallback.Fits declared)
    (each : ∀ entry ∈ entries, entry.2.data.type.Fits declared) :
    Run.Ends (liftM (Data.array ((Table.values entries).map (·.data)) fallback) : Attempt Data) fun result =>
      Within result.type (.array declared) := by
  refine .build fun next => (Fresh.Gives.sequence _ otherwise next).2 fun item among => ?_
  obtain ⟨statement, listed, rfl⟩ := List.mem_map.mp among
  obtain ⟨entry, stored, rfl⟩ := List.mem_map.mp listed
  exact each entry stored

theorem elementValues_sound : (Builtin.eager name group parameters (fun data _ => .array (elementType data)) (entryValues elementType)).Sound :=
  .eager fun _ _ _ _ typed => .reading fun entries found =>
    (values_ends (.self (wellFormed_elementType typed.receiver)) (typed.receiver.entries entries (expect_eq found))).weaken fun _ within _ => within

theorem propertyValues_sound : (Builtin.eager name group parameters returnsPropertyTypes (entryValues fun _ => .unknown)).Sound := by
  refine .eager fun caller scope data arguments typed => .reading fun entries found => ?_
  unfold returnsPropertyTypes
  cases shape : data.type.dereference with
  | object declared required =>
    have lossless := typed.foresees.values rfl declared required shape
    refine Run.Ends.weaken (values_ends ⟨rfl, fun part among => ?_⟩ fun entry among => ?_) fun _ within _ => within
    · rw [List.mem_singleton.mp among]; rfl
    · obtain ⟨type, given, fits⟩ := (typed.receiver.properties declared required shape entries (expect_eq found)).1 entry among
      exact lossless type (List.mem_map.mpr ⟨_, Table.mem_of_get? given, rfl⟩) _ fits
  | _ =>
    refine Run.Ends.weaken (values_ends (Fits.self rfl) fun entry among => ?_) fun _ within _ => within
    exact .unknown (typed.receiver.entries entries (expect_eq found) entry among).wellFormed

/-- An object whose entries are declared, the required ones among them, stays within its type. -/
theorem within_entries {entries : Table Statement} {declared : Table DataType} {required : List String}
    (shape : data.type.dereference = .object declared required)
    (each : ∀ entry ∈ entries, ∃ type, Table.get? declared entry.1 = some type ∧ entry.2.data.type.Fits type)
    (present : ∀ key ∈ required, Table.has entries key) : Within (entriesType data.type entries) data.type.dereference := by
  rw [shape]
  refine .object (fun key among => ?_) fun key among => ?_
  · obtain ⟨entry, stored, rfl⟩ := List.mem_map.mp (List.mem_filter.mp among).1
    obtain ⟨type, given, -⟩ := each entry stored
    rw [Table.has, given]
    rfl
  · obtain ⟨statement, found⟩ := Option.isSome_iff_exists.mp (present key among)
    obtain ⟨type, given, fits⟩ := each _ (Table.mem_of_get? found)
    refine ⟨statement.data.type, type, ?_, given, fits.suits⟩
    exact (Table.get?_mapValues (·.data.type) entries key).trans (by rw [found, Option.map_some])

theorem object_of_kind (shape : data.type.dereference.kind = .object) :
    ∃ declared required, data.type.dereference = .object declared required := by
  cases found : data.type.dereference with
  | object declared required => exact ⟨declared, required, rfl⟩
  | _ => rw [found] at shape; cases shape

/-- The entries with the one that the arguments name. -/
theorem written_ends : Run.Ends (written data arguments) fun made => ∃ key rest entries text statement,
    arguments = key :: made.2 :: rest ∧ data.entries? = some entries ∧ key.text? = some text ∧ statement.data = made.2
      ∧ made.1 = Table.insert entries text statement := by
  refine .reading fun pair given => .reading fun entries found => .reading fun text named => ?_
  obtain ⟨rest, same⟩ := firstTwo_eq given
  refine .bind (.build (.holding pair.2)) fun statement held => ?_
  exact .pure ⟨pair.1, rest, entries, text, statement, same, expect_eq found, expect_eq named, held, rfl⟩

theorem setProperty_sound : (Builtin.eager "set" "object" parameters returnsReceiver setProperty).Sound := by
  refine .eager fun caller scope data arguments typed => .bind written_ends fun made known => .build (.data fun id _ => ?_)
  obtain ⟨key, rest, entries, text, statement, rfl, found, named, held, new⟩ := known
  obtain ⟨declared, required, shape⟩ := object_of_kind (typed.foresees.rewritten rfl (.inl rfl))
  obtain ⟨each, present⟩ := typed.receiver.properties declared required shape entries found
  rw [new]
  refine within_entries shape (fun entry among => ?_) fun name needed => Table.has_insert (present name needed) statement
  rcases Table.of_mem_insert among with rfl | before
  · rw [held]
    exact Data.Declares.get? (typed.foresees.property rfl rfl key made.2 rest rfl text named) shape
  · exact each entry before

theorem merge_sound : (Builtin.eager "merge" "object" parameters returnsReceiver merge).Sound := by
  refine .eager fun caller scope data arguments typed => .reading fun other given => .reading fun entries found => .reading fun others found' => ?_
  obtain ⟨rest, rfl⟩ := first_eq given
  obtain ⟨declared, required, shape⟩ := object_of_kind (typed.foresees.rewritten rfl (.inr rfl))
  obtain ⟨each, present⟩ := typed.receiver.properties declared required shape entries (expect_eq found)
  refine .build (.data fun id _ => within_entries shape (fun entry among => ?_) fun name needed => Table.has_insertAll (present name needed) others)
  rcases Table.of_mem_insertAll among with before | added
  · exact each entry before
  · exact Data.Declares.get? (typed.foresees.merged rfl rfl other rest rfl others (expect_eq found') entry added) shape

theorem recordFamily_sound : ∀ builtin ∈ recordFamily, builtin.Sound := by
  simp only [recordFamily, List.forall_mem_cons, List.not_mem_nil, false_implies, implies_true, and_true]
  exact ⟨.fixed getEntry_fixes fun _ _ => rfl, setProperty_sound, .fixed hasEntry_fixes fun _ _ => rfl, entryKeys_sound,
    propertyValues_sound, merge_sound⟩

theorem deleteEntry_sound : (Builtin.eager name group parameters returnsReceiver deleteEntry).Sound :=
  .eager fun _ _ _ _ typed => .reading fun _ _ => .reading fun _ _ => .reading fun _ _ =>
    (receiver_ends typed.receiver _).weaken fun _ within _ => within

/-- A receiver of operations on dictionaries has dictionaries among its alternatives. -/
theorem dictionary_of_supports {expected : List Parameter} {element : DataType}
    (supported : data.supports (.receiver (.dictionary element) :: expected)) :
    ∃ item, DataType.dictionary item ∈ data.type.alternatives := by
  rw [← alternatives_dereference]
  have known : ∀ type : DataType, (DataType.dictionary element).dispatchesTo type → ∃ item, DataType.dictionary item ∈ type.alternatives := by
    intro type same
    cases type with
    | dictionary item => exact ⟨item, List.mem_singleton_self _⟩
    | _ => cases same
  unfold Data.supports at supported
  dsimp only [Parameter.receiver, dereference] at supported
  cases shape : data.type.dereference with
  | union members active =>
    rw [shape] at supported
    simp only [Bool.and_eq_true, List.all_eq_true] at supported
    obtain ⟨some, each⟩ := supported
    cases members with
    | nil => cases some
    | cons member rest =>
      obtain ⟨item, among⟩ := known member (each member List.mem_cons_self)
      exact ⟨item, mem_alternativesAll.mpr ⟨member, List.mem_cons_self, among⟩⟩
  | _ =>
    rw [shape] at supported
    exact known _ supported

theorem setElement_sound : (Builtin.eager "set" "dictionary"
    (onDictionary fun data => [.named "key" .string, .named "value" (elementType data)]) returnsReceiver setElement).Sound := by
  refine .eager fun caller scope data arguments typed => .bind written_ends fun made known => .build (.data fun id _ => ?_)
  obtain ⟨key, rest, entries, text, statement, rfl, -⟩ := known
  have value : made.2 ∈ key :: made.2 :: rest := List.mem_cons_of_mem _ List.mem_cons_self
  have compatible := typed.accepts.passed (made.2, .named "value" (elementType data)) (List.mem_cons_of_mem _ List.mem_cons_self)
  have flat := typed.foresees.flat (.inr ⟨rfl, rfl⟩) made.2 value
  exact dictionary_containers.widened typed.receiver (typed.passed made.2 value).wellFormed flat
    (dictionary_of_supports typed.accepts.receiver) compatible

theorem dictionaryFamily_sound : ∀ builtin ∈ dictionaryFamily, builtin.Sound := by
  simp only [dictionaryFamily, List.forall_mem_cons, List.not_mem_nil, false_implies, implies_true, and_true]
  exact ⟨getEntry_sound, setElement_sound, .fixed hasEntry_fixes fun _ _ => rfl, deleteEntry_sound, entryKeys_sound,
    elementValues_sound, .fixed entryCount_fixes fun _ _ => rfl⟩

/-! ## Unions -/

theorem wellFormed_definedType (agrees : data.Agrees) : (definedType data).wellFormed := by
  have formed := (wellFormed_dereference data.type).trans agrees.wellFormed
  unfold definedType
  split
  · next members _ found =>
    simp only [found, wellFormed, Bool.and_eq_true] at formed
    exact wellFormed_unionOf fun type among => allWellFormed_iff.mp formed.2 type (List.mem_filter.mp among).1
  · exact formed

/-- A union is the type without values only if that is one of its members or it has none. -/
theorem never_of_unionOf {types : List DataType} (none : unionOf types = .never) : distinctMembers types = [] ∨ DataType.never ∈ distinctMembers types := by
  unfold unionOf unionWith at none
  split at none
  · next empty => exact .inl empty
  · next single found =>
    rw [if_neg (by simp)] at none
    exact .inr (by simp [found, none])
  · cases none

/-- Data that is there has no type without values, or one that such a type is a member of. -/
theorem compatible_never (agrees : data.Agrees) (present : data.value ≠ .undefined) (none : definedType data = .never) :
    data.type.dereference.compatible .never := by
  unfold definedType at none
  split at none
  · next members active shape =>
    have formed := (wellFormed_dereference data.type).trans agrees.wellFormed
    simp only [shape, wellFormed, Bool.and_eq_true] at formed
    have each := allWellFormed_iff.mp formed.2
    rw [shape]
    rcases never_of_unionOf none with empty | there
    · obtain ⟨alternative, among, defined⟩ := agrees.present present
      rw [← alternatives_dereference, shape] at among
      obtain ⟨member, listed, part⟩ := mem_alternativesAll.mp among
      have stays : member ∈ members.filter (·.kind != .undefined) := by
        refine List.mem_filter.mpr ⟨listed, bne_iff_ne.mpr fun same => defined ?_⟩
        cases member with
        | undefined => rw [List.mem_singleton.mp part]; rfl
        | _ => cases same
      exact absurd empty (distinctMembers_ne_nil_of_wellFormed stays (each member listed))
    · have source := (mem_alternativesAll_flattenAll _ _).mp
        (mem_alternativesAll.mpr ⟨_, mem_of_mem_distinctMembers there, List.mem_singleton_self DataType.never⟩)
      obtain ⟨member, stays, part⟩ := mem_alternativesAll.mp source
      have plain : DataType.never.dereference.IsPlain := ⟨by simp [dereference, kind], by simp [dereference, kind]⟩
      have self : DataType.never.compatible .never := rfl
      refine compatible_of_alternative plain self _ ?_
      exact mem_alternativesAll.mpr ⟨member, (List.mem_filter.mp stays).1, part⟩
  · rw [none]
    rfl

theorem orElse_sound : (Builtin.eager name group fallbackParameters (fun data _ => definedType data) orElse).Sound := by
  refine .eager fun caller scope data arguments typed => .reading fun fallback given => ?_
  obtain ⟨rest, rfl⟩ := first_eq given
  split
  · exact .pure fun _ => .compatible (typed.accepts.passed (fallback, .named "fallback" (definedType data)) List.mem_cons_self)
  · next present =>
    dsimp only
    split
    · next none => exact .build (.data fun _ _ => .compatible (none ▸ compatible_never typed.receiver present none))
    · exact .build (.data fun _ _ => .compatible (compatible_self _ (wellFormed_definedType typed.receiver)))

theorem optionalFamily_sound : ∀ builtin ∈ optionalFamily, builtin.Sound := by
  simp only [optionalFamily, List.forall_mem_cons, List.not_mem_nil, false_implies, implies_true, and_true]
  exact orElse_sound

end

end Operation

end LivePipeline
