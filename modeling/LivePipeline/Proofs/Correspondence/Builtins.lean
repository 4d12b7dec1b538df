import LivePipeline.Proofs.Correspondence.Objects

/-! Every built-in operation corresponds to itself on both sides of a link: what it takes and what
it results in depends on types only, and its handler on nothing that identities could show. -/

namespace LivePipeline

open Link

/-! ## Arguments that are evaluated on demand -/

/-- A pending statement on both sides. Its result is recorded, so the two agree on it afterwards. -/
structure Link.SamePending (link : Link) (ledger : Ledger) (pending pending' : Pending) : Prop where
  statement : pending'.statement = pending.statement.rename link.names
  allows : ledger.Allows link (.node pending.statement.id)
  evaluate : ∀ (later : Ledger) (scope scope' : Scope), ledger ≤ later → link.SameScope later scope scope' →
    link.Sim later (pending.evaluate scope) (pending'.evaluate scope')
      fun last result result' => link.Same last result result' ∧ last.synced pending.statement.id

theorem Link.SamePending.mono {link : Link} {before after : Ledger} {pending pending' : Pending}
    (same : link.SamePending before pending pending') (le : before ≤ after) :
    link.SamePending after pending pending' where
  statement := same.statement
  allows := same.allows.mono le
  evaluate later scope scope' le' scopes := same.evaluate later scope scope' (le.trans le') scopes

def Link.SamePendings (link : Link) (ledger : Ledger) (pendings pendings' : List Pending) : Prop :=
  List.Forall₂ (link.SamePending ledger) pendings pendings'

theorem Link.SamePendings.mono {link : Link} {before after : Ledger} {pendings pendings' : List Pending}
    (same : link.SamePendings before pendings pendings') (le : before ≤ after) :
    link.SamePendings after pendings pendings' :=
  same.imp fun _ _ same => same.mono le

/-- A handler of pending arguments that corresponds to itself on both sides of every link. -/
def NaturalLazy (run : LazyHandler) : Prop :=
  ∀ (link : Link) (ledger : Ledger) (scope scope' : Scope) (data data' : Data) (arguments arguments' : List Pending),
    link.SameScope ledger scope scope' → link.Same ledger data data' → link.SamePendings ledger arguments arguments' →
    link.Attempts ledger (run scope data arguments) (run scope' data' arguments') link.Same

namespace Link.Sim

theorem fault {link : Link} {ledger : Ledger} (fault : Fault) :
    link.Sim ledger (Run.draw fault.data) (Run.draw fault.data) link.Same :=
  error _ _

end Link.Sim

namespace Operation

section

variable {link : Link} {ledger : Ledger} {scope scope' : Scope} {data data' : Data}

theorem branchArgument_sim (name : String) (scopes : link.SameScope ledger scope scope')
    (receiver : link.Same ledger data data') (index : Nat) {argument argument' : Pending}
    (pending : link.SamePending ledger argument argument') (branch : Branch) (expected : Option DataType) :
    link.Sim ledger (branchArgument name scope data index argument branch expected)
      (branchArgument name scope' data' index argument' branch expected) link.Same := by
  have inner := (scopes.skipBehind receiver (some (name, index)) (scopes.enter branch)).expecting expected
  have running : (scope'.skipBehind data' (some (name, index))).isNone
      = (scope.skipBehind data (some (name, index))).isNone := by
    rw [scopes.1, receiver.1, Scope.rename_skipBehind, Option.isNone_map]
  have signature : scope'.signature = scope.signature := by rw [scopes.1]; rfl
  refine .bind (pending.evaluate ledger _ _ (le_refl _) inner) fun later value value' _ same => ?_
  cases expected with
  | none => exact .pure same.1
  | some type =>
    dsimp only
    rw [running, same.1.isError, same.1.type, signature]
    split
    · exact .fault _
    · exact .pure same.1

theorem connective_natural (name : String) (decisive : Bool) (branch : Branch) :
    NaturalLazy (connective name decisive branch) := by
  intro link ledger scope scope' data data' arguments arguments' scopes receiver pendings
  cases pendings with
  | nil => exact .throw rfl
  | @cons argument argument' rest rest' pending _ =>
    refine .bind (.reads (expectBool_reads name receiver.1)) fun first left left' le same => ?_
    subst same
    refine .bind (.lift (branchArgument_sim name (scopes.mono le) (receiver.mono le) 0 (pending.mono le) branch _))
      fun second right right' _ same => ?_
    rw [same.isError]
    split
    · exact .build (.boolean _)
    · split
      · exact .pure same
      · refine .bind (.reads (expectBool_reads name same.1)) fun third value value' _ same => ?_
        rw [same]
        exact .build (.boolean _)

/-- The branch that was chosen becomes the result, unless it is an error. -/
theorem chosen_attempts {link : Link} {ledger : Ledger} {onTrue onTrue' onFalse onFalse' chosen chosen' : Data}
    (trues : onTrue'.type = onTrue.type) (falses : onFalse'.type = onFalse.type) (same : link.Same ledger chosen chosen') :
    link.Attempts ledger
      (if chosen.isError then pure chosen
        else liftM (Data.make (choiceType onTrue.type onFalse.type chosen.type) chosen.value))
      (if chosen'.isError then pure chosen'
        else liftM (Data.make (choiceType onTrue'.type onFalse'.type chosen'.type) chosen'.value)) link.Same := by
  rw [same.isError, trues, falses, same.type]
  split
  · exact .pure same
  · refine .build (.make _ ⟨?_, same.2.value⟩)
    rw [same.1, Data.rename_value]

theorem choose_natural : NaturalLazy choose := by
  intro link ledger scope scope' data data' arguments arguments' scopes receiver pendings
  cases pendings with
  | nil => exact .throw rfl
  | cons first rest =>
    cases rest with
    | nil => exact .throw rfl
    | cons second _ =>
      refine .bind (.reads (expectBool_reads "thenElse" receiver.1)) fun third condition condition' le same => ?_
      subst same
      refine .bind (.lift (branchArgument_sim "thenElse" (scopes.mono le) (receiver.mono le) 0 (first.mono le)
        .narrowed none)) fun fourth onTrue onTrue' le' trues => ?_
      have reach := le.trans le'
      refine .bind (.lift (branchArgument_sim "thenElse" (scopes.mono reach) (receiver.mono reach) 1 (second.mono reach)
        .inverse none)) fun last onFalse onFalse' le'' falses => ?_
      cases condition' with
      | true => exact chosen_attempts trues.type falses.type (trues.mono le'')
      | false => exact chosen_attempts trues.type falses.type falses

end

/-! ## Families -/

/-- What depends on the type of data only. -/
def OfType (read : Data → α) : Prop := ∀ data data' : Data, data'.type = data.type → read data' = read data

end Operation

structure Builtin.Natural (builtin : Builtin) : Prop where
  parameters : Operation.OfType builtin.parameters
  result : Operation.OfType builtin.result
  eager : ∀ run, builtin.handler = .eager run → NaturalEager run
  lazy : ∀ run, builtin.handler = .lazy run → NaturalLazy run

namespace Operation

section

variable {name group : String} {parameters : Data → List Parameter} {result : Data → List DataType → DataType}

theorem eager_natural {run : EagerHandler} (taken : OfType parameters) (given : OfType result) (natural : NaturalEager run) :
    (Builtin.eager name group parameters result run).Natural where
  parameters := taken
  result := given
  eager _ same := by cases same; exact natural
  lazy _ same := by cases same

theorem lazy_natural {run : LazyHandler} (taken : OfType parameters) (given : OfType result) (natural : NaturalLazy run) :
    (Builtin.lazy name group parameters result run).Natural where
  parameters := taken
  result := given
  eager _ same := by cases same
  lazy _ same := by cases same; exact natural

theorem constant_ofType (value : α) : OfType fun _ => value := fun _ _ _ => rfl

theorem receiver_ofType : OfType returnsReceiver := by
  intro data data' same
  funext arguments
  rw [returnsReceiver, returnsReceiver, same]

theorem elementType_ofType : OfType elementType := by
  intro data data' same
  rw [elementType, elementType, same]

theorem element_ofType : OfType returnsElement := by
  intro data data' same
  funext arguments
  rw [returnsElement, returnsElement, elementType_ofType data data' same]

theorem genericFamily_natural : ∀ builtin ∈ genericFamily, builtin.Natural := by
  simp only [genericFamily, List.forall_mem_cons, List.not_mem_nil, false_implies, implies_true, and_true]
  exact ⟨eager_natural (constant_ofType _) (constant_ofType _) isEqual_natural,
    eager_natural (constant_ofType _) (constant_ofType _) isTypeOf_natural,
    eager_natural (constant_ofType _) (constant_ofType _) toText_natural,
    eager_natural (constant_ofType _) (constant_ofType _) isUndefined_natural⟩

theorem textualFamily_natural : ∀ builtin ∈ textualFamily, builtin.Natural := by
  simp only [textualFamily, List.forall_mem_cons, List.not_mem_nil, false_implies, implies_true, and_true]
  have text {name : String} {parameters : List Parameter} {result : DataType} {run : EagerHandler}
      (natural : NaturalEager run) :
      (Builtin.eager name "string" (takes .string parameters) (fun _ _ => result) run).Natural :=
    eager_natural (constant_ofType _) (constant_ofType _) natural
  exact ⟨text textLength_natural, text concatTexts_natural, text (textTest_natural _ _), text (textTest_natural _ _),
    text (textTest_natural _ _), text indexOfText_natural, text sliceText_natural, text splitText_natural,
    text (textTransform_natural _ _), text (textTransform_natural _ _), text (textTransform_natural _ _),
    text (textReplacement_natural _ _), text (textReplacement_natural _ _), text repeatText_natural,
    text toNumber_natural, text parseJson_natural, text matchesPattern_natural, text toDate_natural, text toUrl_natural⟩

theorem numericFamily_natural : ∀ builtin ∈ numericFamily, builtin.Natural := by
  simp only [numericFamily, List.forall_mem_cons, List.not_mem_nil, false_implies, implies_true, and_true]
  have number {name : String} {parameters : List Parameter} {result : DataType} {run : EagerHandler}
      (natural : NaturalEager run) :
      (Builtin.eager name "number" (takes .number parameters) (fun _ _ => result) run).Natural :=
    eager_natural (constant_ofType _) (constant_ofType _) natural
  exact ⟨number (arithmetic_natural _ _), number (arithmetic_natural _ _), number (arithmetic_natural _ _),
    number divide_natural, number modulo_natural, number (arithmetic_natural _ _), number (arithmetic_natural _ _),
    number (arithmetic_natural _ _), number (transform_natural _ _), number (transform_natural _ _),
    number (transform_natural _ _), number (transform_natural _ _), number (comparison_natural _ _),
    number (comparison_natural _ _), number (comparison_natural _ _), number (comparison_natural _ _),
    number toRange_natural, number toFixed_natural⟩

theorem logicFamily_natural : ∀ builtin ∈ logicFamily, builtin.Natural := by
  simp only [logicFamily, List.forall_mem_cons, List.not_mem_nil, false_implies, implies_true, and_true]
  exact ⟨lazy_natural (constant_ofType _) (constant_ofType _) (connective_natural _ _ _),
    lazy_natural (constant_ofType _) (constant_ofType _) (connective_natural _ _ _),
    eager_natural (constant_ofType _) (constant_ofType _) negate_natural,
    lazy_natural (constant_ofType _) (constant_ofType _) choose_natural⟩

theorem onSequence_ofType {parameters : Data → List Parameter} (taken : OfType parameters) :
    OfType (onSequence parameters) := by
  intro data data' same
  simp only [onSequence, sequenceReceiver, same, taken data data' same]

theorem callback_ofType (result : DataType) : OfType (callback result) := by
  intro data data' same
  rw [callback, callback, elementType_ofType data data' same]

theorem sequenceFamily_natural : ∀ builtin ∈ sequenceFamily, builtin.Natural := by
  have element : OfType (onSequence fun data => [.named "element" (elementType data)]) :=
    onSequence_ofType fun data data' same => by rw [elementType_ofType data data' same]
  have comparator : OfType (onSequence comparatorParameter) :=
    onSequence_ofType fun data data' same => by
      rw [comparatorParameter, comparatorParameter, elementType_ofType data data' same]
  have reducer : OfType (onSequence reduceParameters) :=
    onSequence_ofType fun data data' same => by
      rw [reduceParameters, reduceParameters, elementType_ofType data data' same]
  have concatenated : OfType returnsConcat := fun data data' same => by
    funext arguments
    rw [returnsConcat, returnsConcat, elementType_ofType data data' same]
  have predicate := onSequence_ofType (callback_ofType .boolean)
  have plain (parameters : List Parameter) := onSequence_ofType (constant_ofType parameters)
  simp only [sequenceFamily, List.forall_mem_cons, List.not_mem_nil, false_implies, implies_true, and_true]
  exact ⟨eager_natural (constant_ofType _) (constant_ofType _) sequenceLength_natural,
    eager_natural (plain _) element_ofType elementByIndex_natural,
    eager_natural (plain _) concatenated concatSequences_natural,
    eager_natural element (constant_ofType _) includesElement_natural,
    eager_natural element (constant_ofType _) indexOfElement_natural,
    eager_natural (plain _) (constant_ofType _) join_natural,
    eager_natural (constant_ofType _) receiver_ofType reverseSequence_natural,
    eager_natural (plain _) receiver_ofType sliceSequence_natural,
    eager_natural element receiver_ofType push_natural,
    eager_natural (onSequence_ofType (callback_ofType _)) (constant_ofType _) mapSequence_natural,
    eager_natural predicate receiver_ofType filterSequence_natural,
    eager_natural predicate element_ofType findElement_natural,
    eager_natural predicate (constant_ofType _) someElement_natural,
    eager_natural predicate (constant_ofType _) everyElement_natural,
    eager_natural comparator receiver_ofType sortSequence_natural,
    eager_natural reducer (constant_ofType _) reduceSequence_natural⟩

theorem onRecord_ofType (parameters : List Parameter) : OfType (onRecord parameters) := by
  intro data data' same
  simp only [onRecord, recordReceiver, same]

theorem recordFamily_natural : ∀ builtin ∈ recordFamily, builtin.Natural := by
  have properties : OfType returnsPropertyTypes := fun data data' same => by
    funext arguments
    simp only [returnsPropertyTypes, same]
  simp only [recordFamily, List.forall_mem_cons, List.not_mem_nil, false_implies, implies_true, and_true]
  exact ⟨eager_natural (onRecord_ofType _) (constant_ofType _) getEntry_natural,
    eager_natural (onRecord_ofType _) receiver_ofType setProperty_natural,
    eager_natural (onRecord_ofType _) (constant_ofType _) hasEntry_natural,
    eager_natural (onRecord_ofType _) (constant_ofType _) entryKeys_natural,
    eager_natural (onRecord_ofType _) properties (entryValues_natural fun _ _ => rfl),
    eager_natural (onRecord_ofType _) receiver_ofType merge_natural⟩

theorem onDictionary_ofType {parameters : Data → List Parameter} (taken : OfType parameters) :
    OfType (onDictionary parameters) := by
  intro data data' same
  rw [onDictionary, onDictionary, elementType_ofType data data' same, taken data data' same]

theorem dictionaryFamily_natural : ∀ builtin ∈ dictionaryFamily, builtin.Natural := by
  have element : OfType fun data => [Parameter.named "key" .string, .named "value" (elementType data)] :=
    fun data data' same => by simp only [elementType_ofType data data' same]
  have values : OfType fun data (_ : List DataType) => DataType.array (elementType data) :=
    fun data data' same => by simp only [elementType_ofType data data' same]
  have plain (parameters : List Parameter) := onDictionary_ofType (constant_ofType parameters)
  simp only [dictionaryFamily, List.forall_mem_cons, List.not_mem_nil, false_implies, implies_true, and_true]
  exact ⟨eager_natural (plain _) element_ofType getEntry_natural,
    eager_natural (onDictionary_ofType element) receiver_ofType setElement_natural,
    eager_natural (plain _) (constant_ofType _) hasEntry_natural,
    eager_natural (plain _) receiver_ofType deleteEntry_natural,
    eager_natural (plain _) (constant_ofType _) entryKeys_natural,
    eager_natural (plain _) values (entryValues_natural elementType_rename),
    eager_natural (plain _) (constant_ofType _) entryCount_natural⟩

theorem optionalFamily_natural : ∀ builtin ∈ optionalFamily, builtin.Natural := by
  have fallback : OfType fallbackParameters := fun data data' same => by
    simp only [fallbackParameters, definedType, same]
  have defined : OfType fun data (_ : List DataType) => definedType data := fun data data' same => by
    simp only [definedType, same]
  simp only [optionalFamily, List.forall_mem_cons, List.not_mem_nil, false_implies, implies_true, and_true]
  exact eager_natural fallback defined orElse_natural

theorem callingFamily_natural : ∀ builtin ∈ callingFamily, builtin.Natural := by
  have called : OfType callParameters := fun data data' same => by
    simp only [callParameters, same]
  have declared : OfType fun data (_ : List DataType) => declaredResult data.type := fun data data' same => by
    simp only [same]
  simp only [callingFamily, List.forall_mem_cons, List.not_mem_nil, false_implies, implies_true, and_true]
  exact eager_natural called declared call_natural

theorem dateFamily_natural : ∀ builtin ∈ dateFamily, builtin.Natural := by
  have field {name : String} {result : DataType} {run : EagerHandler} {parameters : List Parameter}
      (natural : NaturalEager run) :
      (Builtin.eager name dateClass (takes dateType parameters) (fun _ _ => result) run).Natural :=
    eager_natural (constant_ofType _) (constant_ofType _) natural
  simp only [dateFamily, List.forall_mem_cons, List.not_mem_nil, false_implies, implies_true, and_true]
  exact ⟨field (dateField_natural _ _), field toISOString_natural, field (dateField_natural _ _),
    field (dateField_natural _ _), field (dateField_natural _ _), field (dateField_natural _ _),
    field (dateField_natural _ _), field (dateField_natural _ _), field (dateField_natural _ _),
    field addDays_natural⟩

theorem locatorFamily_natural : ∀ builtin ∈ locatorFamily, builtin.Natural := by
  have field {name : String} {result : DataType} {run : EagerHandler} (natural : NaturalEager run) :
      (Builtin.eager name urlClass (takes urlType []) (fun _ _ => result) run).Natural :=
    eager_natural (constant_ofType _) (constant_ofType _) natural
  simp only [locatorFamily, List.forall_mem_cons, List.not_mem_nil, false_implies, implies_true, and_true]
  exact ⟨field (urlField_natural _ _), field (urlField_natural _ _), field (urlField_natural _ _),
    field (urlField_natural _ _), field (urlField_natural _ _), field (urlField_natural _ _),
    field searchParams_natural⟩

theorem httpFamily_natural : ∀ builtin ∈ httpFamily, builtin.Natural := by
  have request {name : String} {parameters : List Parameter} {run : EagerHandler} (natural : NaturalEager run) :
      ({ Builtin.eager name httpClass (takes httpType parameters) (fun _ _ => promiseType responseType) run with
        cacheable := true } : Builtin).Natural :=
    ⟨constant_ofType _, constant_ofType _, fun _ same => by cases same; exact natural, fun _ same => by cases same⟩
  simp only [httpFamily, List.forall_mem_cons, List.not_mem_nil, false_implies, implies_true, and_true]
  exact ⟨request httpGet_natural, request httpPost_natural⟩

theorem promiseFamily_natural : ∀ builtin ∈ promiseFamily, builtin.Natural := by
  have taken : OfType promiseParameters := fun data data' same => by
    simp only [promiseParameters, same]
  have promised : OfType promisedType := fun data data' same => by
    funext arguments
    simp only [promisedType, same]
  simp only [promiseFamily, List.forall_mem_cons, List.not_mem_nil, false_implies, implies_true, and_true]
  exact eager_natural taken promised await_natural

end

end Operation

theorem builtins_natural : ∀ builtin ∈ builtins, builtin.Natural := by
  simp only [builtins, List.forall_mem_append]
  exact ⟨⟨⟨⟨⟨⟨⟨⟨⟨⟨⟨⟨Operation.genericFamily_natural, Operation.textualFamily_natural⟩,
    Operation.numericFamily_natural⟩, Operation.logicFamily_natural⟩, Operation.sequenceFamily_natural⟩,
    Operation.recordFamily_natural⟩, Operation.dictionaryFamily_natural⟩, Operation.optionalFamily_natural⟩,
    Operation.callingFamily_natural⟩, Operation.dateFamily_natural⟩, Operation.locatorFamily_natural⟩,
    Operation.httpFamily_natural⟩, Operation.promiseFamily_natural⟩

end LivePipeline
