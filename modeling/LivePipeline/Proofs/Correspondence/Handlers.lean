import LivePipeline.Operation.Lookup
import LivePipeline.Proofs.Correspondence.Scope

/-! The built-in operations on both sides of a link. Each reads its receiver and its arguments
through views that show no identity, and builds what it gives anew, so it corresponds to itself. -/

namespace LivePipeline

namespace Failure

/-- Messages show values only. -/
@[simp] theorem message_unexpected_rename (operation : String) (wanted : Wanted) (names : Renaming) (found : Data) :
    (unexpected operation wanted (found.rename names)).message = (unexpected operation wanted found).message :=
  congrArg (fun shown => "`" ++ operation ++ "` expects " ++ wanted.phrase ++ ". Got `" ++ shown ++ "` instead")
    (found.rename_display names)

end Failure

/-- What an operation reads of data is there. -/
theorem Operation.expect_eq {read : Data → Option α} {wanted : Wanted} {name : String} {data : Data} {value : α}
    (found : expect read wanted name data = .ok value) : read data = some value := by
  unfold expect at found
  split at found
  · next given => cases found; exact given
  · cases found

namespace Link

variable {link : Link} {ledger : Ledger}

/-! ## Reading -/

def SameList (link : Link) (ledger : Ledger) (items items' : List Data) : Prop :=
  items' = items.map (Data.rename link.names) ∧ ∀ item ∈ items, ledger.Settles link item

theorem SameList.mono {before after : Ledger} {items items' : List Data} (same : link.SameList before items items')
    (le : before ≤ after) : link.SameList after items items' :=
  ⟨same.1, fun item member => (same.2 item member).mono le⟩

theorem SameList.of_forall₂ {items items' : List Data} (all : List.Forall₂ (link.Same ledger) items items') :
    link.SameList ledger items items' := by
  induction all with
  | nil => exact ⟨rfl, by simp⟩
  | cons head _ ih => exact ⟨by rw [head.1, ih.1]; rfl, List.forall_mem_cons.mpr ⟨head.2, ih.2⟩⟩

theorem SameList.forall₂ : ∀ {items items' : List Data}, link.SameList ledger items items' →
    List.Forall₂ (link.Same ledger) items items'
  | [], _, ⟨rfl, _⟩ => .nil
  | item :: rest, _, ⟨rfl, all⟩ => by
    rw [List.forall_mem_cons] at all
    exact .cons ⟨rfl, all.1⟩ (SameList.forall₂ ⟨rfl, all.2⟩)

def SamePair (link : Link) (ledger : Ledger) (pair pair' : Data × Data) : Prop :=
  link.Same ledger pair.1 pair'.1 ∧ link.Same ledger pair.2 pair'.2

theorem SameAll.data {items items' : List Statement} (same : link.SameAll ledger items items') :
    link.SameList ledger (items.map (·.data)) (items'.map (·.data)) := by
  obtain ⟨rfl, all⟩ := same
  refine ⟨by simp [Function.comp_def], fun data member => ?_⟩
  obtain ⟨item, within, rfl⟩ := List.mem_map.mp member
  exact (all item within).data

theorem Outcomes.bind {fail : ε → ε' → Prop} {middle : α → β → Prop} {post : γ → δ → Prop} {first : Except ε α}
    {first' : Except ε' β} {next : α → Except ε γ} {next' : β → Except ε' δ} (outcomes : Outcomes fail middle first first')
    (continues : ∀ value value', middle value value' → Outcomes fail post (next value) (next' value')) :
    Outcomes fail post (first >>= next) (first' >>= next') := by
  cases first <;> cases first' <;> first | exact outcomes.elim | exact outcomes | exact continues _ _ outcomes

section

variable {data data' : Data} {arguments arguments' : List Data}

theorem first_outcomes (name : String) (same : link.SameList ledger arguments arguments') :
    Outcomes SameMessage (link.Same ledger) (Operation.first name arguments)
      (Operation.first name arguments') := by
  obtain ⟨rfl, all⟩ := same
  cases arguments with
  | nil => exact rfl
  | cons argument rest => exact ⟨rfl, all argument List.mem_cons_self⟩

theorem firstTwo_outcomes (name : String) (same : link.SameList ledger arguments arguments') :
    Outcomes SameMessage (link.SamePair ledger) (Operation.firstTwo name arguments)
      (Operation.firstTwo name arguments') := by
  obtain ⟨rfl, all⟩ := same
  match arguments with
  | [] | [_] => exact rfl
  | first :: second :: rest => exact ⟨⟨rfl, all first (by simp)⟩, ⟨rfl, all second (by simp)⟩⟩

theorem optional?_same (index : Nat) (same : link.SameList ledger arguments arguments') :
    Operation.optional? arguments' index = (Operation.optional? arguments index).map (Data.rename link.names)
      ∧ ∀ argument, Operation.optional? arguments index = some argument → ledger.Settles link argument := by
  obtain ⟨rfl, all⟩ := same
  simp only [Operation.optional?, List.getElem?_map]
  cases found : arguments[index]? with
  | none => exact ⟨rfl, fun _ none => by cases none⟩
  | some argument =>
    have settles := all argument (List.mem_of_getElem? found)
    obtain ⟨id, type, value⟩ := argument
    constructor
    · cases value <;> simp [Option.filter, Data.rename, Value.rename]
    · intro other given
      have same := (Option.filter_eq_some_iff.mp given).1
      cases same
      exact settles

theorem expect_outcomes {read : Data → Option α} (wanted : Wanted) (name : String) {change : α → α}
    {post : α → α → Prop} (named : data' = data.rename link.names) (mapped : read data' = (read data).map change)
    (holds : ∀ value, read data = some value → post value (change value)) :
    Outcomes SameMessage post (Operation.expect read wanted name data)
      (Operation.expect read wanted name data') := by
  simp only [Operation.expect, mapped]
  cases found : read data with
  | none =>
    subst named
    exact Failure.message_unexpected_rename name wanted link.names data
  | some value => exact holds value found

theorem expect_reads {read : Data → Option α} (wanted : Wanted) (name : String) (named : data' = data.rename link.names)
    (same : read (data.rename link.names) = read data) :
    Reads (Operation.expect read wanted name data) (Operation.expect read wanted name data') :=
  expect_outcomes wanted name named (by rw [named, same]; exact Option.map_id'.symm) fun _ _ => rfl

theorem expectNumber_reads (name : String) (named : data' = data.rename link.names) :
    Reads (Operation.expectNumber name data) (Operation.expectNumber name data') :=
  expect_reads .numeric name named (data.rename_number? link.names)

theorem expectText_reads (name : String) (named : data' = data.rename link.names) :
    Reads (Operation.expectText name data) (Operation.expectText name data') :=
  expect_reads .string name named (data.rename_text? link.names)

theorem expectBool_reads (name : String) (named : data' = data.rename link.names) :
    Reads (Operation.expectBool name data) (Operation.expectBool name data') :=
  expect_reads .boolean name named (data.rename_bool? link.names)

theorem expectInteger_reads (name : String) (named : data' = data.rename link.names) :
    Reads (Operation.expectInteger name data) (Operation.expectInteger name data') := by
  refine .bind (expectNumber_reads name named) fun value value' same => ?_
  subst same named
  split
  · exact rfl
  · exact Failure.message_unexpected_rename name .integer link.names data

theorem expectItems_outcomes (name : String) (same : link.Same ledger data data') :
    Outcomes SameMessage (link.SameAll ledger) (Operation.expectItems name data)
      (Operation.expectItems name data') := by
  refine expect_outcomes .array name same.1 (by rw [same.1]; exact data.rename_items? link.names) fun items found => ?_
  refine ⟨rfl, Ledger.settlesValue_array.mp ?_⟩
  have settles := same.2.value
  obtain ⟨id, type, value⟩ := data
  cases value <;> cases found
  exact settles

theorem expectEntries_outcomes (name : String) (same : link.Same ledger data data') :
    Outcomes SameMessage (link.SameEntries ledger) (Operation.expectEntries name data)
      (Operation.expectEntries name data') := by
  refine expect_outcomes .object name same.1 (by rw [same.1]; exact data.rename_entries? link.names)
    fun entries found => ?_
  refine ⟨rfl, Ledger.settlesValue_record.mp ?_⟩
  have settles := same.2.value
  obtain ⟨id, type, value⟩ := data
  cases value <;> cases found
  exact settles

theorem expectOperation_outcomes (name : String) (same : link.Same ledger data data') :
    Outcomes SameMessage (link.Same ledger) (Operation.expectOperation name data)
      (Operation.expectOperation name data') := by
  obtain ⟨rfl, settles⟩ := same
  simp only [Operation.expectOperation, Data.rename_isOperation]
  split
  · exact ⟨rfl, settles⟩
  · exact Failure.message_unexpected_rename name .operation link.names data

end

end Link

/-! ## Handlers -/

/-- A caller that corresponds to itself on both sides. -/
def Link.Calls (link : Link) (caller : Caller) : Prop :=
  ∀ (ledger : Ledger) (scope scope' : Scope) (operation operation' : Data) (arguments arguments' : List Data),
    link.SameScope ledger scope scope' → link.Same ledger operation operation' →
    link.SameList ledger arguments arguments' →
    link.Sim ledger (caller scope operation arguments) (caller scope' operation' arguments') link.Same

/-- The inputs of a handler on both sides. -/
structure Link.Inputs (link : Link) (ledger : Ledger) (scope scope' : Scope) (data data' : Data)
    (arguments arguments' : List Data) : Prop where
  scope : link.SameScope ledger scope scope'
  data : link.Same ledger data data'
  arguments : link.SameList ledger arguments arguments'

/-- A handler that corresponds to itself on both sides of every link. -/
def NaturalEager (run : EagerHandler) : Prop :=
  ∀ (link : Link) (caller : Caller), link.Calls caller → ∀ (ledger : Ledger) (scope scope' : Scope) (data data' : Data)
    (arguments arguments' : List Data), link.Inputs ledger scope scope' data data' arguments arguments' →
    link.Attempts ledger (run caller scope data arguments) (run caller scope' data' arguments') link.Same

namespace Operation

open Link

/-! ### Data of any type -/

theorem isEqual_natural : NaturalEager isEqual := by
  intro link caller _ ledger scope scope' data data' arguments arguments' inputs
  refine .bind (.read (first_outcomes "isEqual" inputs.arguments)) fun later other other' _ same => ?_
  rw [inputs.data.1, same.1, Data.rename_sameValue]
  exact .build (.boolean _)

theorem isTypeOf_natural : NaturalEager isTypeOf := by
  intro link caller _ ledger scope scope' data data' arguments arguments' inputs
  refine .bind (.read (first_outcomes "isTypeOf" inputs.arguments)) fun later other other' _ same => ?_
  rw [inputs.data.1, same.1, Data.rename_isOfType, Data.rename_type]
  exact .build (.boolean _)

theorem toText_natural : NaturalEager toText := by
  intro link caller _ ledger scope scope' data data' arguments arguments' inputs
  simp only [toText, inputs.data.1, Data.rename_display]
  exact .build (.text _)

theorem isUndefined_natural : NaturalEager isUndefined := by
  intro link caller _ ledger scope scope' data data' arguments arguments' inputs
  obtain ⟨rfl, _⟩ := inputs.data
  obtain ⟨id, type, value⟩ := data
  cases value <;> exact .build (.boolean _)

/-! ### Numbers -/

theorem operands_reads {link : Link} {ledger : Ledger} {data data' : Data} {arguments arguments' : List Data}
    (name : String) (receiver : link.Same ledger data data') (given : link.SameList ledger arguments arguments') :
    Reads (operands name data arguments) (operands name data' arguments') := by
  refine .bind (first_outcomes name given) fun other other' same => ?_
  refine .bind (expectNumber_reads name receiver.1) fun x x' left => ?_
  refine .bind (expectNumber_reads name same.1) fun y y' right => ?_
  rw [left, right]
  exact rfl

theorem arithmetic_natural (name : String) (compute : Float → Float → Float) :
    NaturalEager (arithmetic name compute) := by
  intro link caller _ ledger scope scope' data data' arguments arguments' inputs
  refine .bind (.reads (operands_reads name inputs.data inputs.arguments)) fun later pair pair' _ same => ?_
  rw [same]
  exact .build (.number _)

theorem comparison_natural (name : String) (compare : Float → Float → Bool) :
    NaturalEager (comparison name compare) := by
  intro link caller _ ledger scope scope' data data' arguments arguments' inputs
  refine .bind (.reads (operands_reads name inputs.data inputs.arguments)) fun later pair pair' _ same => ?_
  rw [same]
  exact .build (.boolean _)

theorem transform_natural (name : String) (compute : Float → Float) : NaturalEager (transform name compute) := by
  intro link caller _ ledger scope scope' data data' arguments arguments' inputs
  refine .bind (.reads (expectNumber_reads name inputs.data.1)) fun later value value' _ same => ?_
  rw [same]
  exact .build (.number _)

theorem divide_natural : NaturalEager divide := by
  intro link caller _ ledger scope scope' data data' arguments arguments' inputs
  refine .bind (.reads (operands_reads "divide" inputs.data inputs.arguments)) fun later pair pair' _ same => ?_
  subst same
  obtain ⟨x, y⟩ := pair'
  exact .reject _ (.build (.number _))

theorem modulo_natural : NaturalEager modulo := by
  intro link caller _ ledger scope scope' data data' arguments arguments' inputs
  refine .bind (.reads (operands_reads "mod" inputs.data inputs.arguments)) fun later pair pair' _ same => ?_
  subst same
  obtain ⟨x, y⟩ := pair'
  exact .reject _ (.build (.number _))

/-- A list of new data, each built from one item. -/
theorem buildEach {link : Link} {ledger : Ledger} {build : α → Fresh Data}
    (each : ∀ item later, link.Sim later (Run.draw (build item)) (Run.draw (build item)) link.Same) (items : List α) :
    link.Attempts ledger (items.mapM fun item => (liftM (build item) : Attempt Data))
      (items.mapM fun item => (liftM (build item) : Attempt Data))
      fun later values values' => List.Forall₂ (link.Same later) values values' := by
  refine .mapM link.Same (fun _ _ _ _ le same => same.mono le) (List.forall₂_same.mpr fun item _ later _ => ?_)
  exact .build (each item later)

theorem toRange_natural : NaturalEager toRange := by
  intro link caller _ ledger scope scope' data data' arguments arguments' inputs
  refine .bind (.reads (operands_reads "toRange" inputs.data inputs.arguments)) fun later pair pair' _ same => ?_
  subst same
  obtain ⟨start, stop⟩ := pair'
  refine .reject _ (.reject _ ?_)
  exact .bind (buildEach (fun value _ => .number value) _) fun _ _ _ _ all => .build (.array _ all)

theorem toFixed_natural : NaturalEager toFixed := by
  intro link caller _ ledger scope scope' data data' arguments arguments' inputs
  refine .bind (.read (first_outcomes "toFixed" inputs.arguments)) fun _ argument argument' _ given => ?_
  refine .bind (.reads (expectNumber_reads "toFixed" inputs.data.1)) fun _ value value' _ same => ?_
  refine .bind (.reads (expectInteger_reads "toFixed" given.1)) fun _ digits digits' _ same' => ?_
  subst same same'
  exact .reject _ (.build (.text _))

/-! ### Booleans -/

theorem negate_natural : NaturalEager negate := by
  intro link caller _ ledger scope scope' data data' arguments arguments' inputs
  refine .bind (.reads (expectBool_reads "not" inputs.data.1)) fun _ value value' _ same => ?_
  rw [same]
  exact .build (.boolean _)

/-! ### Objects and dictionaries -/

theorem getEntry_natural : NaturalEager getEntry := by
  intro link caller _ ledger scope scope' data data' arguments arguments' inputs
  refine .bind (.read (first_outcomes "get" inputs.arguments)) fun first key key' le keys => ?_
  refine .bind (.read (expectEntries_outcomes "get" (inputs.data.mono le))) fun second entries entries' _ same => ?_
  refine .bind (.reads (expectText_reads "get" keys.1)) fun third name name' le named => ?_
  obtain ⟨rfl, all⟩ := same
  rw [named, Table.get?_mapValues]
  cases found : Table.get? entries name with
  | none => exact .build .undefined
  | some statement =>
    have holds : second.Holds link statement := Table.of_get? all found
    exact .pure ⟨statement.rename_data link.names, holds.data.mono le⟩

theorem written_attempts {link : Link} {ledger : Ledger} {data data' : Data} {arguments arguments' : List Data}
    (receiver : link.Same ledger data data') (given : link.SameList ledger arguments arguments') :
    link.Attempts ledger (written data arguments) (written data' arguments')
      fun later pair pair' => link.SameEntries later pair.1 pair'.1 ∧ link.Same later pair.2 pair'.2 := by
  refine .bind (.read (firstTwo_outcomes "set" given)) fun first pair pair' le pairs => ?_
  obtain ⟨key, value⟩ := pair
  obtain ⟨key', value'⟩ := pair'
  refine .bind (.read (expectEntries_outcomes "set" (receiver.mono le))) fun second entries entries' le' same => ?_
  refine .bind (.reads (expectText_reads "set" pairs.1.1)) fun third name name' le'' named => ?_
  have values := pairs.2.mono (le'.trans le'')
  refine .bind (.build (.makeStatement values)) fun fourth statement statement' le3 made => .pure ⟨⟨?_, ?_⟩, ?_⟩
  · rw [same.1, made.1, named, Table.insert_mapValues]
  · exact Table.all_insert (fun entry member => (same.2 entry member).mono (le''.trans le3)) name made.2
  · exact values.mono le3

theorem entryTypes_mapValues (names : Renaming) (entries : Table Statement) :
    ((Table.mapValues (Statement.rename names) entries).map fun (key, statement) => (key, statement.data.type))
      = entries.map fun (key, statement) => (key, statement.data.type) := by
  simp [Table.mapValues, Function.comp_def]

theorem entriesType_mapValues (names : Renaming) (declared : DataType) (entries : Table Statement) :
    entriesType declared (Table.mapValues (Statement.rename names) entries) = entriesType declared entries := by
  rw [entriesType, entryTypes_mapValues, Table.keys_mapValues, entriesType]

theorem withEntries_sim {link : Link} {ledger : Ledger} {data data' : Data} {entries entries' : Table Statement}
    (named : data' = data.rename link.names) (same : link.SameEntries ledger entries entries') :
    link.Sim ledger (Run.draw (withEntries data entries)) (Run.draw (withEntries data' entries')) link.Same := by
  rw [withEntries, withEntries, named, same.1, Data.rename_type, entriesType_mapValues, ← same.1]
  exact .make _ same.record

theorem setProperty_natural : NaturalEager setProperty := by
  intro link caller _ ledger scope scope' data data' arguments arguments' inputs
  refine .bind (written_attempts inputs.data inputs.arguments) fun later pair pair' _ same => ?_
  exact .build (withEntries_sim inputs.data.1 same.1)

theorem hasEntry_natural : NaturalEager hasEntry := by
  intro link caller _ ledger scope scope' data data' arguments arguments' inputs
  refine .bind (.read (first_outcomes "has" inputs.arguments)) fun first key key' le keys => ?_
  refine .bind (.read (expectEntries_outcomes "has" (inputs.data.mono le))) fun second entries entries' _ same => ?_
  refine .bind (.reads (expectText_reads "has" keys.1)) fun third name name' _ named => ?_
  rw [named, same.1, Table.has_mapValues]
  exact .build (.boolean _)

theorem entryKeys_natural : NaturalEager entryKeys := by
  intro link caller _ ledger scope scope' data data' arguments arguments' inputs
  refine .bind (.read (expectEntries_outcomes "keys" inputs.data)) fun first entries entries' _ same => ?_
  rw [same.1, Table.keys_mapValues]
  exact .bind (buildEach (fun key _ => .text key) _) fun _ _ _ _ all => .build (.array _ all)

theorem SameEntries.data {link : Link} {ledger : Ledger} {entries entries' : Table Statement}
    (same : link.SameEntries ledger entries entries') :
    link.SameList ledger ((Table.values entries).map (·.data)) ((Table.values entries').map (·.data)) := by
  refine SameAll.data ⟨by rw [same.1, Table.values_mapValues], fun statement member => ?_⟩
  obtain ⟨entry, within, rfl⟩ := List.mem_map.mp member
  exact same.2 entry within

theorem entryValues_natural {fallback : Data → DataType}
    (typed : ∀ names data, fallback (data.rename names) = fallback data) : NaturalEager (entryValues fallback) := by
  intro link caller _ ledger scope scope' data data' arguments arguments' inputs
  refine .bind (.read (expectEntries_outcomes "values" inputs.data)) fun first entries entries' _ same => ?_
  rw [inputs.data.1, typed]
  exact .build (.array _ (SameEntries.data same).forall₂)

theorem merge_natural : NaturalEager merge := by
  intro link caller _ ledger scope scope' data data' arguments arguments' inputs
  refine .bind (.read (first_outcomes "merge" inputs.arguments)) fun first other other' le others => ?_
  refine .bind (.read (expectEntries_outcomes "merge" (inputs.data.mono le))) fun second entries entries' le' same => ?_
  refine .bind (.read (expectEntries_outcomes "merge" (others.mono le'))) fun third more more' le'' added => ?_
  refine .build (withEntries_sim inputs.data.1 ⟨?_, ?_⟩)
  · rw [same.1, added.1, Table.insertAll_mapValues]
  · exact Table.all_insertAll (fun entry member => (same.2 entry member).mono le'') added.2

theorem setElement_natural : NaturalEager setElement := by
  intro link caller _ ledger scope scope' data data' arguments arguments' inputs
  refine .bind (written_attempts inputs.data inputs.arguments) fun later pair pair' _ same => ?_
  obtain ⟨entries, value⟩ := pair
  obtain ⟨entries', value'⟩ := pair'
  have types : elementType data' = elementType data ∧ value'.type = value.type := by
    have renamed : value' = value.rename link.names := same.2.1
    rw [inputs.data.1, renamed]
    exact ⟨by simp [elementType], by simp⟩
  dsimp only
  rw [types.1, types.2]
  exact .build (.make _ same.1.record)

theorem deleteEntry_natural : NaturalEager deleteEntry := by
  intro link caller _ ledger scope scope' data data' arguments arguments' inputs
  refine .bind (.read (first_outcomes "delete" inputs.arguments)) fun first key key' le keys => ?_
  refine .bind (.read (expectEntries_outcomes "delete" (inputs.data.mono le))) fun second entries entries' _ same => ?_
  refine .bind (.reads (expectText_reads "delete" keys.1)) fun third name name' le named => ?_
  rw [inputs.data.1, Data.rename_type]
  refine .build (.make _ (SameEntries.record ⟨?_, ?_⟩))
  · rw [same.1, named, Table.erase_mapValues]
  · exact Table.all_erase (fun entry member => (same.2 entry member).mono le) name

theorem entryCount_natural : NaturalEager entryCount := by
  intro link caller _ ledger scope scope' data data' arguments arguments' inputs
  refine .bind (.read (expectEntries_outcomes "size" inputs.data)) fun first entries entries' _ same => ?_
  rw [same.1, Table.mapValues, List.length_map]
  exact .build (.number _)

/-! ### Unions -/

theorem definedType_rename (names : Renaming) (data : Data) : definedType (data.rename names) = definedType data := by
  simp [definedType]

theorem orElse_natural : NaturalEager orElse := by
  intro link caller _ ledger scope scope' data data' arguments arguments' inputs
  refine .bind (.read (first_outcomes "orElse" inputs.arguments)) fun later fallback fallback' le same => ?_
  obtain ⟨rfl, settles⟩ := inputs.data
  have value := (settles.mono le).value
  simp only [definedType_rename, Data.rename_type, Data.rename_value]
  obtain ⟨id, type, content⟩ := data
  cases content with
  | undefined => exact .pure same
  | _ => exact .build (.make _ ⟨rfl, value⟩)

/-! ### Calls -/

theorem call_natural : NaturalEager call := by
  intro link caller calls ledger scope scope' data data' arguments arguments' inputs
  refine .bind (.read (expectOperation_outcomes "call" inputs.data)) fun later operation operation' le same => ?_
  exact .lift (calls later _ _ _ _ _ _ (inputs.scope.mono le) same (inputs.arguments.mono le))

end Operation

end LivePipeline
