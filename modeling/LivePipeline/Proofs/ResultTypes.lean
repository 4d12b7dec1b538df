import LivePipeline.Proofs.ResultTypes.Handlers

/-! Declared result types. Each built-in operation pairs a handler with a function that tells the type of the
result from the receiver and the types of the arguments. The two agree as long as unions are compared
alternative by alternative: the compatibility of unions also asks for equally many members, and what an
operation gives may have fewer of them than the declared type. -/

namespace LivePipeline

open DataType Operation

/-- The groups of operations on values of a program, and not on objects outside of it or on operations. -/
def valueGroups : List String := ["unknown", "string", "number", "boolean", "array", "object", "dictionary", "union"]

theorem group_of_other_families : ∀ family ∈ [callingFamily, dateFamily, locatorFamily, httpFamily, promiseFamily],
    ∀ builtin ∈ family, builtin.group ∉ valueGroups := by
  simp only [callingFamily, dateFamily, locatorFamily, httpFamily, promiseFamily, List.forall_mem_cons, List.not_mem_nil,
    false_implies, implies_true, and_true, Builtin.eager]
  decide

/-- What a built-in operation on values gives is within the type that it declares for such a receiver and such
arguments, if the call is typed and the declared result foresees it. -/
theorem result_within_declared {builtin : Builtin} (among : builtin ∈ builtins) (group : builtin.group ∈ valueGroups)
    {run : EagerHandler} (eager : builtin.handler = .eager run) {caller : Caller} {scope : Scope} {data : Data} {arguments : List Data}
    (typed : builtin.Typed caller scope data arguments) :
    Run.Ends (run caller scope data arguments) fun result =>
      builtin.Succeeds result → Within result.type (builtin.result data (arguments.map (·.type))) := by
  have others := group_of_other_families
  simp only [List.forall_mem_cons, List.not_mem_nil, false_implies, implies_true, and_true] at others
  obtain ⟨calling, dates, locators, clients, promises⟩ := others
  have sound : builtin.Sound := by
    simp only [builtins, List.mem_append] at among
    rcases among with (((((((((((generic | textual) | numeric) | logic) | sequence) | record) | dictionary) | optional) | call) | date)
      | locator) | client) | promise
    · exact genericFamily_sound builtin generic
    · exact textualFamily_sound builtin textual
    · exact numericFamily_sound builtin numeric
    · exact logicFamily_sound builtin logic
    · exact sequenceFamily_sound builtin sequence
    · exact recordFamily_sound builtin record
    · exact dictionaryFamily_sound builtin dictionary
    · exact optionalFamily_sound builtin optional
    · exact absurd group (calling builtin call)
    · exact absurd group (dates builtin date)
    · exact absurd group (locators builtin locator)
    · exact absurd group (clients builtin client)
    · exact absurd group (promises builtin promise)
  exact sound run eager caller scope data arguments typed

/-- Elements of three types. -/
def mixedType : DataType := .union [.string, .number, .boolean] none

/-- A list of such elements, which happen to have two of the types. -/
def mixedList : Data := ⟨"l", .array mixedType,
  .array [⟨"x", ⟨"xd", .string, .text "x"⟩, [], none, false⟩, ⟨"y", ⟨"yd", .number, .number 1.0⟩, [], none, false⟩]⟩

/-- An operation that gives back what it is called with. -/
def sameAgain : Data :=
  ⟨"o", .operation [.named "item" mixedType] mixedType, .operation none [⟨"p", ⟨"pd", mixedType, .text ""⟩, [], some "item", false⟩]
    [⟨"r", ⟨"rd", .reference mixedType, .reference "item" "p"⟩, [], none, false⟩]⟩

theorem mixedList_agrees : mixedList.Agrees where
  wellFormed := rfl
  present _ := ⟨_, List.mem_singleton_self _, nofun⟩
  items items found := by cases found; decide
  entries _ found := nomatch found
  properties _ _ found := nomatch found

theorem sameAgain_agrees : sameAgain.Agrees where
  wellFormed := rfl
  present _ := ⟨_, List.mem_singleton_self _, nofun⟩
  items _ found := nomatch found
  entries _ found := nomatch found
  properties _ _ found := nomatch found

theorem sameAgain_answers {item : Statement} (among : item ∈ mixedList.items?.getD []) (index : Data) :
    (Scope.caller {}).Answers {} sameAgain [item.data, index] := by
  intro world
  refine .inr ?_
  simp only [mixedList, Data.items?, Option.getD_some, List.mem_cons, List.not_mem_nil, or_false] at among
  rcases among with rfl | rfl
  · exact (by decide : DataType.string.Fits mixedType)
  · exact (by decide : DataType.number.Fits mixedType)

/-- The operation on lists that calls back for each element. -/
def mapping : Builtin :=
  .eager "map" "array" (onSequence (callback .unknown)) (fun _ arguments => .array (callbackResult arguments)) mapSequence

theorem mapping_typed : mapping.Typed (Scope.caller {}) {} mixedList [sameAgain] where
  accepts := ⟨rfl, by decide⟩
  receiver := mixedList_agrees
  passed := by simpa using sameAgain_agrees
  mapped := by
    intro _ operation rest same items found item listed index _
    cases same
    cases found
    exact sameAgain_answers listed index
  folded named := absurd named (by decide)
  foresees := {
    element _ := lossless_of_distinct rfl
    joined joins := nomatch congrFun (congrFun joins mixedList) []
    values _ _ _ found := nomatch found
    flat named := absurd named (by decide)
    pushed named := absurd named (by decide)
    rewritten named := absurd named (by decide)
    property named := absurd named (by decide)
    merged named := absurd named (by decide)
    initial named := absurd named (by decide) }

theorem mapping_succeeds {result : Data} (same : (mapSequence (Scope.caller {}) {} mixedList [sameAgain] {}).1 = .ok result) :
    mapping.Succeeds result := by
  cases same
  refine ⟨rfl, fun _ items found => ?_⟩
  cases found
  exact List.forall_mem_cons.mpr ⟨rfl, List.forall_mem_cons.mpr ⟨rfl, nofun⟩⟩

/-- The elements of a list, mapped to themselves: three types are declared and two given, so that compatibility
does not hold. -/
theorem map_within_declared : mapping ∈ builtins ∧ mapping.group ∈ valueGroups ∧ mapping.Typed (Scope.caller {}) {} mixedList [sameAgain]
    ∧ ∃ result, (mapSequence (Scope.caller {}) {} mixedList [sameAgain] {}).1 = .ok result ∧ mapping.Succeeds result
      ∧ result.type.compatible (mapping.result mixedList [sameAgain.type]) = false
      ∧ Within result.type (mapping.result mixedList [sameAgain.type]) := by
  have among : mapping ∈ builtins := by simp [builtins, sequenceFamily, mapping]
  have valued : mapping.group ∈ valueGroups := by decide
  exact ⟨among, valued, mapping_typed, _, rfl, mapping_succeeds rfl, rfl,
    result_within_declared among valued rfl mapping_typed {} _ rfl (mapping_succeeds rfl)⟩

/-- A dictionary whose entries have two of the three types that its elements may have. -/
def mixedEntries : Data := ⟨"d", .dictionary mixedType,
  .record [("a", ⟨"a", ⟨"ad", .string, .text "x"⟩, [], none, false⟩), ("b", ⟨"b", ⟨"bd", .number, .number 1.0⟩, [], none, false⟩)]⟩

/-- The operation on dictionaries that lists the data of the entries. -/
def listing : Builtin :=
  .eager "values" "dictionary" (onDictionary fun _ => []) (fun data _ => .array (elementType data)) (entryValues elementType)

/-- Compatibility alone is too much to ask: the values of a dictionary are typed by what is there. -/
theorem values_incompatible_with_declared : listing ∈ builtins ∧ listing.group ∈ valueGroups
    ∧ mixedEntries.supports (listing.parameters mixedEntries)
    ∧ (∀ entries, mixedEntries.entries? = some entries → ∀ entry ∈ entries, entry.2.data.type.compatible (elementType mixedEntries))
    ∧ ∃ result, (entryValues elementType (Scope.caller {}) {} mixedEntries [] {}).1 = .ok result ∧ result.isError = false
      ∧ result.type.compatible (listing.result mixedEntries []) = false := by
  refine ⟨by simp [builtins, dictionaryFamily, listing], by decide, rfl, ?_, _, rfl, rfl, rfl⟩
  intro entries found
  cases found
  decide

end LivePipeline
