import LivePipeline.Node.Default
import LivePipeline.Proofs.Correspondence.Building

/-! Default data on both sides of a link. Defaults become part of the code, so all identities in them
are newly drawn, and the objects behind their handles are not made yet. -/

namespace LivePipeline

namespace Link

/-- A value made for use in code, on both sides. -/
def DraftValue (link : Link) (ledger : Ledger) (value value' : Value) : Prop :=
  value' = value.rename link.names ∧ value.Firm ∧ ledger.Writes link value.mentions

def DraftData (link : Link) (ledger : Ledger) (data data' : Data) : Prop :=
  data' = data.rename link.names ∧ data.value.Firm ∧ ledger.Writes link data.mentions

def Draft (link : Link) (ledger : Ledger) (statement statement' : Statement) : Prop :=
  statement' = statement.rename link.names ∧ statement.data.value.Firm ∧ ledger.Writes link statement.mentions

def Drafts (link : Link) (ledger : Ledger) (statements statements' : List Statement) : Prop :=
  statements' = renameAll link.names statements
    ∧ ∀ statement ∈ statements, statement.data.value.Firm ∧ ledger.Writes link statement.mentions

def DraftEntries (link : Link) (ledger : Ledger) (entries entries' : List (String × Statement)) : Prop :=
  entries' = renameEntries link.names entries
    ∧ ∀ entry ∈ entries, entry.2.data.value.Firm ∧ ledger.Writes link entry.2.mentions

variable {link : Link} {before after ledger : Ledger}

theorem DraftData.same {data data' : Data} (draft : link.DraftData ledger data data') : link.Same ledger data data' :=
  ⟨draft.1, draft.2.1, draft.2.2.covers⟩

theorem Drafts.nil : link.Drafts ledger [] [] := ⟨rfl, by simp⟩

theorem Drafts.cons {first first' : Statement} {rest rest' : List Statement} (head : link.Draft before first first')
    (le : before ≤ after) (tail : link.Drafts after rest rest') : link.Drafts after (first :: rest) (first' :: rest') :=
  ⟨by rw [head.1, tail.1]; rfl, List.forall_mem_cons.mpr ⟨⟨head.2.1, head.2.2.mono le⟩, tail.2⟩⟩

theorem DraftEntries.nil : link.DraftEntries ledger [] [] := ⟨rfl, by simp⟩

theorem DraftEntries.cons (key : String) {first first' : Statement} {rest rest' : List (String × Statement)}
    (head : link.Draft before first first') (le : before ≤ after) (tail : link.DraftEntries after rest rest') :
    link.DraftEntries after ((key, first) :: rest) ((key, first') :: rest') :=
  ⟨by rw [head.1, tail.1]; rfl, List.forall_mem_cons.mpr ⟨⟨head.2.1, head.2.2.mono le⟩, tail.2⟩⟩

theorem Drafts.array {items items' : List Statement} (drafts : link.Drafts ledger items items') :
    link.DraftValue ledger (.array items) (.array items') := by
  refine ⟨by rw [drafts.1, Value.rename], ?_, ?_⟩
  · simp only [Value.Firm, allFirm_iff]
    exact fun item member => (drafts.2 item member).1
  · simp only [Value.mentions, allMentions_eq_flatMap, Ledger.writes_flatMap]
    exact fun item member => (drafts.2 item member).2

theorem DraftEntries.record {entries entries' : List (String × Statement)}
    (drafts : link.DraftEntries ledger entries entries') :
    link.DraftValue ledger (.record entries) (.record entries') := by
  refine ⟨by rw [drafts.1, Value.rename], ?_, ?_⟩
  · simp only [Value.Firm, entriesFirm_iff]
    exact fun entry member => (drafts.2 entry member).1
  · simp only [Value.mentions, entryMentions_eq_flatMap, Ledger.writes_flatMap]
    exact fun entry member => (drafts.2 entry member).2

theorem Drafts.operation {parameters parameters' : List Statement} (drafts : link.Drafts ledger parameters parameters')
    (name : Option String) :
    link.DraftValue ledger (.operation name parameters []) (.operation name parameters' []) := by
  refine ⟨by rw [drafts.1, Value.rename]; rfl, trivial, ?_⟩
  simp only [Value.mentions, allMentions_eq_flatMap, List.flatMap_nil, List.append_nil, Ledger.writes_flatMap]
  exact fun parameter member => (drafts.2 parameter member).2

end Link

namespace Link.Sim

variable {link : Link} {ledger : Ledger}

theorem draftData (type : DataType) {value value' : Value} (draft : link.DraftValue ledger value value') :
    link.Sim ledger (Run.draw (Data.make type value)) (Run.draw (Data.make type value')) link.DraftData := by
  refine .build freshId fun later id id' le drew => .built ⟨?_, draft.2.1, ?_⟩
  · rw [drew.1, draft.1]
    rfl
  · exact Ledger.writes_cons.mpr ⟨drew.2, draft.2.2.mono le⟩

theorem draftStatement {data data' : Data} (draft : link.DraftData ledger data data') (name : Option String)
    (isOptional : Bool) :
    link.Sim ledger (Run.draw (do return ⟨← LivePipeline.freshId, data, [], name, isOptional⟩))
      (Run.draw (do return ⟨← LivePipeline.freshId, data', [], name, isOptional⟩)) link.Draft := by
  refine .build freshId fun later id id' le drew => .built ⟨?_, draft.2.1, ?_⟩
  · rw [drew.1, draft.1]
    rfl
  · rw [Statement.mentions_eta, Ledger.writes_cons, List.flatMap_nil, List.append_nil]
    exact ⟨drew.2, draft.2.2.mono le⟩

theorem holding (name : Option String) (isOptional : Bool) (type : DataType) {value value' : Fresh Value}
    (values : link.Sim ledger (Run.draw value) (Run.draw value') link.DraftValue) :
    link.Sim ledger (Run.draw (Statement.holding name isOptional type value))
      (Run.draw (Statement.holding name isOptional type value')) link.Draft := by
  refine .build values fun later value value' le same => ?_
  exact .build (draftData _ same) fun last data data' _ same => draftStatement same name isOptional

mutual

theorem defaultValue (full : Bool) : ∀ (type : DataType) (ledger : Ledger),
    link.Sim ledger (Run.draw (type.defaultValue full)) (Run.draw (type.defaultValue full)) link.DraftValue
  | .unknown, _ | .never, _ | .undefined, _ | .string, _ | .number, _ | .boolean, _ | .error _, _ =>
    .built ⟨rfl, trivial, Ledger.writes_nil⟩
  | .array element, ledger => by
    have known : link.Sim ledger
        (Run.draw (do return .array [← Statement.holding none false element (element.defaultValue full)]))
        (Run.draw (do return .array [← Statement.holding none false element (element.defaultValue full)]))
        link.DraftValue := by
      refine .build (holding none false element (defaultValue full element ledger)) fun later item item' le same => ?_
      exact .built (Drafts.cons same (le_refl _) .nil).array
    unfold DataType.defaultValue
    split
    · exact .built Drafts.nil.array
    · exact .built Drafts.nil.array
    · exact known
  | .tuple elements, ledger => by
    refine .build (defaultStatements full elements ledger) fun later items items' le same => ?_
    exact .built same.array
  | .object properties required, ledger => by
    refine .build (defaultEntries full required properties ledger) fun later entries entries' le same => ?_
    exact .built same.record
  | .dictionary element, ledger => by
    have known : link.Sim ledger
        (Run.draw (do return .record [("key", ← Statement.holding none false element (element.defaultValue full))]))
        (Run.draw (do return .record [("key", ← Statement.holding none false element (element.defaultValue full))]))
        link.DraftValue := by
      refine .build (holding none false element (defaultValue full element ledger)) fun later item item' le same => ?_
      exact .built (DraftEntries.cons "key" same (le_refl _) .nil).record
    unfold DataType.defaultValue
    split
    · exact .built DraftEntries.nil.record
    · exact .built DraftEntries.nil.record
    · exact known
  | .union members active, ledger => by
    have each := memberDefaults full members ledger
    unfold DataType.defaultValue
    cases chosen : (defaultMember members active).bind ((LivePipeline.memberDefaults full members)[·]?) with
    | none => exact .built ⟨rfl, trivial, Ledger.writes_nil⟩
    | some value =>
      obtain ⟨index, _, found⟩ := Option.bind_eq_some_iff.mp chosen
      exact each value (List.mem_of_getElem? found)
  | .operation parameters _, ledger => by
    refine .build (defaultParameters full parameters ledger) fun later parameters parameters' le same => ?_
    exact .built (same.operation none)
  | .condition result, ledger => by
    refine .build (draftData .boolean ⟨rfl, trivial, Ledger.writes_nil⟩) fun first data data' _ same => ?_
    refine .build (draftStatement same none false) fun second test test' _ tests => ?_
    refine .build (holding none false result (defaultValue full result second)) fun third onTrue onTrue' le trues => ?_
    refine .build (holding none false result (defaultValue full result third)) fun last onFalse onFalse' le' falses => ?_
    refine .built ⟨by rw [tests.1, trues.1, falses.1, Value.rename], trivial, ?_⟩
    simp only [Value.mentions, Ledger.writes_append]
    exact ⟨⟨tests.2.2.mono (le.trans le'), trues.2.2.mono le'⟩, falses.2.2⟩
  | .reference target, ledger => defaultValue full target ledger
  | .instanceOf className arguments, ledger => by
    refine .build (defaultParameters full arguments ledger) fun later parameters parameters' _ same => ?_
    refine .build (freshKey className (seedText parameters)) fun last id id' le drew => ?_
    refine .built ⟨by rw [same.1, drew.1, Value.rename], trivial, ?_⟩
    simp only [Value.mentions, allMentions_eq_flatMap, Ledger.writes_cons, Ledger.writes_flatMap]
    exact ⟨drew.2, fun parameter member => (same.2 parameter member).2.mono le⟩
termination_by structural type => type

theorem defaultStatements (full : Bool) : ∀ (types : List DataType) (ledger : Ledger),
    link.Sim ledger (Run.draw (LivePipeline.defaultStatements full types))
      (Run.draw (LivePipeline.defaultStatements full types)) link.Drafts
  | [], _ => .built .nil
  | type :: rest, ledger => by
    refine .build (holding none false type (defaultValue full type ledger)) fun later item item' _ same => ?_
    refine .build (defaultStatements full rest later) fun last items items' le all => ?_
    exact .built (Drafts.cons same le all)
termination_by structural types => types

theorem defaultEntries (full : Bool) (required : List String) :
    ∀ (properties : List (String × DataType)) (ledger : Ledger),
      link.Sim ledger (Run.draw (LivePipeline.defaultEntries full required properties))
        (Run.draw (LivePipeline.defaultEntries full required properties)) link.DraftEntries
  | [], _ => .built .nil
  | (key, type) :: rest, ledger => by
    have skipped := defaultEntries full required rest
    have filled : link.Sim ledger
        (Run.draw (do
          let statement ← Statement.holding none false type (type.defaultValue full)
          return (key, statement) :: (← LivePipeline.defaultEntries full required rest)))
        (Run.draw (do
          let statement ← Statement.holding none false type (type.defaultValue full)
          return (key, statement) :: (← LivePipeline.defaultEntries full required rest))) link.DraftEntries := by
      refine .build (holding none false type (defaultValue full type ledger)) fun later item item' _ same => ?_
      refine .build (skipped later) fun last entries entries' le all => ?_
      exact .built (DraftEntries.cons key same le all)
    unfold LivePipeline.defaultEntries
    split
    · exact filled
    · exact skipped ledger
termination_by structural properties => properties

theorem defaultParameters (full : Bool) : ∀ (parameters : List Parameter) (ledger : Ledger),
    link.Sim ledger (Run.draw (LivePipeline.defaultParameters full parameters))
      (Run.draw (LivePipeline.defaultParameters full parameters)) link.Drafts
  | [], _ => .built .nil
  | ⟨name, type, isOptional⟩ :: rest, ledger => by
    refine .build (holding name isOptional type (defaultValue full type ledger)) fun later item item' _ same => ?_
    refine .build (defaultParameters full rest later) fun last items items' le all => ?_
    exact .built (Drafts.cons same le all)
termination_by structural parameters => parameters

theorem memberDefaults (full : Bool) : ∀ (members : List DataType) (ledger : Ledger),
    ∀ build ∈ LivePipeline.memberDefaults full members,
      link.Sim ledger (Run.draw build) (Run.draw build) link.DraftValue
  | [], _ => by simp [LivePipeline.memberDefaults]
  | type :: rest, ledger => by
    intro build member
    rcases List.mem_cons.mp member with rfl | later
    · exact defaultValue full type ledger
    · exact memberDefaults full rest ledger build later
termination_by structural members => members

end

theorem defaultData (full : Bool) (type : DataType) :
    link.Sim ledger (Run.draw (type.defaultData full)) (Run.draw (type.defaultData full)) link.DraftData :=
  .build (defaultValue full type ledger) fun _ _ _ _ same => draftData _ same

theorem defaultArgument (full : Bool) (parameter : Parameter) :
    link.Sim ledger (Run.draw (parameter.defaultArgument full)) (Run.draw (parameter.defaultArgument full))
      link.Draft :=
  .build (defaultData full parameter.type) fun _ _ _ _ same => draftStatement same none parameter.isOptional

end Link.Sim

end LivePipeline
