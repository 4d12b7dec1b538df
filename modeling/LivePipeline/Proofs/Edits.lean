import LivePipeline.Node.Encoding
import LivePipeline.Proofs.Agreement

/-! Programs that are brought up to date again and again. Revision may change the types and the
arguments of calls, but each statement and each call stays what it was; and behind an edit it does
not matter whether the statements before it were carried over or brought up to date as well. -/

namespace LivePipeline

/-! ## What revision keeps -/

/-- Whatever the world is, the run gives a value with the property. -/
def Run.Yields (run : Run α) (post : α → Prop) : Prop := ∀ world, post (run world).1

namespace Run.Yields

protected theorem pure {value : α} {post : α → Prop} (holds : post value) : Yields (Pure.pure value) post :=
  fun _ => holds

protected theorem bind {run : Run α} {next : α → Run β} {middle : α → Prop} {post : β → Prop} (first : Yields run middle)
    (second : ∀ value, middle value → Yields (next value) post) : Yields (run >>= next) post :=
  fun world => second _ (first world) _

/-- What is done before does not matter to what is given. -/
theorem behind (run : Run α) {next : α → Run β} {post : β → Prop} (second : ∀ value, Yields (next value) post) :
    Yields (run >>= next) post :=
  fun _ => second _ _

theorem mapM {work : α → Run β} {frame : α → γ} {frame' : β → γ} (each : ∀ item, Yields (work item) fun value => frame' value = frame item)
    (items : List α) : Yields (items.mapM work) fun values => values.map frame' = items.map frame := by
  induction items with
  | nil => exact .pure rfl
  | cons item rest ih =>
    rw [List.mapM_cons]
    refine .bind (each item) fun value same => .bind ih fun values all => .pure ?_
    rw [List.map_cons, List.map_cons, same, all]

end Run.Yields

/-- What makes a statement the one that it is: its identity, its name, whether it may be left out, the
identity of its data, and its calls in order. -/
structure Frame where
  id : EntityId
  name : Option String
  isOptional : Bool
  data : EntityId
  calls : List (EntityId × Option String)

def Statement.frame (statement : Statement) : Frame :=
  ⟨statement.id, statement.name, statement.isOptional, statement.data.id, statement.operations.map Data.callFrame⟩

theorem rebind_id (scope : Scope) (data : Data) : (scope.rebind data).id = data.id := by
  unfold Scope.rebind
  split
  · split <;> rfl
  · rfl

theorem reviseData_keeps_id (data : Data) (scope : Scope) : (reviseData data scope).Yields fun revised => revised.id = data.id := by
  obtain ⟨id, type, value⟩ := data
  cases value with
  | reference name target => exact .pure (rebind_id scope _)
  | array items => exact .behind _ fun _ => .pure rfl
  | record entries => exact .behind _ fun _ => .pure rfl
  | condition test whenTrue whenFalse => exact .behind _ fun _ => .pure rfl
  | operation name parameters body => exact .behind _ fun _ => .behind _ fun _ => .behind _ fun _ => .pure rfl
  | _ => exact .pure rfl

theorem repairCall_keeps_frame (scope : Scope) (data operation : Data) (arguments : List Revisable) :
    (repairCall scope data operation arguments).Yields fun repaired => repaired.callFrame = operation.callFrame := by
  unfold repairCall
  split
  · exact .pure rfl
  · next name _ body _ called _ =>
    split
    · exact .pure rfl
    · refine .behind _ fun _ => .pure ?_
      simp only [Data.callFrame, called]
  · exact .pure rfl

theorem withExecutedType_keeps_frame (operation : Data) :
    (withExecutedType operation).Yields fun typed => typed.callFrame = operation.callFrame := by
  refine .behind _ fun store => ?_
  split
  · apply Run.Yields.pure
    split <;> rfl
  · exact .pure rfl

/-- By induction on the calls: each is repaired where it stands. -/
theorem repairedStages_keep_frames (scope : Scope) (operations : List Data) (narrowing : Option Narrowing)
    (receiver current : Data) : (runStages scope narrowing receiver current (repairedStages operations)).Yields fun outcome =>
      outcome.2.map Data.callFrame = operations.map Data.callFrame := by
  induction operations generalizing narrowing receiver current with
  | nil => exact .pure rfl
  | cons operation rest ih =>
    have made : Run.Yields (do
        let repaired ← repairCall (scope.child.withNarrowing narrowing) current operation (revisableArguments operation)
        return (repaired, ← (scope.child.withNarrowing narrowing).perform current repaired))
        fun outcome => outcome.1.callFrame = operation.callFrame :=
      .bind (repairCall_keeps_frame _ _ _ _) fun repaired same => .behind _ fun _ => .pure same
    refine .bind made fun outcome same => .behind _ fun store => .bind (ih _ _ _) fun later all => .pure ?_
    rw [List.map_cons, List.map_cons, same, all]

theorem reviseStatement_keeps_frame (statement : Statement) (scope : Scope) :
    (reviseStatement statement scope).Yields fun outcome => outcome.1.frame = statement.frame := by
  obtain ⟨id, data, operations, name, isOptional⟩ := statement
  refine .bind (reviseData_keeps_id data scope) fun revised own => .behind _ fun initial => ?_
  refine .bind (repairedStages_keep_frames scope operations none revised initial) fun outcome calls => ?_
  obtain ⟨result, made⟩ := outcome
  have rebuilt (typed : List Data) (same : typed.map Data.callFrame = operations.map Data.callFrame) : Run.Yields (do
      let result ← scope.resolve result
      Run.setResult id result
      return ((⟨id, revised, typed, name, isOptional⟩ : Statement), result))
      fun outcome => outcome.1.frame = Statement.frame ⟨id, data, operations, name, isOptional⟩ := by
    refine .behind _ fun result => .behind _ fun _ => .pure ?_
    rw [Statement.frame, Statement.frame, own, same]
  dsimp only
  split
  · exact .bind (.pure calls) rebuilt
  · refine .bind (.mapM withExecutedType_keeps_frame made) fun typed same => ?_
    exact rebuilt typed (same.trans calls)

theorem reviseEach_keeps_frames (statements : List Statement) (scope : Scope) :
    (reviseEach (revisables statements) scope).Yields fun outcome => outcome.1.map Statement.frame = statements.map Statement.frame := by
  induction statements generalizing scope with
  | nil => exact .pure rfl
  | cons statement rest ih =>
    refine .bind (reviseStatement_keeps_frame statement scope) fun outcome same => ?_
    refine .bind (ih _) fun later all => .pure ?_
    rw [List.map_cons, List.map_cons, same, all]

/-- Revision keeps every statement in its place, with its calls in theirs. -/
theorem revise_keeps_frames (scope : Scope) (statements : List Statement) (world : World) :
    (scope.revise statements none world).1.map Statement.frame = statements.map Statement.frame :=
  reviseEach_keeps_frames statements scope.child world

/-- Programs that are the same on both sides come out the same. -/
theorem Linked.reviseEach_eq {link : Link} {ledger : Ledger} {left right : World} (linked : Linked link ledger left right)
    {scope scope' : Scope} (site : link.SameSite ledger scope scope') {statements : List Statement}
    (written : ∀ statement ∈ statements, ledger.Writes link statement.mentions)
    (kept : ∀ statement ∈ statements, statement.rename link.names = statement) :
    (reviseEach (revisables statements) scope' right).1.1
      = (reviseEach (revisables statements) scope left).1.1.map (Statement.rename link.names) := by
  have same : renameAll link.names statements = statements := by
    rw [renameAll_eq_map, List.map_congr_left kept, List.map_id']
  have revised := Link.Sim.reviseEach site (Link.sameRevisables (fun statement _ => Link.revisesStatement statement) written)
  rw [same] at revised
  obtain ⟨_, _, _, _, related, _⟩ := revised left right linked
  rw [(Link.SameSources.eq_map (related.imp fun _ _ part => part.1)).1, renameAll_eq_map]

theorem Trails.relaxed {link : Link} {ledger : Ledger} {left right : World} (trails : Trails link ledger left right) :
    Trails link.relaxed ledger left right :=
  ⟨trails.linked.relaxed, trails.ahead, trails.written⟩

theorem Trails.reviseEach_eq {link : Link} {ledger : Ledger} {left right : World} (trails : Trails link ledger left right)
    {scope scope' : Scope} (hosts : link.Hosts ledger scope scope') {statements : List Statement}
    (written : ∀ statement ∈ statements, ledger.Writes link statement.mentions) :
    (reviseEach (revisables statements) scope' right).1.1
      = (reviseEach (revisables statements) scope left).1.1.map (Statement.rename link.names) :=
  trails.linked.reviseEach_eq hosts.site written fun statement among => Statement.rename_eq_self fun mention within =>
    trails.written mention.id (written statement among mention within).2

theorem reviseEach_append (first second : List Revisable) (scope : Scope) :
    reviseEach (first ++ second) scope = (do
      let (begun, inner) ← reviseEach first scope
      let (ended, final) ← reviseEach second inner
      return (begun ++ ended, final)) := by
  induction first generalizing scope with
  | nil => rfl
  | cons revisable rest ih =>
    simp only [List.cons_append, reviseEach, ih]
    rfl

/-- Behind an edit it does not matter how the statements before it came to their results. They were
carried over on the left and brought up to date on the right, which kept them as they are; if the
worlds and scopes behind them correspond, then so do the statements behind. -/
theorem revise_edit_agrees {link : Link} {ledger : Ledger} {before behind statements : List Statement} {edit : Edit}
    {scope inner inner' : Scope} {world carried brought : World} (split : edit.split statements = (before, behind))
    (carries : scope.child.carry before world = (inner, carried))
    (brings : reviseEach (revisables before) scope.child world = ((before, inner'), brought))
    (linked : Linked link ledger carried brought) (scopes : link.SameSite ledger inner inner')
    (written : ∀ statement ∈ behind, ledger.Writes link statement.mentions)
    (kept : ∀ statement ∈ behind, statement.rename link.names = statement) :
    ∃ rebuilt, (scope.revise statements (some edit) world).1 = before ++ rebuilt
      ∧ (scope.revise (before ++ behind) none world).1 = before ++ rebuilt.map (Statement.rename link.names) := by
  have renamed := linked.reviseEach_eq scopes written kept
  refine ⟨(reviseEach (revisables behind) inner carried).1.1, ?_, ?_⟩
  · have runs : scope.revise statements (some edit) world
        = (before ++ (reviseEach (revisables behind) inner carried).1.1, (reviseEach (revisables behind) inner carried).2) := by
      simp only [Scope.revise, split]
      exact Run.bind_eq carries
    rw [runs]
  · have runs : (reviseEach (revisables (before ++ behind)) scope.child world).1.1
        = before ++ (reviseEach (revisables behind) inner' brought).1.1 := by
      rw [revisables_eq_map, List.map_append, ← revisables_eq_map, ← revisables_eq_map, reviseEach_append,
        Run.bind_eq brings]
      rfl
    rw [← renamed]
    exact runs

/-- Recorded results are carried over as they are. -/
theorem Scope.carry_eq {statements : List Statement} {results : List Data} {world : World}
    (found : List.Forall₂ (fun statement result => world.store.result? statement.id = some result) statements results) :
    ∀ scope : Scope, scope.carry statements world = (scope.publishAll statements results, world) := by
  induction found with
  | nil => exact fun _ => rfl
  | cons head _ ih =>
    intro scope
    rw [Scope.carry, Run.store_bind, head]
    exact ih _

/-- A program stands on what a longer one stands on. -/
theorem Grounds.before {known : Mention → Prop} {first second : List Statement} {scope : Scope} {world : World}
    (grounds : Grounds known (first ++ second) scope world) : Grounds known first scope world := by
  have distinct := grounds.distinct
  rw [List.map_append] at distinct
  have within : ∀ {id}, id ∈ first.map Statement.id → id ∈ (first ++ second).map Statement.id := by
    intro id among
    rw [List.map_append]
    exact List.mem_append_left _ among
  exact { grounds with
    own := fun statement among => grounds.own statement (List.mem_append_left _ among)
    distinct := (List.nodup_append.mp distinct).1
    apart := fun id knows among => grounds.apart id knows (within among)
    data := fun statement among => grounds.data statement (List.mem_append_left _ among)
    operations := fun statement among => grounds.operations statement (List.mem_append_left _ among)
    extensions := fun extension among =>
      (grounds.extensions extension among).mono fun id absent among => absent (within among) }

/-- The world holds what bringing statements up to date has brought about, by identities of its own:
`numbers` says what they are there. What the code, the variables and the fingerprints mention has the same
identity in both worlds. -/
structure Restores (numbers : Nat → Nat) (code known : Mention → Prop) (statements : List Statement)
    (world brought : World) : Prop where
  injective : Function.Injective numbers
  drawn : ∀ number, number < world.nextId → numbers number < brought.nextId
  kept : ∀ mention, code mention → known mention ∧ EntityId.renumber numbers mention.id = mention.id
  below : ∀ mention, known mention → mention.id.Below world.nextId
  agree : ∀ {id className text className' text'}, known (.object id className text) →
    known (.object id className' text') → className = className' ∧ text = text'
  objects : ∀ id className text, known (.object id className text) →
    brought.store.external? (EntityId.renumber numbers id) className text
      = (world.store.external? id className text).map (External.rename (EntityId.renumber numbers))
  promises : ∀ id className text value, known (.object id className text) →
    world.store.instance? id = some (.promise (.resolved value)) → value.Rests known
  results : ∀ statement ∈ statements, ∃ data, world.store.result? statement.id = some data ∧ data.Rests known
    ∧ brought.store.result? statement.id = some (data.rename (EntityId.renumber numbers))

namespace Restores

variable {numbers : Nat → Nat} {code known : Mention → Prop} {statements : List Statement} {world brought : World}

def ledger (restores : Restores numbers code known statements world brought) : Ledger where
  bound := world.nextId
  object id className text := known (.object id className text)
  object_below knows := restores.below _ knows
  object_unique := restores.agree
  source := EntityId.Below world.nextId
  source_below below := below
  synced _ := False

/-- What is drawn from now on goes on from where each of the worlds is. -/
def link (restores : Restores numbers code known statements world brought) : Link where
  numbers number := if number < world.nextId then numbers number else brought.nextId + (number - world.nextId)
  injective := by
    have drawn := restores.drawn
    intro first second same
    dsimp only at same
    split at same
    · split at same
      · exact restores.injective same
      · have := drawn first ‹_›
        omega
    · split at same
      · have := drawn second ‹_›
        omega
      · omega
  start := world.nextId
  reserve := 0
  code _ := True
  code_drawn _ _ := trivial

variable (restores : Restores numbers code known statements world brought)
include restores

theorem names {id : EntityId} (below : id.Below world.nextId) : restores.link.names id = EntityId.renumber numbers id :=
  EntityId.renumber_congr fun number drew => if_pos (below number drew)

theorem allows {mention : Mention} (knows : known mention) : restores.ledger.Allows restores.link mention := by
  cases mention with
  | node id => exact ⟨restores.below _ knows, trivial⟩
  | target id => exact restores.below _ knows
  | object id className text => exact knows

theorem settles {data : Data} (rests : data.Rests known) : restores.ledger.Settles restores.link data :=
  ⟨rests.1, fun mention member => restores.allows (rests.2 mention member)⟩

theorem rename {data : Data} (rests : data.Rests known) :
    data.rename restores.link.names = data.rename (EntityId.renumber numbers) :=
  Data.rename_congr fun mention member => restores.names (restores.below _ (rests.2 mention member))

theorem permits {mention : Mention} (mentioned : code mention) : restores.ledger.Permits restores.link mention :=
  ⟨restores.allows (restores.kept mention mentioned).1, restores.below _ (restores.kept mention mentioned).1⟩

theorem names_eq_self (mention : Mention) (mentioned : code mention) : restores.link.names mention.id = mention.id :=
  (restores.names (restores.permits mentioned).2).trans (restores.kept mention mentioned).2

theorem rests {data : Data} (mentioned : data.Rests code) :
    data.Rests known ∧ data.rename restores.link.names = data :=
  ⟨⟨mentioned.1, fun mention member => (restores.kept mention (mentioned.2 mention member)).1⟩,
    Data.rename_eq_self fun mention member => restores.names_eq_self mention (mentioned.2 mention member)⟩

/-- The object behind a known handle. -/
theorem external {id : EntityId} {className : String} {text : Option String} (knows : known (.object id className text))
    {external : External} (found : world.store.external? id className text = some external) :
    external.rename restores.link.names = external.rename (EntityId.renumber numbers)
      ∧ external.Settled restores.link restores.ledger := by
  refine Store.external?_settled found fun value stored => ?_
  have rests := restores.promises id className text value knows stored
  exact ⟨restores.rename rests, restores.settles rests⟩

theorem linked {program : List Statement} {scope : Scope} (grounds : Grounds code program scope world) (grows : world.Grows brought)
    (quiet : ∀ key data, brought.store.fingerprint? key = some data → world.store.fingerprint? key = some data) :
    Linked restores.link restores.ledger world brought where
  bound := rfl
  start := Nat.le_refl _
  future ahead := (if_neg (by omega)).trans (by omega)
  apart _ _ _ reserved := absurd reserved (Nat.not_lt_zero _)
  unused_left := grounds.unused
  unused_right number free := by
    rcases free with beyond | ⟨_, reserved⟩
    · exact grows.unused number beyond
    · exact absurd reserved (Nat.not_lt_zero _)
  external id className text knows := by
    have same : restores.link.names id = EntityId.renumber numbers id := restores.names (restores.below _ knows)
    rw [same, restores.objects id className text knows]
    cases found : world.store.external? id className text with
    | none => rfl
    | some external => exact congrArg some (restores.external knows found).1.symm
  external_settled id className text external knows found := (restores.external knows found).2
  crafted id className text knows _ late := absurd (restores.below _ knows) late
  fingerprint key := by
    cases found : world.store.fingerprint? key with
    | none =>
      cases found' : brought.store.fingerprint? key with
      | none => rfl
      | some data => cases (quiet key data found').symm.trans found
    | some data =>
      rw [grows.fingerprints key data found]
      exact congrArg some (restores.rests (grounds.fingerprints key data found)).2.symm
  fingerprint_settled key data found := restores.settles (restores.rests (grounds.fingerprints key data found)).1
  firm_left := grounds.results
  firm_right := grows.results
  synced _ known := known.elim

theorem hosts {program : List Statement} {scope : Scope} (grounds : Grounds code program scope world) (live : scope.skip = none) :
    restores.link.Hosts restores.ledger scope.child scope.child := by
  refine Link.Hosts.of_kept live (fun entry member => ?_) fun extension member =>
    (grounds.extensions extension member).mono fun _ _ => trivial
  obtain ⟨own, rests⟩ := grounds.bindings entry member
  exact ⟨(restores.permits own).2, restores.names_eq_self (.target entry.2.id) own, restores.settles (restores.rests rests).1, (restores.rests rests).2⟩

theorem statement {program : List Statement} {scope : Scope} (grounds : Grounds code program scope world)
    {statement : Statement} (among : statement ∈ program) :
    restores.ledger.Writes restores.link statement.mentions ∧ statement.rename restores.link.names = statement := by
  have own := grounds.own statement among
  have permits := restores.permits own
  refine ⟨?_, Statement.rename_eq_self fun mention member => ?_⟩
  · rw [Statement.mentions_eta, Ledger.writes_cons, Ledger.writes_append, Ledger.writes_flatMap]
    exact ⟨⟨⟨permits.2, trivial⟩, permits.2⟩, fun mention member => restores.permits (grounds.data statement among mention member),
      fun operation called mention member => restores.permits (grounds.operations statement among operation called mention member)⟩
  · rw [Statement.mentions_eta, List.mem_cons, List.mem_append, List.mem_flatMap] at member
    obtain rfl | member | ⟨operation, called, member⟩ := member
    · exact restores.names_eq_self (.target statement.id) own
    · exact restores.names_eq_self _ (grounds.data statement among mention member)
    · exact restores.names_eq_self _ (grounds.operations statement among operation called mention member)

/-- What is carried over corresponds to what revision has published. -/
theorem carried {part : List Statement} {published : List Data} (within : ∀ statement ∈ part, statement ∈ statements)
    (stored : List.Forall₂ (fun statement result => brought.store.result? statement.id = some result) part published) :
    ∃ results, List.Forall₂ (fun statement result => world.store.result? statement.id = some result) part results
      ∧ List.Forall₂ (restores.link.Same restores.ledger) results published := by
  induction stored with
  | nil => exact ⟨[], .nil, .nil⟩
  | @cons statement result rest others head _ ih =>
    rw [List.forall_mem_cons] at within
    obtain ⟨data, found, rests, renamed⟩ := restores.results statement within.1
    cases renamed.symm.trans head
    obtain ⟨results, all, same⟩ := ih within.2
    exact ⟨data :: results, .cons found all, .cons ⟨(restores.rename rests).symm, restores.settles rests⟩ same⟩

end Restores

/-- Both sides declare what the statements result in. -/
theorem Link.SameSite.publishAll {link : Link} {ledger : Ledger} {statements : List Statement} {results results' : List Data}
    (all : List.Forall₂ (link.Same ledger) results results')
    (own : ∀ statement ∈ statements, ledger.source statement.id ∧ link.names statement.id = statement.id) :
    ∀ {scope scope' : Scope}, link.SameSite ledger scope scope' →
      link.SameSite ledger (scope.publishAll statements results) (scope'.publishAll statements results') := by
  induction all generalizing statements with
  | nil =>
    intro scope scope' site
    cases statements <;> exact site
  | cons head _ ih =>
    intro scope scope' site
    cases statements with
    | nil => exact site
    | cons statement rest =>
      rw [List.forall_mem_cons] at own
      have published := site.publish statement.name own.1.1 head
      rw [own.1.2] at published
      exact ih own.2 published

/-- Behind an edit, carrying over and bringing up to date agree. The statements before it are up to date:
revision leaves them as they are and adds no fingerprint, and the world holds their results up to drawn
identities. Then carrying them over gives what revising all the edited program gives, up to drawn
identities. -/
theorem revise_edit_agrees_with_full {code known : Mention → Prop} {before behind statements : List Statement} {edit : Edit}
    {scope : Scope} {world brought : World} {numbers : Nat → Nat} (split : edit.split statements = (before, behind))
    (grounds : Grounds code (before ++ behind) scope world) (live : scope.isSkipping = false)
    (consistent : scope.revise before none world = (before, brought))
    (quiet : ∀ key data, brought.store.fingerprint? key = some data → world.store.fingerprint? key = some data)
    (restores : Restores numbers code known before world brought) :
    ∃ names : Nat → Nat, Function.Injective names ∧ (∀ number, number < world.nextId → names number = numbers number)
      ∧ (scope.revise (before ++ behind) none world).1
        = (scope.revise statements (some edit) world).1.map (Statement.rename (EntityId.renumber names)) := by
  have live : scope.skip = none := by simpa [Scope.isSkipping] using live
  have grows := grounds.before.grows live
  obtain ⟨⟨⟨revised, inner⟩, last⟩, runs⟩ : ∃ outcome, reviseEach (revisables before) scope.child world = outcome := ⟨_, rfl⟩
  have begins : scope.child.carry [] world = (scope.child, world) := rfl
  have outcome : scope.revise before none world = (revised, last) := (Run.bind_eq begins).trans (Run.bind_eq runs)
  cases outcome.symm.trans consistent
  rw [runs] at grows
  have resembles : world.Resembles { world with nextId := brought.nextId } := ⟨fun _ => rfl, fun _ => rfl, grounds.results⟩
  have trails := grounds.before.trails resembles grows.drawn (Nat.le_refl brought.nextId)
  have hosts := grounds.before.hosts live brought.nextId grows.drawn
  obtain ⟨_, ⟨published, declares, stored⟩, _⟩ := trails.outcomes hosts (fun statement among => grounds.before.stands among)
    grounds.before.distinct runs ⟨Nat.le_refl _, quiet⟩
  obtain ⟨results, found, same⟩ := restores.carried (fun _ among => among) stored
  have own : ∀ statement ∈ before, restores.ledger.source statement.id ∧ restores.link.names statement.id = statement.id := by
    intro statement among
    have own := grounds.before.own statement among
    exact ⟨(restores.permits own).2, restores.names_eq_self (.target statement.id) own⟩
  have site := Link.SameSite.publishAll same own (restores.hosts grounds live).site
  rw [← declares] at site
  obtain ⟨rebuilt, incremental, full⟩ := revise_edit_agrees split (Scope.carry_eq found scope.child) runs
    (restores.linked grounds grows quiet) site (fun statement among => (restores.statement grounds (List.mem_append_right _ among)).1)
    fun statement among => (restores.statement grounds (List.mem_append_right _ among)).2
  have kept : before.map (Statement.rename restores.link.names) = before :=
    (List.map_congr_left fun statement among => (restores.statement grounds (List.mem_append_left _ among)).2).trans (List.map_id _)
  refine ⟨restores.link.numbers, restores.link.injective, fun number less => if_pos less, ?_⟩
  rw [incremental, full, List.map_append]
  exact congrArg (· ++ _) kept.symm

/-- The mark behind a greeting is changed. The result of the greeting has been computed before, so it has an
identity that was drawn then; to revise the greeting draws another. -/
theorem revise_edited_reply :
    let alone (id node text : String) : Statement := ⟨id, ⟨node, .string, .text text⟩, [], none, false⟩
    let append : Data :=
      ⟨"append", .operation [.named "value" .string] .string, .operation (some "concat") [alone "end" "tail" "b"] []⟩
    let greeting : Statement := ⟨"greeting", ⟨"hello", .string, .text "a"⟩, [append], some "x", false⟩
    let reply (mark : String) : Statement := ⟨"reply", ⟨"caller", .unknown, .reference "x" "greeting"⟩,
      [⟨"answer", .unknown, .operation (some "concat") [alone "mark" "sign" mark] []⟩], none, false⟩
    let scope : Scope := {}
    let world : World := { store := Store.setResult {} "greeting" ⟨.drawn 0, .string, .text "ab"⟩, nextId := 1 }
    let incremental := scope.revise [greeting, reply "?"] (some ⟨alone "mark" "sign" "!", false⟩) world
    incremental.1.map (·.resultType.kind) = [.string, .string] ∧ ∃ names : Nat → Nat, Function.Injective names
      ∧ (scope.revise [greeting, reply "!"] none world).1 = incremental.1.map (Statement.rename (EntityId.renumber names)) := by
  intro alone append greeting reply scope world incremental
  refine ⟨by decide +kernel, ?_⟩
  have plain : ∀ mention ∈ programMentions ([greeting] ++ [reply "!"]), mention.id.number? = none ∧ mention.isObject = false := by
    decide +kernel
  have grounds : Grounds (· ∈ programMentions ([greeting] ++ [reply "!"])) ([greeting] ++ [reply "!"]) scope world := by
    refine .of_plain rfl rfl rfl rfl (fun id data found => ?_) plain (by decide +kernel) (by decide +kernel)
    rcases ite_eq_iff.mp ((Store.result?_record {} false _ id _).symm.trans found) with ⟨_, same⟩ | ⟨_, absent⟩
    · cases same
      rfl
    · cases absent
  have same : (scope.revise [greeting] none world).1 = [greeting] := rfl
  have drawn : (scope.revise [greeting] none world).2.nextId = 2 := by decide +kernel
  have blank : (scope.revise [greeting] none world).2.store.fingerprints.isEmpty := by decide +kernel
  have quiet : ∀ key data, (scope.revise [greeting] none world).2.store.fingerprint? key = some data →
      world.store.fingerprint? key = some data := by
    intro key data found
    rw [Store.fingerprint?, List.isEmpty_iff.mp blank] at found
    cases found
  have restores : Restores (· + 1) (· ∈ programMentions ([greeting] ++ [reply "!"]))
      (· ∈ .node (.drawn 0) :: programMentions ([greeting] ++ [reply "!"])) [greeting] world
      (scope.revise [greeting] none world).2 := by
    constructor
    case injective => exact fun _ _ => Nat.succ.inj
    case drawn =>
      intro number less
      rw [drawn]
      exact Nat.succ_lt_succ less
    case kept =>
      refine fun mention among => ⟨List.mem_cons_of_mem _ among, EntityId.renumber_eq_self fun number drew => ?_⟩
      cases (plain mention among).1.symm.trans (EntityId.number?_eq_some.mpr drew)
    case below =>
      intro mention knows
      obtain rfl | among := List.mem_cons.mp knows
      · exact EntityId.below_drawn.mpr Nat.one_pos
      · exact grounds.below mention among
    case agree =>
      intro id className text className' text' knows
      obtain same | among := List.mem_cons.mp knows
      · cases same
      · cases (plain _ among).2
    case objects =>
      intro id className text knows
      obtain same | among := List.mem_cons.mp knows
      · cases same
      · cases (plain _ among).2
    case promises => exact fun id className text value knows found => by cases found
    case results =>
      intro statement among
      cases List.mem_singleton.mp among
      exact ⟨_, rfl, ⟨trivial, fun mention within => List.mem_cons.mpr (.inl (List.mem_singleton.mp within))⟩, rfl⟩
  have split : Edit.split ⟨alone "mark" "sign" "!", false⟩ [greeting, reply "?"] = ([greeting], [reply "!"]) := rfl
  have consistent : scope.revise [greeting] none world = ([greeting], (scope.revise [greeting] none world).2) :=
    Prod.ext same rfl
  obtain ⟨names, injective, _, agrees⟩ := revise_edit_agrees_with_full split grounds rfl consistent quiet restores
  exact ⟨names, injective, agrees⟩

/-- The worlds do not always correspond: calls that look alike as plain data share a fingerprint. Bringing the
condition up to date makes a request for `<Http>`, which is also what the client that `asked` is given
looks like, so its call gets that response and the call behind it a type. When the condition is
carried over there is no such request. -/
theorem edited_call_typed_differently :
    let client (id key : String) (type : DataType) : Data := ⟨id, type, .handle "Http" [] key⟩
    let alone (id : String) (data : Data) : Statement := ⟨id, data, [], none, false⟩
    let http := Operation.httpType
    let load : Data := ⟨"load", .operation [.named "url" .string] (Operation.promiseType Operation.responseType),
      .operation (some "get") [alone "address" ⟨"url", .string, .text "<Http>"⟩] []⟩
    let condition : Statement := alone "condition" ⟨"choice", .unknown, .condition
      (alone "test" ⟨"unbound", .unknown, .reference "nowhere" ""⟩) ⟨"page", client "first" "one" http, [load], none, false⟩
      (alone "blank" (client "second" "two" http))⟩
    let asked (argument : Data) : Statement := ⟨"asked", client "third" "three" http,
      [⟨"reload", .operation [] .unknown, .operation (some "get") [alone "argument" argument] []⟩,
        ⟨"wait", .operation [] .unknown, .operation (some "await") [] []⟩], none, false⟩
    let changed := asked (client "fourth" "four" .unknown)
    let scope : Scope := { transport := some fun _ => .ok ⟨200, "x"⟩ }
    let world := ((scope.evaluateAll [condition]).run {}).2
    let incremental := (scope.revise [condition, asked ⟨"text", .string, .text "x"⟩] (some ⟨changed, false⟩) world).1
    let full := (scope.revise [condition, changed] none world).1
    let again := (scope.revise [condition] none world).1
    again.map (·.encode.compact) = [condition.encode.compact]
      ∧ incremental.map (·.resultType.kind) = [.unknown, .unknown] ∧ full.map (·.resultType.kind) = [.unknown, .object] := by
  dsimp only
  decide +kernel

end LivePipeline
