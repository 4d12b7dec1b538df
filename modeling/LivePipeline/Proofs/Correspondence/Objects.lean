import LivePipeline.Proofs.Correspondence.Sequences

/-! Operations on texts and on external objects, on both sides of a link. A handle finds
corresponding objects on both sides, also when one side has made its object already. -/

namespace LivePipeline

namespace Operation

open Link

/-! ## Handles -/

/-- A handle that finds its object gives it; the object is in the store from then on. -/
theorem externalOf_found {className : String} {arguments : List Statement} {instanceId : EntityId} {world : World}
    {external : External} (found : world.store.external? instanceId className (seedText arguments) = some external) :
    (externalOf className arguments instanceId).run world = (.ok external, world)
      ∨ (externalOf className arguments instanceId).run world
        = (.ok external, { world with store := world.store.setInstance instanceId external }) := by
  cases made : world.store.instance? instanceId with
  | some other =>
    have same := Store.external?_of_instance? made className (seedText arguments)
    rw [found] at same
    cases same
    left
    rw [externalOf_run, made]
    rfl
  | none =>
    right
    rw [Store.external?_of_unset made, ← materialize_eq_craft] at found
    cases crafted : materialize className arguments with
    | error failure => rw [crafted] at found; cases found
    | ok other =>
      rw [crafted] at found
      cases found
      rw [externalOf_run, made, crafted]
      rfl

/-- A handle that finds no object fails for want of something to make it from. -/
theorem externalOf_absent {className : String} {arguments : List Statement} {instanceId : EntityId} {world : World}
    (absent : world.store.external? instanceId className (seedText arguments) = none) :
    ∃ failure, craft className (seedText arguments) = .error failure
      ∧ (externalOf className arguments instanceId).run world = (.error failure, world) := by
  cases made : world.store.instance? instanceId with
  | some other =>
    rw [Store.external?_of_instance? made] at absent
    cases absent
  | none =>
    rw [Store.external?_of_unset made] at absent
    cases crafted : craft className (seedText arguments) with
    | error failure =>
      refine ⟨failure, rfl, ?_⟩
      rw [externalOf_run, made, materialize_eq_craft, crafted]
      rfl
    | ok other => rw [crafted] at absent; cases absent

theorem externalOf_attempts {link : Link} {ledger : Ledger} {className : String} {arguments arguments' : List Statement}
    {instanceId : EntityId} (known : ledger.object instanceId className (seedText arguments))
    (seed : seedText arguments' = seedText arguments) :
    link.Attempts ledger (externalOf className arguments instanceId)
      (externalOf className arguments' (link.names instanceId))
      fun later external external' => external' = external.rename link.names ∧ external.Settled link later := by
  intro world world' linked
  have objects := linked.external _ _ _ known
  cases found : world.store.external? instanceId className (seedText arguments) with
  | none =>
    rw [found, ← seed] at objects
    obtain ⟨failure, crafted, run⟩ := externalOf_absent found
    obtain ⟨failure', crafted', run'⟩ := externalOf_absent objects
    rw [seed, crafted] at crafted'
    cases crafted'
    rw [run, run']
    exact ⟨ledger, le_refl _, linked, .refl, rfl⟩
  | some external =>
    rw [found] at objects
    have settled := linked.external_settled _ _ _ external known found
    -- Either side may have the object already, so they are brought along one at a time.
    obtain ⟨after, run, linked, steps⟩ : ∃ after, (externalOf className arguments instanceId).run world = (.ok external, after)
        ∧ Linked link ledger after world' ∧ Steps link ledger world after := by
      rcases externalOf_found found with run | run
      · exact ⟨world, run, linked, .refl⟩
      · exact ⟨_, run, linked.place_left known found, Nat.le_refl _,
          fun _ _ _ known' => Linked.external?_place known found known', fun _ _ kept => kept, fun _ _ => rfl⟩
    obtain ⟨after', run', linked⟩ : ∃ after', (externalOf className arguments' (link.names instanceId)).run world'
        = (.ok (external.rename link.names), after') ∧ Linked link ledger after after' := by
      have objects' : world'.store.external? (link.names instanceId) className (seedText arguments')
          = some (external.rename link.names) := seed ▸ objects
      rcases externalOf_found objects' with run | run
      · exact ⟨world', run, linked⟩
      · exact ⟨_, run, linked.place_right known objects⟩
    rw [run, run']
    exact ⟨ledger, le_refl _, linked, steps, rfl, settled⟩

theorem expectExternal_attempts {link : Link} {ledger : Ledger} (name : String) {data data' : Data}
    (same : link.Same ledger data data') :
    link.Attempts ledger (expectExternal name data) (expectExternal name data')
      fun later external external' => external' = external.rename link.names ∧ external.Settled link later := by
  obtain ⟨rfl, settles⟩ := same
  have settled := settles.value
  have failed := Failure.message_unexpected_rename name .anInstance link.names data
  obtain ⟨id, type, value⟩ := data
  cases value with
  | handle className arguments instanceId =>
    have known := (Ledger.settlesValue_handle.mp settled).1
    simp only [expectExternal, Data.rename, Value.rename, renameAll_eq_map]
    exact externalOf_attempts known (seedText_map_rename link.names arguments)
  | _ => exact .throw failed

/-- A new handle with settled arguments for a settled object. -/
theorem createInstance_sim {link : Link} {ledger : Ledger} (className : String) (type : DataType)
    {arguments arguments' : List Data} {external external' : External}
    (given : link.SameList ledger arguments arguments') (named : external' = external.rename link.names)
    (settled : external.Settled link ledger) :
    link.Sim ledger (createInstance className type arguments external)
      (createInstance className type arguments' external') link.Same := by
  have statements : link.Sim ledger (arguments.mapM fun argument => (liftM (Statement.make argument) : Run Statement))
      (arguments'.mapM fun argument => (liftM (Statement.make argument) : Run Statement)) link.SameAll := by
    refine .weaken (.mapM link.SameStatement (fun _ _ _ _ le same => same.mono le) ?_) fun _ _ _ _ => .of_forall₂
    exact given.forall₂.imp fun data data' same later le => .makeStatement (same.mono le)
  refine .bind statements fun later made made' le all => ?_
  change link.Sim later
    ((do let id ← Run.draw freshId; Run.updateStore (·.setInstance id external); return id) >>= fun id =>
      Run.draw (Data.make type (.handle className made id)))
    ((do let id ← Run.draw freshId; Run.updateStore (·.setInstance id external'); return id) >>= fun id =>
      Run.draw (Data.make type (.handle className made' id))) link.Same
  refine .bind (.makeObject className (seedText made) named (settled.mono le)) fun last id id' le' drew => .make _ ⟨?_, ?_⟩
  · rw [all.1, drew.1, Value.rename, renameAll_eq_map]
  · exact Ledger.settlesValue_handle.mpr ⟨drew.2, fun argument member => (all.2 argument member).2.mono le'⟩

/-! ## Texts -/

theorem textPair_reads {link : Link} {ledger : Ledger} {data data' : Data} {arguments arguments' : List Data}
    (name : String) (receiver : link.Same ledger data data') (given : link.SameList ledger arguments arguments') :
    Reads (textPair name data arguments) (textPair name data' arguments') := by
  refine .bind (first_outcomes name given) fun other other' same => ?_
  refine .bind (expectText_reads name receiver.1) fun text text' left => ?_
  refine .bind (expectText_reads name same.1) fun part part' right => ?_
  rw [left, right]
  exact rfl

theorem textLength_natural : NaturalEager textLength := by
  intro link caller _ ledger scope scope' data data' arguments arguments' inputs
  refine .bind (.reads (expectText_reads "length" inputs.data.1)) fun later text text' _ same => ?_
  rw [same]
  exact .build (.number _)

theorem concatTexts_natural : NaturalEager concatTexts := by
  intro link caller _ ledger scope scope' data data' arguments arguments' inputs
  refine .bind (.reads (textPair_reads "concat" inputs.data inputs.arguments)) fun later pair pair' _ same => ?_
  rw [same]
  exact .build (.text _)

theorem textTest_natural (name : String) (test : String → String → Bool) : NaturalEager (textTest name test) := by
  intro link caller _ ledger scope scope' data data' arguments arguments' inputs
  refine .bind (.reads (textPair_reads name inputs.data inputs.arguments)) fun later pair pair' _ same => ?_
  rw [same]
  exact .build (.boolean _)

theorem indexOfText_natural : NaturalEager indexOfText := by
  intro link caller _ ledger scope scope' data data' arguments arguments' inputs
  refine .bind (.reads (textPair_reads "indexOf" inputs.data inputs.arguments)) fun later pair pair' _ same => ?_
  rw [same]
  exact .build (.number _)

theorem sliceText_natural : NaturalEager sliceText := by
  intro link caller _ ledger scope scope' data data' arguments arguments' inputs
  refine .bind (.read (first_outcomes "slice" inputs.arguments)) fun first _ _ _ _ => ?_
  refine .bind (.reads (expectText_reads "slice" inputs.data.1)) fun second text text' _ same => ?_
  rw [same]
  refine .bind (.reads (sliceBounds_reads "slice" inputs.arguments _)) fun third bounds bounds' _ same' => ?_
  rw [same']
  exact .build (.text _)

theorem splitText_natural : NaturalEager splitText := by
  intro link caller _ ledger scope scope' data data' arguments arguments' inputs
  refine .bind (.reads (textPair_reads "split" inputs.data inputs.arguments)) fun later pair pair' _ same => ?_
  rw [same]
  exact .bind (buildEach (fun part _ => .text part) _) fun _ _ _ _ all => .build (.array _ all)

theorem textTransform_natural (name : String) (change : String → String) : NaturalEager (textTransform name change) := by
  intro link caller _ ledger scope scope' data data' arguments arguments' inputs
  refine .bind (.reads (expectText_reads name inputs.data.1)) fun later text text' _ same => ?_
  rw [same]
  exact .build (.text _)

theorem textReplacement_natural (name : String) (change : String → String → String → String) :
    NaturalEager (textReplacement name change) := by
  intro link caller _ ledger scope scope' data data' arguments arguments' inputs
  refine .bind (.read (firstTwo_outcomes name inputs.arguments)) fun first pair pair' _ pairs => ?_
  obtain ⟨old, new⟩ := pair
  obtain ⟨old', new'⟩ := pair'
  refine .bind (.reads (expectText_reads name inputs.data.1)) fun _ text text' _ same => ?_
  refine .bind (.reads (expectText_reads name pairs.1.1)) fun _ search search' _ same' => ?_
  refine .bind (.reads (expectText_reads name pairs.2.1)) fun _ other other' _ same'' => ?_
  rw [same, same', same'']
  exact .build (.text _)

theorem repeatText_natural : NaturalEager repeatText := by
  intro link caller _ ledger scope scope' data data' arguments arguments' inputs
  refine .bind (.read (first_outcomes "repeat" inputs.arguments)) fun _ argument argument' _ given => ?_
  refine .bind (.reads (expectText_reads "repeat" inputs.data.1)) fun _ text text' _ same => ?_
  refine .bind (.reads (expectInteger_reads "repeat" given.1)) fun _ count count' _ same' => ?_
  subst same same'
  exact .reject _ (.reject _ (.build (.text _)))

theorem toNumber_natural : NaturalEager toNumber := by
  intro link caller _ ledger scope scope' data data' arguments arguments' inputs
  refine .bind (.reads (expectText_reads "toNumber" inputs.data.1)) fun later text text' _ same => ?_
  subst same
  cases Number.read? (Text.trim text') with
  | none => exact .throw rfl
  | some value => exact .build (.number _)

theorem parseJson_natural : NaturalEager parseJson := by
  intro link caller _ ledger scope scope' data data' arguments arguments' inputs
  refine .bind (.reads (expectText_reads "parseJson" inputs.data.1)) fun later text text' _ same => ?_
  subst same
  cases Json.parse? text' with
  | none => exact .throw rfl
  | some json => exact .build (.ofPlain json later)

theorem matchesPattern_natural : NaturalEager matchesPattern := by
  intro link caller _ ledger scope scope' data data' arguments arguments' inputs
  refine .bind (.reads (textPair_reads "matches" inputs.data inputs.arguments)) fun later pair pair' _ same => ?_
  subst same
  obtain ⟨text, pattern⟩ := pair'
  dsimp only
  cases Pattern.parse pattern with
  | error fault => exact .throw rfl
  | ok pattern => exact .build (.boolean _)

/-! ## Dates and locators -/

/-- Reading that the two sides do not differ in at all. -/
theorem sameOutcome {link : Link} {ledger : Ledger} (outcome : Except Failure α) :
    link.Attempts ledger (liftM outcome) (liftM outcome) fun _ value value' => value' = value := by
  cases outcome with
  | ok value => exact .pure rfl
  | error failure => exact .throw rfl

theorem createDate_sim {link : Link} {ledger : Ledger} (moment : Moment) :
    link.Sim ledger (createDate moment) (createDate moment) link.Same := by
  refine .bind (.text _) fun later text text' _ same => ?_
  exact createInstance_sim dateClass dateType (.of_forall₂ (.cons same .nil)) rfl trivial

theorem toDate_natural : NaturalEager toDate := by
  intro link caller _ ledger scope scope' data data' arguments arguments' inputs
  refine .bind (.reads (expectText_reads "toDate" inputs.data.1)) fun _ text text' _ same => ?_
  rw [same]
  refine .bind (sameOutcome (parseDate text)) fun later moment moment' _ same => ?_
  rw [same]
  exact .lift (createDate_sim moment)

theorem expectDate_attempts {link : Link} {ledger : Ledger} (name : String) {data data' : Data}
    (same : link.Same ledger data data') :
    link.Attempts ledger (expectDate name data) (expectDate name data') fun _ moment moment' => moment' = moment := by
  have failed := Failure.message_unexpected_rename name .date link.names data
  rw [← same.1] at failed
  refine .bind (expectExternal_attempts name same) fun later external external' _ objects => ?_
  rw [objects.1]
  cases external with
  | date moment => exact .pure rfl
  | promise state => cases state <;> exact .throw failed
  | _ => exact .throw failed

theorem dateField_natural (name : String) (read : Moment → Int) : NaturalEager (dateField name read) := by
  intro link caller _ ledger scope scope' data data' arguments arguments' inputs
  refine .bind (expectDate_attempts name inputs.data) fun later moment moment' _ same => ?_
  rw [same]
  exact .build (.number _)

theorem toISOString_natural : NaturalEager toISOString := by
  intro link caller _ ledger scope scope' data data' arguments arguments' inputs
  refine .bind (expectDate_attempts "toISOString" inputs.data) fun later moment moment' _ same => ?_
  rw [same]
  exact .build (.text _)

theorem addDays_natural : NaturalEager addDays := by
  intro link caller _ ledger scope scope' data data' arguments arguments' inputs
  refine .bind (.read (first_outcomes "addDays" inputs.arguments)) fun _ argument argument' le given => ?_
  refine .bind (expectDate_attempts "addDays" (inputs.data.mono le)) fun _ moment moment' _ same => ?_
  refine .bind (.reads (expectNumber_reads "addDays" given.1)) fun _ days days' _ same' => ?_
  subst same same'
  refine .reject _ ?_
  cases moment'.addMilliseconds? _ with
  | none => exact .throw rfl
  | some shifted => exact .lift (createDate_sim shifted)

theorem toUrl_natural : NaturalEager toUrl := by
  intro link caller _ ledger scope scope' data data' arguments arguments' inputs
  refine .bind (.reads (expectText_reads "toUrl" inputs.data.1)) fun _ text text' _ same => ?_
  rw [same]
  refine .bind (sameOutcome (parseUrl text)) fun later url url' _ same => ?_
  rw [same]
  refine .bind (.build (.text _)) fun last href href' _ same => ?_
  exact .lift (createInstance_sim urlClass urlType (.of_forall₂ (.cons same .nil)) rfl trivial)

theorem expectUrl_attempts {link : Link} {ledger : Ledger} (name : String) {data data' : Data}
    (same : link.Same ledger data data') :
    link.Attempts ledger (expectUrl name data) (expectUrl name data') fun _ url url' => url' = url := by
  have failed := Failure.message_unexpected_rename name .url link.names data
  rw [← same.1] at failed
  refine .bind (expectExternal_attempts name same) fun later external external' _ objects => ?_
  rw [objects.1]
  cases external with
  | url url => exact .pure rfl
  | promise state => cases state <;> exact .throw failed
  | _ => exact .throw failed

theorem urlField_natural (name : String) (read : Url → String) : NaturalEager (urlField name read) := by
  intro link caller _ ledger scope scope' data data' arguments arguments' inputs
  refine .bind (expectUrl_attempts name inputs.data) fun later url url' _ same => ?_
  rw [same]
  exact .build (.text _)

theorem searchParams_natural : NaturalEager searchParams := by
  intro link caller _ ledger scope scope' data data' arguments arguments' inputs
  refine .bind (expectUrl_attempts "getSearchParams" inputs.data) fun later url url' _ same => ?_
  rw [same]
  refine .bind (.mapM (fun later (entry entry' : String × Statement) =>
      entry'.1 = entry.1 ∧ link.SameStatement later entry.2 entry'.2) (fun _ _ _ _ le same => ⟨same.1, same.2.mono le⟩)
    (List.forall₂_same.mpr fun pair _ later _ => ?_)) fun last entries entries' _ all => ?_
  · refine .bind (.build (.text _)) fun _ value value' _ same => ?_
    exact .bind (.build (.makeStatement same)) fun _ statement statement' _ made => .pure ⟨rfl, made⟩
  · have same := SameEntries.of_forall₂ all
    refine .build (.make _ (SameEntries.record ⟨?_, ?_⟩))
    · rw [same.1, Table.ofEntries_mapValues]
    · exact Table.all_ofEntries same.2

/-! ## Requests -/

theorem send_attempts {link : Link} {ledger : Ledger} {scope scope' : Scope} (scopes : link.SameScope ledger scope scope')
    {data data' : Data} (same : link.Same ledger data data') (request : Request) :
    link.Attempts ledger (send scope data request) (send scope' data' request) link.Same := by
  have failed := Failure.message_unexpected_rename request.method.label .httpClient link.names data
  rw [← same.1] at failed
  have transport : scope'.transport = scope.transport := by rw [scopes.1, Scope.rename_transport]
  refine .bind (expectExternal_attempts _ same) fun later external external' _ objects => ?_
  rw [objects.1, transport]
  cases external with
  | http =>
    cases scope.transport with
    | none => exact .throw rfl
    | some transport =>
      refine .bind (.lift (.observe _ _)) fun _ _ _ _ _ => ?_
      dsimp only
      cases transport request with
      | ok response =>
        refine .bind (.build (.responseData response)) fun last value value' _ same => ?_
        have named : External.promise (.resolved value') = (External.promise (.resolved value)).rename link.names := by
          rw [same.1]; rfl
        have settled : (External.promise (.resolved value)).Settled link last := same.2
        rw [pure_bind, pure_bind]
        exact .lift (createInstance_sim promiseClass _ ⟨rfl, by simp⟩ named settled)
      | error reason =>
        dsimp only
        rw [pure_bind]
        exact .lift (createInstance_sim promiseClass _ ⟨rfl, by simp⟩ rfl trivial)
  | promise state => cases state <;> exact .throw failed
  | _ => exact .throw failed

theorem httpGet_natural : NaturalEager httpGet := by
  intro link caller _ ledger scope scope' data data' arguments arguments' inputs
  refine .bind (.read (first_outcomes "get" inputs.arguments)) fun first argument argument' le given => ?_
  refine .bind (.reads (expectText_reads "get" given.1)) fun second url url' le' same => ?_
  rw [same]
  exact send_attempts (inputs.scope.mono (le.trans le')) (inputs.data.mono (le.trans le')) _

theorem httpPost_natural : NaturalEager httpPost := by
  intro link caller _ ledger scope scope' data data' arguments arguments' inputs
  refine .bind (.read (firstTwo_outcomes "post" inputs.arguments)) fun first pair pair' le pairs => ?_
  obtain ⟨url, body⟩ := pair
  obtain ⟨url', body'⟩ := pair'
  refine .bind (.reads (expectText_reads "post" pairs.1.1)) fun second locator locator' le' same => ?_
  refine .bind (.reads (expectText_reads "post" pairs.2.1)) fun third content content' le'' same' => ?_
  rw [same, same']
  have reach := (le.trans le').trans le''
  exact send_attempts (inputs.scope.mono reach) (inputs.data.mono reach) _

theorem await_natural : NaturalEager await := by
  intro link caller _ ledger scope scope' data data' arguments arguments' inputs
  have failed := Failure.message_unexpected_rename "await" .promise link.names data
  rw [← inputs.data.1] at failed
  refine .bind (expectExternal_attempts "await" inputs.data) fun later external external' _ objects => ?_
  rw [objects.1]
  cases external with
  | promise state =>
    cases state with
    | resolved value => exact .pure ⟨rfl, objects.2⟩
    | rejected reason => exact .throw rfl
  | _ => exact .throw failed

end Operation

end LivePipeline
