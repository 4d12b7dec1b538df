import LivePipeline.Operation.Date
import LivePipeline.Proofs.DateTexts
import LivePipeline.Proofs.Delivery

/-! Dates in other stores. A date is written down with its text only, and a store that does not have the date makes it
again from there. All that is ever read or shifted is what clocks show, so whether the text is read back depends on its
year alone. -/

namespace LivePipeline

namespace Moment

/-- Moments that no clock and no calendar tell apart, down to the millisecond. -/
structure SameClock (moment other : Moment) : Prop where
  milliseconds : moment.milliseconds = other.milliseconds
  format : moment.format = other.format
  date : moment.date = other.date
  weekday : moment.weekday = other.weekday
  hour : moment.hour = other.hour
  minute : moment.minute = other.minute
  secondOfMinute : moment.secondOfMinute = other.secondOfMinute

theorem toMillisecond_sameClock (moment : Moment) : moment.toMillisecond.SameClock moment := by
  have whole : moment.nano / 1000000 * 1000000 / 1000000 = moment.nano / 1000000 := Nat.mul_div_cancel _ (by decide)
  have leap : moment.nano / 1000000 * 1000000 / 1000000000 = moment.nano / 1000000000 := by omega
  have fraction : moment.nano / 1000000 * 1000000 % 1000000000 / 1000000 = moment.nano % 1000000000 / 1000000 := by omega
  refine ⟨?_, ?_, rfl, rfl, rfl, rfl, rfl⟩
  · simp only [milliseconds, toMillisecond, whole]
  · simp only [format, toMillisecond, leap, fraction]
    rfl

end Moment

/-! ## Attempts that succeeded -/

/-- What succeeds has succeeded in its first part, and in the rest from where that ended. -/
theorem Attempt.of_bind {work : Attempt α} {next : α → Attempt β} {result : β} {world last : World}
    (ran : (work >>= next).run world = (.ok result, last)) :
    ∃ value middle, work.run world = (.ok value, middle) ∧ (next value).run middle = (.ok result, last) := by
  rcases came : work.run world with ⟨outcome, middle⟩
  cases outcome with
  | error failure =>
    rw [ExceptT.bind_failed came] at ran
    cases ran
  | ok value =>
    rw [ExceptT.bind_answered came] at ran
    exact ⟨value, middle, rfl, ran⟩

theorem Attempt.of_read {outcome : Except Failure α} {next : α → Attempt β} {result : β} {world last : World}
    (ran : (liftM outcome >>= next).run world = (.ok result, last)) :
    ∃ value, outcome = .ok value ∧ (next value).run world = (.ok result, last) := by
  cases outcome with
  | error failure => cases ran
  | ok value => exact ⟨value, rfl, ran⟩

namespace Operation

/-! ## The date behind a handle -/

section

variable {world later next last : World} {date data receiver result : Data} {arguments : List Statement} {id : EntityId}
  {moment again : Moment} {failure : Failure}

theorem materialize_dateClass (arguments : List Statement) : materialize dateClass arguments
    = match arguments.head?.bind (·.data.text?) with
      | some text => .date <$> parseDate text
      | none => .error (.notConstructible dateClass) := by
  rfl

/-- What is made from a text is what clocks show. -/
theorem sound_of_materialize (made : materialize dateClass arguments = .ok (.date moment)) : moment.Sound := by
  rw [materialize_dateClass] at made
  split at made
  · next text _ =>
    rw [parseDate] at made
    split at made
    · next read =>
      cases made
      exact Moment.parse?_sound read
    · cases made
  · cases made

theorem expectDate_found (name : String) (handle : data.value = .handle dateClass arguments id)
    (found : world.store.instance? id = some (.date moment)) : (expectDate name data).run world = (.ok moment, world) := by
  have external : (expectExternal name data).run world = (.ok (.date moment), world) := by
    rw [expectExternal, handle]
    simp only
    rw [externalOf_run, found]
    rfl
  rw [expectDate, ExceptT.bind_answered external]
  rfl

/-- A date that the store does not have is made again, and the store then has it. -/
theorem expectDate_again (name : String) (handle : data.value = .handle dateClass arguments id)
    (lost : world.store.instance? id = none) (made : materialize dateClass arguments = .ok (.date again)) :
    (expectDate name data).run world = (.ok again, { world with store := world.store.setInstance id (.date again) }) := by
  have external : (expectExternal name data).run world
      = (.ok (.date again), { world with store := world.store.setInstance id (.date again) }) := by
    rw [expectExternal, handle]
    simp only
    rw [externalOf_run, lost, made]
    rfl
  rw [expectDate, ExceptT.bind_answered external]
  rfl

theorem expectDate_refused (name : String) (handle : data.value = .handle dateClass arguments id)
    (lost : world.store.instance? id = none) (refused : materialize dateClass arguments = .error failure) :
    (expectDate name data).run world = (.error failure, world) := by
  have external : (expectExternal name data).run world = (.error failure, world) := by
    rw [expectExternal, handle]
    simp only
    rw [externalOf_run, lost, refused]
    rfl
  rw [expectDate, ExceptT.bind_failed external]

/-- The date behind a handle is the one that the store has, or else the one that the handle describes. -/
theorem expectDate_cases {name : String} (handle : data.value = .handle dateClass arguments id)
    (ran : (expectDate name data).run world = (.ok moment, last)) :
    world.store.instance? id = some (.date moment) ∨ materialize dateClass arguments = .ok (.date moment) := by
  obtain ⟨external, middle, came, matched⟩ := Attempt.of_bind ran
  have isDate : external = .date moment := by
    cases external with
    | date _ => cases matched; rfl
    | _ => cases matched
  rw [isDate, expectExternal, handle] at came
  simp only at came
  rw [externalOf_run] at came
  cases found : world.store.instance? id with
  | some external =>
    rw [found] at came
    cases came
    exact .inl rfl
  | none =>
    rw [found] at came
    obtain ⟨external, made, kept⟩ := Attempt.of_read came
    cases kept
    exact .inr made

/-! ## Dates that the operations come to -/

/-- The store holds what the handle may stand for: the object that it had in a world, no object, or the object that is
made from the handle. -/
def Faithful (world later : World) (data : Data) : Prop :=
  ∀ className arguments id, data.value = .handle className arguments id →
    later.store.instance? id = world.store.instance? id ∨ later.store.instance? id = none
      ∨ ∃ external, materialize className arguments = .ok external ∧ later.store.instance? id = some external

/-- A date that was read from a text, or that came from such a date by shifts, and the world that it was made in. A shift
may come later and in another store, and on a copy of the data. -/
inductive Dated : World → Data → Prop
  | read {caller : Caller} {scope : Scope} {receiver date : Data} {arguments : List Data} {world next : World} :
    (toDate caller scope receiver arguments).run world = (.ok date, next) → Dated next date
  | shifted {caller : Caller} {scope : Scope} {date receiver result : Data} {arguments : List Data} {world later next : World} :
    Dated world date → receiver.value = date.value → Faithful world later date →
    (addDays caller scope receiver arguments).run later = (.ok result, next) → Dated next result

/-- A handle whose object the store has. It is written down with the text of the moment. -/
structure Holds (world : World) (date : Data) (argument : Statement) (id : EntityId) (moment : Moment) : Prop where
  handle : date.value = .handle dateClass [argument] id
  text : argument.data.text? = some moment.format
  stored : world.store.instance? id = some (.date moment)
  sound : moment.Sound

theorem createDate_holds (sound : moment.Sound) (made : (liftM (createDate moment) : Attempt Data).run world = (.ok date, next)) :
    ∃ argument id, Holds next date argument id moment := by
  cases made
  exact ⟨_, _, rfl, rfl, Table.get?_insert_self _ _ _, sound⟩

theorem toDate_holds {caller : Caller} {scope : Scope} {arguments : List Data}
    (made : (toDate caller scope receiver arguments).run world = (.ok date, next)) :
    ∃ argument id moment, Holds next date argument id moment := by
  obtain ⟨text, -, made⟩ := Attempt.of_read made
  obtain ⟨moment, read, made⟩ := Attempt.of_read made
  rw [parseDate] at read
  split at read
  · next parsed =>
    cases read
    obtain ⟨argument, id, holds⟩ := createDate_holds (Moment.parse?_sound parsed) made
    exact ⟨argument, id, _, holds⟩
  · cases read

/-- A text that is accepted comes to a date. -/
theorem toDate_run {text : String} (given : receiver.text? = some text) (read : Moment.parse? text = some moment)
    (caller : Caller) (scope : Scope) (arguments : List Data) (world : World) :
    ∃ date next argument id, (toDate caller scope receiver arguments).run world = (.ok date, next)
      ∧ Holds next date argument id moment := by
  have expected : expectText "toDate" receiver = .ok text := by rw [expectText, expect, given]
  have parsed : parseDate text = .ok moment := by rw [parseDate, read]
  have sound : moment.Sound := Moment.parse?_sound read
  rw [toDate, Attempt.read_eq expected, Attempt.read_eq parsed]
  obtain ⟨argument, id, holds⟩ := createDate_holds sound (rfl : (liftM (createDate moment) : Attempt Data).run world = _)
  exact ⟨_, _, argument, id, rfl, holds⟩

/-- A shift that succeeds has found a date and moved it within the calendar. -/
theorem addDays_inv {caller : Caller} {scope : Scope} {arguments : List Data}
    (made : (addDays caller scope receiver arguments).run world = (.ok result, next)) :
    ∃ moment middle amount shifted, (expectDate "addDays" receiver).run world = (.ok moment, middle)
      ∧ moment.addMilliseconds? amount = some shifted ∧ (liftM (createDate shifted) : Attempt Data).run middle = (.ok result, next) := by
  obtain ⟨argument, -, made⟩ := Attempt.of_read made
  obtain ⟨moment, middle, found, made⟩ := Attempt.of_bind made
  obtain ⟨days, -, made⟩ := Attempt.of_read made
  simp only at made
  split at made
  · cases made
  · split at made
    · next shifted moved => exact ⟨moment, middle, _, shifted, found, moved, made⟩
    · cases made

theorem Dated.holds (dated : Dated world date) : ∃ argument id moment, Holds world date argument id moment := by
  induction dated with
  | read made => exact toDate_holds made
  | shifted _ copy faithful made ih =>
    obtain ⟨argument, id, moment, holds⟩ := ih
    obtain ⟨found, middle, amount, shifted, came, moved, made⟩ := addDays_inv made
    -- The shift starts from the date that was made, or from one that was read back from its text.
    have sound : found.Sound := by
      rcases expectDate_cases (copy.trans holds.handle) came with stored | again
      · rcases faithful _ _ _ holds.handle with same | lost | ⟨external, again, stored'⟩
        · rw [same, holds.stored] at stored
          cases stored
          exact holds.sound
        · rw [lost] at stored
          cases stored
        · rw [stored'] at stored
          cases stored
          exact sound_of_materialize again
      · exact sound_of_materialize again
    obtain ⟨argument, id, holds⟩ := createDate_holds (sound.addMilliseconds? moved) made
    exact ⟨argument, id, shifted, holds⟩

/-! ## What is written down of a date -/

theorem Holds.materialize {argument : Statement} (holds : Holds world date argument id moment) :
    Operation.materialize dateClass [argument] = .date <$> parseDate moment.format := by
  rw [materialize_dateClass, List.head?_cons, Option.bind_some, holds.text]

theorem Holds.materialize_near {argument : Statement} (holds : Holds world date argument id moment)
    (near : 0 ≤ moment.date.year ∧ moment.date.year ≤ 9999) :
    Operation.materialize dateClass [argument] = .ok (.date moment.toMillisecond) := by
  rw [holds.materialize, parseDate, Moment.parse?_format holds.sound near]
  rfl

theorem Holds.materialize_far {argument : Statement} (holds : Holds world date argument id moment)
    (far : ¬ (0 ≤ moment.date.year ∧ moment.date.year ≤ 9999)) :
    Operation.materialize dateClass [argument] = .error (.invalidDate moment.format) := by
  rw [holds.materialize, parseDate, Moment.parse?_format_far holds.sound far, String.toList_injective moment.trim_format]
  rfl

/-- An operation that tells something about a date. -/
def telling (name : String) (type : DataType) (tell : Moment → Value) : EagerHandler := fun _ _ data _ => do
  Data.make type (tell (← expectDate name data))

theorem telling_run {name : String} {type : DataType} {tell : Moment → Value} {caller : Caller} {scope : Scope} {arguments : List Data}
    (given : (expectDate name data).run world = (.ok moment, last)) :
    ∃ answer next, (telling name type tell caller scope data arguments).run world = (.ok answer, next)
      ∧ answer.type = type ∧ answer.value = tell moment := by
  rw [telling, ExceptT.bind_answered given]
  exact ⟨_, _, rfl, rfl, rfl⟩

/-- The operation tells of a date what clocks show. -/
def Tells (builtin : Builtin) : Prop :=
  ∃ type tell, builtin.handler = .eager (telling builtin.name type tell)
    ∧ ∀ moment other : Moment, moment.SameClock other → tell moment = tell other

theorem tells_of_dateFamily : ∀ builtin ∈ dateFamily, builtin.name ≠ "addDays" → Tells builtin := by
  have field {name : String} {read : Moment → Int} {parameters : Data → List Parameter} {returns : Data → List DataType → DataType}
      (shown : ∀ moment other : Moment, moment.SameClock other → read moment = read other) :
      (Builtin.eager name dateClass parameters returns (dateField name read)).name ≠ "addDays" →
      Tells (Builtin.eager name dateClass parameters returns (dateField name read)) := by
    intro _
    refine ⟨.number, fun moment => .number (floatOfInt (read moment)), rfl, fun moment other same => ?_⟩
    simp only [shown moment other same]
  simp only [dateFamily, List.forall_mem_cons, List.not_mem_nil, false_implies, implies_true, and_true]
  refine ⟨field fun _ _ same => same.milliseconds, fun _ => ?_, field fun _ _ same => ?_, field fun _ _ same => ?_, field fun _ _ same => ?_,
    field fun _ _ same => ?_, field fun _ _ same => ?_, field fun _ _ same => ?_, field fun _ _ same => ?_, fun other => absurd rfl other⟩
  · refine ⟨.string, fun moment => .text moment.format, rfl, fun moment other same => ?_⟩
    simp only [same.format]
  · rw [same.date]
  · rw [same.date]
  · rw [same.date]
  · rw [same.weekday]
  · rw [same.hour]
  · rw [same.minute]
  · rw [same.secondOfMinute]

/-- The attempt succeeds in both worlds, with the same answer but for its identity. -/
def AnswersAlike (attempt : Attempt Data) (world other : World) : Prop :=
  ∃ answer last answer' last', attempt.run world = (.ok answer, last) ∧ attempt.run other = (.ok answer', last')
    ∧ answer'.type = answer.type ∧ answer'.value = answer.value

theorem Holds.answersAlike {argument : Statement} (holds : Holds world date argument id moment)
    (near : 0 ≤ moment.date.year ∧ moment.date.year ≤ 9999) {fresh : World} (lost : fresh.store.instance? id = none)
    {builtin : Builtin} (tells : Tells builtin) {run : EagerHandler} (handler : builtin.handler = .eager run)
    (caller : Caller) (scope : Scope) (arguments : List Data) : AnswersAlike (run caller scope date arguments) world fresh := by
  obtain ⟨type, tell, isTelling, shown⟩ := tells
  rw [handler, Handler.eager.injEq] at isTelling
  obtain ⟨answer, last, here, typed, told⟩ := telling_run (expectDate_found builtin.name holds.handle holds.stored)
  obtain ⟨answer', last', there, typed', told'⟩ :=
    telling_run (expectDate_again builtin.name holds.handle lost (holds.materialize_near near))
  rw [isTelling]
  refine ⟨answer, last, answer', last', here, there, typed'.trans typed.symm, ?_⟩
  rw [told, told', shown _ _ moment.toMillisecond_sameClock]

theorem Holds.refused {argument : Statement} (holds : Holds world date argument id moment)
    (far : ¬ (0 ≤ moment.date.year ∧ moment.date.year ≤ 9999)) {fresh : World} (lost : fresh.store.instance? id = none)
    {builtin : Builtin} (tells : Tells builtin) {run : EagerHandler} (handler : builtin.handler = .eager run)
    (caller : Caller) (scope : Scope) (arguments : List Data) :
    (run caller scope date arguments).run fresh = (.error (.invalidDate moment.format), fresh) := by
  obtain ⟨type, tell, isTelling, -⟩ := tells
  rw [handler, Handler.eager.injEq] at isTelling
  rw [isTelling]
  exact ExceptT.bind_failed (expectDate_refused builtin.name holds.handle lost (holds.materialize_far far)) _

/-- A date is made again from what is written down of it exactly when its year is written with four digits and no sign. It
is then the same to the millisecond, and where a store has lost it, every operation but the shift tells the same of it. A date
of any other year is refused there, with its own text. -/
theorem dated_materializes (dated : Dated world date) : ∃ argument id moment,
    date.value = .handle dateClass [argument] id ∧ argument.data.text? = some moment.format
      ∧ world.store.instance? id = some (.date moment) ∧ moment.toMillisecond.SameClock moment
      ∧ (0 ≤ moment.date.year ∧ moment.date.year ≤ 9999 →
        materialize dateClass [argument] = .ok (.date moment.toMillisecond)
          ∧ ∀ fresh : World, fresh.store.instance? id = none → ∀ builtin ∈ dateFamily, builtin.name ≠ "addDays" →
            ∀ run, builtin.handler = .eager run → ∀ (caller : Caller) (scope : Scope) (arguments : List Data),
            AnswersAlike (run caller scope date arguments) world fresh)
      ∧ (¬ (0 ≤ moment.date.year ∧ moment.date.year ≤ 9999) →
        materialize dateClass [argument] = .error (.invalidDate moment.format)
          ∧ ∀ fresh : World, fresh.store.instance? id = none → ∀ builtin ∈ dateFamily, builtin.name ≠ "addDays" →
            ∀ run, builtin.handler = .eager run → ∀ (caller : Caller) (scope : Scope) (arguments : List Data),
            (run caller scope date arguments).run fresh = (.error (.invalidDate moment.format), fresh)) := by
  obtain ⟨argument, id, moment, holds⟩ := dated.holds
  refine ⟨argument, id, moment, holds.handle, holds.text, holds.stored, moment.toMillisecond_sameClock, ?_, ?_⟩
  · intro near
    refine ⟨holds.materialize_near near, ?_⟩
    intro fresh lost builtin among reads run handler
    exact holds.answersAlike near lost (tells_of_dateFamily builtin among reads) handler
  · intro far
    refine ⟨holds.materialize_far far, ?_⟩
    intro fresh lost builtin among reads run handler
    exact holds.refused far lost (tells_of_dateFamily builtin among reads) handler

/-- A leap second keeps its milliseconds, and loses what lies below them. -/
theorem dated_materializes_leap :
    let text : Data := ⟨"t", .string, .text "2016-12-31T23:59:60.2507Z"⟩
    ∃ date next argument id, (toDate (fun _ data _ => pure data) {} text []).run {} = (.ok date, next)
      ∧ date.value = .handle dateClass [argument] id ∧ next.store.instance? id = some (.date ⟨17166, 86399, 1250700000⟩)
      ∧ materialize dateClass [argument] = .ok (.date ⟨17166, 86399, 1250000000⟩) := by
  intro text
  have read : Moment.parse? "2016-12-31T23:59:60.2507Z" = some ⟨17166, 86399, 1250700000⟩ := by decide +kernel
  obtain ⟨date, next, argument, id, made, holds⟩ :=
    toDate_run (rfl : text.text? = _) read (fun _ data _ => pure data) {} [] {}
  obtain ⟨argument', id', moment, handle, -, stored, -, near, -⟩ := dated_materializes (.read made)
  rw [holds.handle] at handle
  cases handle
  rw [holds.stored] at stored
  cases stored
  exact ⟨date, next, argument, id, made, holds.handle, holds.stored, (near (by decide)).1⟩

/-- A date of a year with five digits is read from a text, and is lost with its store: what is written down of it has
milliseconds, which are not read behind a year with a sign. -/
theorem far_date_lost :
    let text : Data := ⟨"t", .string, .text "+10000-01-01"⟩
    ∃ date next argument id, (toDate (fun _ data _ => pure data) {} text []).run {} = (.ok date, next)
      ∧ date.value = .handle dateClass [argument] id ∧ argument.data.text? = some "+10000-01-01T00:00:00.000Z"
      ∧ next.store.instance? id = some (.date ⟨2932897, 0, 0⟩)
      ∧ materialize dateClass [argument] = .error (.invalidDate "+10000-01-01T00:00:00.000Z") := by
  intro text
  have read : Moment.parse? "+10000-01-01" = some ⟨2932897, 0, 0⟩ := by decide +kernel
  obtain ⟨date, next, argument, id, made, holds⟩ :=
    toDate_run (rfl : text.text? = _) read (fun _ data _ => pure data) {} [] {}
  have spelled : (⟨2932897, 0, 0⟩ : Moment).format = "+10000-01-01T00:00:00.000Z" := by decide +kernel
  have far := holds.materialize_far (by decide)
  rw [spelled] at far
  exact ⟨date, next, argument, id, made, holds.handle, spelled ▸ holds.text, holds.stored, far⟩

end

end Operation

end LivePipeline
