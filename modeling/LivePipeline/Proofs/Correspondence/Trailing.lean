import LivePipeline.Proofs.Correspondence.Revision

/-! A run that trails another. The left run brings code up to date, the right one evaluates what
came out. Where the left run does work of its own, the link is renewed: what was known keeps its
name, and what the left run drew for the code is called the same by both. -/

namespace LivePipeline

open Link

/-! ## Extensions -/

/-- An extension that is a function of its inputs up to drawn identities. What it gives is made of
the inputs and of nodes of its own. -/
structure Extension.Faithful (code : EntityId → Prop) (extension : Extension) : Prop where
  natural : ∀ numbers : Nat → Nat, Function.Injective numbers → ∀ data arguments,
    extension.handler (data.rename (EntityId.renumber numbers))
        (arguments.map (Data.rename (EntityId.renumber numbers)))
      = (extension.handler data arguments).map (Data.rename (EntityId.renumber numbers))
  firm : ∀ data arguments result, (∀ given ∈ data :: arguments, given.value.Firm) →
    extension.handler data arguments = .ok result → result.value.Firm
  mentions : ∀ data arguments result, extension.handler data arguments = .ok result → ∀ mention ∈ result.mentions,
    (∃ given ∈ data :: arguments, mention ∈ given.mentions)
      ∨ ∃ id, mention = .node id ∧ id.number? = none ∧ code id

theorem Extension.Faithful.mono {code code' : EntityId → Prop} {extension : Extension} (faithful : extension.Faithful code)
    (implies : ∀ id, code id → code' id) : extension.Faithful code' where
  natural := faithful.natural
  firm := faithful.firm
  mentions data arguments result found mention member :=
    (faithful.mentions data arguments result found mention member).imp_right fun ⟨id, same, undrawn, own⟩ =>
      ⟨id, same, undrawn, implies id own⟩

theorem Extension.Faithful.settled {link : Link} {extension : Extension} (faithful : extension.Faithful link.code)
    (ledger : Ledger) : extension.Settled link ledger where
  natural := faithful.natural link.numbers link.injective
  settled later _ data arguments result receiver given found := by
    have all : ∀ input ∈ data :: arguments, later.Settles link input := List.forall_mem_cons.mpr ⟨receiver, given⟩
    refine ⟨faithful.firm data arguments result (fun input member => (all input member).1) found, ?_⟩
    intro mention member
    rcases faithful.mentions data arguments result found mention member with ⟨input, among, within⟩ | ⟨id, rfl, undrawn, own⟩
    · exact (all input among).2 mention within
    · refine ⟨fun number drew => ?_, own⟩
      rw [EntityId.number?_eq_some.mpr drew] at undrawn
      cases undrawn

/-- A scope in which code is brought up to date on the left and evaluated on the right. -/
structure Link.Hosts (link : Link) (ledger : Ledger) (scope scope' : Scope) : Prop where
  site : link.SameSite ledger scope scope'
  faithful : ∀ extension ∈ scope.extensions, extension.Faithful link.code

/-- A scope whose variables both sides have by the same identities. -/
theorem Link.Hosts.of_kept {link : Link} {ledger : Ledger} {scope : Scope} (live : scope.skip = none)
    (bindings : ∀ entry ∈ scope.bindings, ledger.source entry.2.id ∧ link.names entry.2.id = entry.2.id
      ∧ ledger.Settles link entry.2.data ∧ entry.2.data.rename link.names = entry.2.data)
    (faithful : ∀ extension ∈ scope.extensions, extension.Faithful link.code) :
    link.Hosts ledger scope.child scope.child := by
  have same : Table.mapValues (Variable.rename link.names) scope.bindings = scope.bindings := by
    refine (List.map_congr_left fun entry member => ?_).trans (List.map_id _)
    obtain ⟨_, own, _, kept⟩ := bindings entry member
    rw [Variable.rename, own, kept]
    rfl
  have kept : scope.rename link.names = scope := by
    rw [Scope.rename, same, live]
    obtain ⟨_, _, _, _, _, _, _, _⟩ := scope
    cases live
    rfl
  refine ⟨⟨⟨?_, fun entry member => ?_, fun error given => ?_, fun extension member => ?_⟩, fun entry member => ?_⟩,
    faithful⟩
  · rw [← Scope.rename_child, kept]
  · obtain ⟨source, _, settles, _⟩ := bindings entry member
    exact ⟨ledger.source_below source, settles⟩
  · cases live.symm.trans given
  · exact Extension.Faithful.settled (faithful extension member) ledger
  · exact (bindings entry member).1

theorem Link.Hosts.inner {link : Link} {ledger : Ledger} {scope scope' : Scope} (hosts : link.Hosts ledger scope scope')
    (narrowing : Option Narrowing) :
    link.Hosts ledger (scope.child.withNarrowing narrowing) (scope'.child.withNarrowing narrowing) :=
  ⟨hosts.site.child.withNarrowing narrowing, hosts.faithful⟩

theorem Link.Hosts.publish {link : Link} {ledger : Ledger} {scope scope' : Scope} (hosts : link.Hosts ledger scope scope')
    (name : Option String) {id : EntityId} {data data' : Data} (source : ledger.source id)
    (published : link.Same ledger data data') :
    link.Hosts ledger (scope.publish name id data) (scope'.publish name (link.names id) data') :=
  ⟨hosts.site.publish name source published, by cases name <;> exact hosts.faithful⟩

/-! ## Links for all nodes -/

/-- The link under which results may be recorded for any node. -/
def Link.relaxed (link : Link) : Link := { link with code := fun _ => True, code_drawn := fun _ _ => trivial }

namespace Link

variable {link : Link} {ledger : Ledger}

theorem allows_relaxed {mention : Mention} (allows : ledger.Allows link mention) : ledger.Allows link.relaxed mention := by
  cases mention with
  | node id => exact ⟨allows.1, trivial⟩
  | target id => exact allows
  | object id className text => exact allows

theorem settles_relaxed {data : Data} (settles : ledger.Settles link data) : ledger.Settles link.relaxed data :=
  ⟨settles.1, fun mention member => allows_relaxed (settles.2 mention member)⟩

theorem writes_relaxed {mentions : List Mention} (writes : ledger.Writes link mentions) :
    ledger.Writes link.relaxed mentions :=
  fun mention member => ⟨allows_relaxed (writes mention member).1, (writes mention member).2⟩

theorem Hosts.relaxed {scope scope' : Scope} (hosts : link.Hosts ledger scope scope') :
    link.relaxed.Hosts ledger scope scope' := by
  obtain ⟨⟨⟨same, settled⟩, sources⟩, faithful⟩ := hosts
  have extensions : ∀ extension ∈ scope.extensions, extension.Faithful link.relaxed.code :=
    fun extension member => (faithful extension member).mono fun _ _ => trivial
  refine ⟨⟨⟨same, ⟨fun entry member => ?_, fun error given => settles_relaxed (settled.failed error given),
    fun extension member => (extensions extension member).settled ledger⟩⟩, sources⟩, extensions⟩
  exact ⟨(settled.bindings entry member).1, settles_relaxed (settled.bindings entry member).2⟩

end Link

theorem Linked.relaxed {link : Link} {ledger : Ledger} {left right : World} (linked : Linked link ledger left right) :
    Linked link.relaxed ledger left right := by
  refine { linked with
    external_settled := fun id className text external known found => ?_
    fingerprint_settled := fun key data found => settles_relaxed (linked.fingerprint_settled key data found) }
  have settled := linked.external_settled id className text external known found
  cases external with
  | promise state =>
    cases state with
    | resolved value => exact settles_relaxed settled
    | rejected reason => trivial
  | _ => trivial

/-! ## Renewed links -/

/-- Another link that names what is known as before. -/
structure Link.Renews (link : Link) (ledger : Ledger) (link' : Link) (ledger' : Ledger) : Prop where
  start : link'.start = link.start
  reserve : link'.reserve = link.reserve
  code : link'.code = link.code
  bound : ledger.bound ≤ ledger'.bound
  object : ∀ {id className text}, ledger.object id className text → ledger'.object id className text
  source : ∀ {id}, ledger.source id → ledger'.source id
  numbers : ∀ number, number < ledger.bound → link'.numbers number = link.numbers number

namespace Link.Renews

variable {link link' link'' : Link} {ledger ledger' ledger'' : Ledger}

protected theorem refl : link.Renews ledger link ledger :=
  ⟨rfl, rfl, rfl, Nat.le_refl _, id, id, fun _ _ => rfl⟩

protected theorem trans (first : link.Renews ledger link' ledger') (second : link'.Renews ledger' link'' ledger'') :
    link.Renews ledger link'' ledger'' where
  start := second.start.trans first.start
  reserve := second.reserve.trans first.reserve
  code := second.code.trans first.code
  bound := Nat.le_trans first.bound second.bound
  object known := second.object (first.object known)
  source known := second.source (first.source known)
  numbers number known :=
    (second.numbers number (Nat.lt_of_lt_of_le known first.bound)).trans (first.numbers number known)

variable (renews : link.Renews ledger link' ledger')
include renews

theorem names {id : EntityId} (below : id.Below ledger.bound) : link'.names id = link.names id :=
  EntityId.renumber_congr fun number drew => renews.numbers number (below number drew)

theorem allows {mention : Mention} (allows : ledger.Allows link mention) : ledger'.Allows link' mention := by
  cases mention with
  | node id => exact ⟨allows.1.mono renews.bound, renews.code ▸ allows.2⟩
  | target id => exact EntityId.Below.mono allows renews.bound
  | object id className text => exact renews.object allows

theorem covers {mentions : List Mention} (covers : ledger.Covers link mentions) : ledger'.Covers link' mentions :=
  fun mention member => renews.allows (covers mention member)

theorem writes {mentions : List Mention} (writes : ledger.Writes link mentions) : ledger'.Writes link' mentions :=
  fun mention member => ⟨renews.allows (writes mention member).1, renews.source (writes mention member).2⟩

theorem settles {data : Data} (settles : ledger.Settles link data) : ledger'.Settles link' data :=
  ⟨settles.1, renews.covers settles.2⟩

theorem rename {data : Data} (covers : ledger.Covers link data.mentions) :
    data.rename link'.names = data.rename link.names :=
  Data.rename_congr fun mention member => renews.names (covers mention member).below

theorem same {data data' : Data} (same : link.Same ledger data data') : link'.Same ledger' data data' :=
  ⟨same.1.trans (renews.rename same.2.2).symm, renews.settles same.2⟩

theorem external {external : External} (settled : external.Settled link ledger) :
    external.rename link'.names = external.rename link.names ∧ external.Settled link' ledger' := by
  cases external with
  | promise state =>
    cases state with
    | resolved value => exact ⟨congrArg (External.promise ∘ PromiseState.resolved) (renews.rename settled.2),
        renews.settles settled⟩
    | rejected reason => exact ⟨rfl, trivial⟩
  | _ => exact ⟨rfl, trivial⟩

theorem hosts {scope scope' : Scope} (hosts : link.Hosts ledger scope scope') : link'.Hosts ledger' scope scope' := by
  obtain ⟨⟨⟨rfl, settled⟩, sources⟩, faithful⟩ := hosts
  have extensions : ∀ extension ∈ scope.extensions, extension.Faithful link'.code := by
    rw [renews.code]
    exact faithful
  refine ⟨⟨⟨?_, fun entry member => ?_, fun error given => renews.settles (settled.failed error given),
    fun extension member => (extensions extension member).settled ledger'⟩,
    fun entry member => renews.source (sources entry member)⟩, extensions⟩
  · have bindings : Table.mapValues (Variable.rename link.names) scope.bindings
        = Table.mapValues (Variable.rename link'.names) scope.bindings := by
      refine List.map_congr_left fun entry member => ?_
      have known := settled.bindings entry member
      rw [Variable.rename, Variable.rename, renews.names known.1, renews.rename known.2.2]
    have skip : scope.skip.map (Skip.rename link.names) = scope.skip.map (Skip.rename link'.names) := by
      refine Option.map_congr fun reason given => ?_
      cases reason with
      | unreachable => rfl
      | failed error => exact congrArg Skip.failed (renews.rename (settled.failed error given).2).symm
    rw [Scope.rename, Scope.rename, bindings, skip]
  · have known := settled.bindings entry member
    exact ⟨known.1.mono renews.bound, renews.settles known.2⟩

end Link.Renews

/-! ## The trailing run -/

/-- The right run evaluates code of the left one, by the identities that the left run has for it. It
draws beyond all that the left run may still draw. -/
structure Trails (link : Link) (ledger : Ledger) (left right : World) : Prop where
  linked : Linked link ledger left right
  ahead : link.reserve ≤ right.nextId
  written : ∀ id, ledger.source id → link.names id = id

/-- What the left run may do on its own: it draws what is reserved for it, and comes to know no
fingerprint. -/
structure Modest (reserve : Nat) (before after : World) : Prop where
  drawn : after.nextId ≤ reserve
  fingerprint : ∀ key data, after.store.fingerprint? key = some data → before.store.fingerprint? key = some data

theorem Modest.split {reserve : Nat} {before middle after : World} (modest : Modest reserve before after)
    {link link' : Link} {ledger ledger' : Ledger} (first : Steps link ledger before middle)
    (second : Steps link' ledger' middle after) : Modest reserve before middle ∧ Modest reserve middle after := by
  refine ⟨⟨Nat.le_trans second.drawn modest.drawn, fun key data found => ?_⟩, modest.drawn, fun key data found => ?_⟩
  · exact modest.fingerprint key data (second.fingerprint key data found)
  · exact first.fingerprint key data (modest.fingerprint key data found)

/-- What is known after work in lockstep; nothing of it becomes code. -/
def Ledger.recall (before after : Ledger) (le : before ≤ after) : Ledger :=
  { after with
    source := before.source
    source_below := fun known => (before.source_below known).mono (Ledger.bound_le le)
    synced := fun _ => False }

/-- What is known after work of the left run alone: of what it drew, only what its code mentions. -/
def Ledger.adopt (before after : Ledger) (le : before ≤ after) : Ledger where
  bound := after.bound
  object id className text := before.object id className text
    ∨ after.object id className text ∧ after.source id ∧ ¬ id.Below before.bound
  object_below := by
    rintro id className text (known | ⟨known, _⟩)
    · exact (before.object_below known).mono (Ledger.bound_le le)
    · exact after.object_below known
  object_unique := by
    rintro id className text className' text' (known | ⟨known, _, late⟩) (other | ⟨other, _, late'⟩)
    · exact before.object_unique known other
    · exact absurd (before.object_below known) late'
    · exact absurd (before.object_below other) late
    · exact after.object_unique known other
  source := after.source
  source_below := after.source_below
  synced _ := False

/-- Code that the left run made mentions known things only. -/
theorem Ledger.Writes.adopt {before after : Ledger} {link link' : Link} {mentions : List Mention}
    (writes : after.Writes link mentions) (le : before ≤ after) (code : link'.code = link.code) :
    (before.adopt after le).Writes link' mentions := by
  intro mention member
  obtain ⟨allowed, written⟩ := writes mention member
  refine ⟨?_, written⟩
  cases mention with
  | node id => exact ⟨allowed.1, code ▸ allowed.2⟩
  | target id => exact allowed
  | object id className text =>
    by_cases early : id.Below before.bound
    · exact .inl (le.object_old allowed early)
    · exact .inr ⟨allowed, written, early⟩

namespace Trails

variable {link : Link} {ledger : Ledger} {left right : World}

/-- Code that both runs have by the same identities. -/
theorem keeps (trails : Trails link ledger left right) {data : Data} (writes : ledger.Writes link data.mentions) :
    data.rename link.names = data :=
  Data.rename_eq_self fun mention member => trails.written mention.id (writes mention member).2

/-- Both runs do the same work. -/
theorem follow (trails : Trails link ledger left right) {run : Run α} {run' : Run β} {post : Ledger → α → β → Prop}
    (sim : link.Sim ledger run run' post) :
    ∃ later, ∃ le : ledger ≤ later, link.Renews ledger link (ledger.recall later le)
      ∧ Trails link (ledger.recall later le) (run left).2 (run' right).2 ∧ post later (run left).1 (run' right).1 := by
  obtain ⟨later, le, linked, steps, holds⟩ := sim left right trails.linked
  have bounds : ledger.bound ≤ later.bound := Ledger.bound_le le
  have objects : ∀ {id className text}, ledger.object id className text → later.object id className text :=
    Ledger.object_mono le
  refine ⟨later, le, ⟨rfl, rfl, rfl, bounds, objects, id, fun _ _ => rfl⟩, ⟨?_, ?_, trails.written⟩, holds⟩
  · refine { linked with
      external_settled := fun id className text external known found => ?_
      crafted := fun id className text known written => linked.crafted id className text known
        (Ledger.source_mono le written)
      fingerprint_settled := linked.fingerprint_settled
      synced := fun id known => known.elim }
    have settled := linked.external_settled id className text external known found
    cases external with
    | promise state =>
      cases state with
      | resolved value => exact settled
      | rejected reason => trivial
    | _ => trivial
  · -- The right run draws as many identities as the left one, so it stays ahead.
    have before := trails.linked.future ((run left).2.nextId - left.nextId)
    have after := linked.future 0
    rw [Nat.add_sub_cancel' steps.drawn] at before
    rw [Nat.add_zero, Nat.add_zero, before] at after
    exact Nat.le_trans trails.ahead (by omega)

/-- The numbers of a renewed link: those from `first` up to `last` are the left run's own. -/
def renumbered (numbers : Nat → Nat) (first last next : Nat) (number : Nat) : Nat :=
  if number < first then numbers number else if number < last then number else next + (number - last)

theorem renumbered_injective (linked : Linked link ledger left right) (ahead : link.reserve ≤ right.nextId) {last : Nat}
    (reserved : last ≤ link.reserve) :
    Function.Injective (renumbered link.numbers left.nextId last right.nextId) := by
  -- What is known is named neither by a number of the left run nor by one to come.
  have known : ∀ number, number < left.nextId →
      link.numbers number < right.nextId ∧ ¬ (left.nextId ≤ link.numbers number ∧ link.numbers number < last) := by
    intro number less
    refine ⟨Nat.lt_of_not_le fun beyond => ?_, fun within => ?_⟩
    · have future := linked.future (link.numbers number - right.nextId)
      rw [Nat.add_sub_cancel' beyond] at future
      have same := link.injective future
      omega
    · exact linked.apart _ number within.1 (by omega) rfl
  intro first second same
  unfold renumbered at same
  split at same
  · next less =>
    have bounds := known first less
    split at same
    · exact link.injective same
    · split at same <;> omega
  · split at same
    · split at same
      · next less =>
        have bounds := known second less
        omega
      · split at same <;> omega
    · split at same
      · next less =>
        have bounds := known second less
        omega
      · split at same <;> omega

/-- The link after work of the left run alone. -/
def renewed (trails : Trails link ledger left right) {last : Nat} (reserved : last ≤ link.reserve) : Link :=
  { link with
    numbers := renumbered link.numbers left.nextId last right.nextId
    injective := renumbered_injective trails.linked trails.ahead reserved }

theorem renews (trails : Trails link ledger left right) {last : Nat} (reserved : last ≤ link.reserve) {later : Ledger}
    (le : ledger ≤ later) : link.Renews ledger (trails.renewed reserved) (ledger.adopt later le) where
  start := rfl
  reserve := rfl
  code := rfl
  bound := (Ledger.bound_le le : ledger.bound ≤ later.bound)
  object := .inl
  source known := (Ledger.source_mono le known : later.source _)
  numbers _ known := if_pos (trails.linked.bound ▸ known)

/-- What the left run drew on its own is called the same by both. -/
theorem renewed_names (trails : Trails link ledger left right) {last : Nat} (reserved : last ≤ link.reserve)
    {id : EntityId} (late : ¬ id.Below left.nextId) (below : id.Below last) : (trails.renewed reserved).names id = id := by
  refine EntityId.renumber_eq_self fun number drew => ?_
  subst drew
  have from_start : left.nextId ≤ number := Nat.not_lt.mp fun less => late (EntityId.below_drawn.mpr less)
  exact (if_neg (Nat.not_lt.mpr from_start)).trans (if_pos (EntityId.below_drawn.mp below))

/-- The left run works alone, the right one stays where it is. -/
theorem lead (trails : Trails link ledger left right) {run : Run α} {run' : Run β} {post : Ledger → α → β → Prop}
    (sim : link.Sim ledger run run' post) (modest : Modest link.reserve left (run left).2) :
    ∃ later value' link', ∃ le : ledger ≤ later, link.Renews ledger link' (ledger.adopt later le)
      ∧ Trails link' (ledger.adopt later le) (run left).2 right ∧ post later (run left).1 value' := by
  obtain ⟨later, le, linked, steps, holds⟩ := sim left right trails.linked
  have renews := trails.renews modest.drawn le
  have before := trails.linked
  have drawn := steps.drawn
  refine ⟨later, _, _, le, renews, ⟨?_, trails.ahead, fun id known => ?_⟩, holds⟩
  · -- Objects that the left run made known are made from their text, by either run.
    have late : ∀ id className text, later.object id className text → later.source id → ¬ id.Below ledger.bound →
        (∃ number, id = .drawn number ∧ left.nextId ≤ number ∧ number < (run left).2.nextId)
          ∧ (run left).2.store.external? id className text = (Operation.craft className text).toOption := by
      intro id className text known written late
      have drew : ∃ number, id = .drawn number ∧ ¬ number < ledger.bound := by
        simpa only [EntityId.Below, not_forall, exists_prop] using late
      obtain ⟨number, rfl, beyond⟩ := drew
      rw [← before.bound, Nat.not_lt] at beyond
      have less := EntityId.below_drawn.mp (later.object_below known)
      rw [← linked.bound] at less
      refine ⟨⟨number, rfl, beyond, less⟩, linked.crafted _ className text known written fun early => ?_⟩
      have := EntityId.below_drawn.mp early
      have := before.start
      omega
    have fingerprints : ∀ key, (run left).2.store.fingerprint? key = left.store.fingerprint? key := by
      intro key
      cases found : left.store.fingerprint? key with
      | some data => exact steps.fingerprint key data found
      | none =>
        cases found' : (run left).2.store.fingerprint? key with
        | none => rfl
        | some data => cases (modest.fingerprint key data found').symm.trans found
    refine {
      bound := linked.bound
      start := Nat.le_trans before.start drawn
      future := fun ahead => ?_
      apart := fun number other free reserved => ?_
      unused_left := linked.unused_left
      unused_right := fun number free => before.unused_right number (by dsimp only [renewed] at free; omega)
      external := ?_
      external_settled := ?_
      crafted := ?_
      fingerprint := fun key => ?_
      fingerprint_settled := fun key data found => ?_
      firm_left := linked.firm_left
      firm_right := before.firm_right
      synced := fun _ known => known.elim }
    · refine (if_neg (by omega)).trans ((if_neg (by omega)).trans ?_)
      omega
    · have ahead := trails.ahead
      have named := before.apart number other (Nat.le_trans drawn free) reserved
      dsimp only [renewed, renumbered] at reserved ⊢
      split
      · exact named
      · split <;> omega
    · rintro id className text (known | ⟨known, written, beyond⟩)
      · rw [renews.names (ledger.object_below known), before.external id className text known,
          steps.external id className text known]
        cases found : left.store.external? id className text with
        | none => rfl
        | some external =>
          have settled := before.external_settled id className text external known found
          exact congrArg some (renews.external settled).1.symm
      · obtain ⟨⟨number, rfl, from_start, less⟩, crafted⟩ := late id className text known written beyond
        have kept := trails.renewed_names modest.drawn (before.bound ▸ beyond) (EntityId.below_drawn.mpr less)
        have reserved := modest.drawn
        rw [kept, crafted, Store.external?_of_unset (before.unused_right number (.inr ⟨from_start, by omega⟩))]
        cases made : Operation.craft className text with
        | error failure => rfl
        | ok external => exact congrArg some ((Operation.craft_inert made).1 _).symm
    · rintro id className text external (known | ⟨known, written, beyond⟩) found
      · rw [steps.external id className text known] at found
        exact (renews.external (before.external_settled id className text external known found)).2
      · rw [(late id className text known written beyond).2] at found
        cases made : Operation.craft className text with
        | error failure => rw [made] at found; cases found
        | ok other =>
          rw [made] at found
          cases found
          exact (Operation.craft_inert made).2 _ _
    · rintro id className text (known | ⟨known, _, _⟩) written
      · exact linked.crafted id className text (Ledger.object_mono le known) written
      · exact linked.crafted id className text known written
    · rw [before.fingerprint key, fingerprints key]
      cases found : left.store.fingerprint? key with
      | none => rfl
      | some data => exact congrArg some (renews.rename (before.fingerprint_settled key data found).2).symm
    · rw [fingerprints key] at found
      exact renews.settles (before.fingerprint_settled key data found)
  · by_cases early : id.Below ledger.bound
    · exact (renews.names early).trans (trails.written id (le.source_old known early))
    · refine trails.renewed_names modest.drawn (before.bound ▸ early) ?_
      rw [linked.bound]
      exact later.source_below known

end Trails

end LivePipeline
