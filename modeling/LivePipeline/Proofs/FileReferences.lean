import LivePipeline.Proofs.Files

/-! References between the files of a project. When a file was edited, the others are brought up to date in one pass,
all in the scope of the files as they are before the pass. So a reference gets the type that its file has
there, which is the type that the file comes out with unless its own turn in the pass changes that. -/

namespace LivePipeline

/-- The statements of an operation's body. -/
def Data.body (operation : Data) : List Statement :=
  match operation.value with
  | .operation _ _ body => body
  | _ => []

/-- The parameters and the statements of an operation, which may declare variables in its scope. -/
def Data.parts (operation : Data) : List Statement :=
  match operation.value with
  | .operation _ parameters body => parameters ++ body
  | _ => []

/-! ## References in a scope -/

/-- What the scope shows of a file: all that is declared by its identity has its name and its type. -/
def Scope.Shows (scope : Scope) (file : ProjectFile) : Prop :=
  ∀ entry ∈ scope.bindings, entry.2.id = file.id →
    entry.1 = file.name ∧ entry.2.data.type.dereference = file.content.type.dereference

/-- A scope inside of another one, in which the file is shown. -/
structure Scope.Inside (base : Scope) (file : ProjectFile) (scope : Scope) : Prop where
  shown : scope.Shows file
  visible : ∀ name ∈ Table.keys base.bindings, name ∈ Table.keys scope.bindings

/-- The reference is one to the file, by its name and with its type, or nothing is visible under its name. -/
def Data.Refers (data : Data) (file : ProjectFile) (base : Scope) : Prop :=
  ∀ name, data.value = .reference name file.id →
    name = file.name ∧ data.type = .reference file.content.type.dereference ∨ name ∉ Table.keys base.bindings

section

variable {base scope : Scope} {file : ProjectFile}

theorem Scope.Inside.publish (inside : base.Inside file scope) (name : Option String) {id : EntityId} (apart : id ≠ file.id) (data : Data) :
    base.Inside file (scope.publish name id data) := by
  cases name with
  | none => exact inside
  | some name =>
    refine ⟨fun entry among same => ?_, fun key within => Table.mem_keys_insert.mpr (.inl (inside.visible key within))⟩
    rcases Table.of_mem_insert among with rfl | before
    · exact absurd same apart
    · exact inside.shown entry before same

theorem Scope.mem_of_referent? {name found : String} {id : EntityId} {target : Variable}
    (means : scope.referent? name id = some (found, target)) : (found, target) ∈ scope.bindings := by
  rcases Option.or_eq_some_iff.mp means with byId | ⟨-, byName⟩
  · split at byId
    · cases byId
    · exact List.mem_of_find?_eq_some byId
  · obtain ⟨known, named, pair⟩ := Option.map_eq_some_iff.mp byName
    cases pair
    exact Table.mem_of_get? named

theorem Scope.variableNamed?_of_referent?_none {name : String} {id : EntityId} (missing : scope.referent? name id = none) :
    scope.variableNamed? name = none := by
  have byName := (Option.or_eq_none_iff.mp missing).2
  exact Option.map_eq_none_iff.mp byName

/-- A reference that keeps the identity of the file was pointed to it, or was left because nothing has its name. -/
theorem Scope.Inside.rebind (inside : base.Inside file scope) (data : Data) : (scope.rebind data).Refers file base := by
  intro name refers
  simp only [Scope.rebind] at refers ⊢
  split at refers
  · next named target value =>
    cases means : scope.referent? named target with
    | some found =>
      rw [means] at refers
      rw [Value.reference.injEq] at refers
      obtain ⟨rfl, same⟩ := refers
      obtain ⟨own, typed⟩ := inside.shown found (Scope.mem_of_referent? means) same
      exact .inl ⟨own, congrArg _ typed⟩
    | none =>
      simp only [means, value, Value.reference.injEq] at refers
      have absent := Scope.variableNamed?_of_referent?_none means
      rw [refers.1] at absent
      exact .inr fun within => Table.get?_eq_none absent (inside.visible name within)
  · next other => exact absurd refers (other name file.id)

theorem Scope.Inside.reviseData (inside : base.Inside file scope) (data : Data) :
    (LivePipeline.reviseData data scope).Yields fun revised => revised.Refers file base := by
  obtain ⟨id, type, value⟩ := data
  cases value with
  | reference name target => exact .pure (inside.rebind _)
  | array items => exact .behind _ fun _ => .pure fun name refers => by cases refers
  | record entries => exact .behind _ fun _ => .pure fun name refers => by cases refers
  | condition test whenTrue whenFalse =>
    refine .bind (show Run.Yields _ fun value => ∀ name, value ≠ .reference name file.id from ?_) fun value other =>
      .pure fun name refers => absurd refers (other name)
    exact .behind _ fun _ => .behind _ fun _ => .behind _ fun _ => .behind _ fun _ => .pure fun name => by simp
  | operation name parameters body =>
    exact .behind _ fun _ => .behind _ fun _ => .behind _ fun _ => .pure fun name refers => by cases refers
  | _ => exact .pure fun name refers => by cases refers

/-- By the data of the statement; its calls make no difference to it. -/
theorem Scope.Inside.reviseStatement (inside : base.Inside file scope) (statement : Statement) :
    (LivePipeline.reviseStatement statement scope).Yields fun outcome => outcome.1.data.Refers file base := by
  obtain ⟨id, data, operations, name, isOptional⟩ := statement
  rw [reviseStatement_eq]
  have chain : (reviseChain data operations scope).Yields fun outcome => outcome.1.Refers file base :=
    .bind (inside.reviseData data) fun revised refers =>
      .behind _ fun _ => .behind _ fun _ => .behind _ fun _ => .behind _ fun _ => .pure refers
  exact .bind chain fun outcome refers => .behind _ fun _ => .pure refers

theorem Scope.Inside.reviseEach (inside : base.Inside file scope) {statements : List Statement}
    (apart : ∀ statement ∈ statements, statement.id ≠ file.id) :
    (LivePipeline.reviseEach (revisables statements) scope).Yields fun outcome =>
      (∀ statement ∈ outcome.1, statement.data.Refers file base) ∧ base.Inside file outcome.2 := by
  refine reviseEach_yields (base.Inside file) ?_ inside
  rw [revisables_eq_map, List.forall_mem_map]
  intro statement among scope inside world
  have own := congrArg Frame.id (reviseStatement_keeps_frame statement scope world)
  exact ⟨inside.reviseStatement statement world, inside.publish _ (own.trans_ne (apart statement among)) _⟩

theorem Scope.Inside.reviseOperation (inside : base.Inside file scope) {operation : Data}
    (apart : ∀ part ∈ operation.parts, part.id ≠ file.id) :
    (scope.reviseOperation operation none).Yields fun revised => ∀ statement ∈ revised.body, statement.data.Refers file base := by
  unfold Scope.reviseOperation
  split
  · next name parameters body value =>
    simp only [Data.parts, value, List.forall_mem_append] at apart
    have begun : base.Inside file scope.child := ⟨inside.shown, inside.visible⟩
    refine .bind (begun.reviseEach apart.1) fun bound first => ?_
    have inner : base.Inside file bound.2.child := ⟨first.2.shown, first.2.visible⟩
    have rebuilt : (LivePipeline.reviseEach (revisables body) bound.2.child).Yields fun outcome =>
        ∀ statement ∈ outcome.1, statement.data.Refers file base := fun world => (inner.reviseEach apart.2 world).1
    refine .bind (Scope.revise_yields (∀ statement ∈ ·, statement.data.Refers file base) rebuilt) fun body refer => ?_
    exact .behind _ fun _ => .pure refer
  · next other =>
    refine .pure fun statement among => ?_
    simp only [Data.body] at among
    cases among

end

/-! ## The pass over the files -/

/-- In the scope of the files each file is shown by its identity. -/
theorem Scope.inside_withFiles {scope : Scope} {files : List ProjectFile} (distinct : (files.map (·.id)).Nodup) {file : ProjectFile}
    (among : file ∈ files) (unknown : ∀ entry ∈ scope.bindings, entry.2.id ≠ file.id) :
    (scope.withFiles files).Inside file (scope.withFiles files) := by
  refine ⟨fun entry bound same => ?_, fun _ visible => visible⟩
  rcases Scope.of_mem_withFiles bound with outside | ⟨other, member, rfl⟩
  · exact absurd same (unknown entry outside)
  · cases List.inj_on_of_nodup_map distinct member among same
    exact ⟨rfl, rfl⟩

/-- After an edit, references to a file have the type that it came out with, if its turn in the pass left that type as it
was. A reference that keeps the identity of a file but has another name is left because nothing in the project has that
name. -/
theorem reviseFiles_types_references {scope : Scope} {files : List ProjectFile} {changed : ProjectFile} (distinct : (files.map (·.id)).Nodup)
    (apart : ∀ file ∈ files, ∀ part ∈ file.content.parts, part.id ∉ changed.id :: files.map (·.id))
    (unknown : ∀ entry ∈ scope.bindings, entry.2.id ∉ changed.id :: files.map (·.id)) (world : World) :
    ∀ file ∈ (scope.reviseFiles files changed world).1, file.id ≠ changed.id →
      ∀ target ∈ (scope.reviseFiles files changed world).1,
        (target.id = changed.id ∨ ∃ before ∈ files, before.id = target.id
          ∧ before.content.type.dereference = target.content.type.dereference) →
        ∀ statement ∈ file.content.body, ∀ name, statement.data.value = .reference name target.id →
          name = target.name ∧ statement.data.type = .reference target.content.type.dereference
            ∨ name ∉ Table.keys (scope.withFiles (scope.reviseFiles files changed world).1).bindings := by
  have known (content : Data) (file : ProjectFile) (among : file ∈ ProjectFile.replaceAll { changed with content := content } files) :
      file.id ∈ changed.id :: files.map (·.id) := by
    rcases ProjectFile.of_mem_replaceAll among with rfl | ⟨_, member⟩
    · exact List.mem_cons_self
    · exact List.mem_cons_of_mem _ (List.mem_map_of_mem member)
  obtain ⟨content, _, passed⟩ := Scope.reviseFiles_yields (fun _ => True)
    (fun placed content => ∀ target ∈ placed, ∀ statement ∈ content.body, statement.data.Refers target (scope.withFiles placed))
    (fun _ => trivial) (fun content file among others => by
      have member := ((ProjectFile.of_mem_replaceAll among).resolve_left fun same => others (by rw [same])).2
      intro world target within
      have inside : (scope.withFiles _).Inside target _ :=
        Scope.inside_withFiles (ProjectFile.nodup_replaceAll distinct) within fun entry bound same =>
          unknown entry bound (same ▸ known content target within)
      exact inside.reviseOperation (fun part own same => apart file member part own (same ▸ known content target within)) world) world
  intro file among others target within settled statement inside name refers
  obtain ⟨_, _, pass⟩ := exists_of_mem_right passed among
  obtain ⟨source, member, same⟩ := exists_of_mem_right passed within
  -- The file that the reference was pointed to in the pass has the type that it came out with.
  have typed : source.content.type.dereference = target.content.type.dereference := by
    by_cases own : source.id = changed.id
    · rw [same.edited own]
    · obtain ⟨before, stored, known, type⟩ := settled.resolve_left fun edits => own (same.id.symm.trans edits)
      have original := ((ProjectFile.of_mem_replaceAll member).resolve_left fun edits => own (by rw [edits])).2
      cases List.inj_on_of_nodup_map distinct stored original (known.trans same.id)
      exact type
  have names : (scope.reviseFiles files changed world).1.map (·.name)
      = (ProjectFile.replaceAll { changed with content := content } files).map (·.name) :=
    map_eq_of_forall₂ (passed.imp fun _ _ pass => pass.name)
  rw [same.id] at refers
  rw [Scope.mem_keys_withFiles, names, ← Scope.mem_keys_withFiles, same.name, ← typed]
  exact pass.others (fun own => others (pass.id.trans own)) source member statement inside name refers

/-- A file that hands out the edited one. -/
theorem reviseFiles_types_use :
    let file (id name : String) (type : DataType) (statement : Statement) : ProjectFile :=
      ⟨id, name, ⟨id ++ "-content", type, .operation none [] [statement]⟩⟩
    let gives (type : DataType) : DataType := .operation [] type
    let base (type : DataType) (value : Value) : ProjectFile := file "b" "base" (gives type) ⟨"it", ⟨"data", type, value⟩, [], none, false⟩
    let use (type : DataType) : Statement := ⟨"use", ⟨"used", .reference (gives type), .reference "base" "b"⟩, [], none, false⟩
    let mid (type : DataType) : ProjectFile := file "m" "mid" (gives (gives type)) (use type)
    let edited : ProjectFile := base .boolean (.boolean true)
    let scope : Scope := {}
    let returned := (scope.reviseFiles [base .string (.text "a"), mid .string] edited {}).1
    edited ∈ returned ∧ ∃ file ∈ returned, file.id = "m" ∧ file.content.body.length = 1 ∧ ∀ statement ∈ file.content.body,
      statement.data.value = .reference "base" "b" ∧ statement.data.type = .reference edited.content.type.dereference := by
  intro file gives base use mid edited scope returned
  have outcome : returned = [edited, mid .boolean] := rfl
  have distinct : ([base .string (.text "a"), mid .string].map (·.id)).Nodup := by decide
  have apart : ∀ file ∈ [base .string (.text "a"), mid .string], ∀ part ∈ file.content.parts,
      part.id ∉ edited.id :: [base .string (.text "a"), mid .string].map (·.id) := by decide
  have first : edited ∈ returned := by simp [outcome]
  have second : mid .boolean ∈ returned := by simp [outcome]
  refine ⟨first, mid .boolean, second, rfl, rfl, fun statement among => ?_⟩
  have refers : statement.data.value = .reference "base" "b" := by rw [List.mem_singleton.mp among]
  have typed := reviseFiles_types_references distinct apart (by simp [scope]) {} (mid .boolean) second (by decide)
    edited first (.inl rfl) statement among "base" refers
  refine ⟨refers, (typed.resolve_right fun absent => ?_).2⟩
  exact absent (Scope.mem_keys_withFiles.mpr (.inr (List.mem_map_of_mem first)))

/-- A third file hands out the second one. It is brought up to date in the scope of the second one as that was before its
turn, and keeps referring to that by its old type. -/
theorem reference_keeps_type_before_pass :
    let file (id name : String) (type : DataType) (statement : Statement) : ProjectFile :=
      ⟨id, name, ⟨id ++ "-content", type, .operation none [] [statement]⟩⟩
    let gives (type : DataType) : DataType := .operation [] type
    let base (type : DataType) (value : Value) : ProjectFile := file "b" "base" (gives type) ⟨"it", ⟨"data", type, value⟩, [], none, false⟩
    let use (id name target : String) (type : DataType) : Statement :=
      ⟨id, ⟨id ++ "-data", .reference type, .reference name target⟩, [], none, false⟩
    let mid : ProjectFile := file "m" "mid" (gives (gives .string)) (use "use" "base" "b" (gives .string))
    let top : ProjectFile := file "t" "top" (gives (gives (gives .string))) (use "chain" "mid" "m" (gives (gives .string)))
    let scope : Scope := {}
    let returned := (scope.reviseFiles [base .string (.text "a"), mid, top] (base .boolean (.boolean true)) {}).1
    returned.map (·.content.type) == [gives .boolean, gives (gives .boolean), gives (gives (gives .string))]
      ∧ returned.map (fun file => file.content.body.map (·.data.type))
        == [[.boolean], [.reference (gives .boolean)], [.reference (gives (gives .string))]] := by
  dsimp only
  decide +kernel

end LivePipeline
