import LivePipeline.Node.Default

/-! What holds of new nodes, whatever identities are drawn for them. Default data follows its type, so a
property holds of all defaults when it passes one step for each kind of value that a default can have. -/

namespace LivePipeline

/-- Whatever identities are drawn, the outcome is good. -/
def Fresh.Gives (build : Fresh α) (good : α → Prop) : Prop := ∀ next, good (build.run next).1

namespace Fresh.Gives

protected theorem pure {value : α} {good : α → Prop} (holds : good value) : Gives (Pure.pure value) good := fun _ => holds

protected theorem bind {build : Fresh α} {next : α → Fresh β} {middle : α → Prop} {good : β → Prop}
    (first : Gives build middle) (second : ∀ value, middle value → Gives (next value) good) : Gives (build >>= next) good :=
  fun number => second _ (first number) _

/-- What was made before does not matter. -/
theorem behind (build : Fresh α) {next : α → Fresh β} {good : β → Prop} (second : ∀ value, Gives (next value) good) :
    Gives (build >>= next) good :=
  fun _ => second _ _

theorem data {type : DataType} {value : Value} {good : Data → Prop} (holds : ∀ id, good ⟨id, type, value⟩) :
    Gives (Data.make type value) good := .behind _ fun id => .pure (holds id)

theorem holding (data : Data) : Gives (Statement.make data) fun statement => statement.data = data := .behind _ fun _ => .pure rfl

/-- The statements of a new array hold the items. -/
theorem statements (items : List Data) : Gives (items.mapM Statement.make) fun all => all.map (·.data) = items := by
  induction items with
  | nil => exact .pure rfl
  | cons item rest ih =>
    rw [List.mapM_cons]
    exact .bind (holding item) fun statement same => .bind ih fun others all => .pure (by rw [List.map_cons, same, all])

end Fresh.Gives

/-- While the identities that are yet to be drawn are known ones, the outcome is good; none is drawn again later. -/
def Fresh.Makes (known : EntityId → Prop) (build : Fresh α) (good : α → Prop) : Prop :=
  ∀ next, (∀ number, next ≤ number → known (.drawn number)) → next ≤ (build.run next).2 ∧ good (build.run next).1

namespace Fresh.Makes

variable {known : EntityId → Prop}

protected theorem pure {value : α} {good : α → Prop} (holds : good value) : Makes known (Pure.pure value) good :=
  fun _ _ => ⟨Nat.le_refl _, holds⟩

protected theorem bind {build : Fresh α} {next : α → Fresh β} {middle : α → Prop} {good : β → Prop}
    (first : Makes known build middle) (second : ∀ value, middle value → Makes known (next value) good) :
    Makes known (build >>= next) good := by
  intro number free
  obtain ⟨grows, holds⟩ := first number free
  obtain ⟨grows', good⟩ := second _ holds _ fun later le => free later (Nat.le_trans grows le)
  exact ⟨Nat.le_trans grows grows', good⟩

theorem weaken {build : Fresh α} {good good' : α → Prop} (makes : Makes known build good)
    (implied : ∀ value, good value → good' value) : Makes known build good' :=
  fun number free => (makes number free).imp_right (implied _)

theorem freshId : Makes known freshId known := fun number free => ⟨Nat.le_succ _, free number (Nat.le_refl _)⟩

theorem mapM {work : α → Fresh β} {good : β → Prop} {items : List α} (each : ∀ item ∈ items, Makes known (work item) good) :
    Makes known (items.mapM work) fun values => ∀ value ∈ values, good value := by
  induction items with
  | nil => exact .pure (by simp)
  | cons item rest ih =>
    rw [List.forall_mem_cons] at each
    rw [List.mapM_cons]
    refine .bind each.1 fun value first => .bind (ih each.2) fun values others => .pure ?_
    exact List.forall_mem_cons.mpr ⟨first, others⟩

/-- Where every identity is known, it does not matter which are drawn. -/
theorem gives {build : Fresh α} {good : α → Prop} (makes : Makes (fun _ => True) build good) : build.Gives good :=
  fun number => (makes number fun _ _ => trivial).2

end Fresh.Makes

/-! ## Defaults -/

/-- What has to be shown of values and of statements, given their parts, for it to hold of all defaults. They
refer to no variable, their operations have neither a name nor a body, and the identities of their statements are drawn. -/
structure DefaultSteps (known : EntityId → Prop) (V : Value → Prop) (S : Statement → Prop) : Prop where
  undefined : V .undefined
  text : V (.text "")
  number : V (.number 0.0)
  boolean : V (.boolean false)
  array : ∀ items, (∀ item ∈ items, S item) → V (.array items)
  record : ∀ entries : List (String × Statement), (∀ entry ∈ entries, S entry.2) → V (.record entries)
  operation : ∀ parameters, (∀ parameter ∈ parameters, S parameter) → V (.operation none parameters [])
  condition : ∀ test whenTrue whenFalse, S test → S whenTrue → S whenFalse → V (.condition test whenTrue whenFalse)
  error : ∀ reason, V (.error reason)
  handle : ∀ className arguments instanceId, (∀ argument ∈ arguments, S argument) →
    V (.handle className arguments instanceId)
  statement : ∀ id data name isOptional, known id → known data.id → V data.value → S ⟨id, data, [], name, isOptional⟩

namespace DefaultSteps

open Fresh

variable {known : EntityId → Prop} {V : Value → Prop} {S : Statement → Prop}

theorem make (type : DataType) {value : Value} (holds : V value) :
    Makes known (Data.make type value) fun data => known data.id ∧ V data.value :=
  .bind .freshId fun _ drawn => .pure ⟨drawn, holds⟩

theorem alone (steps : DefaultSteps known V S) {data : Data} (holds : known data.id ∧ V data.value) :
    Makes known (Statement.make data) S :=
  .bind .freshId fun _ drawn => .pure (steps.statement _ _ _ _ drawn holds.1 holds.2)

theorem holding (steps : DefaultSteps known V S) (name : Option String) (isOptional : Bool) (type : DataType)
    {value : Fresh Value} (holds : Makes known value V) : Makes known (Statement.holding name isOptional type value) S :=
  .bind holds fun _ made => .bind (make _ made) fun _ held => .bind .freshId fun _ drawn =>
    .pure (steps.statement _ _ _ _ drawn held.1 held.2)

mutual

theorem value (steps : DefaultSteps known V S) (full : Bool) : ∀ type : DataType, Makes known (type.defaultValue full) V
  | .unknown | .never | .undefined => .pure steps.undefined
  | .string => .pure steps.text
  | .number => .pure steps.number
  | .boolean => .pure steps.boolean
  | .array element => by
    have made := steps.holding none false element (steps.value full element)
    unfold DataType.defaultValue
    split
    · exact .pure (steps.array [] (by simp))
    · exact .pure (steps.array [] (by simp))
    · exact .bind made fun item holds => .pure (steps.array _ (List.forall_mem_singleton.mpr holds))
  | .tuple elements => .bind (steps.statements full elements) fun _ made => .pure (steps.array _ made)
  | .object properties required =>
    .bind (steps.entries full required properties) fun _ made => .pure (steps.record _ made)
  | .dictionary element => by
    have made := steps.holding none false element (steps.value full element)
    unfold DataType.defaultValue
    split
    · exact .pure (steps.record [] (by simp))
    · exact .pure (steps.record [] (by simp))
    · exact .bind made fun entry holds => .pure (steps.record _ (List.forall_mem_singleton.mpr holds))
  | .union members active => by
    have each := steps.members full members
    unfold DataType.defaultValue
    cases chosen : (defaultMember members active).bind ((memberDefaults full members)[·]?) with
    | none => exact .pure steps.undefined
    | some value =>
      obtain ⟨index, _, found⟩ := Option.bind_eq_some_iff.mp chosen
      exact each value (List.mem_of_getElem? found)
  | .operation parameters _ => .bind (steps.parameters full parameters) fun _ made => .pure (steps.operation _ made)
  | .condition result => by
    have branch := steps.holding none false result (steps.value full result)
    exact .bind (make _ steps.boolean) fun _ held => .bind (steps.alone held) fun _ first =>
      .bind branch fun _ second => .bind branch fun _ third => .pure (steps.condition _ _ _ first second third)
  | .reference target => steps.value full target
  | .error _ => .pure (steps.error _)
  | .instanceOf className arguments =>
    .bind (steps.parameters full arguments) fun _ made => .bind .freshId fun _ _ => .pure (steps.handle _ _ _ made)
termination_by structural type => type

theorem statements (steps : DefaultSteps known V S) (full : Bool) : ∀ types : List DataType,
    Makes known (defaultStatements full types) fun statements => ∀ statement ∈ statements, S statement
  | [] => .pure (by simp)
  | type :: rest =>
    .bind (steps.holding none false type (steps.value full type)) fun _ made =>
      .bind (steps.statements full rest) fun _ others => .pure (List.forall_mem_cons.mpr ⟨made, others⟩)
termination_by structural types => types

theorem entries (steps : DefaultSteps known V S) (full : Bool) (required : List String) :
    ∀ properties : List (String × DataType),
      Makes known (defaultEntries full required properties) fun entries => ∀ entry ∈ entries, S entry.2
  | [] => .pure (by simp)
  | (key, type) :: rest => by
    have others := steps.entries full required rest
    have made := steps.holding none false type (steps.value full type)
    unfold defaultEntries
    split
    · exact .bind made fun _ first => .bind others fun _ all => .pure (List.forall_mem_cons.mpr ⟨first, all⟩)
    · exact others
termination_by structural properties => properties

theorem parameters (steps : DefaultSteps known V S) (full : Bool) : ∀ parameters : List Parameter,
    Makes known (defaultParameters full parameters) fun statements => ∀ statement ∈ statements, S statement
  | [] => .pure (by simp)
  | ⟨name, type, isOptional⟩ :: rest =>
    .bind (steps.holding name isOptional type (steps.value full type)) fun _ made =>
      .bind (steps.parameters full rest) fun _ others => .pure (List.forall_mem_cons.mpr ⟨made, others⟩)
termination_by structural parameters => parameters

theorem members (steps : DefaultSteps known V S) (full : Bool) : ∀ members : List DataType,
    ∀ build ∈ memberDefaults full members, Makes known build V
  | [] => by simp [memberDefaults]
  | type :: rest => by
    rw [memberDefaults, List.forall_mem_cons]
    exact ⟨steps.value full type, steps.members full rest⟩
termination_by structural members => members

end

theorem data (steps : DefaultSteps known V S) (full : Bool) (type : DataType) :
    Makes known (type.defaultData full) fun data => known data.id ∧ V data.value :=
  .bind (steps.value full type) fun _ made => make _ made

theorem argument (steps : DefaultSteps known V S) (full : Bool) (parameter : Parameter) :
    Makes known (parameter.defaultArgument full) S :=
  .bind (steps.data full parameter.type) fun _ made number free =>
    ⟨Nat.le_succ number, steps.statement _ _ _ _ (free number (Nat.le_refl _)) made.1 made.2⟩

end DefaultSteps

end LivePipeline
