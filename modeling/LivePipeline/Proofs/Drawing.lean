import LivePipeline.Node.Plain
import LivePipeline.Node.Default
import LivePipeline.Evaluation.Fault
import LivePipeline.Operation.Http
import LivePipeline.Operation.Sequence
import LivePipeline.Operation.Record

/-! New nodes take their identities from a counter that never goes back, so an identity that was drawn
is not drawn again. -/

namespace LivePipeline

/-- The counter does not go back. -/
def Fresh.Grows (build : Fresh α) : Prop := ∀ next, next ≤ (build.run next).2

namespace Fresh.Grows

protected theorem pure (value : α) : Grows (Pure.pure value) := fun _ => Nat.le_refl _

theorem freshId : Grows freshId := fun next => Nat.le_succ next

protected theorem bind {build : Fresh α} {next : α → Fresh β} (first : Grows build) (second : ∀ value, Grows (next value)) :
    Grows (build >>= next) :=
  fun number => Nat.le_trans (first number) (second _ _)

theorem mapM {work : α → Fresh β} (each : ∀ item, Grows (work item)) (items : List α) : Grows (items.mapM work) := by
  induction items with
  | nil => exact .pure []
  | cons item rest ih =>
    rw [List.mapM_cons]
    exact .bind (each item) fun _ => .bind ih fun _ => .pure _

theorem make (type : DataType) (value : Value) : Grows (Data.make type value) := .bind freshId fun _ => .pure _

theorem undefined : Grows Data.undefined := make _ _

theorem text (value : String) : Grows (Data.text value) := make _ _

theorem number (value : Float) : Grows (Data.number value) := make _ _

theorem boolean (value : Bool) : Grows (Data.boolean value) := make _ _

theorem error (kind : ErrorKind) (reason : String) : Grows (Data.error kind reason) := make _ _

theorem fault (fault : Fault) : Grows fault.data := error _ _

theorem statement (data : Data) : Grows (Statement.make data) := .bind freshId fun _ => .pure _

theorem array (items : List Data) (fallback : DataType) : Grows (Data.array items fallback) :=
  .bind (mapM statement items) fun _ => make _ _

theorem object (entries : List (String × Data)) : Grows (Data.object entries) :=
  .bind (mapM (fun _ => .bind (statement _) fun _ => .pure _) entries) fun _ => make _ _

mutual

theorem ofPlain : ∀ json : Json, Grows (Data.ofPlain json)
  | .null => undefined
  | .bool value => boolean value
  | .int value => number (floatOfInt value)
  | .float value => number value
  | .text value => text value
  | .array items => .bind (ofItems items) fun _ => array _ _
  | .object fields => .bind (ofFields fields) fun _ => object _

theorem ofItems : ∀ items : List Json, Grows (dataOfItems items)
  | [] => .pure []
  | item :: rest => .bind (ofPlain item) fun _ => .bind (ofItems rest) fun _ => .pure _

theorem ofFields : ∀ fields : List (String × Json), Grows (dataOfFields fields)
  | [] => .pure []
  | (_, value) :: rest => .bind (ofPlain value) fun _ => .bind (ofFields rest) fun _ => .pure _

end

/-! ## Defaults -/

theorem holding (name : Option String) (isOptional : Bool) (type : DataType) {value : Fresh Value} (grows : Grows value) :
    Grows (Statement.holding name isOptional type value) :=
  .bind grows fun _ => .bind (make _ _) fun _ => .bind freshId fun _ => .pure _

mutual

theorem defaultValue (full : Bool) : ∀ type : DataType, Grows (type.defaultValue full)
  | .unknown | .never | .undefined | .string | .number | .boolean | .error _ => .pure _
  | .array element => by
    have made := holding none false element (defaultValue full element)
    unfold DataType.defaultValue
    split
    · exact .pure _
    · exact .pure _
    · exact .bind made fun _ => .pure _
  | .tuple elements => .bind (statements full elements) fun _ => .pure _
  | .object properties required => .bind (entries full required properties) fun _ => .pure _
  | .dictionary element => by
    have made := holding none false element (defaultValue full element)
    unfold DataType.defaultValue
    split
    · exact .pure _
    · exact .pure _
    · exact .bind made fun _ => .pure _
  | .union members active => by
    have each := memberDefaults_grow full members
    unfold DataType.defaultValue
    cases chosen : (defaultMember members active).bind ((memberDefaults full members)[·]?) with
    | none => exact .pure _
    | some value =>
      obtain ⟨index, _, found⟩ := Option.bind_eq_some_iff.mp chosen
      exact each value (List.mem_of_getElem? found)
  | .operation parameters _ => .bind (defaultParameters_grow full parameters) fun _ => .pure _
  | .condition result =>
    have branch := holding none false result (defaultValue full result)
    .bind (boolean _) fun _ => .bind (statement _) fun _ => .bind branch fun _ => .bind branch fun _ => .pure _
  | .reference target => defaultValue full target
  | .instanceOf _ arguments => .bind (defaultParameters_grow full arguments) fun _ => .bind freshId fun _ => .pure _
termination_by structural type => type

theorem statements (full : Bool) : ∀ types : List DataType, Grows (defaultStatements full types)
  | [] => .pure []
  | type :: rest => .bind (holding none false type (defaultValue full type)) fun _ =>
      .bind (statements full rest) fun _ => .pure _
termination_by structural types => types

theorem entries (full : Bool) (required : List String) :
    ∀ properties : List (String × DataType), Grows (defaultEntries full required properties)
  | [] => .pure []
  | (key, type) :: rest => by
    have others := entries full required rest
    have made := holding none false type (defaultValue full type)
    unfold defaultEntries
    split
    · exact .bind made fun _ => .bind others fun _ => .pure _
    · exact others
termination_by structural properties => properties

theorem defaultParameters_grow (full : Bool) : ∀ parameters : List Parameter, Grows (defaultParameters full parameters)
  | [] => .pure []
  | ⟨name, type, isOptional⟩ :: rest =>
    .bind (holding name isOptional type (defaultValue full type)) fun _ =>
      .bind (defaultParameters_grow full rest) fun _ => .pure _
termination_by structural parameters => parameters

theorem memberDefaults_grow (full : Bool) : ∀ members : List DataType, ∀ build ∈ memberDefaults full members, Grows build
  | [] => by simp [memberDefaults]
  | type :: rest => by
    rw [memberDefaults, List.forall_mem_cons]
    exact ⟨defaultValue full type, memberDefaults_grow full rest⟩
termination_by structural members => members

end

theorem defaultData (full : Bool) (type : DataType) : Grows (type.defaultData full) :=
  .bind (defaultValue full type) fun _ => make _ _

theorem defaultArgument (full : Bool) (parameter : Parameter) : Grows (parameter.defaultArgument full) :=
  .bind (defaultData full parameter.type) fun _ => .bind (statement _) fun _ => .pure _

/-! ## Results of operations -/

theorem withItems (data : Data) (items : List Statement) : Grows (Operation.withItems data items) := make _ _

theorem withEntries (data : Data) (entries : Table Statement) : Grows (Operation.withEntries data entries) := make _ _

theorem keepAnswered : ∀ pairs : List (Statement × Data), Grows (Operation.keepAnswered pairs)
  | [] => .pure []
  | (item, answer) :: rest => by
    have others := keepAnswered rest
    unfold Operation.keepAnswered
    split
    · exact .bind (statement answer) fun _ => .bind others fun _ => .pure _
    · exact .bind others fun _ => .pure _

theorem responseData (response : Response) : Grows (Operation.responseData response) :=
  .bind (number _) fun _ => .bind (boolean _) fun _ => .bind (text _) fun _ => object _

end Fresh.Grows

end LivePipeline
