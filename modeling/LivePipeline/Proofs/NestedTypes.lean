import LivePipeline.Proofs.ResultTypes.Fitting

/-! The types inside of a type. A property of types that is asked for at every depth is asked of each of them. -/

namespace LivePipeline.DataType

mutual

/-- A type and the types inside of it, at every depth. -/
def nested : DataType → List DataType
  | array element => array element :: nested element
  | tuple elements => tuple elements :: nestedAll elements
  | object properties required => object properties required :: nestedProperties properties
  | dictionary element => dictionary element :: nested element
  | union members active => union members active :: nestedAll members
  | operation parameters result => operation parameters result :: (nestedParameters parameters ++ nested result)
  | condition result => condition result :: nested result
  | reference target => reference target :: nested target
  | instanceOf className arguments => instanceOf className arguments :: nestedParameters arguments
  | error kind => [error kind]
  | unknown => [unknown]
  | never => [never]
  | undefined => [undefined]
  | string => [string]
  | number => [number]
  | boolean => [boolean]
termination_by structural type => type

def nestedAll : List DataType → List DataType
  | [] => []
  | type :: rest => nested type ++ nestedAll rest
termination_by structural types => types

def nestedProperties : List (String × DataType) → List DataType
  | [] => []
  | (_, type) :: rest => nested type ++ nestedProperties rest
termination_by structural properties => properties

def nestedParameters : List Parameter → List DataType
  | [] => []
  | ⟨_, type, _⟩ :: rest => nested type ++ nestedParameters rest
termination_by structural parameters => parameters

end

theorem nestedAll_eq_flatMap (types : List DataType) : nestedAll types = types.flatMap nested := by
  induction types with
  | nil => rfl
  | cons type rest ih => rw [nestedAll, ih, List.flatMap_cons]

theorem mem_nested_self (type : DataType) : type ∈ type.nested := by
  cases type <;> exact List.mem_cons_self

theorem nested_subset_nestedAll {types : List DataType} {type : DataType} (among : type ∈ types) :
    type.nested ⊆ nestedAll types := by
  intro part within
  rw [nestedAll_eq_flatMap]
  exact List.mem_flatMap.mpr ⟨type, among, within⟩

theorem nested_dereference_subset (type : DataType) : type.dereference.nested ⊆ type.nested := by
  fun_induction dereference type with
  | case1 target ih => exact List.subset_cons_of_subset _ ih
  | case2 => exact List.Subset.refl _

mutual

/-- What is inside of an alternative is inside of the type. -/
theorem nested_alternative_subset : ∀ type : DataType, ∀ part ∈ type.alternatives, part.nested ⊆ type.nested
  | union members _, part, among => List.subset_cons_of_subset _ (nested_alternativesAll_subset members part among)
  | reference target, part, among => List.subset_cons_of_subset _ (nested_alternative_subset target part among)
  | unknown, part, among | never, part, among | undefined, part, among | string, part, among | number, part, among
  | boolean, part, among | array _, part, among | tuple _, part, among | object _ _, part, among | dictionary _, part, among
  | operation _ _, part, among | condition _, part, among | error _, part, among | instanceOf _ _, part, among => by
    obtain rfl := List.mem_singleton.mp among
    exact List.Subset.refl _
termination_by structural type => type

theorem nested_alternativesAll_subset : ∀ types : List DataType, ∀ part ∈ alternativesAll types, part.nested ⊆ nestedAll types
  | [], _, among => nomatch among
  | type :: rest, part, among => by
    rw [nestedAll]
    rcases List.mem_append.mp among with here | later
    · exact List.subset_append_of_subset_left _ (nested_alternative_subset type part here)
    · exact List.subset_append_of_subset_right _ (nested_alternativesAll_subset rest part later)
termination_by structural types => types

end

end LivePipeline.DataType
