import Mathlib.Logic.Basic
import LivePipeline.Proofs.ResultTypes.Fitting

/-! References are transparent to compatibility. Whether two types are compatible does not depend on where in
them, and how often, a type stands behind a reference: taking every reference away, at every depth,
changes no answer. -/

namespace LivePipeline.DataType

mutual

/-- The type without any reference, those in its parts included. -/
def erase : DataType → DataType
  | reference target => erase target
  | array element => array (erase element)
  | tuple elements => tuple (eraseAll elements)
  | object properties required => object (eraseProperties properties) required
  | dictionary element => dictionary (erase element)
  | union members active => union (eraseAll members) active
  | operation parameters result => operation (eraseParameters parameters) (erase result)
  | condition result => condition (erase result)
  | instanceOf className arguments => instanceOf className (eraseParameters arguments)
  | error kind => error kind
  | unknown => unknown
  | never => never
  | undefined => undefined
  | string => string
  | number => number
  | boolean => boolean
termination_by structural type => type

def eraseAll : List DataType → List DataType
  | [] => []
  | type :: rest => erase type :: eraseAll rest
termination_by structural types => types

def eraseProperties : List (String × DataType) → List (String × DataType)
  | [] => []
  | (name, type) :: rest => (name, erase type) :: eraseProperties rest
termination_by structural properties => properties

def eraseParameters : List Parameter → List Parameter
  | [] => []
  | ⟨name, type, isOptional⟩ :: rest => ⟨name, erase type, isOptional⟩ :: eraseParameters rest
termination_by structural parameters => parameters

end

mutual

/-- There is no reference in the type, at any depth. -/
def Bare : DataType → Prop
  | reference _ => False
  | array element | dictionary element | condition element => Bare element
  | tuple elements => allBare elements
  | object properties _ => propertiesBare properties
  | union members _ => allBare members
  | operation parameters result => parametersBare parameters ∧ Bare result
  | instanceOf _ arguments => parametersBare arguments
  | error _ | unknown | never | undefined | string | number | boolean => True
termination_by structural type => type

def allBare : List DataType → Prop
  | [] => True
  | type :: rest => Bare type ∧ allBare rest
termination_by structural types => types

def propertiesBare : List (String × DataType) → Prop
  | [] => True
  | (_, type) :: rest => Bare type ∧ propertiesBare rest
termination_by structural properties => properties

def parametersBare : List Parameter → Prop
  | [] => True
  | ⟨_, type, _⟩ :: rest => Bare type ∧ parametersBare rest
termination_by structural parameters => parameters

end

/-! ## What erasing leaves -/

mutual

theorem bare_erase : ∀ type : DataType, type.erase.Bare
  | reference target => bare_erase target
  | array element | dictionary element | condition element => bare_erase element
  | tuple elements => allBare_erase elements
  | object properties _ => propertiesBare_erase properties
  | union members _ => allBare_erase members
  | operation parameters result => ⟨parametersBare_erase parameters, bare_erase result⟩
  | instanceOf _ arguments => parametersBare_erase arguments
  | error _ | unknown | never | undefined | string | number | boolean => trivial
termination_by structural type => type

theorem allBare_erase : ∀ types : List DataType, allBare (eraseAll types)
  | [] => trivial
  | type :: rest => ⟨bare_erase type, allBare_erase rest⟩
termination_by structural types => types

theorem propertiesBare_erase : ∀ properties : List (String × DataType), propertiesBare (eraseProperties properties)
  | [] => trivial
  | (_, type) :: rest => ⟨bare_erase type, propertiesBare_erase rest⟩
termination_by structural properties => properties

theorem parametersBare_erase : ∀ parameters : List Parameter, parametersBare (eraseParameters parameters)
  | [] => trivial
  | ⟨_, type, _⟩ :: rest => ⟨bare_erase type, parametersBare_erase rest⟩
termination_by structural parameters => parameters

end

mutual

/-- Where there is no reference, nothing is taken away. -/
theorem erase_of_bare : ∀ type : DataType, type.Bare → type.erase = type
  | reference _, bare => bare.elim
  | array element, bare => congrArg array (erase_of_bare element bare)
  | dictionary element, bare => congrArg dictionary (erase_of_bare element bare)
  | condition result, bare => congrArg condition (erase_of_bare result bare)
  | tuple elements, bare => congrArg tuple (eraseAll_of_bare elements bare)
  | object properties required, bare => congrArg (object · required) (eraseProperties_of_bare properties bare)
  | union members active, bare => congrArg (union · active) (eraseAll_of_bare members bare)
  | operation parameters result, ⟨bare, bare'⟩ =>
    congrArg₂ operation (eraseParameters_of_bare parameters bare) (erase_of_bare result bare')
  | instanceOf className arguments, bare => congrArg (instanceOf className) (eraseParameters_of_bare arguments bare)
  | error _, _ | unknown, _ | never, _ | undefined, _ | string, _ | number, _ | boolean, _ => rfl
termination_by structural type => type

theorem eraseAll_of_bare : ∀ types : List DataType, allBare types → eraseAll types = types
  | [], _ => rfl
  | type :: rest, ⟨bare, others⟩ => congrArg₂ List.cons (erase_of_bare type bare) (eraseAll_of_bare rest others)
termination_by structural types => types

theorem eraseProperties_of_bare : ∀ properties : List (String × DataType),
    propertiesBare properties → eraseProperties properties = properties
  | [], _ => rfl
  | (name, type) :: rest, ⟨bare, others⟩ =>
    congrArg₂ List.cons (congrArg (name, ·) (erase_of_bare type bare)) (eraseProperties_of_bare rest others)
termination_by structural properties => properties

theorem eraseParameters_of_bare : ∀ parameters : List Parameter,
    parametersBare parameters → eraseParameters parameters = parameters
  | [], _ => rfl
  | ⟨name, type, isOptional⟩ :: rest, ⟨bare, others⟩ =>
    congrArg₂ List.cons (congrArg (Parameter.mk name · isOptional) (erase_of_bare type bare))
      (eraseParameters_of_bare rest others)
termination_by structural parameters => parameters

end

theorem eraseAll_eq_map (types : List DataType) : eraseAll types = types.map erase := by
  induction types with
  | nil => rfl
  | cons type rest ih => rw [eraseAll, ih, List.map_cons]

theorem get?_eraseProperties (properties : Table DataType) (key : String) :
    Table.get? (eraseProperties properties) key = (Table.get? properties key).map erase := by
  induction properties with
  | nil => rfl
  | cons entry rest ih =>
    rw [eraseProperties, Table.get?, Table.get?, ih]
    split <;> rfl

theorem all_isOptional_eraseParameters (parameters : List Parameter) :
    (eraseParameters parameters).all (·.isOptional) = parameters.all (·.isOptional) := by
  induction parameters with
  | nil => rfl
  | cons parameter rest ih =>
    obtain ⟨name, type, isOptional⟩ := parameter
    rw [eraseParameters, List.all_cons, List.all_cons, ih]

/-! ## References around a type -/

/-- No reference is left around the type. -/
theorem erase_kind (type : DataType) : type.erase.kind = type.dereference.kind := by
  fun_induction dereference type with
  | case1 target ih => rw [erase, ih]
  | case2 type other =>
    cases type with
    | reference target => exact absurd rfl (other target)
    | _ => rfl

theorem erase_dereference (type : DataType) : type.dereference.erase = type.erase := by
  fun_induction dereference type with
  | case1 target ih => rw [ih, erase]
  | case2 => rfl

theorem dereference_of_kind {type : DataType} (bare : type.kind ≠ .reference) : type.dereference = type := by
  cases type with
  | reference => exact absurd rfl bare
  | _ => rfl

theorem dereference_erase (type : DataType) : type.erase.dereference = type.dereference.erase := by
  have bare : type.erase.kind ≠ .reference := by
    rw [erase_kind]
    exact dereference_kind type
  rw [dereference_of_kind bare, erase_dereference]

mutual

/-- A type offers a shape with and without its references, if the shape itself is told in the same way. -/
theorem offers_erase {shape shape' : DataType → Bool}
    (same : ∀ type : DataType, type.kind ≠ .reference → shape type = shape' type.erase) :
    ∀ type : DataType, type.offers shape = type.erase.offers shape'
  | reference target => offers_erase same target
  | union members _ => offersAny_erase same members
  | unknown => rfl
  | never | undefined | string | number | boolean | array _ | tuple _ | object _ _ | dictionary _ | operation _ _
  | condition _ | error _ | instanceOf _ _ => same _ nofun
termination_by structural type => type

theorem offersAny_erase {shape shape' : DataType → Bool}
    (same : ∀ type : DataType, type.kind ≠ .reference → shape type = shape' type.erase) :
    ∀ types : List DataType, offersAny shape types = offersAny shape' (eraseAll types)
  | [] => rfl
  | type :: rest => congrArg₂ or (offers_erase same type) (offersAny_erase same rest)
termination_by structural types => types

end

/-- A type that has nothing inside to compare offers its kind. -/
theorem offers_kind_erase (kind : Kind) (type : DataType) :
    type.offers (fun other => other.kind == kind) = type.erase.offers (fun other => other.kind == kind) := by
  apply offers_erase
  intro other bare
  rw [erase_kind, dereference_of_kind bare]

/-! ## Compatibility -/

mutual

/-- Compatibility does not see references. The induction is on the first type; the second is walked by `offers`, and
a union on both sides compares member with member. -/
theorem compatible_eq_erase : ∀ a b : DataType, a.compatible b = a.erase.compatible b.erase
  | unknown, _ => rfl
  | reference target, b => by
    rw [compatible, erase]
    exact compatible_eq_erase target b
  | union members active, b => by
    have some := someFits_eq_erase members
    have each := eachFits_eq_erase members
    have bare := dereference_kind b
    rw [erase, compatible, compatible, dereference_erase]
    cases current : b.dereference with
    | reference target => exact absurd (congrArg kind current) bare
    | unknown => rfl
    | union others _ =>
      have length : (eraseAll members).length = members.length := by rw [eraseAll_eq_map, List.length_map]
      have length' : (eraseAll others).length = others.length := by rw [eraseAll_eq_map, List.length_map]
      have covered : others.all (someFits members) = (eraseAll others).all (someFits (eraseAll members)) := by
        rw [eraseAll_eq_map others, List.all_map]
        exact congrArg others.all (funext some)
      simp only [erase, each, length, length', covered]
    | _ => exact some _
  | operation parameters result, b => by
    rw [compatible, erase, compatible]
    refine offers_erase ?_ b
    intro other bare
    cases other with
    | reference => exact absurd rfl bare
    | operation others otherResult =>
      exact congrArg₂ and (compatible_eq_erase result otherResult) (parametersFit_eq_erase parameters others)
    | _ => rfl
  | array element, b => by
    rw [compatible, erase, compatible]
    refine offers_erase ?_ b
    intro other bare
    cases other with
    | reference => exact absurd rfl bare
    | array other => exact compatible_eq_erase element other
    | _ => rfl
  | dictionary element, b => by
    rw [compatible, erase, compatible]
    refine offers_erase ?_ b
    intro other bare
    cases other with
    | reference => exact absurd rfl bare
    | dictionary other => exact compatible_eq_erase element other
    | _ => rfl
  | tuple elements, b => by
    rw [compatible, erase, compatible]
    refine offers_erase ?_ b
    intro other bare
    cases other with
    | reference => exact absurd rfl bare
    | tuple others => exact eachFits_eq_erase elements others
    | _ => rfl
  | object properties required, b => by
    rw [compatible, erase, compatible]
    refine offers_erase ?_ b
    intro other bare
    cases other with
    | reference => exact absurd rfl bare
    | object others othersRequired =>
      have fits (key : String) : (Table.get? others key).any (propertyFits properties key)
          = (Table.get? (eraseProperties others) key).any (propertyFits (eraseProperties properties) key) := by
        rw [get?_eraseProperties, Option.any_map]
        exact congrArg (Option.any · _) (funext (propertyFits_eq_erase properties key))
      have present (key : String) : Table.has others key = Table.has (eraseProperties others) key := by
        rw [Table.has, Table.has, get?_eraseProperties, Option.isSome_map]
      simp only [erase, fits, funext present]
    | _ => rfl
  | instanceOf className _, b => by
    rw [compatible, erase, compatible]
    refine offers_erase ?_ b
    intro other bare
    cases other with
    | reference => exact absurd rfl bare
    | _ => rfl
  | never, b | undefined, b | string, b | number, b | boolean, b | condition _, b | error _, b => by
    rw [compatible, erase, compatible]
    exact offers_kind_erase _ b
termination_by structural a => a

theorem eachFits_eq_erase : ∀ types others : List DataType,
    eachFits types others = eachFits (eraseAll types) (eraseAll others)
  | [], _ => rfl
  | type :: rest, others => by
    have first : others.any (compatible type) = (eraseAll others).any (compatible type.erase) := by
      rw [eraseAll_eq_map, List.any_map]
      exact congrArg others.any (funext (compatible_eq_erase type))
    rw [eachFits, eraseAll, eachFits, first, eachFits_eq_erase rest others]
termination_by structural types => types

theorem someFits_eq_erase : ∀ (types : List DataType) (b : DataType),
    someFits types b = someFits (eraseAll types) b.erase
  | [], _ => rfl
  | type :: rest, b => congrArg₂ or (compatible_eq_erase type b) (someFits_eq_erase rest b)
termination_by structural types => types

theorem propertyFits_eq_erase : ∀ (properties : List (String × DataType)) (key : String) (b : DataType),
    propertyFits properties key b = propertyFits (eraseProperties properties) key b.erase
  | [], _, _ => rfl
  | (name, type) :: rest, key, b => by
    rw [propertyFits, eraseProperties, propertyFits, compatible_eq_erase type b, propertyFits_eq_erase rest key b]
termination_by structural properties => properties

theorem parametersFit_eq_erase : ∀ parameters others : List Parameter,
    parametersFit parameters others = parametersFit (eraseParameters parameters) (eraseParameters others)
  | [], others => by rw [parametersFit, eraseParameters, parametersFit, all_isOptional_eraseParameters]
  | ⟨_, type, isOptional⟩ :: rest, [] => congrArg (isOptional && ·) (parametersFit_eq_erase rest [])
  | ⟨_, type, _⟩ :: rest, ⟨_, other, _⟩ :: others =>
    congrArg₂ and (compatible_eq_erase type other) (parametersFit_eq_erase rest others)
termination_by structural parameters => parameters

end

/-- Types are compatible exactly when they are without their references. Erasing takes away every reference, inside
of parts too, and nothing else. -/
theorem references_are_transparent (a b : DataType) :
    a.compatible b = a.erase.compatible b.erase ∧ (∀ type : DataType, type.erase.Bare ∧ (type.erase = type ↔ type.Bare)) := by
  refine ⟨compatible_eq_erase a b, fun type => ?_⟩
  have bare := bare_erase type
  refine ⟨bare, fun same => ?_, erase_of_bare type⟩
  rwa [same] at bare

end LivePipeline.DataType
