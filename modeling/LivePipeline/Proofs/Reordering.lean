import LivePipeline.Proofs.Files
import LivePipeline.Proofs.Symmetry

/-! The order of parts does not count. The members of unions, the elements of tuples and the properties of objects are
looked up rather than compared place by place, so that a type is compatible in both directions with what is left of it
when they are put into another order. An object has to declare what it requires; otherwise not even the type itself
would do. -/

namespace LivePipeline

namespace DataType

mutual

/-- The same type, but for the order of the members of unions, of the properties of objects and of the elements of
tuples, at every depth. -/
inductive Reordered : DataType → DataType → Prop where
  | unknown : Reordered unknown unknown
  | never : Reordered never never
  | undefined : Reordered undefined undefined
  | string : Reordered string string
  | number : Reordered number number
  | boolean : Reordered boolean boolean
  | error (kind : ErrorKind) : Reordered (error kind) (error kind)
  | array {element element' : DataType} (inside : Reordered element element') : Reordered (array element) (array element')
  | dictionary {element element' : DataType} (inside : Reordered element element') :
    Reordered (dictionary element) (dictionary element')
  | condition {result result' : DataType} (inside : Reordered result result') : Reordered (condition result) (condition result')
  | reference {target target' : DataType} (inside : Reordered target target') : Reordered (reference target) (reference target')
  | tuple {elements same elements' : List DataType} (inside : AllReordered elements same) (order : same.Perm elements') :
    Reordered (tuple elements) (tuple elements')
  | union {members same members' : List DataType} {active active' : Option Nat} (inside : AllReordered members same)
    (order : same.Perm members') : Reordered (union members active) (union members' active')
  | object {properties same properties' : Table DataType} {required required' : List String}
    (inside : PropertiesReordered properties same) (order : same.Perm properties') (listed : required.Perm required') :
    Reordered (object properties required) (object properties' required')
  | operation {parameters parameters' : List Parameter} {result result' : DataType}
    (inside : ParametersReordered parameters parameters') (outcome : Reordered result result') :
    Reordered (operation parameters result) (operation parameters' result')
  | instanceOf (className : String) {arguments arguments' : List Parameter} (inside : ParametersReordered arguments arguments') :
    Reordered (instanceOf className arguments) (instanceOf className arguments')

inductive AllReordered : List DataType → List DataType → Prop where
  | nil : AllReordered [] []
  | cons {type type' : DataType} {rest rest' : List DataType} (first : Reordered type type') (later : AllReordered rest rest') :
    AllReordered (type :: rest) (type' :: rest')

inductive PropertiesReordered : List (String × DataType) → List (String × DataType) → Prop where
  | nil : PropertiesReordered [] []
  | cons (name : String) {type type' : DataType} {rest rest' : List (String × DataType)} (first : Reordered type type')
    (later : PropertiesReordered rest rest') : PropertiesReordered ((name, type) :: rest) ((name, type') :: rest')

inductive ParametersReordered : List Parameter → List Parameter → Prop where
  | nil : ParametersReordered [] []
  | cons (name : Option String) (isOptional : Bool) {type type' : DataType} {rest rest' : List Parameter}
    (first : Reordered type type') (later : ParametersReordered rest rest') :
    ParametersReordered (⟨name, type, isOptional⟩ :: rest) (⟨name, type', isOptional⟩ :: rest')

end

/-! ## Lists of types that find each other -/

theorem interchangeable_iff_both {a b : DataType} : a.interchangeable b = true ↔ a.compatible b = true ∧ b.compatible a = true :=
  Bool.and_eq_true_iff

theorem interchangeable_symm {a b : DataType} (same : a.interchangeable b = true) : b.interchangeable a = true :=
  interchangeable_iff_both.mpr (interchangeable_iff_both.mp same).symm

/-- Two lists of as many types, in which each type finds one of the other list. -/
structure Matched (types others : List DataType) : Prop where
  length : types.length = others.length
  left : ∀ type ∈ types, ∃ other ∈ others, type.interchangeable other = true
  right : ∀ other ∈ others, ∃ type ∈ types, other.interchangeable type = true

namespace Matched

variable {types others : List DataType}

theorem nil : Matched [] [] := ⟨rfl, nofun, nofun⟩

theorem symm (matched : Matched types others) : Matched others types := ⟨matched.length.symm, matched.right, matched.left⟩

theorem cons {type other : DataType} (first : type.interchangeable other = true) (later : Matched types others) :
    Matched (type :: types) (other :: others) := by
  have grow {items partners : List DataType} {head partner : DataType} (here : head.interchangeable partner = true)
      (behind : ∀ item ∈ items, ∃ found ∈ partners, item.interchangeable found = true) :
      ∀ item ∈ head :: items, ∃ found ∈ partner :: partners, item.interchangeable found = true := by
    intro item among
    rcases List.mem_cons.mp among with rfl | rest
    · exact ⟨partner, List.mem_cons_self, here⟩
    · obtain ⟨found, present, same⟩ := behind item rest
      exact ⟨found, List.mem_cons_of_mem _ present, same⟩
  exact ⟨congrArg Nat.succ later.length, grow first later.left, grow (interchangeable_symm first) later.right⟩

theorem perm {moved : List DataType} (matched : Matched types others) (order : others.Perm moved) : Matched types moved := by
  refine ⟨matched.length.trans order.length_eq, fun type among => ?_, fun other among => ?_⟩
  · obtain ⟨other, present, same⟩ := matched.left type among
    exact ⟨other, order.subset present, same⟩
  · exact matched.right other (order.symm.subset among)

theorem fits (matched : Matched types others) : ∀ type ∈ types, ∃ other ∈ others, type.compatible other = true := by
  intro type among
  obtain ⟨other, present, same⟩ := matched.left type among
  exact ⟨other, present, (interchangeable_iff_both.mp same).1⟩

theorem covered (matched : Matched types others) : ∀ other ∈ others, ∃ type ∈ types, type.compatible other = true := by
  intro other among
  obtain ⟨type, present, same⟩ := matched.right other among
  exact ⟨type, present, (interchangeable_iff_both.mp same).2⟩

theorem union (matched : Matched types others) (active active' : Option Nat) :
    (union types active).interchangeable (union others active') = true := by
  rw [interchangeable_iff_both, union_compatible_union_iff, union_compatible_union_iff]
  exact ⟨⟨matched.length, matched.fits, matched.covered⟩, matched.symm.length, matched.symm.fits, matched.symm.covered⟩

theorem tuple (matched : Matched types others) : (tuple types).interchangeable (tuple others) = true := by
  rw [interchangeable_iff_both]
  exact ⟨eachFits_iff.mpr matched.fits, eachFits_iff.mpr matched.symm.fits⟩

end Matched

/-! ## Objects whose properties agree -/

theorem object_compatible_object_iff {properties others : Table DataType} {required demanded : List String} :
    (object properties required).compatible (object others demanded) = true ↔
      (∀ key ∈ demanded, ∃ type other, Table.get? properties key = some type ∧ Table.get? others key = some other
        ∧ type.compatible other = true) ∧ ∀ key ∈ required, Table.has others key = true := by
  simp only [compatible, offers, Bool.and_eq_true, List.all_eq_true]
  refine and_congr_left fun _ => forall₂_congr fun key _ => ?_
  rw [Option.any_eq_true]
  simp only [propertyFits_eq_any, Option.any_eq_true]
  constructor
  · rintro ⟨other, asked, type, found, fits⟩
    exact ⟨type, other, found, asked, fits⟩
  · rintro ⟨type, other, found, asked, fits⟩
    exact ⟨other, asked, type, found, fits⟩

/-- Every property has one of the same name and of an interchangeable type in the other table. -/
def Agree (properties others : Table DataType) : Prop := ∀ key type, Table.get? properties key = some type →
  ∃ other, Table.get? others key = some other ∧ type.interchangeable other = true

namespace Agree

variable {properties others : Table DataType}

theorem nil : Agree [] [] := nofun

theorem cons (name : String) {type other : DataType} (first : type.interchangeable other = true) (later : Agree properties others) :
    Agree ((name, type) :: properties) ((name, other) :: others) := by
  intro key found present
  rw [Table.get?] at present ⊢
  split at present
  · next here =>
    rw [if_pos here]
    exact ⟨other, rfl, Option.some.inj present ▸ first⟩
  · next apart =>
    rw [if_neg apart]
    exact later key found present

theorem perm {moved : Table DataType} (agree : Agree properties others) (distinct : (Table.keys others).Nodup)
    (order : others.Perm moved) : Agree properties moved := by
  intro key type present
  obtain ⟨other, found, same⟩ := agree key type present
  have distinct' : (Table.keys moved).Nodup := (order.map _).nodup_iff.mp distinct
  exact ⟨other, Table.get?_of_mem distinct' (order.subset (Table.mem_of_get? found)), same⟩

theorem object (agree : Agree properties others) {required demanded : List String} (listed : required.Perm demanded)
    (present : ∀ key ∈ required, Table.has properties key = true) :
    (object properties required).interchangeable (object others demanded) = true := by
  have both (key : String) (asked : key ∈ required) : ∃ type other, Table.get? properties key = some type
      ∧ Table.get? others key = some other ∧ type.interchangeable other = true := by
    obtain ⟨type, found⟩ := Option.isSome_iff_exists.mp (present key asked)
    obtain ⟨other, found', same⟩ := agree key type found
    exact ⟨type, other, found, found', same⟩
  rw [interchangeable_iff_both, object_compatible_object_iff, object_compatible_object_iff]
  refine ⟨⟨fun key asked => ?_, fun key asked => ?_⟩, fun key asked => ?_, fun key asked => ?_⟩
  · obtain ⟨type, other, found, found', same⟩ := both key (listed.symm.subset asked)
    exact ⟨type, other, found, found', (interchangeable_iff_both.mp same).1⟩
  · obtain ⟨_, other, _, found, _⟩ := both key asked
    exact Option.isSome_iff_exists.mpr ⟨other, found⟩
  · obtain ⟨type, other, found, found', same⟩ := both key asked
    exact ⟨other, type, found', found, (interchangeable_iff_both.mp same).2⟩
  · exact present key (listed.symm.subset asked)

end Agree

/-! ## Types in another order -/

/-- What an object requires is among its properties. -/
def Declares : DataType → Prop
  | object properties required => ∀ key ∈ required, Table.has properties key = true
  | _ => True

/-- Every object type in it declares what it requires. -/
def Complete (type : DataType) : Prop := ∀ part ∈ type.nested, part.Declares

theorem PropertiesReordered.keys : ∀ {properties others : List (String × DataType)}, PropertiesReordered properties others →
    Table.keys others = Table.keys properties
  | _, _, .nil => rfl
  | _, _, .cons name _ later => congrArg (name :: ·) later.keys

mutual

/-- A type is interchangeable with what reordering leaves of it. -/
theorem Reordered.interchangeable : ∀ {type other : DataType}, Reordered type other → type.Complete → type.Keyed →
    type.interchangeable other = true
  | _, _, .unknown, _, _ | _, _, .never, _, _ | _, _, .undefined, _, _ | _, _, .string, _, _ | _, _, .number, _, _
  | _, _, .boolean, _, _ | _, _, .error _, _, _ | _, _, .condition _, _, _ => rfl
  | _, _, .array inside, complete, keyed => inside.interchangeable (List.forall_mem_cons.mp complete).2 keyed
  | _, _, .dictionary inside, complete, keyed => inside.interchangeable (List.forall_mem_cons.mp complete).2 keyed
  | _, _, .reference inside, complete, keyed => by
    have targets := inside.interchangeable (List.forall_mem_cons.mp complete).2 keyed
    simpa only [DataType.interchangeable, compatible_reference, compatible] using targets
  | _, _, .tuple inside order, complete, keyed => ((inside.matched (List.forall_mem_cons.mp complete).2 keyed).perm order).tuple
  | _, _, .union inside order, complete, keyed => ((inside.matched (List.forall_mem_cons.mp complete).2 keyed).perm order).union _ _
  | _, _, .object inside order listed, complete, ⟨distinct, keyed⟩ => by
    obtain ⟨declared, inner⟩ := List.forall_mem_cons.mp complete
    exact ((inside.agree inner keyed).perm (inside.keys ▸ distinct) order).object listed declared
  | _, _, .operation inside outcome, complete, ⟨keyed, keyed'⟩ => by
    obtain ⟨inParameters, inResult⟩ := List.forall_mem_append.mp (List.forall_mem_cons.mp complete).2
    have results := interchangeable_iff_both.mp (outcome.interchangeable inResult keyed')
    have lists := inside.fit inParameters keyed
    rw [interchangeable_iff_both]
    simp only [compatible, offers, results, lists, Bool.and_self, and_self]
  | _, _, .instanceOf className inside, _, _ => by simp only [DataType.interchangeable, compatible, offers, beq_self_eq_true, Bool.and_self]

theorem AllReordered.matched : ∀ {types others : List DataType}, AllReordered types others →
    (∀ part ∈ nestedAll types, part.Declares) → allKeyed types → Matched types others
  | _, _, .nil, _, _ => .nil
  | _, _, .cons first later, complete, keyed => by
    obtain ⟨here, behind⟩ := List.forall_mem_append.mp complete
    exact (later.matched behind keyed.2).cons (first.interchangeable here keyed.1)

theorem PropertiesReordered.agree : ∀ {properties others : List (String × DataType)}, PropertiesReordered properties others →
    (∀ part ∈ nestedProperties properties, part.Declares) → propertiesKeyed properties → Agree properties others
  | _, _, .nil, _, _ => .nil
  | _, _, .cons name first later, complete, keyed => by
    obtain ⟨here, behind⟩ := List.forall_mem_append.mp complete
    exact (later.agree behind keyed.2).cons name (first.interchangeable here keyed.1)

theorem ParametersReordered.fit : ∀ {parameters others : List Parameter}, ParametersReordered parameters others →
    (∀ part ∈ nestedParameters parameters, part.Declares) → parametersKeyed parameters →
      parametersFit parameters others = true ∧ parametersFit others parameters = true
  | _, _, .nil, _, _ => ⟨rfl, rfl⟩
  | _, _, .cons _ _ first later, complete, keyed => by
    obtain ⟨here, behind⟩ := List.forall_mem_append.mp complete
    have types := interchangeable_iff_both.mp (first.interchangeable here keyed.1)
    have lists := later.fit behind keyed.2
    simp only [parametersFit, types, lists, Bool.and_self, and_self]

end

/-! ## Types in the same order -/

mutual

protected theorem Reordered.refl : ∀ type : DataType, Reordered type type
  | .unknown => .unknown
  | .never => .never
  | .undefined => .undefined
  | .string => .string
  | .number => .number
  | .boolean => .boolean
  | .error kind => .error kind
  | .array element => .array (.refl element)
  | .dictionary element => .dictionary (.refl element)
  | .condition result => .condition (.refl result)
  | .reference target => .reference (.refl target)
  | .tuple elements => .tuple (.refl elements) (.refl elements)
  | .union members _ => .union (.refl members) (.refl members)
  | .object properties required => .object (.refl properties) (.refl properties) (.refl required)
  | .operation parameters result => .operation (.refl parameters) (.refl result)
  | .instanceOf className arguments => .instanceOf className (.refl arguments)
termination_by structural type => type

protected theorem AllReordered.refl : ∀ types : List DataType, AllReordered types types
  | [] => .nil
  | type :: rest => .cons (.refl type) (.refl rest)
termination_by structural types => types

protected theorem PropertiesReordered.refl : ∀ properties : List (String × DataType), PropertiesReordered properties properties
  | [] => .nil
  | (name, type) :: rest => .cons name (.refl type) (.refl rest)
termination_by structural properties => properties

protected theorem ParametersReordered.refl : ∀ parameters : List Parameter, ParametersReordered parameters parameters
  | [] => .nil
  | ⟨name, type, isOptional⟩ :: rest => .cons name isOptional (.refl type) (.refl rest)
termination_by structural parameters => parameters

end

/-- A type whose objects declare what they require is compatible with itself and, in both directions, with every type that
differs from it only in the order of members, properties and elements. -/
theorem compatible_in_any_order (type : DataType) (complete : type.Complete) (keyed : type.Keyed) :
    type.compatible type = true
      ∧ ∀ other : DataType, type.Reordered other → type.compatible other = true ∧ other.compatible type = true := by
  have both (other : DataType) (reordered : type.Reordered other) := interchangeable_iff_both.mp (reordered.interchangeable complete keyed)
  exact ⟨(both type (.refl type)).1, both⟩

/-- The properties, the members and the elements change places, at three depths. -/
theorem compatible_in_any_order_nested :
    let shape (first second : DataType) := tuple [first, second, string]
    let type := object [("shape", union [shape number boolean, undefined] (some 0)), ("size", array number)] ["size"]
    let other := object [("size", array number), ("shape", union [undefined, shape boolean number] (some 0))] ["size"]
    type.Complete ∧ type.Keyed ∧ type.Reordered other ∧ type.compatible other = true ∧ other.compatible type = true := by
  intro shape type other
  have complete : type.Complete := by simp [type, shape, Complete, nested, nestedAll, nestedProperties, Declares, Table.has, Table.get?]
  have keyed : type.Keyed := by simp [type, shape, Keyed, propertiesKeyed, Table.keys]
  have elements : Reordered (shape number boolean) (shape boolean number) := .tuple (.refl _) (.swap _ _ _)
  have members : Reordered (union [shape number boolean, undefined] (some 0)) (union [undefined, shape boolean number] (some 0)) :=
    .union (.cons elements (.refl _)) (.swap _ _ _)
  have reordered : type.Reordered other := .object (.cons "shape" members (.refl _)) (.swap _ _ _) (.refl _)
  exact ⟨complete, keyed, reordered, (compatible_in_any_order type complete keyed).2 other reordered⟩

/-- What is required has to be declared. -/
example : (object [("size", number)] ["shape"]).compatible (object [("size", number)] ["shape"]) = false := by decide

end DataType

end LivePipeline
