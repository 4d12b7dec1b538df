import LivePipeline.Proofs.Loading.Reading

/-! What is loaded can be saved and loaded again. A statement that was read from JSON is written in a form that
is read back as that statement: every identity, type, name and flag is as it was, entries are in the same order, and no
identity is drawn. Numbers come back as equal numbers if their notation is read back so. The exception are
unions: a member that turned down the first text may take the written form of the value for another value. -/

namespace LivePipeline

/-- The numbers in a statement, at every depth. -/
def Statement.numbers (statement : Statement) : List Float := statement.nodes.filterMap Data.number?

/-- The number that a value is, or those in it at every depth. -/
def Value.numbers : Value → List Float
  | .number x => [x]
  | value => value.nodes.filterMap Data.number?

theorem Regular.numbers {nodes : List Data} (regular : Regular nodes) :
    ∀ x ∈ nodes.filterMap Data.number?, x.isFinite ∨ x = 0.0 / 0.0 := by
  intro x among
  obtain ⟨⟨id, type, value⟩, member, given⟩ := List.mem_filterMap.mp among
  cases value with
  | number y =>
    cases given
    exact regular _ member x rfl
  | _ => cases given

/-- Numbers come back equal when finite ones are read as they were written. What is not a number comes back as such. -/
theorem rewritten_same {x : Float} (known : x.isFinite ∨ x = 0.0 / 0.0) (codec : x.isFinite → rewritten x == x) :
    rewritten x == x ∨ rewritten x = x ∧ x.isNaN := by
  rcases known with finite | rfl
  · exact .inl (codec finite)
  · exact .inr ⟨rfl, rfl⟩

/-- A whole number comes back, in whichever notation it is written. -/
theorem rewritten_whole {x : Float} (finite : x.isFinite) (whole : floatOfInt (integerPart x) == x) (self : x == x) :
    rewritten x == x := by
  unfold rewritten
  rcases Json.ofNumber_finite finite with form | form <;> rw [form]
  · exact whole
  · exact self

/-- Decoding undoes encoding. Let a statement be read from JSON whose numbers are doubles, and let no data
node in it have a union for its type. Its written form is read from any state, nothing is drawn for it, and the
result is the statement itself, but for its numbers: each is the number that its notation is read as. If this
notation gives back finite numbers, the numbers are equal too. -/
theorem Statement.decode_encode (json : Json) (finite : json.Finite) (statement : Statement) (next after : Nat)
    (read : Statement.decode json next = .ok (statement, after))
    (noUnion : ∀ node ∈ statement.nodes, node.type.kind ≠ .union)
    (codec : ∀ x ∈ statement.numbers, x.isFinite → rewritten x == x) :
    (∀ counter, Statement.decode statement.encode counter = .ok (statement.mapNumbers rewritten, counter))
      ∧ ∀ x ∈ statement.numbers, rewritten x == x ∨ rewritten x = x ∧ x.isNaN := by
  have loaded := Statement.decode_loads json finite next statement after read
  have clear : Clear statement.nodes := by
    intro node among
    have kind := noUnion node among
    cases given : node.type with
    | union members active => exact absurd (congrArg DataType.kind given) kind
    | _ => rfl
  refine ⟨fun counter => congrFun (loaded.reloads clear) counter, fun x among => ?_⟩
  exact rewritten_same (loaded.regular.numbers x among) (codec x among)

/-- A list of entries without a type and a call without one: both types are written out, the identities that were
drawn are kept, and the order of the entries too. -/
theorem Statement.decode_encode_untyped :
    let entry (key : String) (value : Json) : Json :=
      .object [("key", .text key), ("value", .object [("data", .object [("value", value)])])]
    let json : Json := .object [("id", .text "s"),
      ("data", .object [("value", .array [entry "b" (.int 2), entry "a" (.text "x")])]),
      ("operations", .array [.object [("id", .text "keys"), ("value", .object [("name", .text "keys")])]])]
    ∃ statement, Statement.decode json 0 = .ok (statement, 5) ∧ statement.numbers = [2.0]
      ∧ statement.data.type = .object [("b", .number), ("a", .string)] ["b", "a"]
      ∧ ∀ counter, Statement.decode statement.encode counter = .ok (statement.mapNumbers rewritten, counter) := by
  intro entry json
  have finite : json.Finite := by
    simp only [json, entry, Json.Finite, itemsFinite, fieldsFinite, and_true, true_and]
    decide +kernel
  refine ⟨_, rfl, rfl, rfl, (Statement.decode_encode json finite _ 0 5 rfl ?_ ?_).1⟩
  · decide +kernel
  · change ∀ x ∈ [2.0], x.isFinite → rewritten x == x
    exact List.forall_mem_singleton.mpr fun finite => rewritten_whole finite (by decide +kernel) (by decide +kernel)

/-- A value that was read under a type, which may be a union, is read back under it: the member that reads the
written form gives the value that the first one gave. It must not be that the written form is one that
a member takes for another value (`Kind.mistakes`), for the union itself and for those inside of the value. -/
theorem Value.decodeAs_encode (type : DataType) (json : Json) (finite : json.Finite) (value : Value) (next after : Nat)
    (read : Value.decodeAs type json next = .ok (value, after)) (unconfused : type.confuses value = false)
    (clear : ∀ node ∈ value.nodes, node.type.confuses node.value = false)
    (codec : ∀ x ∈ value.numbers, x.isFinite → rewritten x == x) :
    (∀ counter, Value.decodeAs type value.encode counter = .ok (value.mapNumbers rewritten, counter))
      ∧ ∀ x ∈ value.numbers, rewritten x == x ∨ rewritten x = x ∧ x.isNaN := by
  have loads := shapesOf_loads json finite
  have loaded := typed_loads loads finite type next value after read
  have reloads := typed_reloads loads finite type next value after read unconfused clear
  refine ⟨fun counter => congrFun reloads counter, fun x among => rewritten_same ?_ (codec x among)⟩
  cases value with
  | number y =>
    cases List.mem_singleton.mp among
    exact (loaded.number _ rfl).imp_right (·.2)
  | _ => exact loaded.regular.numbers x among

/-- The active member turns the object down, and so it does the list of entries that is written for it. The entry
itself has a union for its type. -/
theorem Value.decodeAs_encode_entries :
    let optional : DataType := .union [.string, .undefined] (some 0)
    let type : DataType := .union [.array optional, .union [.number, .dictionary optional] none] (some 0)
    let absent : Json := .object [("id", .text "d"), ("type", optional.encode), ("value", .null)]
    let json : Json := .object [("a", .object [("id", .text "s"), ("data", absent)])]
    let value : Value := .record [("a", ⟨"s", ⟨"d", optional, .undefined⟩, [], none, false⟩)]
    Value.decodeAs type json 0 = .ok (value, 0) ∧ ∀ counter, Value.decodeAs type value.encode counter = .ok (value, counter) := by
  intro optional type absent json value
  have finite : json.Finite := by
    simp only [json, absent, optional, DataType.encode, DataType.tagged, DataType.encodeAll, Option.toList, List.map_cons,
      List.map_nil, Json.Finite, itemsFinite, fieldsFinite, and_true, true_and]
    decide +kernel
  have read : Value.decodeAs type json 0 = .ok (value, 0) := rfl
  have clear : ∀ node ∈ value.nodes, node.type.confuses node.value = false := by decide
  have numbers : value.numbers = [] := rfl
  exact ⟨read, (Value.decodeAs_encode type json finite value 0 0 read rfl clear (by simp [numbers])).1⟩

/-- A dictionary without entries is written as an empty list, which is read as an array if the union has an
array before the dictionary. -/
theorem empty_dictionary_reread_as_array :
    let type : DataType := .union [.array .string, .dictionary .string] none
    Value.decodeAs type (.object []) 0 = .ok (.record [], 0)
      ∧ Value.decodeAs type (Value.record []).encode 0 = .ok (.array [], 0)
      ∧ type.confuses (.record []) = true := ⟨rfl, rfl, rfl⟩

end LivePipeline
