import Rally.Config.Json

/-! # What a schema's acceptance says about a value

`Schema.validate` walks the fields and the items with its own recursion; here it is read as
`List.all` over them, and the facts the engine relies on are drawn from an accepted value: its
type, that each known property and each item passes its own schema, that required keys are
present, and that a closed schema has no unknown key.
-/

set_option autoImplicit false

namespace Rally.Engine

theorem mem_of_lookup {fields : List (String × Json)} {key : String} {value : Json}
    (h : fields.lookup key = some value) : (key, value) ∈ fields := by
  obtain ⟨pre, post, rfl, -⟩ := List.lookup_eq_some_iff.mp h
  simp

theorem lookup_replace_ne {fields : List (String × Json)} {key other : String} {value : Json}
    (ne : other ≠ key) :
    (fields.map fun field => if field.1 = key then (key, value) else field).lookup other =
      fields.lookup other := by
  induction fields with
  | nil => rfl
  | cons field rest ih =>
    obtain ⟨k, v⟩ := field
    by_cases same : k = key
    · subst same
      simp only [List.map_cons, if_true, List.lookup_cons, beq_false_of_ne ne, ih]
    · simp only [List.map_cons, same, if_false, List.lookup_cons, ih]

/-- `d[key] = value` leaves the other keys as they were. -/
theorem lookup_setField_ne {fields : List (String × Json)} {key other : String} {value : Json}
    (ne : other ≠ key) : (setField fields key value).lookup other = fields.lookup other := by
  unfold setField
  split
  · exact lookup_replace_ne ne
  · simp only [List.lookup_append, List.lookup_cons, beq_false_of_ne ne, List.lookup_nil, Option.or_none]

namespace Schema

/-- What `properties`, `patternProperties` and `additionalProperties` ask of one field. -/
def fieldOk (schema : Schema) (field : String × Json) : Bool :=
  (match schema.properties.lookup field.1 with
    | some sub => sub.validate field.2
    | none => true) &&
  (match schema.patternAll with
    | some sub => sub.validate field.2
    | none => true) &&
  (schema.additionalProperties || (schema.properties.lookup field.1).isSome || schema.patternAll.isSome)

/-- What `items` asks of one element. -/
def itemOk (item : Option Schema) (value : Json) : Bool :=
  match item with
  | some sub => sub.validate value
  | none => true

theorem validateFields_eq_all (schema : Schema) (fields : List (String × Json)) :
    schema.validateFields fields = fields.all schema.fieldOk := by
  induction fields with
  | nil => simp [validateFields]
  | cons field rest ih =>
    obtain ⟨key, value⟩ := field
    rw [validateFields, ih, List.all_cons]
    rfl

theorem validateItems_eq_all (item : Option Schema) (items : List Json) :
    validateItems item items = items.all (itemOk item) := by
  induction items with
  | nil => simp [validateItems]
  | cons value rest ih =>
    simp only [validateItems, ih, List.all_cons]
    rfl

theorem validate_object (schema : Schema) (fields : List (String × Json)) :
    schema.validate (.object fields) =
      (schema.typeOk (.object fields) && fields.all schema.fieldOk &&
        schema.required.all fun key => (fields.lookup key).isSome) := by
  rw [validate, validateFields_eq_all]

theorem validate_array (schema : Schema) (items : List Json) :
    schema.validate (.array items) =
      (schema.typeOk (.array items) && items.all (itemOk schema.items) &&
        decide (schema.minItems ≤ items.length)) := by
  rw [validate, validateItems_eq_all]

@[simp] theorem validate_string (schema : Schema) (s : String) :
    schema.validate (.string s) = schema.typeOk (.string s) := rfl

@[simp] theorem validate_number (schema : Schema) (n : ℚ) :
    schema.validate (.number n) = schema.typeOk (.number n) := rfl

variable {schema sub : Schema} {value : Json} {fields : List (String × Json)} {items : List Json}

/-- A value accepted by a schema of type `object` is a dict. -/
theorem object_of_validate (type : schema.type = some .object) (valid : schema.validate value = true) :
    ∃ fields, value = .object fields := by
  cases value <;> simp_all [validate, typeOk, Json.hasType]

/-- A value accepted by a schema of type `array` is a list. -/
theorem array_of_validate (type : schema.type = some .array) (valid : schema.validate value = true) :
    ∃ items, value = .array items := by
  cases value <;> simp_all [validate, typeOk, Json.hasType]

theorem fieldOk_of_validate (valid : schema.validate (.object fields) = true) {field : String × Json}
    (mem : field ∈ fields) : schema.fieldOk field = true := by
  rw [validate_object] at valid
  simp only [Bool.and_eq_true, List.all_eq_true] at valid
  exact valid.1.2 field mem

/-- Each known property of an accepted dict passes its own schema. -/
theorem property_of_validate (valid : schema.validate (.object fields) = true) {key : String}
    (mem : (key, value) ∈ fields) (prop : schema.properties.lookup key = some sub) :
    sub.validate value = true := by
  have ok := fieldOk_of_validate valid mem
  simp only [fieldOk, prop, Bool.and_eq_true] at ok
  exact ok.1.1

/-- With `patternProperties` `".*"`, every field passes the pattern's schema. -/
theorem pattern_of_validate (valid : schema.validate (.object fields) = true) {key : String}
    (mem : (key, value) ∈ fields) (pattern : schema.patternAll = some sub) :
    sub.validate value = true := by
  have ok := fieldOk_of_validate valid mem
  simp only [fieldOk, pattern, Bool.and_eq_true] at ok
  exact ok.1.2

/-- A closed schema without patterns accepts only its own keys. -/
theorem known_of_validate (valid : schema.validate (.object fields) = true) {key : String}
    (mem : (key, value) ∈ fields) (closed : schema.additionalProperties = false)
    (noPattern : schema.patternAll = none) : (schema.properties.lookup key).isSome := by
  have ok := fieldOk_of_validate valid mem
  simp only [fieldOk, closed, noPattern, Bool.and_eq_true, Bool.false_or, Option.isSome_none,
    Bool.or_false] at ok
  exact ok.2

/-- An accepted dict has every required key. -/
theorem required_of_validate (valid : schema.validate (.object fields) = true) {key : String}
    (required : key ∈ schema.required) : (fields.lookup key).isSome := by
  rw [validate_object] at valid
  simp only [Bool.and_eq_true, List.all_eq_true] at valid
  exact valid.2 key required

/-- Each element of an accepted list passes the `items` schema. -/
theorem item_of_validate (valid : schema.validate (.array items) = true) (item : schema.items = some sub)
    (mem : value ∈ items) : sub.validate value = true := by
  rw [validate_array] at valid
  simp only [Bool.and_eq_true, List.all_eq_true] at valid
  simpa [itemOk, item] using valid.1.2 value mem

end Schema

end Rally.Engine
