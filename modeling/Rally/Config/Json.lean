import Mathlib.Algebra.Order.Ring.Unbundled.Rat
import Mathlib.Data.List.Infix

/-! # Python values of a task document and the draft-4 keywords of its schemas

`TaskConfig` receives the document as `json.loads` builds it and reads it with `dict` and `list`
operations.  `Json` is that value; `getItem`, `get`, `setItem`, `iter`, `contains`, `items` and
`truthy` are the Python operations the engine applies to it, failing as Python fails on a value of
the wrong shape (`KeyError`, `TypeError`, `AttributeError`).

`Schema` holds the draft-4 keywords that `HOOK_CONFIG`, `CONFIG_SCHEMA_V1` and
`CONFIG_SCHEMA_V2` use (`type`, `properties`, `patternProperties` with the single pattern `".*"`,
`required`, `additionalProperties: False`, `items`, `minItems`), and `Schema.validate` is what
`jsonschema.validate` decides for them.
-/

set_option autoImplicit false

namespace Rally.Engine

/-- A value of a parsed task document: `None`, a bool, a number (an `int` or a `float`, read as
an exact rational), a string, a list, or a dict, whose keys keep their insertion order. -/
inductive Json where
  | null
  | bool (b : Bool)
  | number (n : ℚ)
  | string (s : String)
  | array (items : List Json)
  | object (fields : List (String × Json))

/-- What an `InvalidTaskException` of `TaskConfig` reports: an unsupported version, with the
versions it lists ("Task configuration version ... is not supported. Supported versions: 1, 2"),
or a schema violation. -/
inductive InvalidTask where
  | unsupportedVersion (version : Json) (supported : List Nat)
  | schemaViolation

/-- The Python exceptions a task document can cause, and the engine's own. -/
inductive PyError where
  | keyError (key : String)
  | typeError
  | attributeError
  /-- `exceptions.InvalidTaskException`, with what its message reports. -/
  | invalidTask (reason : InvalidTask)
  /-- `exceptions.InvalidTaskConfig(**kw)`, with `kw` from `Workload.make_exception_args`. -/
  | invalidTaskConfig (kw : Json)
  /-- Any other exception, such as the `Exception` for an empty input. -/
  | other (message : String)

/-- An exception that comes from the shape of a value rather than from the engine's checks. -/
def PyError.isShapeError : PyError → Bool
  | .keyError _ | .typeError | .attributeError => true
  | _ => false

/-- `d[key] = value` on the fields of a dict: replaced in place when present, appended
otherwise. -/
def setField (fields : List (String × Json)) (key : String) (value : Json) : List (String × Json) :=
  if (fields.lookup key).isSome then fields.map fun field => if field.1 = key then (key, value) else field
  else fields ++ [(key, value)]

/-- `d.setdefault(key, value)` on the fields of a dict. -/
def setDefault (fields : List (String × Json)) (key : String) (value : Json) : List (String × Json) :=
  if (fields.lookup key).isSome then fields else fields ++ [(key, value)]

namespace Json

/-- `d[key]` with a string key. -/
def getItem : Json → String → Except PyError Json
  | .object fields, key => match fields.lookup key with
    | some value => .ok value
    | none => .error (.keyError key)
  | _, _ => .error .typeError

/-- `d.get(key, default)`. -/
def get : Json → String → Json → Except PyError Json
  | .object fields, key, default => .ok ((fields.lookup key).getD default)
  | _, _, _ => .error .attributeError

/-- `d[key] = value`. -/
def setItem : Json → String → Json → Except PyError Json
  | .object fields, key, value => .ok (.object (setField fields key value))
  | _, _, _ => .error .typeError

/-- `for item in value`: the items of a list, the keys of a dict, the characters of a string. -/
def iter : Json → Except PyError (List Json)
  | .array items => .ok items
  | .object fields => .ok (fields.map fun field => .string field.1)
  | .string s => .ok (s.toList.map fun c => .string c.toString)
  | _ => .error .typeError

/-- `key in value` for a string `key`. -/
def contains : Json → String → Except PyError Bool
  | .object fields, key => .ok (fields.lookup key).isSome
  | .array items, key => .ok (items.any fun | .string s => s == key | _ => false)
  | .string s, key => .ok (decide (List.IsInfix key.toList s.toList))
  | _, _ => .error .typeError

/-- `value.items()`. -/
def items : Json → Except PyError (List (String × Json))
  | .object fields => .ok fields
  | _ => .error .attributeError

/-- Python truthiness: `None`, `False`, `0`, `""`, `[]` and `{}` are false. -/
def truthy : Json → Bool
  | .null => false
  | .bool b => b
  | .number n => n != 0
  | .string s => !s.isEmpty
  | .array items => !items.isEmpty
  | .object fields => !fields.isEmpty

@[simp] theorem getItem_object (fields : List (String × Json)) (key : String) :
    (object fields).getItem key = match fields.lookup key with
      | some value => .ok value
      | none => .error (.keyError key) := rfl

@[simp] theorem get_object (fields : List (String × Json)) (key : String) (default : Json) :
    (object fields).get key default = .ok ((fields.lookup key).getD default) := rfl

end Json

/-! ## Schemas -/

/-- The JSON types draft 4 names; `number` covers `int` and `float` but not `bool`. -/
inductive JsonType where
  | object
  | array
  | string
  | number
  | boolean
  deriving DecidableEq, Repr

def Json.hasType : Json → JsonType → Bool
  | .object _, .object | .array _, .array | .string _, .string | .number _, .number
  | .bool _, .boolean => true
  | _, _ => false

/-- The draft-4 keywords of the engine's schemas.  `patternAll` is `patternProperties` with the
single pattern `".*"`, which every key matches. -/
structure Schema where
  type : Option JsonType
  properties : List (String × Schema)
  patternAll : Option Schema
  required : List String
  additionalProperties : Bool
  items : Option Schema
  minItems : Nat

/-- `{}`: every value. -/
def Schema.any : Schema :=
  ⟨none, [], none, [], true, none, 0⟩

/-- `{"type": ...}`. -/
def Schema.ofType (type : JsonType) : Schema :=
  { Schema.any with type := some type }

def Schema.typeOk (schema : Schema) (value : Json) : Bool :=
  schema.type.all value.hasType

mutual

/-- `jsonschema.validate(value, schema)` succeeds. -/
def Schema.validate (schema : Schema) : Json → Bool
  | .object fields =>
    schema.typeOk (.object fields) && schema.validateFields fields &&
      schema.required.all fun key => (fields.lookup key).isSome
  | .array items =>
    schema.typeOk (.array items) && Schema.validateItems schema.items items &&
      decide (schema.minItems ≤ items.length)
  | value => schema.typeOk value

/-- `properties`, `patternProperties` and `additionalProperties` on the fields of a dict. -/
def Schema.validateFields (schema : Schema) : List (String × Json) → Bool
  | [] => true
  | (key, value) :: rest =>
    (match schema.properties.lookup key with
      | some sub => sub.validate value
      | none => true) &&
    (match schema.patternAll with
      | some sub => sub.validate value
      | none => true) &&
    (schema.additionalProperties || (schema.properties.lookup key).isSome ||
      schema.patternAll.isSome) &&
    schema.validateFields rest

/-- `items` on the elements of a list. -/
def Schema.validateItems (item : Option Schema) : List Json → Bool
  | [] => true
  | value :: rest =>
    (match item with
      | some sub => sub.validate value
      | none => true) && Schema.validateItems item rest

end

end Rally.Engine
