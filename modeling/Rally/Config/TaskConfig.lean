import Rally.Config.Json

/-! # `TaskConfig`, `SubTask` and `Workload`

The version-aware wrapper around a task document.  `TaskConfig.init` is `TaskConfig.__init__`:
the empty-input check, `_get_version`, `_validate_version`, `_validate_json` against
`CONFIG_SCHEMA_V1` or `CONFIG_SCHEMA_V2`, the top-level fields, and `_make_subtasks`, which builds
`SubTask`s directly from a version-2 document and, for a version-1 document, one single-workload
subtask per scenario entry, after copying the entry and adding its scenario name.

`SubTask.init` and `Workload.init` read the dicts they are given with `[]` and `.get`, so on a
document the schemas did not check they can fail with `KeyError` or `TypeError`.
-/

set_option autoImplicit false

namespace Rally.Engine

/-- Modelled from the spec: the scenario plugins are not under src/.  What the engine asks of the
class `scenario.Scenario.get(name)` returns. -/
structure ScenarioCls where
  /-- `get_info()["title"]`. -/
  title : String
  /-- `get_namespace()`, the platform of the scenario. -/
  platform : String
  /-- `get_default_context()`. -/
  defaultContext : List (String × Json)

/-- Modelled from the spec: `scenario.Scenario.get`, with `none` for `PluginNotFound` and
`MultipleMatchesFound`. -/
structure Scenarios where
  get : Json → Option ScenarioCls

/-! ## Schemas -/

/-- `TaskConfig.HOOK_CONFIG`. -/
def hookConfig : Schema :=
  { Schema.ofType .object with
    properties := [
      ("name", .ofType .string),
      ("description", .ofType .string),
      ("args", .any),
      ("trigger", { Schema.ofType .object with
        properties := [("name", .ofType .string), ("args", .any)],
        required := ["name", "args"],
        additionalProperties := false })],
    required := ["name", "args", "trigger"],
    additionalProperties := false }

/-- The `"runner"` schema, written the same way in both versions. -/
def runnerSchema : Schema :=
  { Schema.ofType .object with properties := [("type", .ofType .string)], required := ["type"] }

/-- The `"hooks"` schema, written the same way in both versions. -/
def hooksSchema : Schema :=
  { Schema.ofType .array with items := some hookConfig }

/-- The schema of one entry of a scenario's list in `CONFIG_SCHEMA_V1`. -/
def entrySchemaV1 : Schema :=
  { Schema.ofType .object with
    properties := [
      ("args", .ofType .object),
      ("description", .ofType .string),
      ("runner", runnerSchema),
      ("context", .ofType .object),
      ("sla", .ofType .object),
      ("hooks", hooksSchema)],
    additionalProperties := false }

/-- `TaskConfig.CONFIG_SCHEMA_V1`: every key is a scenario name, mapped to a list of entries. -/
def configSchemaV1 : Schema :=
  { Schema.ofType .object with
    patternAll := some { Schema.ofType .array with items := some entrySchemaV1 } }

/-- The `"tags"` schema of version 2. -/
def tagsSchema : Schema :=
  { Schema.ofType .array with items := some (.ofType .string) }

/-- The schema of one workload of a version-2 document. -/
def workloadSchemaV2 : Schema :=
  { Schema.ofType .object with
    properties := [
      ("name", .ofType .string),
      ("description", .ofType .string),
      ("args", .ofType .object),
      ("runner", runnerSchema),
      ("sla", .ofType .object),
      ("hooks", hooksSchema),
      ("context", .ofType .object)],
    additionalProperties := false,
    required := ["name", "runner"] }

/-- The schema of one subtask of a version-2 document. -/
def subtaskSchemaV2 : Schema :=
  { Schema.ofType .object with
    properties := [
      ("title", .ofType .string),
      ("group", .ofType .string),
      ("description", .ofType .string),
      ("tags", tagsSchema),
      ("run_in_parallel", .ofType .boolean),
      ("workloads", { Schema.ofType .array with minItems := 1, items := some workloadSchemaV2 })],
    additionalProperties := false,
    required := ["title", "workloads"] }

/-- `TaskConfig.CONFIG_SCHEMA_V2`. -/
def configSchemaV2 : Schema :=
  { Schema.ofType .object with
    properties := [
      ("version", .ofType .number),
      ("title", .ofType .string),
      ("description", .ofType .string),
      ("tags", tagsSchema),
      ("subtasks", { Schema.ofType .array with minItems := 1, items := some subtaskSchemaV2 })],
    additionalProperties := false,
    required := ["title", "subtasks"] }

/-- `TaskConfig.CONFIG_SCHEMAS`, keyed by version. -/
def configSchemas : List (Nat × Schema) :=
  [(1, configSchemaV1), (2, configSchemaV2)]

/-! ## The normalised tree -/

/-- A `Workload`: its name, description, runner, SLA, hooks, context, arguments and position in
its subtask. -/
structure Workload where
  name : Json
  description : Json
  runner : Json
  sla : Json
  hooks : Json
  context : Json
  args : Json
  pos : Nat

/-- A `SubTask`. -/
structure SubTask where
  title : Json
  tags : Json
  group : Json
  description : Json
  workloads : List Workload
  context : Json

/-- A `TaskConfig`. -/
structure TaskConfig where
  version : Json
  title : Json
  tags : Json
  description : Json
  subtasks : List SubTask

/-- `Workload.__init__`: an empty description is replaced by the scenario's title when the
plugin is found. -/
def Workload.init (scenarios : Scenarios) (config : Json) (pos : Nat) : Except PyError Workload := do
  let name ← config.getItem "name"
  let description ← config.get "description" (.string "")
  let description :=
    if description.truthy then description
    else match scenarios.get name with
      | some cls => .string cls.title
      | none => description
  let runner ← config.get "runner" (.object [])
  let sla ← config.get "sla" (.object [])
  let hooks ← config.get "hooks" (.array [])
  let context ← config.get "context" (.object [])
  let args ← config.get "args" (.object [])
  pure { name, description, runner, sla, hooks, context, args, pos }

/-- `SubTask.__init__`. -/
def SubTask.init (scenarios : Scenarios) (config : Json) : Except PyError SubTask := do
  let title ← config.getItem "title"
  let tags ← config.get "tags" (.array [])
  let group ← config.get "group" .null
  let description ← config.get "description" .null
  let workloadConfigs ← (← config.getItem "workloads").iter
  let workloads ← workloadConfigs.enum.mapM fun (pos, wconf) => Workload.init scenarios wconf pos
  let context ← config.get "context" (.object [])
  pure { title, tags, group, description, workloads, context }

/-- `Workload.to_dict`: the runner, and each of SLA, args, context and hooks that is not empty. -/
def Workload.toDict (w : Workload) : Json :=
  .object (("runner", w.runner) ::
    ([("sla", w.sla), ("args", w.args), ("context", w.context), ("hooks", w.hooks)].filter
      fun field => field.2.truthy))

/-- `Workload.make_key`, with `to_task()` being `to_dict()`. -/
def Workload.makeKey (w : Workload) : Json :=
  .object [("name", w.name), ("description", w.description), ("pos", .number w.pos),
    ("kw", w.toDict)]

/-- `Workload.make_exception_args`. -/
def Workload.makeExceptionArgs (w : Workload) (reason : String) : Json :=
  .object [("name", w.name), ("pos", .number w.pos), ("config", w.toDict), ("reason", .string reason)]

/-- `SubTask.to_dict`. -/
def SubTask.toDict (st : SubTask) : Json :=
  .object [("title", st.title), ("description", st.description), ("context", st.context)]

/-! ## `TaskConfig.__init__` -/

/-- The key of `CONFIG_SCHEMAS` a version selects: `version in CONFIG_SCHEMAS` compares with the
keys 1 and 2 (and `True == 1`); a list or a dict is unhashable. -/
def schemaKey : Json → Except PyError (Option Nat)
  | .number n => .ok (if n = 1 then some 1 else if n = 2 then some 2 else none)
  | .bool b => .ok (if b then some 1 else none)
  | .array _ | .object _ => .error .typeError
  | _ => .ok none

/-- `TaskConfig._get_version`. -/
def getVersion (config : Json) : Except PyError Json :=
  config.get "version" (.number 1)

/-- `TaskConfig._validate_version` and `_validate_json`: the schema a document is checked
against, once its version is known to be supported. -/
def validateVersionAndJson (version config : Json) : Except PyError Unit := do
  match ← schemaKey version with
  | none => throw (.invalidTask (.unsupportedVersion version (configSchemas.map Prod.fst)))
  | some key =>
    match configSchemas.lookup key with
    | some schema => if schema.validate config then pure () else throw (.invalidTask .schemaViolation)
    | none => pure ()

/-- The subtasks of a version-1 document: each entry of each scenario is copied, given its
scenario name, and wrapped in a subtask titled by that name. -/
def makeSubtasksV1 (scenarios : Scenarios) (config : Json) : Except PyError (List SubTask) := do
  let groups ← (← config.items).mapM fun (name, v1Workloads) => do
    (← v1Workloads.iter).mapM fun v1Workload => do
      let v2Workload ← v1Workload.setItem "name" (.string name)
      SubTask.init scenarios (.object [("title", .string name), ("workloads", .array [v2Workload])])
  pure groups.flatten

/-- `TaskConfig._make_subtasks`. -/
def makeSubtasks (scenarios : Scenarios) (version config : Json) : Except PyError (List SubTask) := do
  match ← schemaKey version with
  | some 2 => (← (← config.getItem "subtasks").iter).mapM (SubTask.init scenarios)
  | some 1 => makeSubtasksV1 scenarios config
  | _ => pure []

/-- `TaskConfig.__init__`. -/
def TaskConfig.init (scenarios : Scenarios) (config : Json) : Except PyError TaskConfig := do
  if let .null := config then throw (.other "Input task is empty")
  let version ← getVersion config
  validateVersionAndJson version config
  let title ← config.get "title" (.string "Task")
  let tags ← config.get "tags" (.array [])
  let description ← config.get "description" .null
  let subtasks ← makeSubtasks scenarios version config
  pure { version, title, tags, description, subtasks }

end Rally.Engine
