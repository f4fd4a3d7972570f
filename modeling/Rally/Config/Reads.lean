import Rally.Config.TaskConfig

/-! # What the engine reads from a normalised workload

After `TaskConfig` has built the tree, `TaskEngine` reads each workload's dicts again:

* `getRunner` is `_get_runner`: an empty runner config becomes `{"type": "serial"}`, then
  `config["type"]` names the runner plugin;
* `prepareContext` is `_prepare_context`: the scenario's default context, an `existing_users` or
  `users` entry depending on the deployment's users and on `"users" in ctx`, and `update(ctx)`;
* `validateWorkloadSyntax` is the body of `_validate_config_syntax` for one workload: the runner,
  each context entry, each default-context entry, each SLA entry and each hook/trigger pair go to
  their plugin's static `validate`, and any message makes the workload invalid.

The plugins and the deployment are parameters: their answers are what the collaborators return.
-/

set_option autoImplicit false

namespace Rally.Engine

/-- Modelled from the spec: `deployment.get_credentials_for(platform)` is not under src/.  The
`admin` credential and the list of existing `users`. -/
structure Credentials where
  admin : Json
  users : Json

/-- Modelled from the spec: the deployment, with `none` when `get_credentials_for` raises. -/
structure Deployment where
  credentialsFor : String → Option Credentials

/-- Modelled from the spec: the static `validate` of the runner, context, SLA, hook and trigger
plugins, each returning the messages of its findings (`str(r)` for each result). -/
structure Validators where
  /-- `runner.ScenarioRunner.validate(name, plugin_cfg, namespace)`. -/
  runner : Json → Json → String → List String
  /-- `context.Context.validate(name, plugin_cfg, namespace, allow_hidden)`. -/
  context : String → Json → String → Bool → List String
  /-- `sla.SLA.validate(name, plugin_cfg)`. -/
  sla : String → Json → List String
  /-- `hook.Hook.validate(name, plugin_cfg)`. -/
  hook : Json → Json → List String
  /-- `trigger.Trigger.validate(name, plugin_cfg)`. -/
  trigger : Json → Json → List String

/-- `TaskEngine._get_runner`, up to the plugin lookup: the runner type and the config the runner
is built from. -/
def getRunner (config : Json) : Except PyError (Json × Json) := do
  let config := if config.truthy then config else .object [("type", .string "serial")]
  let type ← config.getItem "type"
  pure (type, config)

/-- `d.update(other)` for a dict `other`.  Python also accepts an iterable of pairs; a context that
the schemas checked is always a dict, and anything else is taken as the `TypeError` most values
give. -/
def update (fields : List (String × Json)) : Json → Except PyError (List (String × Json))
  | .object other => .ok (other.foldl (fun acc field => setField acc field.1 field.2) fields)
  | _ => .error .typeError

/-- The context object `_prepare_context` returns, without the task handle and the owner id. -/
structure ContextObj where
  admin : Json
  scenarioName : Json
  scenarioNamespace : String
  config : List (String × Json)

/-- `TaskEngine._prepare_context`.  The `in` test is evaluated once: Python evaluates it once or
twice, and it is deterministic. -/
def prepareContext (scenarios : Scenarios) (deployment : Deployment) (ctx name : Json) :
    Except PyError ContextObj := do
  let some cls := scenarios.get name | throw (.other "PluginNotFound")
  let some creds := deployment.credentialsFor cls.platform | throw (.other "get_credentials_for")
  let usersGiven ← ctx.contains "users"
  let scenarioContext :=
    if creds.users.truthy && !usersGiven then setDefault cls.defaultContext "existing_users" creds.users
    else if !usersGiven then setDefault cls.defaultContext "users" (.object [])
    else cls.defaultContext
  let config ← update scenarioContext ctx
  pure { admin := creds.admin, scenarioName := name, scenarioNamespace := cls.platform,
         config }

/-- The messages of one hook entry: `hook_conf["name"]`, `hook_conf["args"]`, then the trigger's
`trigger_conf["name"]` and `trigger_conf["args"]`. -/
def hookMessages (v : Validators) (hookConf : Json) : Except PyError (List String) := do
  let hookResults := v.hook (← hookConf.getItem "name") (← hookConf.getItem "args")
  let triggerConf ← hookConf.getItem "trigger"
  let triggerResults := v.trigger (← triggerConf.getItem "name") (← triggerConf.getItem "args")
  pure (hookResults ++ triggerResults)

/-- The `results` that `_validate_config_syntax` gathers for one workload of a scenario of `cls`:
the findings for the runner, each context entry, each default-context entry, each SLA entry and
each hook/trigger pair, in that order. -/
def workloadSyntaxResults (v : Validators) (cls : ScenarioCls) (w : Workload) :
    Except PyError (List String) := do
  let runnerResults ←
    if w.runner.truthy then do pure (v.runner (← w.runner.getItem "type") w.runner cls.platform)
    else pure []
  let contextResults := (← w.context.items).flatMap fun field =>
    v.context field.1 field.2 cls.platform false
  let defaultResults := cls.defaultContext.flatMap fun field =>
    v.context field.1 field.2 cls.platform true
  let slaResults := (← w.sla.items).flatMap fun field => v.sla field.1 field.2
  let hookResults ← (← w.hooks.iter).mapM (hookMessages v)
  pure (runnerResults ++ contextResults ++ defaultResults ++ slaResults ++ hookResults.flatten)

/-- The body of `_validate_config_syntax` for one workload. -/
def validateWorkloadSyntax (v : Validators) (scenarios : Scenarios) (w : Workload) :
    Except PyError Unit := do
  let some cls := scenarios.get w.name | throw (.other "PluginNotFound")
  let results ← workloadSyntaxResults v cls w
  if results.isEmpty then pure ()
  else throw (.invalidTaskConfig (w.makeExceptionArgs (String.intercalate "\n " results)))

/-- `TaskEngine._validate_config_syntax`: every workload of every subtask, in order. -/
def validateConfigSyntax (v : Validators) (scenarios : Scenarios) (config : TaskConfig) :
    Except PyError Unit :=
  config.subtasks.forM fun subtask => subtask.workloads.forM (validateWorkloadSyntax v scenarios)

end Rally.Engine
