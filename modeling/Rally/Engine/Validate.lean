import Rally.Config.Semantic
import Rally.Config.Shape
import Rally.Engine.TaskEngine

/-! # `TaskEngine.validate`, and what it gives `run`

`validate` runs three checks in order: every workload names a scenario plugin, the syntax of each
workload's plugin configs, and the semantic check of each platform.  `_run_workload` raises, apart
from `TaskAborted`, only where `_get_runner` or `_prepare_context` raises (`run_error`,
`runnerRaises_of_runWorkload`).  For a task that `__init__` built and `validate` passed, neither
of those reads can fail, so the run crashes only where a runner plugin raises:

* the semantic check files every workload under the platform of its scenario and fetches that
  platform's credentials (`credentials_of_semantic`);
* `TaskConfig.__init__` accepted every workload's runner and context as dicts
  (`TaskConfig.init_shaped`);
* with both, `_get_runner`'s `config["type"]` and `_prepare_context` return
  (`validated_prepares`).

When `validate` fails with `InvalidTaskConfig`, the exception names a workload of the task, and
its reason is exactly the findings the plugins returned for that workload in the syntax check or
in the semantic check, joined by `"\n "` (`validate_reports`).
-/

set_option autoImplicit false

namespace Rally.Engine.TaskEngine

/-! ## The checks -/

/-- Whether `set.add(name)` accepts a name: a list or a dict is unhashable. -/
def hashable : Json → Bool
  | .array _ | .object _ => false
  | _ => true

/-- `name in available`: only a string is the name of a plugin. -/
def isAvailable (available : List String) : Json → Bool
  | .string s => available.contains s
  | _ => false

/-- `TaskEngine._validate_config_scenarios_name`, with `available` the names of the scenario
plugins.  `specified.add(s.name)` raises `TypeError` for an unhashable name, and
`", ".join(specified - available)` raises it when a missing name is not a string; otherwise a
missing name raises `NotFoundScenarios`, whose message (in the order of a Python set) is not
modelled. -/
def validateConfigScenariosName (available : List String) (config : TaskConfig) :
    Except PyError Unit := do
  let specified := config.subtasks.flatMap fun subtask => subtask.workloads.map Workload.name
  if !specified.all hashable then throw .typeError
  let missing := specified.filter fun name => !isAvailable available name
  if missing.isEmpty then pure ()
  else if missing.all fun name => name matches .string _ then throw (.other "NotFoundScenarios")
  else throw .typeError

/-- The `try` body of `TaskEngine.validate`.  Around it, `validate` sets the task VALIDATING and,
when a check raises, records the failure with `task.set_failed` and raises
`InvalidTaskException(str(e))` for the exception here. -/
def validate (available : List String) (v : Validators) (plugins : SemanticPlugins)
    (scenarios : Scenarios) (deployment : Deployment) (config : TaskConfig) :
    Except PyError Unit := do
  validateConfigScenariosName available config
  validateConfigSyntax v scenarios config
  let _ ← validateConfigSemantic plugins scenarios deployment config
  pure ()

section Checks

variable {available : List String} {v : Validators} {plugins : SemanticPlugins}
  {scenarios : Scenarios} {deployment : Deployment} {config : TaskConfig}

theorem validate_eq_ok
    (validated : validate available v plugins scenarios deployment config = .ok ()) :
    validateConfigScenariosName available config = .ok () ∧
      validateConfigSyntax v scenarios config = .ok () ∧
      ∃ calls, validateConfigSemantic plugins scenarios deployment config = .ok calls := by
  simp only [validate, bind_eq_ok] at validated
  obtain ⟨⟨⟩, namesOk, ⟨⟩, syntaxOk, calls, semanticOk, -⟩ := validated
  exact ⟨namesOk, syntaxOk, calls, semanticOk⟩

/-- The semantic check finds the scenario of every workload, and credentials for its platform. -/
theorem credentials_of_semantic {calls : List ValidateCall}
    (checked : validateConfigSemantic plugins scenarios deployment config = .ok calls)
    {w : Workload} (mem : w ∈ config.subtasks.flatMap SubTask.workloads) :
    ∃ cls creds, scenarios.get w.name = some cls ∧
      deployment.credentialsFor cls.platform = some creds := by
  simp only [validateConfigSemantic, bind_eq_ok] at checked
  obtain ⟨groups, groupedOk, callss, platformsOk, -⟩ := checked
  obtain ⟨grouped, perm⟩ :=
    groupByPlatform_eq_ok groupedOk fun _ none => absurd none (List.not_mem_nil _)
  obtain ⟨group, groupMem, wMem⟩ := List.mem_flatMap.mp (perm.mem_iff.mpr (by simpa using mem))
  obtain ⟨cls, found, platform⟩ := grouped group groupMem w wMem
  obtain ⟨groupCalls, platformOk⟩ := ok_of_mapM_eq_ok platformsOk groupMem
  obtain ⟨creds, credsFound, -⟩ := validatePlatform_eq_ok platformOk
  exact ⟨cls, creds, found, platform ▸ credsFound⟩

theorem prepareContext_eq_ok {fields : List (String × Json)} {name : Json} {cls : ScenarioCls}
    {creds : Credentials} (found : scenarios.get name = some cls)
    (credsFound : deployment.credentialsFor cls.platform = some creds) :
    ∃ obj, prepareContext scenarios deployment (.object fields) name = .ok obj :=
  ⟨_, by simp only [prepareContext, found, credsFound, Json.contains, update, ok_bind]; rfl⟩

/-- For every workload of a task that `__init__` built and the semantic check passed,
`_get_runner` reads the runner's type and `_prepare_context` returns. -/
theorem validated_prepares {raw : Json} {calls : List ValidateCall}
    (built : TaskConfig.init scenarios raw = .ok config)
    (checked : validateConfigSemantic plugins scenarios deployment config = .ok calls)
    {sub : SubTask} (subMem : sub ∈ config.subtasks) {w : Workload} (wMem : w ∈ sub.workloads) :
    (∃ read, getRunner w.runner = .ok read) ∧
      ∃ obj, prepareContext scenarios deployment w.context w.name = .ok obj := by
  have shaped := TaskConfig.init_shaped built sub subMem w wMem
  obtain ⟨cls, creds, found, credsFound⟩ :=
    credentials_of_semantic checked (List.mem_flatMap.mpr ⟨sub, subMem, wMem⟩)
  obtain ⟨fields, isObject⟩ := shaped.context
  exact ⟨getRunner_eq_ok shaped.runner, isObject ▸ prepareContext_eq_ok found credsFound⟩

end Checks

/-! ## What a failed check reports

A check raises `InvalidTaskConfig` only from its own `if results:`, with the arguments
`Workload.make_exception_args` gives for the workload it was checking and the findings joined by
`"\n "`: a read of the document raises `KeyError`, `TypeError` or `AttributeError` instead, and a
plugin lookup, the deployment or a user context their own exceptions. -/

section Reports

variable {kw : Json}

theorem getItem_ne_invalidTaskConfig (x : Json) (key : String) :
    x.getItem key ≠ .error (.invalidTaskConfig kw) := by
  cases x <;> simp only [Json.getItem] <;> (try split) <;> nofun

theorem items_ne_invalidTaskConfig (x : Json) : x.items ≠ .error (.invalidTaskConfig kw) := by
  cases x <;> nofun

theorem iter_ne_invalidTaskConfig (x : Json) : x.iter ≠ .error (.invalidTaskConfig kw) := by
  cases x <;> nofun

theorem contains_ne_invalidTaskConfig (x : Json) (key : String) :
    x.contains key ≠ .error (.invalidTaskConfig kw) := by
  cases x <;> nofun

theorem hookMessages_ne_invalidTaskConfig (v : Validators) (hook : Json) :
    hookMessages v hook ≠ .error (.invalidTaskConfig kw) := by
  simp [hookMessages, bind_eq_error, getItem_ne_invalidTaskConfig, pure, Except.pure]

/-- `if results: raise InvalidTaskConfig(**kw)`: raised only with findings. -/
theorem reported_of_ite {α : Type} {results : List String} {a : α} {report : Json}
    (h : (if results.isEmpty = true then (Except.ok a : Except PyError α)
      else throw (PyError.invalidTaskConfig report)) = .error (.invalidTaskConfig kw)) :
    results ≠ [] ∧ report = kw := by
  split at h
  · cases h
  · cases h
    exact ⟨fun empty => by simp_all, rfl⟩

theorem workloadSyntaxResults_ne_invalidTaskConfig (v : Validators) (cls : ScenarioCls) (w : Workload) :
    workloadSyntaxResults v cls w ≠ .error (.invalidTaskConfig kw) := by
  have hooksOk (items : List Json) : items.mapM (hookMessages v) ≠ .error (.invalidTaskConfig kw) :=
    fun err => by
      obtain ⟨hook, -, hookErr⟩ := mem_of_mapM_eq_error err
      exact hookMessages_ne_invalidTaskConfig v hook hookErr
  intro failed
  unfold workloadSyntaxResults at failed
  split at failed <;>
    simp only [bind_eq_error, pure, Except.pure, ok_bind, getItem_ne_invalidTaskConfig,
      items_ne_invalidTaskConfig, iter_ne_invalidTaskConfig, hooksOk, false_or, reduceCtorEq,
      and_false, exists_false] at failed

/-- The syntax check of a workload raises `InvalidTaskConfig` with the findings it gathered. -/
theorem validateWorkloadSyntax_reports {v : Validators} {scenarios : Scenarios} {w : Workload}
    (failed : validateWorkloadSyntax v scenarios w = .error (.invalidTaskConfig kw)) :
    ∃ cls findings, scenarios.get w.name = some cls ∧ workloadSyntaxResults v cls w = .ok findings ∧
      findings ≠ [] ∧ kw = w.makeExceptionArgs (String.intercalate "\n " findings) := by
  unfold validateWorkloadSyntax at failed
  cases found : scenarios.get w.name with
  | none =>
    simp only [found] at failed
    cases failed
  | some cls =>
    simp only [found, bind_eq_error] at failed
    rcases failed with resultsErr | ⟨findings, resultsOk, reported⟩
    · exact absurd resultsErr (workloadSyntaxResults_ne_invalidTaskConfig v cls w)
    · obtain ⟨nonempty, rfl⟩ := reported_of_ite reported
      exact ⟨cls, findings, rfl, resultsOk, nonempty, rfl⟩

theorem validateConfigScenariosName_ne_invalidTaskConfig (available : List String)
    (config : TaskConfig) : validateConfigScenariosName available config ≠ .error (.invalidTaskConfig kw) := by
  intro failed
  unfold validateConfigScenariosName at failed
  dsimp only at failed
  split at failed
  · cases failed
  · simp only [pure, Except.pure, ok_bind] at failed
    split at failed
    · cases failed
    · split at failed <;> cases failed

theorem groupByPlatform_ne_invalidTaskConfig (scenarios : Scenarios) :
    ∀ (groups : List (String × List Workload)) (ws : List Workload),
      groupByPlatform scenarios groups ws ≠ .error (.invalidTaskConfig kw)
  | _, [] => nofun
  | groups, w :: rest => by
    cases found : scenarios.get w.name with
    | none => simp only [groupByPlatform, found]; nofun
    | some cls =>
      simp only [groupByPlatform, found]
      exact groupByPlatform_ne_invalidTaskConfig scenarios _ rest

theorem splitByUsers_ne_invalidTaskConfig (creds : Credentials) :
    ∀ ws : List Workload, splitByUsers creds ws ≠ .error (.invalidTaskConfig kw)
  | [] => nofun
  | w :: rest => by
    have uses : usesExistingUsers creds w ≠ .error (.invalidTaskConfig kw) := by
      unfold usesExistingUsers
      split
      · simp [bind_eq_error, contains_ne_invalidTaskConfig, pure, Except.pure]
      · nofun
    simp [splitByUsers, bind_eq_error, uses, splitByUsers_ne_invalidTaskConfig creds rest, pure,
      Except.pure]

theorem validateConfigSemanticHelper_reports {plugins : SemanticPlugins} {admin : Json}
    {conf : UserContextConf} {ws : List Workload} {platform : String}
    (failed : validateConfigSemanticHelper plugins admin conf ws platform =
      .error (.invalidTaskConfig kw)) :
    ∃ w ∈ ws, ∃ users findings, plugins.setUp platform conf = some users ∧
      findings = plugins.validate w.name
        (.object [(platform, .object [("admin", admin), ("users", users)])]) w.toDict ∧
      findings ≠ [] ∧ kw = w.makeExceptionArgs (String.intercalate "\n " findings) := by
  unfold validateConfigSemanticHelper at failed
  cases setUp : plugins.setUp platform conf with
  | none =>
    simp only [setUp] at failed
    cases failed
  | some users =>
    simp only [setUp] at failed
    obtain ⟨w, mem, wFailed⟩ := mem_of_mapM_eq_error failed
    simp only [validateInUserContext, pure, Except.pure] at wFailed
    obtain ⟨nonempty, rfl⟩ := reported_of_ite wFailed
    exact ⟨w, mem, users, _, rfl, rfl, nonempty, rfl⟩

/-- One platform's pass raises `InvalidTaskConfig` with the findings of `Scenario.validate` for one
of its workloads, in one of the two user contexts, with the platform's admin. -/
theorem validatePlatform_reports {plugins : SemanticPlugins} {deployment : Deployment}
    {platform : String} {ws : List Workload}
    (failed : validatePlatform plugins deployment platform ws = .error (.invalidTaskConfig kw)) :
    ∃ w ∈ ws, ∃ creds conf users findings, deployment.credentialsFor platform = some creds ∧
      (conf = .users creds.admin ∨ conf = .existingUsers creds.users) ∧
      plugins.setUp platform conf = some users ∧
      findings = plugins.validate w.name
        (.object [(platform, .object [("admin", creds.admin), ("users", users)])]) w.toDict ∧
      findings ≠ [] ∧ kw = w.makeExceptionArgs (String.intercalate "\n " findings) := by
  unfold validatePlatform at failed
  cases credsFound : deployment.credentialsFor platform with
  | none =>
    simp only [credsFound] at failed
    cases failed
  | some creds =>
    have helperIn {sub : List Workload} (within : ∀ w ∈ sub, w ∈ ws) {conf : UserContextConf}
        (chosen : conf = .users creds.admin ∨ conf = .existingUsers creds.users)
        (h : (if sub.isEmpty then pure []
          else validateConfigSemanticHelper plugins creds.admin conf sub platform) =
          Except.error (.invalidTaskConfig kw)) :
        ∃ w ∈ ws, ∃ creds' conf users findings, some creds = some creds' ∧
          (conf = .users creds'.admin ∨ conf = .existingUsers creds'.users) ∧
          plugins.setUp platform conf = some users ∧
          findings = plugins.validate w.name
            (.object [(platform, .object [("admin", creds'.admin), ("users", users)])]) w.toDict ∧
          findings ≠ [] ∧ kw = w.makeExceptionArgs (String.intercalate "\n " findings) := by
      split at h
      · cases h
      · obtain ⟨w, mem, users, findings, setUp, reported⟩ := validateConfigSemanticHelper_reports h
        exact ⟨w, within w mem, creds, conf, users, findings, rfl, chosen, setUp, reported⟩
    simp only [credsFound] at failed
    split at failed
    · cases failed
    · simp only [pure, Except.pure, ok_bind, bind_eq_error, splitByUsers_ne_invalidTaskConfig,
        false_or] at failed
      obtain ⟨⟨withUsers, withExisting⟩, splitOk, failed⟩ := failed
      have perm := (splitByUsers_eq_ok splitOk).1
      rcases failed with users | ⟨_, -, existing | ⟨_, -, h⟩⟩
      · exact helperIn (fun w mem => perm.subset (List.mem_append_left _ mem)) (.inl rfl) users
      · exact helperIn (fun w mem => perm.subset (List.mem_append_right _ mem)) (.inr rfl) existing
      · cases h

theorem validateConfigSemantic_reports {plugins : SemanticPlugins} {scenarios : Scenarios}
    {deployment : Deployment} {config : TaskConfig}
    (failed : validateConfigSemantic plugins scenarios deployment config =
      .error (.invalidTaskConfig kw)) :
    ∃ w ∈ config.subtasks.flatMap SubTask.workloads, ∃ cls creds conf users findings,
      scenarios.get w.name = some cls ∧ deployment.credentialsFor cls.platform = some creds ∧
      (conf = .users creds.admin ∨ conf = .existingUsers creds.users) ∧
      plugins.setUp cls.platform conf = some users ∧
      findings = plugins.validate w.name
        (.object [(cls.platform, .object [("admin", creds.admin), ("users", users)])]) w.toDict ∧
      findings ≠ [] ∧ kw = w.makeExceptionArgs (String.intercalate "\n " findings) := by
  unfold validateConfigSemantic at failed
  simp only [bind_eq_error, groupByPlatform_ne_invalidTaskConfig, false_or] at failed
  obtain ⟨groups, groupedOk, platformsFailed | ⟨_, -, h⟩⟩ := failed
  · obtain ⟨group, groupMem, groupFailed⟩ := mem_of_mapM_eq_error platformsFailed
    obtain ⟨w, wMem, reported⟩ := validatePlatform_reports groupFailed
    obtain ⟨grouped, perm⟩ :=
      groupByPlatform_eq_ok groupedOk fun _ none => absurd none (List.not_mem_nil _)
    obtain ⟨cls, found, platform⟩ := grouped group groupMem w wMem
    rw [← platform] at reported
    obtain ⟨creds, conf, users, findings, reported⟩ := reported
    exact ⟨w, by simpa using perm.subset (List.mem_flatMap.mpr ⟨group, groupMem, wMem⟩), cls,
      creds, conf, users, findings, found, reported⟩
  · cases h

end Reports

/-- Every `InvalidTaskConfig` that `validate` raises names a workload of the task, whose scenario
was found: `make_exception_args` gives its name, its position and its config as `to_dict` gives
it, and the reason is, joined by `"\n "`, the non-empty findings the plugins returned for it,
either the `results` of the syntax check or what `Scenario.validate` returned in one of the two
user contexts of its platform, with the platform's admin.  A failed read of the document, plugin
lookup, credential lookup or user-context setup never surfaces as `InvalidTaskConfig`. -/
theorem validate_reports {available : List String} {v : Validators} {plugins : SemanticPlugins}
    {scenarios : Scenarios} {deployment : Deployment} {config : TaskConfig} {kw : Json}
    (failed : validate available v plugins scenarios deployment config =
      .error (.invalidTaskConfig kw)) :
    ∃ sub ∈ config.subtasks, ∃ w ∈ sub.workloads, ∃ cls findings,
      scenarios.get w.name = some cls ∧ findings ≠ [] ∧
      kw = w.makeExceptionArgs (String.intercalate "\n " findings) ∧
      (workloadSyntaxResults v cls w = .ok findings ∨
        ∃ creds conf users, deployment.credentialsFor cls.platform = some creds ∧
          (conf = .users creds.admin ∨ conf = .existingUsers creds.users) ∧
          plugins.setUp cls.platform conf = some users ∧
          findings = plugins.validate w.name
            (.object [(cls.platform, .object [("admin", creds.admin), ("users", users)])]) w.toDict) := by
  simp only [validate, bind_eq_error, validateConfigScenariosName_ne_invalidTaskConfig,
    false_or] at failed
  rcases failed with ⟨_, -, syntaxFailed | ⟨_, -, semanticFailed | ⟨_, -, h⟩⟩⟩
  · obtain ⟨sub, subMem, subFailed⟩ := mem_of_forM_eq_error syntaxFailed
    obtain ⟨w, wMem, wFailed⟩ := mem_of_forM_eq_error subFailed
    obtain ⟨cls, findings, found, gathered, nonempty, reported⟩ := validateWorkloadSyntax_reports wFailed
    exact ⟨sub, subMem, w, wMem, cls, findings, found, nonempty, reported, .inl gathered⟩
  · obtain ⟨w, wMem, cls, creds, conf, users, findings, found, credsFound, chosen, setUp, returned,
      nonempty, reported⟩ := validateConfigSemantic_reports semanticFailed
    obtain ⟨sub, subMem, wMem⟩ := List.mem_flatMap.mp wMem
    exact ⟨sub, subMem, w, wMem, cls, findings, found, nonempty, reported,
      .inr ⟨creds, conf, users, credsFound, chosen, setUp, returned⟩⟩
  · cases h

/-- Plugins whose scenario validation finds a problem with every workload. -/
def rejectingPlugins : SemanticPlugins :=
  { passingPlugins with validate := fun _ _ _ => ["image not found"] }

theorem twoWorkloadTask_reports :
    ∃ cfg kw, TaskConfig.init openstackScenarios twoWorkloadTask = .ok cfg ∧
      validate ["Dummy.dummy"] silentValidators rejectingPlugins openstackScenarios oneUserDeployment
        cfg = .error (.invalidTaskConfig kw) ∧
      ∃ sub ∈ cfg.subtasks, ∃ w ∈ sub.workloads, ∃ cls findings,
        openstackScenarios.get w.name = some cls ∧ findings ≠ [] ∧
        kw = w.makeExceptionArgs (String.intercalate "\n " findings) ∧
        (workloadSyntaxResults silentValidators cls w = .ok findings ∨
          ∃ creds conf users, oneUserDeployment.credentialsFor cls.platform = some creds ∧
            (conf = .users creds.admin ∨ conf = .existingUsers creds.users) ∧
            rejectingPlugins.setUp cls.platform conf = some users ∧
            findings = rejectingPlugins.validate w.name
              (.object [(cls.platform, .object [("admin", creds.admin), ("users", users)])])
              w.toDict) :=
  ⟨_, _, rfl, rfl, @validate_reports ["Dummy.dummy"] silentValidators rejectingPlugins
    openstackScenarios oneUserDeployment _ _ rfl⟩

/-! ## Where a crash of `run` comes from -/

section Crash

variable (env : Collaborators)

/-- `_run_workload` raises an exception other than `TaskAborted` only where `_get_runner` or
`_prepare_context` raises; when both return, only the runner plugin can. -/
theorem runnerRaises_of_runWorkload {index : Nat} {w : Workload} {st : Store} {read : Json × Json}
    {obj : ContextObj} (runnerOk : getRunner w.runner = .ok read)
    (contextOk : prepareContext env.scenarios env.deployment w.context w.name = .ok obj)
    (raised : (runWorkload env index w st).2 = some .error) :
    env.runnerRaises index w.pos = true := by
  unfold runWorkload at raised
  split at raised
  · cases raised
  · simp only [runnerOk, contextOk] at raised
    by_contra notRaised
    simp [notRaised] at raised

theorem runWorkloads_error (index : Nat) :
    ∀ (ws : List Workload) (st : Store), (runWorkloads env index ws st).2 = some .error →
      ∃ w ∈ ws, ∃ st', (runWorkload env index w st').2 = some .error
  | [], _, raised => by cases raised
  | w :: ws, st, raised => by
    unfold runWorkloads at raised
    split at raised
    · obtain ⟨w', mem, st', failed⟩ := runWorkloads_error index ws _ raised
      exact ⟨w', List.mem_cons_of_mem _ mem, st', failed⟩
    · next ran => exact ⟨w, List.mem_cons_self _ _, st, by rw [ran]; exact raised⟩

theorem runSubtask_error {index : Nat} {sub : SubTask} {st : Store}
    (raised : (runSubtask env index sub st).2 = some .error) :
    ∃ w ∈ sub.workloads, ∃ st', (runWorkload env index w st').2 = some .error := by
  dsimp only [runSubtask] at raised
  split at raised
  · cases raised
  · cases raised
  · next ran => exact runWorkloads_error env index _ _ (by rw [ran])

theorem runSubtasks_error (index : Nat) :
    ∀ (subs : List SubTask) (st : Store), (runSubtasks env index subs st).2 = some .error →
      ∃ k sub, subs[k]? = some sub ∧
        ∃ w ∈ sub.workloads, ∃ st', (runWorkload env (index + k) w st').2 = some .error
  | [], _, raised => by cases raised
  | sub :: rest, st, raised => by
    unfold runSubtasks at raised
    split at raised
    · obtain ⟨k, sub', found, w, mem, st', failed⟩ :=
        runSubtasks_error (index + 1) rest _ raised
      exact ⟨k + 1, sub', by rwa [List.getElem?_cons_succ], w, mem, st',
        by rwa [Nat.add_right_comm, Nat.add_assoc] at failed⟩
    · next e ran =>
      cases raised
      have failed : (runSubtask env index sub st).2 = some .error := by rw [ran]
      exact ⟨0, sub, List.getElem?_cons_zero, runSubtask_error env failed⟩

/-- A run of `TaskEngine.run` that raises does so because the step of one of the config's
workloads raised. -/
theorem run_error {config : TaskConfig} {st : Store}
    (raised : (run env config st).2 = some .error) :
    ∃ k sub, config.subtasks[k]? = some sub ∧
      ∃ w ∈ sub.workloads, ∃ st', (runWorkload env k w st').2 = some .error := by
  unfold run at raised
  split at raised
  · cases raised
  · next ran =>
    obtain ⟨k, sub, found, w, mem, st', failed⟩ := runSubtasks_error env 0 _ _ (by rw [ran])
    exact ⟨k, sub, found, w, mem, st', by rwa [Nat.zero_add] at failed⟩
  · cases raised

end Crash

/-- A task that `TaskEngine.__init__` built and `validate` passed, against the scenarios and the
deployment it runs with, crashes only where a runner plugin raises: `_get_runner`'s read of the
runner config and `_prepare_context` return for every workload. -/
theorem validated_run_crashes_in_runner (env : Collaborators) {available : List String}
    {v : Validators} {plugins : SemanticPlugins} {raw : Json} {config : TaskConfig}
    (built : TaskConfig.init env.scenarios raw = .ok config)
    (validated : validate available v plugins env.scenarios env.deployment config = .ok ())
    {st : Store} (crashed : (run env config st).2 = some .error) :
    ∃ index sub, config.subtasks[index]? = some sub ∧
      ∃ w ∈ sub.workloads, env.runnerRaises index w.pos = true := by
  obtain ⟨index, sub, found, w, mem, st', raised⟩ := run_error env crashed
  obtain ⟨-, -, calls, checked⟩ := validate_eq_ok validated
  obtain ⟨⟨read, runnerOk⟩, obj, contextOk⟩ :=
    validated_prepares built checked (List.getElem?_mem found) mem
  exact ⟨index, sub, found, w, mem, runnerRaises_of_runWorkload env runnerOk contextOk raised⟩

/-- Collaborators whose every runner plugin raises, for the task of two workloads. -/
def raisingRunners : Collaborators :=
  ⟨openstackScenarios, oneUserDeployment, fun _ _ => true, fun _ _ status => (status, false)⟩

theorem twoWorkloadTask_crashes_in_runner :
    ∃ cfg, TaskConfig.init openstackScenarios twoWorkloadTask = .ok cfg ∧
      validate ["Dummy.dummy"] silentValidators passingPlugins openstackScenarios oneUserDeployment
        cfg = .ok () ∧
      (run raisingRunners cfg ⟨.running, []⟩).2 = some .error ∧
      ∃ index sub, cfg.subtasks[index]? = some sub ∧
        ∃ w ∈ sub.workloads, raisingRunners.runnerRaises index w.pos = true :=
  ⟨_, rfl, rfl, rfl, @validated_run_crashes_in_runner raisingRunners ["Dummy.dummy"]
    silentValidators passingPlugins twoWorkloadTask _ rfl rfl ⟨.running, []⟩ rfl⟩

end Rally.Engine.TaskEngine
