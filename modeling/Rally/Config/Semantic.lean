import Rally.Config.Accept

/-! # `_validate_config_semantic`

The last stage of `TaskEngine.validate`.  Every workload of every subtask is filed under the
platform of its scenario; for each platform, in the order the platforms were met, the
deployment's credentials are read, the admin connection is checked, and the platform's
workloads are split in two: those that will run with the deployment's existing users (the
deployment has users and the workload's context does not ask for `users`) and the others.  Each
half is validated inside one user context set up for it, `existing_users` or a fresh `users`,
by `scenario.Scenario.validate` with the platform's admin and the context's users.

The main result says what a run that raised nothing did: each workload was validated once,
with the admin of its platform and the users of the context its split chose: the deployment's
existing users when the deployment has users and the workload's context has no `users` key, and
users set up for the admin otherwise.  The split uses the condition `_prepare_context` uses to
give an execution the deployment's users, so the two agree as long as neither the workload's
context nor its scenario's default context names `existing_users`; when one does,
`_prepare_context` keeps that entry, and a workload validated with the deployment's users runs
with other ones.
-/

set_option autoImplicit false

namespace Rally.Engine

/-- Modelled from the spec: the user context plugins are not under src/.  The `ctx_conf` a user
context is built from: for `users`, the platform's admin credential; for `existing_users`, the
deployment's users. -/
inductive UserContextConf where
  | users (admin : Json)
  | existingUsers (users : Json)

/-- Modelled from the spec: the collaborators `_validate_config_semantic` calls. -/
structure SemanticPlugins where
  /-- `admin.verify_connection()`: `true` when it returns, `false` when it raises. -/
  verifyConnection : Json → Bool
  /-- `context.Context.get(name, namespace=platform, allow_hidden=True)(ctx_conf)` entered and set
  up, then `ctx.context["users"]`; `none` when any of it raises. -/
  setUp : String → UserContextConf → Option Json
  /-- `scenario.Scenario.validate(name=..., credentials=..., config=..., plugin_cfg=None)`: the
  messages of its findings. -/
  validate : Json → Json → Json → List String

/-- A call of `scenario.Scenario.validate` that found nothing: the workload, the context its
users came from, and the `credentials` it was given. -/
structure ValidateCall where
  workload : Workload
  context : UserContextConf
  credentials : Json

/-- `platforms[namespace].append(workload)` on the `defaultdict(list)` of workloads by platform:
a platform already met keeps its place. -/
def addToGroup : List (String × List Workload) → String → Workload → List (String × List Workload)
  | [], platform, w => [(platform, [w])]
  | (key, ws) :: rest, platform, w =>
    if key = platform then (key, ws ++ [w]) :: rest else (key, ws) :: addToGroup rest platform w

/-- The first loop of `_validate_config_semantic`, from the groups built so far. -/
def groupByPlatform (scenarios : Scenarios) :
    List (String × List Workload) → List Workload → Except PyError (List (String × List Workload))
  | groups, [] => pure groups
  | groups, w :: rest => do
    let some cls := scenarios.get w.name | throw (.other "PluginNotFound")
    groupByPlatform scenarios (addToGroup groups cls.platform w) rest

/-- `creds["users"] and "users" not in workload.context`. -/
def usesExistingUsers (creds : Credentials) (w : Workload) : Except PyError Bool :=
  if creds.users.truthy then do pure !(← w.context.contains "users") else pure false

/-- The loop that fills `workloads_with_users` and `workloads_with_existing_users`. -/
def splitByUsers (creds : Credentials) :
    List Workload → Except PyError (List Workload × List Workload)
  | [] => pure ([], [])
  | w :: rest => do
    let existing ← usesExistingUsers creds w
    let (withUsers, withExistingUsers) ← splitByUsers creds rest
    pure (if existing then (withUsers, w :: withExistingUsers) else (w :: withUsers, withExistingUsers))

/-- One pass of the loop of `_validate_config_semantic_helper`: `Scenario.validate` on one
workload with the platform's admin and the context's users. -/
def validateInUserContext (plugins : SemanticPlugins) (admin : Json) (conf : UserContextConf)
    (platform : String) (users : Json) (w : Workload) : Except PyError ValidateCall :=
  let credentials := Json.object [(platform, .object [("admin", admin), ("users", users)])]
  let results := plugins.validate w.name credentials w.toDict
  if results.isEmpty then pure ⟨w, conf, credentials⟩
  else throw (.invalidTaskConfig (w.makeExceptionArgs (String.intercalate "\n " results)))

/-- `TaskEngine._validate_config_semantic_helper`: set up the user context, then validate each
workload in it, raising `InvalidTaskConfig` on the first finding. -/
def validateConfigSemanticHelper (plugins : SemanticPlugins) (admin : Json) (conf : UserContextConf)
    (workloads : List Workload) (platform : String) : Except PyError (List ValidateCall) := do
  let some users := plugins.setUp platform conf | throw (.other "user context")
  workloads.mapM (validateInUserContext plugins admin conf platform users)

/-- The body of `for platform, workloads in platforms.items()`. -/
def validatePlatform (plugins : SemanticPlugins) (deployment : Deployment) (platform : String)
    (workloads : List Workload) : Except PyError (List ValidateCall) := do
  let some creds := deployment.credentialsFor platform | throw (.other "get_credentials_for")
  if creds.admin.truthy && !plugins.verifyConnection creds.admin then
    throw (.other "verify_connection")
  let (withUsers, withExistingUsers) ← splitByUsers creds workloads
  let usersCalls ← (if withUsers.isEmpty then pure []
    else validateConfigSemanticHelper plugins creds.admin (.users creds.admin) withUsers platform)
  let existingCalls ← (if withExistingUsers.isEmpty then pure []
    else validateConfigSemanticHelper plugins creds.admin (.existingUsers creds.users)
      withExistingUsers platform)
  pure (usersCalls ++ existingCalls)

/-- `TaskEngine._validate_config_semantic`: the `Scenario.validate` calls it makes, in order. -/
def validateConfigSemantic (plugins : SemanticPlugins) (scenarios : Scenarios)
    (deployment : Deployment) (config : TaskConfig) : Except PyError (List ValidateCall) := do
  let platforms ← groupByPlatform scenarios [] (config.subtasks.flatMap SubTask.workloads)
  let calls ← platforms.mapM fun group => validatePlatform plugins deployment group.1 group.2
  pure calls.flatten

/-! ## Workloads by platform -/

section Grouping

variable {scenarios : Scenarios}

/-- Every workload filed under a platform is a workload of a scenario of that platform. -/
def Grouped (scenarios : Scenarios) (groups : List (String × List Workload)) : Prop :=
  ∀ group ∈ groups, ∀ w ∈ group.2, ∃ cls, scenarios.get w.name = some cls ∧ cls.platform = group.1

/-- Filing a workload adds it to the workloads of the groups, and loses none. -/
theorem addToGroup_perm (groups : List (String × List Workload)) (platform : String) (w : Workload) :
    ((addToGroup groups platform w).flatMap Prod.snd).Perm (groups.flatMap Prod.snd ++ [w]) := by
  induction groups with
  | nil => rfl
  | cons group rest ih =>
    obtain ⟨key, ws⟩ := group
    unfold addToGroup
    split
    · simpa only [List.flatMap_cons, List.append_assoc] using
        List.perm_append_comm.append_left ws
    · simpa only [List.flatMap_cons, List.append_assoc] using ih.append_left ws

theorem grouped_addToGroup {groups : List (String × List Workload)}
    (grouped : Grouped scenarios groups) {w : Workload} {cls : ScenarioCls}
    (found : scenarios.get w.name = some cls) :
    Grouped scenarios (addToGroup groups cls.platform w) := by
  induction groups with
  | nil =>
    refine List.forall_mem_singleton.mpr fun w' mem => ?_
    rw [List.mem_singleton.mp mem]
    exact ⟨cls, found, rfl⟩
  | cons group rest ih =>
    obtain ⟨key, ws⟩ := group
    rw [Grouped, List.forall_mem_cons] at grouped
    unfold addToGroup
    split
    · next same =>
      subst same
      refine List.forall_mem_cons.mpr ⟨fun w' mem => ?_, grouped.2⟩
      rcases List.mem_append.mp mem with mem | mem
      · exact grouped.1 w' mem
      · rw [List.mem_singleton.mp mem]
        exact ⟨cls, found, rfl⟩
    · exact List.forall_mem_cons.mpr ⟨grouped.1, ih grouped.2⟩

/-- The grouping loop files every workload, once, under the platform of its scenario. -/
theorem groupByPlatform_eq_ok {groups result : List (String × List Workload)} {ws : List Workload}
    (h : groupByPlatform scenarios groups ws = .ok result) (grouped : Grouped scenarios groups) :
    Grouped scenarios result ∧ (result.flatMap Prod.snd).Perm (groups.flatMap Prod.snd ++ ws) := by
  induction ws generalizing groups with
  | nil => cases h; exact ⟨grouped, by simp⟩
  | cons w rest ih =>
    cases found : scenarios.get w.name with
    | none => simp [groupByPlatform, found] at h
    | some cls =>
      simp only [groupByPlatform, found] at h
      obtain ⟨grouped', perm⟩ := ih h (grouped_addToGroup grouped found)
      refine ⟨grouped', perm.trans ?_⟩
      simpa only [List.append_assoc, List.singleton_append] using
        (addToGroup_perm groups cls.platform w).append_right rest

end Grouping

/-! ## One platform -/

/-- `creds["users"] and "users" not in workload.context`, as a condition. -/
theorem usesExistingUsers_eq_ok {creds : Credentials} {w : Workload} {existing : Bool}
    (h : usesExistingUsers creds w = .ok existing) :
    existing = true ↔ creds.users.truthy ∧ w.context.contains "users" = .ok false := by
  unfold usesExistingUsers at h
  cases truthy : creds.users.truthy <;> simp only [truthy, if_false, if_true] at h
  · cases h
    simp
  · cases given : w.context.contains "users" <;> simp [given, pure, Except.pure] at h ⊢
    subst h
    simp

/-- The split of a platform's workloads loses none, and sends each to the side its condition
names. -/
theorem splitByUsers_eq_ok {creds : Credentials} {ws withUsers withExistingUsers : List Workload}
    (h : splitByUsers creds ws = .ok (withUsers, withExistingUsers)) :
    (withUsers ++ withExistingUsers).Perm ws ∧
      (∀ w ∈ withUsers, usesExistingUsers creds w = .ok false) ∧
      ∀ w ∈ withExistingUsers, usesExistingUsers creds w = .ok true := by
  induction ws generalizing withUsers withExistingUsers with
  | nil => cases h; simp
  | cons w rest ih =>
    simp only [splitByUsers, bind_eq_ok] at h
    obtain ⟨existing, uses, ⟨u, e⟩, rest_ok, same⟩ := h
    obtain ⟨perm, users, existingUsers⟩ := ih rest_ok
    cases existing <;> cases same
    · exact ⟨perm.cons w, List.forall_mem_cons.mpr ⟨uses, users⟩, existingUsers⟩
    · exact ⟨List.perm_middle.trans (perm.cons w), users,
        List.forall_mem_cons.mpr ⟨uses, existingUsers⟩⟩

section Platform

variable {plugins : SemanticPlugins} {admin : Json} {conf : UserContextConf} {platform : String}

theorem validateInUserContext_eq_ok {users : Json} {w : Workload} {call : ValidateCall}
    (h : validateInUserContext plugins admin conf platform users w = .ok call) :
    call = ⟨w, conf, .object [(platform, .object [("admin", admin), ("users", users)])]⟩ := by
  simp only [validateInUserContext] at h
  split at h
  · cases h; rfl
  · cases h

/-- One of the two `if workloads_...:` blocks: each of its workloads validated once, in the one
user context it set up. -/
theorem userContextCalls_eq_ok {ws : List Workload} {calls : List ValidateCall}
    (h : (if ws.isEmpty then pure [] else
      validateConfigSemanticHelper plugins admin conf ws platform) = .ok calls) :
    calls.map ValidateCall.workload = ws ∧ ∀ call ∈ calls, call.context = conf ∧
      ∃ users, plugins.setUp platform conf = some users ∧
        call.credentials = .object [(platform, .object [("admin", admin), ("users", users)])] := by
  split at h
  · next empty =>
    cases h
    simpa using (List.isEmpty_iff.mp empty).symm
  · unfold validateConfigSemanticHelper at h
    cases setUp : plugins.setUp platform conf with
    | none => simp [setUp] at h
    | some users =>
      simp only [setUp] at h
      refine ⟨map_of_mapM_eq_ok h fun w call ok => by rw [validateInUserContext_eq_ok ok],
        fun call mem => ?_⟩
      obtain ⟨w, -, ok⟩ := mem_of_mapM_eq_ok h mem
      rw [validateInUserContext_eq_ok ok]
      exact ⟨rfl, users, rfl, rfl⟩

/-- The spec lemma of one platform's pass: its workloads validated once each, with the
platform's admin, under the context their split chose. -/
theorem validatePlatform_eq_ok {deployment : Deployment} {ws : List Workload}
    {calls : List ValidateCall} (h : validatePlatform plugins deployment platform ws = .ok calls) :
    ∃ creds, deployment.credentialsFor platform = some creds ∧
      (calls.map ValidateCall.workload).Perm ws ∧
      ∀ call ∈ calls,
        (usesExistingUsers creds call.workload = .ok true ∧ call.context = .existingUsers creds.users ∨
          usesExistingUsers creds call.workload = .ok false ∧ call.context = .users creds.admin) ∧
        ∃ users, plugins.setUp platform call.context = some users ∧
          call.credentials = .object [(platform, .object [("admin", creds.admin), ("users", users)])] := by
  unfold validatePlatform at h
  cases found : deployment.credentialsFor platform with
  | none => simp [found] at h
  | some creds =>
    simp only [found] at h
    split at h
    · cases h
    · obtain ⟨-, -, h⟩ := bind_eq_ok.mp h
      obtain ⟨⟨withUsers, withExistingUsers⟩, split_ok, h⟩ := bind_eq_ok.mp h
      obtain ⟨usersCalls, usersOk, h⟩ := bind_eq_ok.mp h
      obtain ⟨existingCalls, existingOk, h⟩ := bind_eq_ok.mp h
      cases h
      obtain ⟨perm, users, existing⟩ := splitByUsers_eq_ok split_ok
      obtain ⟨usersMap, usersCall⟩ := userContextCalls_eq_ok usersOk
      obtain ⟨existingMap, existingCall⟩ := userContextCalls_eq_ok existingOk
      refine ⟨creds, rfl, by rwa [List.map_append, usersMap, existingMap], fun call mem => ?_⟩
      rcases List.mem_append.mp mem with mem | mem
      · obtain ⟨context, setUp⟩ := usersCall call mem
        have listed := usersMap ▸ List.mem_map_of_mem ValidateCall.workload mem
        rw [context]
        exact ⟨.inr ⟨users _ listed, rfl⟩, setUp⟩
      · obtain ⟨context, setUp⟩ := existingCall call mem
        have listed := existingMap ▸ List.mem_map_of_mem ValidateCall.workload mem
        rw [context]
        exact ⟨.inl ⟨existing _ listed, rfl⟩, setUp⟩

end Platform

/-! ## The context the execution gets -/

theorem lookup_setDefault_self (fields : List (String × Json)) (key : String) (value : Json) :
    (setDefault fields key value).lookup key = some ((fields.lookup key).getD value) := by
  unfold setDefault
  cases found : fields.lookup key <;> simp [found, List.lookup_append]

theorem lookup_setDefault_ne {fields : List (String × Json)} {key other : String} {value : Json}
    (ne : other ≠ key) : (setDefault fields key value).lookup other = fields.lookup other := by
  unfold setDefault
  split
  · rfl
  · simp only [List.lookup_append, List.lookup_cons, beq_false_of_ne ne, List.lookup_nil,
      Option.or_none]

/-- A key the workload's context does not name keeps its value from the default context. -/
theorem lookup_update_of_absent {key : String} {base fields : List (String × Json)}
    (absent : fields.lookup key = none) :
    (fields.foldl (fun acc field => setField acc field.1 field.2) base).lookup key =
      base.lookup key := by
  induction fields generalizing base with
  | nil => rfl
  | cons field rest ih =>
    obtain ⟨k, v⟩ := field
    by_cases same : key = k
    · simp [same] at absent
    · simp only [List.lookup_cons, beq_false_of_ne same] at absent
      rw [List.foldl_cons, ih absent, lookup_setField_ne same]

theorem lookup_eq_none_of_contains {fields : List (String × Json)} {key : String}
    (absent : (Json.object fields).contains key = .ok false) : fields.lookup key = none :=
  Option.not_isSome_iff_eq_none.mp (Bool.not_eq_true _ ▸ Except.ok.inj absent)

/-- A key the workload's context names takes its value from there. -/
theorem lookup_update_of_present {key : String} :
    ∀ {base fields : List (String × Json)}, (fields.lookup key).isSome →
      ∃ given, (key, given) ∈ fields ∧
        (fields.foldl (fun acc field => setField acc field.1 field.2) base).lookup key = some given
  | _, [], named => by simp at named
  | base, (k, v) :: rest, named => by
    rw [List.foldl_cons]
    cases later : rest.lookup key with
    | some _ =>
      obtain ⟨given, mem, found⟩ := @lookup_update_of_present key (setField base k v) rest (by simp [later])
      exact ⟨given, List.mem_cons_of_mem _ mem, found⟩
    | none =>
      have same : key = k := by
        by_contra other
        simp [List.lookup_cons, beq_false_of_ne other, later] at named
      subst same
      exact ⟨v, List.mem_cons_self _ _, by rw [lookup_update_of_absent later, lookup_setField_self]⟩

section Prepare

variable {scenarios : Scenarios} {deployment : Deployment} {w : Workload} {cls : ScenarioCls}
  {obj : ContextObj}

/-- The fields `_prepare_context` builds its config from: the workload's context, which is a
dict, laid over the scenario's default context with the `existing_users` or `users` entry. -/
theorem prepareContext_config (found : scenarios.get w.name = some cls)
    (prepared : prepareContext scenarios deployment w.context w.name = .ok obj) :
    ∃ creds fields usersGiven, deployment.credentialsFor cls.platform = some creds ∧
      w.context = .object fields ∧ w.context.contains "users" = .ok usersGiven ∧
      obj.config = fields.foldl (fun acc field => setField acc field.1 field.2)
        (if creds.users.truthy && !usersGiven then setDefault cls.defaultContext "existing_users" creds.users
         else if !usersGiven then setDefault cls.defaultContext "users" (.object [])
         else cls.defaultContext) := by
  cases credsFound : deployment.credentialsFor cls.platform with
  | none => simp [prepareContext, found, credsFound] at prepared
  | some creds =>
    simp only [prepareContext, found, credsFound, bind_eq_ok] at prepared
    obtain ⟨usersGiven, given, config, updated, prepared⟩ := prepared
    cases prepared
    cases ctx : w.context with
    | object fields =>
      rw [ctx] at updated given
      exact ⟨creds, fields, usersGiven, rfl, rfl, given, (Except.ok.inj updated).symm⟩
    | _ => rw [ctx] at updated; cases updated

/-- An entry the workload's context names is kept, with a value it gives. -/
theorem prepareContext_keeps_given (found : scenarios.get w.name = some cls)
    (prepared : prepareContext scenarios deployment w.context w.name = .ok obj)
    {fields : List (String × Json)} (ctx : w.context = .object fields) {key : String}
    (named : (fields.lookup key).isSome) :
    ∃ given, (key, given) ∈ fields ∧ obj.config.lookup key = some given := by
  obtain ⟨creds, fields', usersGiven, -, ctx', -, config⟩ := prepareContext_config found prepared
  rw [ctx, Json.object.injEq] at ctx'
  subst ctx'
  rw [config]
  exact lookup_update_of_present named

/-- An `existing_users` entry of the scenario's default context is kept when the workload's
context does not name one. -/
theorem prepareContext_keeps_default (found : scenarios.get w.name = some cls)
    (prepared : prepareContext scenarios deployment w.context w.name = .ok obj)
    (notGiven : w.context.contains "existing_users" = .ok false) {default : Json}
    (defaulted : cls.defaultContext.lookup "existing_users" = some default) :
    obj.config.lookup "existing_users" = some default := by
  obtain ⟨creds, fields, usersGiven, -, ctx, -, config⟩ := prepareContext_config found prepared
  rw [config, lookup_update_of_absent (lookup_eq_none_of_contains (ctx ▸ notGiven))]
  split
  · simp [lookup_setDefault_self, defaulted]
  · split
    · rw [lookup_setDefault_ne (by decide), defaulted]
    · exact defaulted

/-- When neither the workload's context nor its scenario's default context names
`existing_users`, `_prepare_context` puts the deployment's users there exactly when the split
of `_validate_config_semantic` sends the workload to the existing users. -/
theorem prepareContext_existingUsers {creds : Credentials} (found : scenarios.get w.name = some cls)
    (credsFound : deployment.credentialsFor cls.platform = some creds)
    (prepared : prepareContext scenarios deployment w.context w.name = .ok obj)
    (noDefault : cls.defaultContext.lookup "existing_users" = none)
    (notGiven : w.context.contains "existing_users" = .ok false) :
    obj.config.lookup "existing_users" = some creds.users ↔ usesExistingUsers creds w = .ok true := by
  obtain ⟨creds', fields, usersGiven, credsFound', ctx, given, config⟩ :=
    prepareContext_config found prepared
  obtain rfl : creds' = creds := Option.some.inj (credsFound'.symm.trans credsFound)
  rw [config, lookup_update_of_absent (lookup_eq_none_of_contains (ctx ▸ notGiven))]
  cases truthy : creds'.users.truthy <;> cases usersGiven <;>
    simp [usesExistingUsers, given, truthy, pure, Except.pure, lookup_setDefault_self,
      lookup_setDefault_ne, noDefault]

end Prepare

/-! ## The whole pass -/

/-- When no check raises, every workload of the task is validated exactly once, with the admin
of its scenario's platform and the users of a context of that platform: the deployment's
existing users when the deployment has users and the workload's context has no `users` key, and
users set up for the admin otherwise.  Without an `existing_users` key in the workload's or the
scenario's default context, the existing users are chosen exactly for the workloads whose
execution `_prepare_context` gives them; with one, `_prepare_context` keeps that entry. -/
theorem validateConfigSemantic_calls (plugins : SemanticPlugins) (scenarios : Scenarios)
    (deployment : Deployment) {config : TaskConfig} {calls : List ValidateCall}
    (validated : validateConfigSemantic plugins scenarios deployment config = .ok calls) :
    (calls.map ValidateCall.workload).Perm (config.subtasks.flatMap SubTask.workloads) ∧
    ∀ call ∈ calls, ∃ cls creds users, scenarios.get call.workload.name = some cls ∧
      deployment.credentialsFor cls.platform = some creds ∧
      plugins.setUp cls.platform call.context = some users ∧
      call.credentials = .object [(cls.platform, .object [("admin", creds.admin), ("users", users)])] ∧
      (creds.users.truthy ∧ call.workload.context.contains "users" = .ok false ∧
          call.context = .existingUsers creds.users ∨
        ¬(creds.users.truthy ∧ call.workload.context.contains "users" = .ok false) ∧
          call.context = .users creds.admin) ∧
      ∀ obj, prepareContext scenarios deployment call.workload.context call.workload.name = .ok obj →
        (cls.defaultContext.lookup "existing_users" = none →
          call.workload.context.contains "existing_users" = .ok false →
          (obj.config.lookup "existing_users" = some creds.users ↔
            call.context = .existingUsers creds.users)) ∧
        (∀ fields, call.workload.context = .object fields → (fields.lookup "existing_users").isSome →
          ∃ given, ("existing_users", given) ∈ fields ∧ obj.config.lookup "existing_users" = some given) ∧
        (∀ default, call.workload.context.contains "existing_users" = .ok false →
          cls.defaultContext.lookup "existing_users" = some default →
          obj.config.lookup "existing_users" = some default) := by
  simp only [validateConfigSemantic, bind_eq_ok] at validated
  obtain ⟨groups, grouped, callss, calls_ok, same⟩ := validated
  cases same
  obtain ⟨byPlatform, perm⟩ := groupByPlatform_eq_ok grouped (by simp [Grouped])
  have platformsPerm : ∀ (group : String × List Workload) cs,
      validatePlatform plugins deployment group.1 group.2 = .ok cs →
        (cs.map ValidateCall.workload).Perm group.2 := fun _ _ ok => by
    obtain ⟨-, -, perm, -⟩ := validatePlatform_eq_ok ok
    exact perm
  refine ⟨(flatten_perm_of_mapM_eq_ok calls_ok platformsPerm).trans (by simpa using perm),
    fun call mem => ?_⟩
  obtain ⟨cs, cs_mem, mem⟩ := List.mem_flatten.mp mem
  obtain ⟨⟨platform, ws⟩, group_mem, group_ok⟩ := mem_of_mapM_eq_ok calls_ok cs_mem
  obtain ⟨creds, credsFound, csPerm, each⟩ := validatePlatform_eq_ok group_ok
  obtain ⟨cls, found, rfl⟩ :=
    byPlatform _ group_mem call.workload (csPerm.subset (List.mem_map_of_mem _ mem))
  obtain ⟨split, users, setUp, credentials⟩ := each call mem
  refine ⟨cls, creds, users, found, credsFound, setUp, credentials, ?_,
    fun obj prepared => ⟨fun noDefault notGiven => ?_,
      fun _ ctx named => prepareContext_keeps_given found prepared ctx named,
      fun _ notGiven defaulted => prepareContext_keeps_default found prepared notGiven defaulted⟩⟩
  · rcases split with ⟨uses, context⟩ | ⟨uses, context⟩
    · obtain ⟨truthy, notGiven⟩ := (usesExistingUsers_eq_ok uses).mp rfl
      exact .inl ⟨truthy, notGiven, context⟩
    · exact .inr ⟨fun condition => Bool.false_ne_true ((usesExistingUsers_eq_ok uses).mpr condition),
        context⟩
  · rw [prepareContext_existingUsers found credsFound prepared noDefault notGiven]
    rcases split with ⟨uses, context⟩ | ⟨uses, context⟩ <;> simp [uses, context]

/-- Scenarios of the `openstack` platform with an empty default context. -/
def openstackScenarios : Scenarios := ⟨fun _ => some ⟨"Dummy", "openstack", []⟩⟩

/-- A deployment with no admin and one existing user. -/
def oneUserDeployment : Deployment := ⟨fun _ => some ⟨.null, .array [.string "u1"]⟩⟩

/-- Plugins whose user contexts give one user and whose validators find nothing. -/
def passingPlugins : SemanticPlugins :=
  ⟨fun _ => true, fun _ _ => some (.array [.string "u1"]), fun _ _ _ => []⟩

/-- A task of two workloads, the second with its own `users` context. -/
def twoWorkloadTask : Json :=
  .object [("version", .number 2), ("title", .string "Task"),
    ("subtasks", .array [.object [("title", .string "boot"),
      ("workloads", .array [
        .object [("name", .string "Dummy.dummy"), ("runner", .object [("type", .string "constant")])],
        .object [("name", .string "Dummy.dummy"), ("runner", .object [("type", .string "constant")]),
          ("context", .object [("users", .object [])])]])]])]

/-- A task whose two workloads are validated in the two user contexts, one each. -/
theorem twoWorkloadTask_semantic_calls :
    ∃ cfg calls, TaskConfig.init openstackScenarios twoWorkloadTask = .ok cfg ∧
      validateConfigSemantic passingPlugins openstackScenarios oneUserDeployment cfg = .ok calls ∧
      (calls.map ValidateCall.workload).Perm (cfg.subtasks.flatMap SubTask.workloads) ∧
      ∀ call ∈ calls, ∃ cls creds users, openstackScenarios.get call.workload.name = some cls ∧
        oneUserDeployment.credentialsFor cls.platform = some creds ∧
        passingPlugins.setUp cls.platform call.context = some users ∧
        call.credentials =
          .object [(cls.platform, .object [("admin", creds.admin), ("users", users)])] ∧
        (creds.users.truthy ∧ call.workload.context.contains "users" = .ok false ∧
            call.context = .existingUsers creds.users ∨
          ¬(creds.users.truthy ∧ call.workload.context.contains "users" = .ok false) ∧
            call.context = .users creds.admin) ∧
        ∀ obj, prepareContext openstackScenarios oneUserDeployment call.workload.context
            call.workload.name = .ok obj →
          (cls.defaultContext.lookup "existing_users" = none →
            call.workload.context.contains "existing_users" = .ok false →
            (obj.config.lookup "existing_users" = some creds.users ↔
              call.context = .existingUsers creds.users)) ∧
          (∀ fields, call.workload.context = .object fields →
            (fields.lookup "existing_users").isSome →
            ∃ given, ("existing_users", given) ∈ fields ∧
              obj.config.lookup "existing_users" = some given) ∧
          (∀ default, call.workload.context.contains "existing_users" = .ok false →
            cls.defaultContext.lookup "existing_users" = some default →
            obj.config.lookup "existing_users" = some default) :=
  ⟨_, _, rfl, rfl, validateConfigSemantic_calls passingPlugins openstackScenarios oneUserDeployment rfl⟩

/-- A task whose one workload names its own `existing_users`. -/
def ownExistingUsersTask : Json :=
  .object [("version", .number 2), ("title", .string "Task"),
    ("subtasks", .array [.object [("title", .string "boot"),
      ("workloads", .array [
        .object [("name", .string "Dummy.dummy"), ("runner", .object [("type", .string "constant")]),
          ("context", .object [("existing_users", .string "alice")])]])]])]

/-- The workload is validated with the deployment's users, and runs with its own. -/
theorem ownExistingUsersTask_runs_other_users :
    ∃ cfg call, TaskConfig.init openstackScenarios ownExistingUsersTask = .ok cfg ∧
      validateConfigSemantic passingPlugins openstackScenarios oneUserDeployment cfg = .ok [call] ∧
      call.context = .existingUsers (.array [.string "u1"]) ∧
      ∃ obj, prepareContext openstackScenarios oneUserDeployment call.workload.context
          call.workload.name = .ok obj ∧
        obj.config.lookup "existing_users" = some (.string "alice") :=
  ⟨_, _, rfl, rfl, rfl, _, rfl, rfl⟩

end Rally.Engine
