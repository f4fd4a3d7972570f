import Rally.Config.Reads
import Rally.Config.Validation
import Rally.Config.Builds

/-! # The engine's later reads of an accepted task

`TaskConfig` checks a document against `CONFIG_SCHEMA_V1` or `CONFIG_SCHEMA_V2` before building
the tree; afterwards `_get_runner`, `_validate_config_syntax` and `_prepare_context` read each
workload's runner, context, SLA and hooks again with `[]`, iteration, `.items()`, `in` and
`update`.  `Workload.Shaped` is what those reads index; every workload of an accepted document,
of either version, has it (`TaskConfig.init_shaped`), so none of the reads raises a `KeyError`,
`TypeError` or `AttributeError`: what can still fail is a plugin lookup, the deployment, or the
plugins' own findings.
-/

set_option autoImplicit false

namespace Rally.Engine

/-! ## What the later reads ask of a workload -/

/-- A hook entry as `_validate_config_syntax` indexes it: a dict with `name`, `args` and a dict
`trigger` that has `name` and `args`. -/
def HookShaped (hook : Json) : Prop :=
  ∃ fields trigger, hook = .object fields ∧ (fields.lookup "name").isSome ∧
    (fields.lookup "args").isSome ∧ fields.lookup "trigger" = some (.object trigger) ∧
    (trigger.lookup "name").isSome ∧ (trigger.lookup "args").isSome

/-- The dicts of a workload as the engine reads them after `TaskConfig`: a runner dict that is
empty or names its `type`, dicts for the context and the SLA, and a list of hook entries. -/
structure Workload.Shaped (w : Workload) : Prop where
  runner : ∃ fields, w.runner = .object fields ∧ (fields = [] ∨ (fields.lookup "type").isSome)
  context : ∃ fields, w.context = .object fields
  sla : ∃ fields, w.sla = .object fields
  hooks : ∃ hooks, w.hooks = .array hooks ∧ ∀ hook ∈ hooks, HookShaped hook

theorem getRunner_eq_ok {runner : Json}
    (shaped : ∃ fields, runner = .object fields ∧ (fields = [] ∨ (fields.lookup "type").isSome)) :
    ∃ read, getRunner runner = .ok read := by
  obtain ⟨fields, rfl, empty | typed⟩ := shaped
  · subst empty
    exact ⟨_, rfl⟩
  · obtain ⟨type, found⟩ := Option.isSome_iff_exists.mp typed
    have nonempty : fields ≠ [] := by rintro rfl; cases found
    refine ⟨(type, .object fields), ?_⟩
    simp [getRunner, Json.truthy, nonempty, found, pure, Except.pure]

theorem hookMessages_eq_ok (v : Validators) {hook : Json} (shaped : HookShaped hook) :
    ∃ messages, hookMessages v hook = .ok messages := by
  obtain ⟨fields, trigger, rfl, name, args, found, triggerName, triggerArgs⟩ := shaped
  obtain ⟨_, name⟩ := Option.isSome_iff_exists.mp name
  obtain ⟨_, args⟩ := Option.isSome_iff_exists.mp args
  obtain ⟨_, triggerName⟩ := Option.isSome_iff_exists.mp triggerName
  obtain ⟨_, triggerArgs⟩ := Option.isSome_iff_exists.mp triggerArgs
  exact ⟨_, by simp [hookMessages, name, args, found, triggerName, triggerArgs]; rfl⟩

theorem workloadSyntaxResults_eq_ok (v : Validators) (cls : ScenarioCls) {w : Workload}
    (shaped : w.Shaped) : ∃ results, workloadSyntaxResults v cls w = .ok results := by
  obtain ⟨hooks, hooksEq, hooksShaped⟩ := shaped.hooks
  obtain ⟨messages, messagesOk⟩ :=
    mapM_eq_ok_of_forall fun hook mem => hookMessages_eq_ok v (hooksShaped hook mem)
  obtain ⟨context, contextEq⟩ := shaped.context
  obtain ⟨sla, slaEq⟩ := shaped.sla
  obtain ⟨runner, runnerEq, runnerShaped⟩ := shaped.runner
  obtain ⟨name, description, _, _, _, _, args, pos⟩ := w
  simp only at hooksEq contextEq slaEq runnerEq
  subst hooksEq contextEq slaEq runnerEq
  unfold workloadSyntaxResults
  simp only [Json.items, Json.iter, messagesOk, ok_bind]
  split
  · have typed : ∃ type, runner.lookup "type" = some type := by
      rcases runnerShaped with rfl | typed
      · simp_all [Json.truthy]
      · exact Option.isSome_iff_exists.mp typed
    obtain ⟨type, foundType⟩ := typed
    simp only [Json.getItem_object, foundType, ok_bind, pure, Except.pure]
    exact ⟨_, rfl⟩
  · exact ⟨_, rfl⟩

theorem validateWorkloadSyntax_not_shapeError (v : Validators) (scenarios : Scenarios) {w : Workload}
    (shaped : w.Shaped) {e : PyError} (failed : validateWorkloadSyntax v scenarios w = .error e) :
    e.isShapeError = false := by
  unfold validateWorkloadSyntax at failed
  cases found : scenarios.get w.name with
  | none =>
    simp only [found] at failed
    cases failed
    rfl
  | some cls =>
    obtain ⟨results, resultsOk⟩ := workloadSyntaxResults_eq_ok v cls shaped
    simp only [found, resultsOk, ok_bind] at failed
    split at failed
    · cases failed
    · cases failed; rfl

theorem prepareContext_not_shapeError (scenarios : Scenarios) (deployment : Deployment) {ctx name : Json}
    (shaped : ∃ fields, ctx = .object fields) {e : PyError}
    (failed : prepareContext scenarios deployment ctx name = .error e) : e.isShapeError = false := by
  obtain ⟨fields, rfl⟩ := shaped
  unfold prepareContext at failed
  cases found : scenarios.get name with
  | none =>
    simp only [found] at failed
    cases failed
    rfl
  | some cls =>
    cases creds : deployment.credentialsFor cls.platform with
    | none =>
      simp only [found, creds] at failed
      cases failed
      rfl
    | some c => simp [found, creds, Json.contains, update, pure, Except.pure] at failed

/-! ## What acceptance gives -/

section Accepted

variable {scenarios : Scenarios} {schema sub item : Schema} {fields : List (String × Json)}

theorem found_of_validate (valid : schema.validate (.object fields) = true) {key : String}
    {value : Json} (found : fields.lookup key = some value)
    (prop : schema.properties.lookup key = some sub) : sub.validate value = true :=
  Schema.property_of_validate valid (mem_of_lookup found) prop

/-- A property typed `object`, read with `{}` as its default, is a dict. -/
theorem objectDefault_of_validate (valid : schema.validate (.object fields) = true) {key : String}
    (prop : schema.properties.lookup key = some sub) (type : sub.type = some .object) :
    ∃ inner, (fields.lookup key).getD (.object []) = .object inner := by
  cases found : fields.lookup key with
  | none => exact ⟨[], rfl⟩
  | some value => exact Schema.object_of_validate type (found_of_validate valid found prop)

theorem hookShaped_of_validate {hook : Json} (valid : hookConfig.validate hook = true) :
    HookShaped hook := by
  obtain ⟨fields, rfl⟩ := Schema.object_of_validate rfl valid
  have required : ∀ key ∈ hookConfig.required, (fields.lookup key).isSome := fun _ =>
    Schema.required_of_validate valid
  obtain ⟨trigger, found⟩ := Option.isSome_iff_exists.mp (required "trigger" (by decide))
  have triggerOk := found_of_validate valid found rfl
  obtain ⟨inner, rfl⟩ := Schema.object_of_validate rfl triggerOk
  exact ⟨fields, inner, rfl, required "name" (by decide), required "args" (by decide), found,
    Schema.required_of_validate triggerOk (by decide), Schema.required_of_validate triggerOk (by decide)⟩

/-- The properties of a workload entry the later reads look at, with the schemas both versions
give them. -/
structure EntrySchema (schema : Schema) : Prop where
  runner : schema.properties.lookup "runner" = some runnerSchema
  context : schema.properties.lookup "context" = some (.ofType .object)
  sla : schema.properties.lookup "sla" = some (.ofType .object)
  hooks : schema.properties.lookup "hooks" = some hooksSchema

/-- A workload built from a dict that a workload schema accepted, with `name` possibly set in
between, has the shape the later reads index. -/
theorem Workload.shaped_of_validate {pos : Nat} {w : Workload}
    (valid : schema.validate (.object fields) = true) (entry : EntrySchema schema)
    {named : List (String × Json)} (same : ∀ key, key ≠ "name" → named.lookup key = fields.lookup key)
    (built : Workload.init scenarios (.object named) pos = .ok w) : w.Shaped := by
  obtain ⟨_, eq, runnerEq, contextEq, slaEq, hooksEq⟩ := Workload.init_eq_ok built
  cases eq
  rw [same _ (by decide)] at runnerEq contextEq slaEq hooksEq
  refine ⟨?_, contextEq ▸ objectDefault_of_validate valid entry.context rfl,
    slaEq ▸ objectDefault_of_validate valid entry.sla rfl, ?_⟩
  · rw [runnerEq]
    cases found : fields.lookup "runner" with
    | none => exact ⟨[], rfl, .inl rfl⟩
    | some value =>
      have runnerOk := found_of_validate valid found entry.runner
      obtain ⟨inner, rfl⟩ := Schema.object_of_validate rfl runnerOk
      exact ⟨inner, rfl, .inr (Schema.required_of_validate runnerOk (by decide))⟩
  · rw [hooksEq]
    cases found : fields.lookup "hooks" with
    | none => exact ⟨[], rfl, by simp⟩
    | some value =>
      have hooksOk := found_of_validate valid found entry.hooks
      obtain ⟨hooks, rfl⟩ := Schema.array_of_validate rfl hooksOk
      exact ⟨hooks, rfl, fun _ mem => hookShaped_of_validate (Schema.item_of_validate hooksOk rfl mem)⟩

/-! ## From the document to each workload -/

/-- The elements of a list property read with `[]` and iterated each pass the `items` schema. -/
theorem items_of_validate (valid : schema.validate (.object fields) = true) {key : String}
    {value : Json} (found : fields.lookup key = some value)
    (prop : schema.properties.lookup key = some sub) (type : sub.type = some .array)
    (itemsOf : sub.items = some item) {items : List Json} (iterOk : value.iter = .ok items) :
    ∀ x ∈ items, item.validate x = true := by
  have listOk := found_of_validate valid found prop
  obtain ⟨_, rfl⟩ := Schema.array_of_validate type listOk
  cases iterOk
  exact fun _ mem => Schema.item_of_validate listOk itemsOf mem

theorem SubTask.shaped_of_validate {config : Json} {st : SubTask}
    (valid : subtaskSchemaV2.validate config = true) (built : SubTask.init scenarios config = .ok st) :
    ∀ w ∈ st.workloads, w.Shaped := by
  obtain ⟨fields, _, items, rfl, found, iterOk, workloads⟩ := SubTask.init_eq_ok built
  have itemsOk := items_of_validate valid found rfl rfl rfl iterOk
  intro w mem
  obtain ⟨pos, wconf, wconfMem, wOk⟩ := workloads w mem
  have wconfValid := itemsOk wconf wconfMem
  obtain ⟨_, rfl⟩ := Schema.object_of_validate rfl wconfValid
  exact Workload.shaped_of_validate wconfValid ⟨rfl, rfl, rfl, rfl⟩ (fun _ _ => rfl) wOk

theorem shaped_of_v2 {config subtaskConfigs : Json} {items : List Json} {subtasks : List SubTask}
    (valid : configSchemaV2.validate config = true) (got : config.getItem "subtasks" = .ok subtaskConfigs)
    (iterOk : subtaskConfigs.iter = .ok items) (built : items.mapM (SubTask.init scenarios) = .ok subtasks) :
    ∀ st ∈ subtasks, ∀ w ∈ st.workloads, w.Shaped := by
  obtain ⟨_, rfl⟩ := Schema.object_of_validate rfl valid
  have itemsOk := items_of_validate valid (Json.getItem_eq_ok.mp got) rfl rfl rfl iterOk
  intro st mem
  obtain ⟨stConfig, stMem, stOk⟩ := mem_of_mapM_eq_ok built mem
  exact SubTask.shaped_of_validate (itemsOk stConfig stMem) stOk

theorem shaped_of_v1 {config : Json} {subtasks : List SubTask}
    (valid : configSchemaV1.validate config = true) (built : makeSubtasksV1 scenarios config = .ok subtasks) :
    ∀ st ∈ subtasks, ∀ w ∈ st.workloads, w.Shaped := by
  obtain ⟨fields, rfl⟩ := Schema.object_of_validate rfl valid
  simp only [makeSubtasksV1, Json.items, ok_bind, bind_eq_ok, pure, Except.pure, Except.ok.injEq] at built
  obtain ⟨groups, groupsOk, rfl⟩ := built
  intro st mem w wMem
  obtain ⟨group, groupMem, stMem⟩ := List.mem_flatten.mp mem
  obtain ⟨⟨name, v1Workloads⟩, fieldMem, groupOk⟩ := mem_of_mapM_eq_ok groupsOk groupMem
  obtain ⟨entries, iterOk, entriesOk⟩ := bind_eq_ok.mp groupOk
  obtain ⟨entry, entryMem, stOk⟩ := mem_of_mapM_eq_ok entriesOk stMem
  obtain ⟨v2Workload, setOk, subOk⟩ := bind_eq_ok.mp stOk
  have listOk := Schema.pattern_of_validate valid fieldMem rfl
  obtain ⟨_, rfl⟩ := Schema.array_of_validate rfl listOk
  cases iterOk
  have entryValid := Schema.item_of_validate listOk rfl entryMem
  obtain ⟨_, rfl⟩ := Schema.object_of_validate rfl entryValid
  cases setOk
  obtain ⟨_, _, items, eq, found, iterOk, workloads⟩ := SubTask.init_eq_ok subOk
  cases eq
  cases found
  cases iterOk
  obtain ⟨pos, wconf, wconfMem, wOk⟩ := workloads w wMem
  cases List.mem_singleton.mp wconfMem
  exact Workload.shaped_of_validate entryValid ⟨rfl, rfl, rfl, rfl⟩ (fun _ ne => lookup_setField_ne ne) wOk

/-- Every workload of an accepted document, of either version, has the shape the later reads
index. -/
theorem TaskConfig.init_shaped {config : Json} {cfg : TaskConfig}
    (accepted : TaskConfig.init scenarios config = .ok cfg) :
    ∀ st ∈ cfg.subtasks, ∀ w ∈ st.workloads, w.Shaped := by
  obtain ⟨valid, built⟩ := TaskConfig.init_eq_ok accepted
  rcases makeSubtasks_eq_ok built with empty | ⟨key, _, _, got, iterOk, mapOk⟩ | ⟨key, v1Ok⟩
  · simp [empty]
  · exact shaped_of_v2 (validate_of_schemaKey valid key rfl) got iterOk mapOk
  · exact shaped_of_v1 (validate_of_schemaKey valid key rfl) v1Ok

end Accepted

/-- On a document `TaskConfig` accepts, `_validate_config_syntax` fails only through the plugin
lookup or the plugins' findings, `_get_runner` finds a runner type, and `_prepare_context`
fails only through the plugin lookup or the deployment: none of them raises because of the
document's shape. -/
theorem taskConfig_reads_total (scenarios : Scenarios) (deployment : Deployment) (v : Validators)
    {config : Json} {cfg : TaskConfig} (accepted : TaskConfig.init scenarios config = .ok cfg) :
    (∀ e, validateConfigSyntax v scenarios cfg = .error e → e.isShapeError = false) ∧
    ∀ st ∈ cfg.subtasks, ∀ w ∈ st.workloads,
      (∃ read, getRunner w.runner = .ok read) ∧
      ∀ e, prepareContext scenarios deployment w.context w.name = .error e → e.isShapeError = false := by
  have shaped := TaskConfig.init_shaped accepted
  refine ⟨fun e failed => ?_, fun st mem w wMem =>
    ⟨getRunner_eq_ok (shaped st mem w wMem).runner,
     fun _ => prepareContext_not_shapeError _ _ (shaped st mem w wMem).context⟩⟩
  obtain ⟨st, mem, stFailed⟩ := mem_of_forM_eq_error failed
  obtain ⟨w, wMem, wFailed⟩ := mem_of_forM_eq_error stFailed
  exact validateWorkloadSyntax_not_shapeError v scenarios (shaped st mem w wMem) wFailed

/-- A version-2 document with one subtask of one workload, whose runner names its type. -/
def oneWorkloadTask : Json :=
  .object [("version", .number 2), ("title", .string "Task"),
    ("subtasks", .array [.object [("title", .string "boot"),
      ("workloads", .array [.object [("name", .string "Dummy.dummy"),
        ("runner", .object [("type", .string "constant")])]])]])]

/-- Plugins that report no finding. -/
def silentValidators : Validators :=
  ⟨fun _ _ _ => [], fun _ _ _ _ => [], fun _ _ => [], fun _ _ => [], fun _ _ => []⟩

theorem oneWorkloadTask_reads_total :
    ∃ cfg, TaskConfig.init ⟨fun _ => some ⟨"Dummy", "openstack", []⟩⟩ oneWorkloadTask = .ok cfg ∧
      ((∀ e, validateConfigSyntax silentValidators ⟨fun _ => some ⟨"Dummy", "openstack", []⟩⟩ cfg = .error e →
          e.isShapeError = false) ∧
        ∀ st ∈ cfg.subtasks, ∀ w ∈ st.workloads, (∃ read, getRunner w.runner = .ok read) ∧
          ∀ e, prepareContext ⟨fun _ => some ⟨"Dummy", "openstack", []⟩⟩ ⟨fun _ => none⟩ w.context w.name =
            .error e → e.isShapeError = false) :=
  ⟨_, rfl, @taskConfig_reads_total _ _ _ oneWorkloadTask _ rfl⟩

end Rally.Engine
