import Rally.Config.Shape

/-! # What `TaskConfig` accepts

`TaskConfig.__init__` reads the version, checks the document against the schema that version
selects, and then builds the tree with `[]`, `.get`, iteration and, for version 1, `d[key] = v`.
The schemas guard every one of those reads: a dict whose version selects a schema that accepts
it is always built, and nothing else is (`TaskConfig.init_ok_iff`).  The other direction of the
guard is `TaskConfig.init_shaped`, for the reads after construction.

A consequence of `CONFIG_SCHEMA_V1`'s single pattern `".*"`: it asks every value of the
document to be a list of entries, the value of `"version"` included, so a document that states
`"version": 1` is rejected (`TaskConfig.init_versionOne_rejected`); version 1 is only ever the
default of a document without the key.
-/

set_option autoImplicit false

namespace Rally.Engine

theorem lookup_replace_self {fields : List (String × Json)} {key : String} {value : Json}
    (present : (fields.lookup key).isSome) :
    (fields.map fun field => if field.1 = key then (key, value) else field).lookup key = some value := by
  induction fields with
  | nil => cases present
  | cons field rest ih =>
    obtain ⟨k, v⟩ := field
    by_cases same : k = key
    · subst same
      simp
    · simp only [List.lookup_cons, beq_false_of_ne (Ne.symm same)] at present
      simp only [List.map_cons, same, if_false, List.lookup_cons, beq_false_of_ne (Ne.symm same)]
      exact ih present

/-- `d[key] = value` makes `d[key]` read `value`. -/
theorem lookup_setField_self (fields : List (String × Json)) (key : String) (value : Json) :
    (setField fields key value).lookup key = some value := by
  unfold setField
  split
  · exact lookup_replace_self ‹_›
  · simp only [List.lookup_append, Option.not_isSome_iff_eq_none.mp ‹_›, Option.none_or,
      List.lookup_cons, beq_self_eq_true]

theorem schemaKey_eq_some {version : Json} {key : Nat} (selected : schemaKey version = .ok (some key)) :
    key = 1 ∨ key = 2 := by
  cases version <;> simp only [schemaKey] at selected <;> (repeat' split at selected) <;>
    cases selected <;> simp

/-- `_validate_version` and `_validate_json` pass exactly when the version selects a schema and
that schema accepts the document. -/
theorem validateVersionAndJson_eq_ok {version config : Json} :
    validateVersionAndJson version config = .ok () ↔
      ∃ key schema, schemaKey version = .ok (some key) ∧ configSchemas.lookup key = some schema ∧
        schema.validate config = true := by
  constructor
  · intro valid
    cases selected : schemaKey version with
    | error e => simp [validateVersionAndJson, selected] at valid
    | ok key =>
      cases key with
      | none => simp [validateVersionAndJson, selected] at valid
      | some key =>
        rcases schemaKey_eq_some selected with rfl | rfl
        · exact ⟨1, _, rfl, rfl, validate_of_schemaKey valid selected rfl⟩
        · exact ⟨2, _, rfl, rfl, validate_of_schemaKey valid selected rfl⟩
  · rintro ⟨key, schema, selected, found, accepted⟩
    simp [validateVersionAndJson, selected, found, accepted, pure, Except.pure]

/-! ## Accepted documents are built -/

section Built

variable (scenarios : Scenarios)

/-- `Workload.__init__` reads only `config["name"]` with `[]`. -/
theorem Workload.init_of_named {fields : List (String × Json)} (pos : Nat)
    (named : (fields.lookup "name").isSome) : ∃ w, Workload.init scenarios (.object fields) pos = .ok w := by
  obtain ⟨name, found⟩ := Option.isSome_iff_exists.mp named
  exact ⟨_, by simp only [Workload.init, Json.getItem_object, Json.get_object, found, ok_bind]; rfl⟩

/-- `SubTask.__init__` reads `config["title"]` and `config["workloads"]` with `[]`, and builds a
workload from each dict of the list that names its scenario. -/
theorem SubTask.init_of_named {fields : List (String × Json)} {items : List Json}
    (titled : (fields.lookup "title").isSome) (listed : fields.lookup "workloads" = some (.array items))
    (named : ∀ wconf ∈ items, ∃ wfields, wconf = .object wfields ∧ (wfields.lookup "name").isSome) :
    ∃ st, SubTask.init scenarios (.object fields) = .ok st := by
  obtain ⟨_, titled⟩ := Option.isSome_iff_exists.mp titled
  simp only [SubTask.init, Json.getItem_object, Json.get_object, titled, listed, Json.iter, ok_bind]
  refine bind_ok_of (mapM_eq_ok_of_forall fun ⟨pos, wconf⟩ mem => ?_) fun _ => ⟨_, rfl⟩
  obtain ⟨wfields, rfl, name⟩ := named wconf (List.snd_mem_of_mem_enum mem)
  exact Workload.init_of_named scenarios pos name

/-- A subtask the version-2 schema accepts is built: `title` and `workloads` are required, and
each workload is a dict that names its scenario. -/
theorem SubTask.init_of_validate {config : Json} (valid : subtaskSchemaV2.validate config = true) :
    ∃ st, SubTask.init scenarios config = .ok st := by
  obtain ⟨fields, rfl⟩ := Schema.object_of_validate rfl valid
  obtain ⟨workloads, found⟩ := Option.isSome_iff_exists.mp
    (Schema.required_of_validate valid (by decide : "workloads" ∈ subtaskSchemaV2.required))
  have listOk := found_of_validate valid found rfl
  obtain ⟨items, rfl⟩ := Schema.array_of_validate rfl listOk
  refine SubTask.init_of_named scenarios
    (Schema.required_of_validate valid (by decide : "title" ∈ subtaskSchemaV2.required)) found
    fun wconf mem => ?_
  have wconfOk := Schema.item_of_validate listOk rfl mem
  obtain ⟨wfields, rfl⟩ := Schema.object_of_validate rfl wconfOk
  exact ⟨wfields, rfl, Schema.required_of_validate wconfOk (by decide : "name" ∈ workloadSchemaV2.required)⟩

/-- The version-1 conversion builds every document `CONFIG_SCHEMA_V1` accepts: each value is a
list of dicts, and each copied entry is given the name `Workload.__init__` reads. -/
theorem makeSubtasksV1_of_validate {config : Json} (valid : configSchemaV1.validate config = true) :
    ∃ subtasks, makeSubtasksV1 scenarios config = .ok subtasks := by
  obtain ⟨fields, rfl⟩ := Schema.object_of_validate rfl valid
  simp only [makeSubtasksV1, Json.items, ok_bind]
  refine bind_ok_of (mapM_eq_ok_of_forall fun ⟨name, v1Workloads⟩ mem => ?_) fun _ => ⟨_, rfl⟩
  have listOk := Schema.pattern_of_validate valid mem rfl
  obtain ⟨entries, rfl⟩ := Schema.array_of_validate rfl listOk
  simp only [Json.iter, ok_bind]
  refine mapM_eq_ok_of_forall fun entry entryMem => ?_
  obtain ⟨entryFields, rfl⟩ :=
    Schema.object_of_validate rfl (Schema.item_of_validate listOk rfl entryMem)
  simp only [Json.setItem, ok_bind]
  exact SubTask.init_of_named scenarios rfl rfl
    (List.forall_mem_singleton.mpr ⟨_, rfl, by rw [lookup_setField_self]; rfl⟩)

theorem makeSubtasks_of_validate {version config : Json} {key : Nat} {schema : Schema}
    (selected : schemaKey version = .ok (some key)) (found : configSchemas.lookup key = some schema)
    (valid : schema.validate config = true) :
    ∃ subtasks, makeSubtasks scenarios version config = .ok subtasks := by
  rcases schemaKey_eq_some selected with rfl | rfl
  · obtain rfl : schema = configSchemaV1 := (Option.some.inj found).symm
    simpa only [makeSubtasks, selected, ok_bind] using makeSubtasksV1_of_validate scenarios valid
  · obtain rfl : schema = configSchemaV2 := (Option.some.inj found).symm
    obtain ⟨fields, rfl⟩ := Schema.object_of_validate rfl valid
    obtain ⟨subtaskConfigs, listed⟩ := Option.isSome_iff_exists.mp
      (Schema.required_of_validate valid (by decide : "subtasks" ∈ configSchemaV2.required))
    have listOk := found_of_validate valid listed rfl
    obtain ⟨items, rfl⟩ := Schema.array_of_validate rfl listOk
    simp only [makeSubtasks, selected, ok_bind, Json.getItem_object, listed, Json.iter]
    exact mapM_eq_ok_of_forall fun _ mem =>
      SubTask.init_of_validate scenarios (Schema.item_of_validate listOk rfl mem)

end Built

/-! ## Acceptance -/

theorem TaskConfig.init_version {scenarios : Scenarios} {config : Json} {cfg : TaskConfig}
    (built : TaskConfig.init scenarios config = .ok cfg) :
    ∃ fields, config = .object fields ∧ cfg.version = (fields.lookup "version").getD (.number 1) := by
  cases config with
  | object fields =>
    refine ⟨fields, rfl, ?_⟩
    simp only [TaskConfig.init, getVersion, Json.get_object, ok_bind, bind_eq_ok, pure, Except.pure,
      Except.ok.injEq] at built
    obtain ⟨-, -, -, -, -, -, -, -, -, rfl⟩ := built
    rfl
  | _ => cases built

/-- `TaskConfig(config)` returns exactly when `config` is a dict whose version
(`config.get("version", 1)`) selects a schema of `CONFIG_SCHEMAS` that accepts it: once the
schema has accepted the document, building the subtasks and workloads never raises. -/
theorem TaskConfig.init_ok_iff (scenarios : Scenarios) (config : Json) :
    (∃ cfg, TaskConfig.init scenarios config = .ok cfg) ↔
      ∃ fields key schema, config = .object fields ∧
        schemaKey ((fields.lookup "version").getD (.number 1)) = .ok (some key) ∧
        configSchemas.lookup key = some schema ∧ schema.validate config = true := by
  constructor
  · rintro ⟨cfg, built⟩
    obtain ⟨fields, rfl, version⟩ := TaskConfig.init_version built
    obtain ⟨valid, -⟩ := TaskConfig.init_eq_ok built
    rw [version] at valid
    obtain ⟨key, schema, selected, found, accepted⟩ := validateVersionAndJson_eq_ok.mp valid
    exact ⟨fields, key, schema, rfl, selected, found, accepted⟩
  · rintro ⟨fields, key, schema, rfl, selected, found, accepted⟩
    have valid := validateVersionAndJson_eq_ok.mpr ⟨key, schema, selected, found, accepted⟩
    obtain ⟨subtasks, built⟩ := makeSubtasks_of_validate scenarios selected found accepted
    exact ⟨_, by simp only [TaskConfig.init, getVersion, Json.get_object, ok_bind, valid, built]; rfl⟩

/-- A document that states `"version": 1` (or `true`, which equals 1) is checked against
`CONFIG_SCHEMA_V1`, whose pattern `".*"` asks the version's value to be a list too: it is
rejected as a schema violation. -/
theorem TaskConfig.init_versionOne_rejected (scenarios : Scenarios) {fields : List (String × Json)}
    {version : Json} (stated : fields.lookup "version" = some version)
    (one : schemaKey version = .ok (some 1)) :
    TaskConfig.init scenarios (.object fields) = .error (.invalidTask .schemaViolation) := by
  have rejected : configSchemaV1.validate (.object fields) = false := by
    cases accepted : configSchemaV1.validate (.object fields)
    · rfl
    · obtain ⟨_, rfl⟩ := Schema.array_of_validate rfl
        (Schema.pattern_of_validate accepted (mem_of_lookup stated) rfl)
      cases one
  have invalid : validateVersionAndJson version (.object fields) = .error (.invalidTask .schemaViolation) := by
    simp only [validateVersionAndJson, one, ok_bind]
    show (if configSchemaV1.validate (.object fields) then pure () else throw _) = _
    rw [rejected]
    rfl
  simp only [TaskConfig.init, getVersion, Json.get_object, stated, Option.getD_some, ok_bind, invalid,
    error_bind, pure, Except.pure]

/-- A version-1 document that states its version. -/
def versionOneFields : List (String × Json) :=
  [("version", .number 1), ("Dummy.dummy", .array [.object [("runner", .object [("type", .string "constant")])]])]

theorem versionOneTask_rejected :
    versionOneFields.lookup "version" = some (.number 1) ∧ schemaKey (.number 1) = .ok (some 1) ∧
      TaskConfig.init ⟨fun _ => none⟩ (.object versionOneFields) =
        .error (.invalidTask .schemaViolation) :=
  ⟨rfl, by simp [schemaKey], TaskConfig.init_versionOne_rejected _ rfl (by simp [schemaKey])⟩

end Rally.Engine
