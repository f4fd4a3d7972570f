import Rally.Config.Shape

/-! # A version-1 task as the version-2 task it stands for

`_make_subtasks` turns a version-1 document into one single-workload subtask per scenario entry,
titled by the scenario name, after copying the entry and adding that name.  `toVersion2` is the
version-2 document this describes, written from the description rather than from the code, and
`init_v1_eq_init_toVersion2` compares the two builds: whenever the version-1 document has an entry
and each entry names a runner, `TaskConfig` builds from `toVersion2` exactly the subtasks it built
from the version-1 document.  Without an entry the two differ: the version-1 document is
accepted with no subtask, while `CONFIG_SCHEMA_V2` asks for at least one (`minItems`).

The model is pure, so the document `TaskConfig` receives is never changed; in the code that is
the `copy.deepcopy` before `v2_workload["name"] = name`.
-/

set_option autoImplicit false

namespace Rally.Engine

/-- The entries of a scenario of a version-1 document, a list. -/
def entriesOf : Json → List Json
  | .array entries => entries
  | _ => []

/-- An entry with `name: name` added. -/
def withName (entry : Json) (name : String) : Json :=
  match entry with
  | .object fields => .object (fields ++ [("name", .string name)])
  | other => other

/-- The subtask `{title: name, workloads: [entry with name added]}`. -/
def v2Subtask (name : String) (entry : Json) : Json :=
  .object [("title", .string name), ("workloads", .array [withName entry name])]

/-- One subtask for each scenario name and each of its entries, in key order and list order. -/
def v2Subtasks (fields : List (String × Json)) : List Json :=
  fields.flatMap fun scenario => (entriesOf scenario.2).map (v2Subtask scenario.1)

/-- The version-2 document a version-1 document stands for. -/
def toVersion2 (fields : List (String × Json)) : Json :=
  .object [("version", .number 2), ("title", .string "Task"), ("subtasks", .array (v2Subtasks fields))]

section Lists

variable {α β γ : Type}

theorem mapM_map_congr {f : α → Except PyError γ} {g : β → Except PyError γ} {h : α → β}
    {xs : List α} (same : ∀ x ∈ xs, f x = g (h x)) : xs.mapM f = (xs.map h).mapM g := by
  induction xs with
  | nil => rfl
  | cons x rest ih =>
    rw [List.map_cons, List.mapM_cons, List.mapM_cons, same x (List.mem_cons_self _ _),
      ih fun y mem => same y (List.mem_cons_of_mem _ mem)]

theorem mapM_flatMap {f : α → Except PyError (List γ)} {g : α → List β} {k : β → Except PyError γ}
    {xs : List α} (same : ∀ x ∈ xs, f x = (g x).mapM k) {groups : List (List γ)}
    (built : xs.mapM f = .ok groups) : (xs.flatMap g).mapM k = .ok groups.flatten := by
  induction xs generalizing groups with
  | nil => cases built; rfl
  | cons x rest ih =>
    simp only [List.mapM_cons, bind_eq_ok, pure, Except.pure, Except.ok.injEq] at built
    obtain ⟨group, first, groups, rest_ok, rfl⟩ := built
    rw [List.flatMap_cons, List.mapM_append, ← same x (List.mem_cons_self _ _), first, ok_bind,
      ih (fun y mem => same y (List.mem_cons_of_mem _ mem)) rest_ok]
    rfl

end Lists

/-! ## What the version-1 schema gives each entry -/

/-- The keys a version-2 workload allows are those of a version-1 entry and `name`. -/
theorem workloadSchemaV2_lookup {key : String} (ne : key ≠ "name") :
    workloadSchemaV2.properties.lookup key = entrySchemaV1.properties.lookup key := by
  by_cases known : key ∈ ["args", "description", "runner", "context", "sla", "hooks"]
  · simp only [List.mem_cons, List.mem_singleton, List.not_mem_nil, or_false] at known
    rcases known with rfl | rfl | rfl | rfl | rfl | rfl <;> rfl
  · simp only [List.mem_cons, List.mem_singleton, List.not_mem_nil, or_false, not_or] at known
    rw [List.lookup_eq_none_iff.mpr, List.lookup_eq_none_iff.mpr] <;>
      simp [workloadSchemaV2, entrySchemaV1, known, ne]

/-- A version-1 entry has no `name`: `additionalProperties` is false and `name` is not one of
its properties. -/
theorem name_not_in_entry {fields : List (String × Json)}
    (valid : entrySchemaV1.validate (.object fields) = true) : fields.lookup "name" = none := by
  refine List.lookup_eq_none_iff.mpr fun field mem => bne_iff_ne.mpr fun same => ?_
  have known := Schema.known_of_validate valid mem rfl rfl
  rw [← same] at known
  cases known

theorem setItem_name_eq_withName {entry : Json} (valid : entrySchemaV1.validate entry = true)
    (name : String) : entry.setItem "name" (.string name) = .ok (withName entry name) := by
  obtain ⟨fields, rfl⟩ := Schema.object_of_validate rfl valid
  simp [Json.setItem, setField, name_not_in_entry valid, withName]

theorem workloadSchemaV2_fieldOk {field : String × Json} (ne : field.1 ≠ "name") :
    workloadSchemaV2.fieldOk field = entrySchemaV1.fieldOk field := by
  simp only [Schema.fieldOk, workloadSchemaV2_lookup ne]
  rfl

/-- An accepted version-1 entry that declares a runner, with its name added, is a version-2
workload. -/
theorem workloadSchemaV2_validate_withName {entry : Json} (valid : entrySchemaV1.validate entry = true)
    (runner : ∃ runner, entry.getItem "runner" = .ok runner) (name : String) :
    workloadSchemaV2.validate (withName entry name) = true := by
  obtain ⟨fields, rfl⟩ := Schema.object_of_validate rfl valid
  obtain ⟨runner, found⟩ := runner
  have noName := name_not_in_entry valid
  rw [withName, Schema.validate_object]
  simp only [Bool.and_eq_true, List.all_eq_true, List.mem_append, List.mem_singleton]
  refine ⟨⟨rfl, fun field mem => ?_⟩, ?_⟩
  · rcases mem with mem | rfl
    · have ne : field.1 ≠ "name" := fun same => by
        rw [List.lookup_eq_none_iff] at noName
        simpa [same] using noName field mem
      rw [workloadSchemaV2_fieldOk ne]
      exact Schema.fieldOk_of_validate valid mem
    · rfl
  · simpa [workloadSchemaV2, List.lookup_append] using
      ⟨runner, mem_of_lookup (Json.getItem_eq_ok.mp found)⟩

theorem subtaskSchemaV2_validate_v2Subtask {entry : Json} (valid : entrySchemaV1.validate entry = true)
    (runner : ∃ runner, entry.getItem "runner" = .ok runner) (name : String) :
    subtaskSchemaV2.validate (v2Subtask name entry) = true := by
  have workload := workloadSchemaV2_validate_withName valid runner name
  simp [v2Subtask, Schema.validate_object, Schema.validate_array, Schema.fieldOk, Schema.itemOk,
    workload, subtaskSchemaV2, Schema.typeOk, Schema.ofType, Schema.any, Json.hasType, List.lookup_cons]

theorem entries_of_validate {fields : List (String × Json)}
    (valid : configSchemaV1.validate (.object fields) = true) {name : String} {value : Json}
    (mem : (name, value) ∈ fields) :
    ∃ entries, value = .array entries ∧ ∀ entry ∈ entries, entrySchemaV1.validate entry = true := by
  have listOk := Schema.pattern_of_validate valid mem rfl
  obtain ⟨entries, rfl⟩ := Schema.array_of_validate rfl listOk
  exact ⟨entries, rfl, fun _ mem => Schema.item_of_validate listOk rfl mem⟩

theorem configSchemaV2_validate_toVersion2 {fields : List (String × Json)}
    (valid : configSchemaV1.validate (.object fields) = true)
    (runners : ∀ scenario ∈ fields, ∀ entry ∈ entriesOf scenario.2,
      ∃ runner, entry.getItem "runner" = .ok runner)
    (nonempty : v2Subtasks fields ≠ []) : configSchemaV2.validate (toVersion2 fields) = true := by
  have subtasksOk : ∀ x ∈ v2Subtasks fields, subtaskSchemaV2.validate x = true := by
    intro x mem
    simp only [v2Subtasks, List.mem_flatMap, List.mem_map] at mem
    obtain ⟨⟨name, value⟩, scenarioMem, entry, entryMem, rfl⟩ := mem
    obtain ⟨entries, rfl, entriesOk⟩ := entries_of_validate valid scenarioMem
    exact subtaskSchemaV2_validate_v2Subtask (entriesOk entry entryMem)
      (runners _ scenarioMem entry entryMem) name
  simpa [toVersion2, Schema.validate_object, Schema.validate_array, Schema.fieldOk, Schema.itemOk,
    configSchemaV2, Schema.typeOk, Schema.ofType, Schema.any, Json.hasType, List.lookup_cons,
    Nat.succ_le_of_lt (List.length_pos.mpr nonempty)] using subtasksOk

/-! ## The two builds -/

/-- The version-1 build is the version-2 build of `v2Subtasks`: `deepcopy` and
`v2_workload["name"] = name` add the name to a copy of an entry that had none. -/
theorem makeSubtasksV1_eq_mapM {scenarios : Scenarios} {fields : List (String × Json)}
    {subtasks : List SubTask} (valid : configSchemaV1.validate (.object fields) = true)
    (built : makeSubtasksV1 scenarios (.object fields) = .ok subtasks) :
    (v2Subtasks fields).mapM (SubTask.init scenarios) = .ok subtasks := by
  simp only [makeSubtasksV1, Json.items, ok_bind, bind_eq_ok, pure, Except.pure, Except.ok.injEq] at built
  obtain ⟨groups, groupsOk, rfl⟩ := built
  refine mapM_flatMap (fun ⟨name, value⟩ mem => ?_) groupsOk
  obtain ⟨entries, rfl, entriesOk⟩ := entries_of_validate valid mem
  simp only [Json.iter, ok_bind, entriesOf]
  exact mapM_map_congr fun entry mem => by
    rw [setItem_name_eq_withName (entriesOk entry mem), ok_bind]
    rfl

theorem init_v1_eq_init_toVersion2 (scenarios : Scenarios) {fields : List (String × Json)}
    {cfg : TaskConfig} (accepted : TaskConfig.init scenarios (.object fields) = .ok cfg)
    (v1 : schemaKey cfg.version = .ok (some 1))
    (runners : ∀ scenario ∈ fields, ∀ entry ∈ entriesOf scenario.2,
      ∃ runner, entry.getItem "runner" = .ok runner)
    (nonempty : cfg.subtasks ≠ []) :
    ∃ cfg2, TaskConfig.init scenarios (toVersion2 fields) = .ok cfg2 ∧ cfg2.subtasks = cfg.subtasks := by
  obtain ⟨valid, built⟩ := TaskConfig.init_eq_ok accepted
  have v1Valid := validate_of_schemaKey valid v1 rfl
  have v1Built : makeSubtasksV1 scenarios (.object fields) = .ok cfg.subtasks := by
    rcases makeSubtasks_eq_ok built with empty | ⟨key, -⟩ | ⟨-, v1Ok⟩
    · exact absurd empty nonempty
    · simp [v1] at key
    · exact v1Ok
  have same := makeSubtasksV1_eq_mapM v1Valid v1Built
  have listed : v2Subtasks fields ≠ [] := fun empty => by
    rw [empty] at same
    exact nonempty (Except.ok.inj same).symm
  have v2Valid := configSchemaV2_validate_toVersion2 v1Valid runners listed
  refine ⟨⟨.number 2, .string "Task", .array [], .null, cfg.subtasks⟩, ?_, rfl⟩
  unfold TaskConfig.init
  rw [toVersion2] at v2Valid ⊢
  unfold List.mapM at same
  simp [getVersion, validateVersionAndJson, makeSubtasks, schemaKey, configSchemas, List.lookup_cons,
    Json.iter, v2Valid, same]

/-- A version-1 task with one entry, which names its runner. -/
def oneEntryTask : List (String × Json) :=
  [("Dummy.dummy", .array [.object [("runner", .object [("type", .string "constant")])]])]

theorem oneEntryTask_as_version2 :
    ∃ cfg, TaskConfig.init ⟨fun _ => none⟩ (.object oneEntryTask) = .ok cfg ∧
      schemaKey cfg.version = .ok (some 1) ∧
      (∀ scenario ∈ oneEntryTask, ∀ entry ∈ entriesOf scenario.2,
        ∃ runner, entry.getItem "runner" = .ok runner) ∧
      cfg.subtasks ≠ [] ∧
      ∃ cfg2, TaskConfig.init ⟨fun _ => none⟩ (toVersion2 oneEntryTask) = .ok cfg2 ∧
        cfg2.subtasks = cfg.subtasks := by
  have runners : ∀ scenario ∈ oneEntryTask, ∀ entry ∈ entriesOf scenario.2,
      ∃ runner, entry.getItem "runner" = .ok runner := by
    simp [oneEntryTask, entriesOf]
  exact ⟨_, rfl, rfl, runners, List.cons_ne_nil _ _,
    init_v1_eq_init_toVersion2 _ rfl rfl runners (List.cons_ne_nil _ _)⟩

/-- A version-1 task whose one scenario has no entry. -/
def emptyScenarioTask : List (String × Json) :=
  [("Dummy.dummy", .array [])]

/-- `TaskConfig` accepts the version-1 task with no subtask, and refuses the version-2 document
it stands for, whose `subtasks` list is empty. -/
theorem emptyScenarioTask_not_version2 :
    (∃ cfg, TaskConfig.init ⟨fun _ => none⟩ (.object emptyScenarioTask) = .ok cfg ∧
      schemaKey cfg.version = .ok (some 1) ∧ cfg.subtasks = []) ∧
    TaskConfig.init ⟨fun _ => none⟩ (toVersion2 emptyScenarioTask) =
      .error (.invalidTask .schemaViolation) :=
  ⟨⟨_, rfl, rfl, rfl⟩, rfl⟩

end Rally.Engine
