import Rally.Config.Shape

/-! # What a workload's key keeps

`_run_workload` registers each workload with `make_key()`: its name, description and position,
and as `kw` what `to_task()` returns, which is `to_dict()`.  The code stores `to_task()` "so that
subtask configuration in reports would be given in the same format as it was provided by user".
`to_dict` keeps the runner and drops an SLA, args, context or hooks that is empty, and
`Workload.__init__` reads a missing one as `{}` or `[]`.  For an entry the version-2 schema
accepts, those are dicts and a list, so what `to_dict` drops is exactly what `__init__` puts
back, and the description `__init__` settled on is settled again: the key rebuilds the workload
(`Workload.init_makeKey`).
-/

set_option autoImplicit false

namespace Rally.Engine

/-- `to_dict`'s filter and a lookup commute when the keys are distinct. -/
theorem lookup_filter_truthy (key : String) :
    ∀ {fields : List (String × Json)}, (fields.map Prod.fst).Nodup →
      (fields.filter fun field => field.2.truthy).lookup key =
        (fields.lookup key).filter Json.truthy
  | [], _ => rfl
  | (k, v) :: rest, nodup => by
    obtain ⟨notIn, restNodup⟩ := List.nodup_cons.mp nodup
    have ih := lookup_filter_truthy key restNodup
    by_cases same : key = k
    · subst same
      have absent : rest.lookup key = none := by
        cases found : rest.lookup key with
        | none => rfl
        | some v' => exact absurd (List.mem_map_of_mem Prod.fst (mem_of_lookup found)) notIn
      cases truthy : v.truthy <;>
        simp [List.filter_cons, List.lookup_cons, Option.filter_some, truthy, ih, absent]
    · cases truthy : v.truthy <;>
        simp [List.filter_cons, List.lookup_cons, truthy, ih, beq_false_of_ne same]

/-- `to_dict` drops an empty dict, and `__init__` reads the missing key back as `{}`. -/
theorem filter_truthy_object (inner : List (String × Json)) :
    ((some (Json.object inner)).filter Json.truthy).getD (.object []) = .object inner := by
  cases inner <;> rfl

/-- `to_dict` drops an empty list, and `__init__` reads the missing key back as `[]`. -/
theorem filter_truthy_array (items : List Json) :
    ((some (Json.array items)).filter Json.truthy).getD (.array []) = .array items := by
  cases items <;> rfl

/-- The key `make_key` builds rebuilds the workload: `Workload.__init__` on `kw` with the key's
name and description gives back every field, for every entry the version-2 workload schema
accepts. -/
theorem Workload.init_makeKey {scenarios : Scenarios} {config : Json} {pos : Nat} {w : Workload}
    (valid : workloadSchemaV2.validate config = true)
    (built : Workload.init scenarios config pos = .ok w) :
    ∃ fields, w.makeKey = .object [("name", w.name), ("description", w.description),
        ("pos", .number w.pos), ("kw", .object fields)] ∧
      Workload.init scenarios
        (.object (("name", w.name) :: ("description", w.description) :: fields)) w.pos = .ok w := by
  obtain ⟨fields, rfl⟩ := Schema.object_of_validate rfl valid
  obtain ⟨sla, slaEq⟩ : ∃ inner, (fields.lookup "sla").getD (.object []) = .object inner :=
    objectDefault_of_validate valid rfl rfl
  obtain ⟨args, argsEq⟩ : ∃ inner, (fields.lookup "args").getD (.object []) = .object inner :=
    objectDefault_of_validate valid rfl rfl
  obtain ⟨context, contextEq⟩ :
      ∃ inner, (fields.lookup "context").getD (.object []) = .object inner :=
    objectDefault_of_validate valid rfl rfl
  obtain ⟨hooks, hooksEq⟩ :
      ∃ items, (fields.lookup "hooks").getD (.array []) = .array items := by
    cases found : fields.lookup "hooks" with
    | none => exact ⟨[], rfl⟩
    | some value => exact Schema.array_of_validate rfl (found_of_validate valid found rfl)
  simp only [Workload.init, Json.getItem_object, Json.get_object] at built
  split at built
  · next name found =>
    simp only [ok_bind, pure, Except.pure, Except.ok.injEq] at built
    subst built
    refine ⟨_, rfl, ?_⟩
    rw [slaEq, argsEq, contextEq, hooksEq]
    generalize (fields.lookup "description").getD (.string "") = given
    have nodup : ([("sla", Json.object sla), ("args", .object args), ("context", .object context),
        ("hooks", .array hooks)].map Prod.fst).Nodup := by simp
    simp only [Workload.init, Json.getItem_object, Json.get_object, List.lookup_cons,
      Workload.toDict, lookup_filter_truthy _ nodup]
    cases truthy : given.truthy
    · cases titled : scenarios.get name <;>
        simp [truthy, titled, filter_truthy_object, filter_truthy_array]
    · simp [truthy, filter_truthy_object, filter_truthy_array]
  · cases built

/-- A version-2 entry whose empty SLA `to_dict` drops and whose description `__init__` takes
from the scenario's title. -/
def emptySlaEntry : Json :=
  .object [("name", .string "Dummy.dummy"), ("runner", .object [("type", .string "constant")]),
    ("sla", .object [])]

theorem emptySlaEntry_rebuilt :
    ∃ w, Workload.init ⟨fun _ => some ⟨"Dummy", "openstack", []⟩⟩ emptySlaEntry 0 =
        .ok w ∧
      workloadSchemaV2.validate emptySlaEntry = true ∧
      ∃ fields, w.makeKey = .object [("name", w.name), ("description", w.description),
          ("pos", .number w.pos), ("kw", .object fields)] ∧
        Workload.init ⟨fun _ => some ⟨"Dummy", "openstack", []⟩⟩
          (.object (("name", w.name) :: ("description", w.description) :: fields)) w.pos = .ok w :=
  ⟨_, rfl, rfl, @Workload.init_makeKey _ emptySlaEntry 0 _ rfl rfl⟩

end Rally.Engine
