import Rally.Config.TaskConfig

/-! # What a successful build of the task tree says

`TaskConfig.__init__` reads the document with `[]`, `.get` and iteration, any of which can raise.
When it returns, each read returned: these lemmas name what was read, from the document down to
each `Workload`, so that facts about the document (its schema, its keys) carry over to the tree.
`Except` is Python's raise, and the `Except` lemmas here are the bookkeeping of a `do` chain.
-/

set_option autoImplicit false

namespace Rally.Engine

section Except

variable {α β : Type}

@[simp] theorem ok_bind {a : α} {f : α → Except PyError β} : Except.ok a >>= f = f a := rfl

@[simp] theorem error_bind {e : PyError} {f : α → Except PyError β} :
    (Except.error e : Except PyError α) >>= f = .error e := rfl

theorem bind_eq_ok {x : Except PyError α} {f : α → Except PyError β} {b : β} :
    x >>= f = .ok b ↔ ∃ a, x = .ok a ∧ f a = .ok b := by
  cases x <;> simp [bind, Except.bind]

theorem bind_eq_error {x : Except PyError α} {f : α → Except PyError β} {e : PyError} :
    x >>= f = .error e ↔ x = .error e ∨ ∃ a, x = .ok a ∧ f a = .error e := by
  cases x <;> simp [bind, Except.bind]

theorem bind_ok_of {x : Except PyError α} {f : α → Except PyError β} (ok : ∃ a, x = .ok a)
    (next : ∀ a, ∃ b, f a = .ok b) : ∃ b, x >>= f = .ok b := by
  obtain ⟨a, rfl⟩ := ok
  exact next a

theorem mem_of_mapM_eq_ok {f : α → Except PyError β} {xs : List α} {ys : List β}
    (h : xs.mapM f = .ok ys) {y : β} (mem : y ∈ ys) : ∃ x ∈ xs, f x = .ok y := by
  induction xs generalizing ys with
  | nil => cases h; simp at mem
  | cons x rest ih =>
    simp only [List.mapM_cons, bind_eq_ok, pure, Except.pure, Except.ok.injEq] at h
    obtain ⟨b, fx, bs, rest_ok, rfl⟩ := h
    rcases List.mem_cons.mp mem with rfl | mem
    · exact ⟨x, List.mem_cons_self _ _, fx⟩
    · obtain ⟨x', mem', fx'⟩ := ih rest_ok mem
      exact ⟨x', List.mem_cons_of_mem _ mem', fx'⟩

theorem ok_of_mapM_eq_ok {f : α → Except PyError β} {xs : List α} {ys : List β}
    (h : xs.mapM f = .ok ys) {x : α} (mem : x ∈ xs) : ∃ y, f x = .ok y := by
  induction xs generalizing ys with
  | nil => simp at mem
  | cons x' rest ih =>
    simp only [List.mapM_cons, bind_eq_ok, pure, Except.pure, Except.ok.injEq] at h
    obtain ⟨y, fx, ys, rest_ok, rfl⟩ := h
    rcases List.mem_cons.mp mem with rfl | mem
    · exact ⟨y, fx⟩
    · exact ih rest_ok mem

/-- The outputs of a successful `mapM` give back its inputs, when each output records its own. -/
theorem map_of_mapM_eq_ok {f : α → Except PyError β} {g : β → α} {xs : List α} {ys : List β}
    (h : xs.mapM f = .ok ys) (back : ∀ x y, f x = .ok y → g y = x) : ys.map g = xs := by
  induction xs generalizing ys with
  | nil => cases h; rfl
  | cons x rest ih =>
    simp only [List.mapM_cons, bind_eq_ok, pure, Except.pure, Except.ok.injEq] at h
    obtain ⟨y, fx, ys, rest_ok, rfl⟩ := h
    rw [List.map_cons, back x y fx, ih rest_ok]

/-- A successful `mapM` whose every output is, read through `g`, a permutation of a part of its
input: the flattened outputs are a permutation of the parts put together. -/
theorem flatten_perm_of_mapM_eq_ok {γ : Type} {f : α → Except PyError (List β)} {g : β → γ}
    {part : α → List γ} {xs : List α} {yss : List (List β)} (h : xs.mapM f = .ok yss)
    (each : ∀ x ys, f x = .ok ys → (ys.map g).Perm (part x)) :
    (yss.flatten.map g).Perm (xs.flatMap part) := by
  induction xs generalizing yss with
  | nil => cases h; rfl
  | cons x rest ih =>
    simp only [List.mapM_cons, bind_eq_ok, pure, Except.pure, Except.ok.injEq] at h
    obtain ⟨ys, fx, yss, rest_ok, rfl⟩ := h
    simpa only [List.flatten_cons, List.map_append, List.flatMap_cons] using
      (each x ys fx).append (ih rest_ok)

theorem mapM_eq_ok_of_forall {f : α → Except PyError β} {xs : List α}
    (h : ∀ x ∈ xs, ∃ y, f x = .ok y) : ∃ ys, xs.mapM f = .ok ys := by
  induction xs with
  | nil => exact ⟨[], rfl⟩
  | cons x rest ih =>
    obtain ⟨y, fx⟩ := h x (List.mem_cons_self _ _)
    obtain ⟨ys, rest_ok⟩ := ih fun x' mem => h x' (List.mem_cons_of_mem _ mem)
    exact ⟨y :: ys, by rw [List.mapM_cons, fx, rest_ok]; rfl⟩

theorem mem_of_mapM_eq_error {f : α → Except PyError β} {xs : List α} {e : PyError}
    (h : xs.mapM f = .error e) : ∃ x ∈ xs, f x = .error e := by
  induction xs with
  | nil => cases h
  | cons x rest ih =>
    simp only [List.mapM_cons, bind_eq_error] at h
    rcases h with fx | ⟨y, -, restErr | ⟨ys, -, h⟩⟩
    · exact ⟨x, List.mem_cons_self _ _, fx⟩
    · obtain ⟨x', mem, fx'⟩ := ih restErr
      exact ⟨x', List.mem_cons_of_mem _ mem, fx'⟩
    · cases h

theorem mem_of_forM_eq_error {f : α → Except PyError PUnit} {xs : List α} {e : PyError}
    (h : xs.forM f = .error e) : ∃ x ∈ xs, f x = .error e := by
  induction xs with
  | nil => cases h
  | cons x rest ih =>
    rw [List.forM_cons'] at h
    cases fx : f x with
    | error e' =>
      rw [fx] at h
      cases h
      exact ⟨x, List.mem_cons_self _ _, fx⟩
    | ok u =>
      rw [fx] at h
      obtain ⟨x', mem, fx'⟩ := ih h
      exact ⟨x', List.mem_cons_of_mem _ mem, fx'⟩

end Except

theorem Json.getItem_eq_ok {fields : List (String × Json)} {key : String} {value : Json} :
    (Json.object fields).getItem key = .ok value ↔ fields.lookup key = some value := by
  cases found : fields.lookup key <;> simp [found]

theorem Workload.init_eq_ok {scenarios : Scenarios} {config : Json} {pos : Nat} {w : Workload}
    (h : Workload.init scenarios config pos = .ok w) :
    ∃ fields, config = .object fields ∧
      w.runner = (fields.lookup "runner").getD (.object []) ∧
      w.context = (fields.lookup "context").getD (.object []) ∧
      w.sla = (fields.lookup "sla").getD (.object []) ∧
      w.hooks = (fields.lookup "hooks").getD (.array []) := by
  cases config with
  | object fields =>
    refine ⟨fields, rfl, ?_⟩
    simp only [Workload.init, Json.getItem_object, Json.get_object] at h
    split at h
    · simp only [ok_bind, pure, Except.pure, Except.ok.injEq] at h
      subst h
      exact ⟨rfl, rfl, rfl, rfl⟩
    · cases h
  | _ => cases h

theorem SubTask.init_eq_ok {scenarios : Scenarios} {config : Json} {st : SubTask}
    (h : SubTask.init scenarios config = .ok st) :
    ∃ fields workloads items, config = .object fields ∧ fields.lookup "workloads" = some workloads ∧
      workloads.iter = .ok items ∧
      ∀ w ∈ st.workloads, ∃ pos, ∃ wconf ∈ items, Workload.init scenarios wconf pos = .ok w := by
  cases config with
  | object fields =>
    simp only [SubTask.init, Json.getItem_object, Json.get_object] at h
    split at h
    · simp only [ok_bind] at h
      split at h
      · rename_i workloads found
        simp only [ok_bind, bind_eq_ok, pure, Except.pure, Except.ok.injEq] at h
        obtain ⟨items, iterOk, built, mapOk, rfl⟩ := h
        refine ⟨fields, workloads, items, rfl, found, iterOk, fun w mem => ?_⟩
        obtain ⟨⟨pos, wconf⟩, mem', ok⟩ := mem_of_mapM_eq_ok mapOk mem
        exact ⟨pos, wconf, List.snd_mem_of_mem_enum mem', ok⟩
      · cases h
    · cases h
  | _ => cases h

theorem TaskConfig.init_eq_ok {scenarios : Scenarios} {config : Json} {cfg : TaskConfig}
    (h : TaskConfig.init scenarios config = .ok cfg) :
    validateVersionAndJson cfg.version config = .ok () ∧
      makeSubtasks scenarios cfg.version config = .ok cfg.subtasks := by
  unfold TaskConfig.init at h
  split at h
  · cases h
  · simp only [bind_eq_ok, pure, Except.pure, Except.ok.injEq] at h
    obtain ⟨_, -, version, -, _, validOk, -, -, -, -, -, -, subtasks, subOk, rfl⟩ := h
    exact ⟨validOk, subOk⟩

theorem validate_of_schemaKey {version config : Json} {key : Nat} {schema : Schema}
    (valid : validateVersionAndJson version config = .ok ())
    (selected : schemaKey version = .ok (some key)) (found : configSchemas.lookup key = some schema) :
    schema.validate config = true := by
  simp only [validateVersionAndJson, selected, ok_bind, found] at valid
  split at valid
  · assumption
  · cases valid

/-- The two ways `_make_subtasks` builds a nonempty list. -/
theorem makeSubtasks_eq_ok {scenarios : Scenarios} {version config : Json} {subtasks : List SubTask}
    (h : makeSubtasks scenarios version config = .ok subtasks) :
    subtasks = [] ∨
      (schemaKey version = .ok (some 2) ∧ ∃ subtaskConfigs items,
        config.getItem "subtasks" = .ok subtaskConfigs ∧ subtaskConfigs.iter = .ok items ∧
        items.mapM (SubTask.init scenarios) = .ok subtasks) ∨
      (schemaKey version = .ok (some 1) ∧ makeSubtasksV1 scenarios config = .ok subtasks) := by
  unfold makeSubtasks at h
  cases key : schemaKey version with
  | error e => simp [key] at h
  | ok k =>
    simp only [key, ok_bind] at h
    split at h
    · simp only [bind_eq_ok] at h
      obtain ⟨subtaskConfigs, got, items, iterOk, mapOk⟩ := h
      exact .inr (.inl ⟨rfl, subtaskConfigs, items, got, iterOk, mapOk⟩)
    · exact .inr (.inr ⟨rfl, h⟩)
    · cases h
      exact .inl rfl

end Rally.Engine
