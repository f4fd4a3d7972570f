import Rally.Engine.TaskEngine
import Mathlib.Data.List.Infix

/-! # What `TaskEngine.run` writes

`run` walks the subtasks and `_run_subtask` their workloads, each loop stopping at the first
exception.  The writes it leaves are read here through four views: the subtasks registered by
`task.add_subtask`, the workloads started by `subtask_obj.add_workload`, the subtask statuses,
and the task status.  `run_writes` says, for every config and every behaviour of the
collaborators, that subtasks and workloads are registered in declared order and at most once:
the first `n` subtasks, every workload of all but the last of them and a prefix of the last's,
and all of them unless a registered subtask ended ABORTED or CRASHED.  Every registered subtask
gets exactly one status and none is RUNNING, and `run` either returns with the task FINISHED or
ABORTED or raises with the task and its last subtask CRASHED.  An exception out of the
`ResultConsumer`/`ContextManager` scope is logged and dropped by `_run_workload`: what `run`
writes and raises does not depend on it, and the loop goes on with the next workload.
-/

set_option autoImplicit false

namespace Rally.Engine.TaskEngine

/-! ## Views of the writes -/

/-- `task.add_subtask(**subtask.to_dict())`, with the subtask's index. -/
def Write.registered : Write → Option (Nat × Json)
  | .addSubtask index spec => some (index, spec)
  | _ => none

/-- `subtask_obj.add_workload(key)`, with the subtask's index and the workload's position. -/
def Write.started : Write → Option (Nat × Nat × Json)
  | .addWorkload index pos key => some (index, pos, key)
  | _ => none

/-- `subtask_obj.update_status(status)`. -/
def Write.closed : Write → Option (Nat × SubtaskStatus)
  | .subtaskStatus index status => some (index, status)
  | _ => none

/-- The write `add_workload` makes for `w` in the `index`-th subtask. -/
def workloadWrite (index : Nat) (w : Workload) : Write := .addWorkload index w.pos w.makeKey

/-- The subtasks from the `index`-th on, as `add_subtask` registers them. -/
def declaredSubtasks (index : Nat) : List SubTask → List (Nat × Json)
  | [] => []
  | sub :: rest => (index, sub.toDict) :: declaredSubtasks (index + 1) rest

/-- The workloads of the subtasks from the `index`-th on, as `add_workload` registers them. -/
def declaredWorkloads (index : Nat) : List SubTask → List (Nat × Nat × Json)
  | [] => []
  | sub :: rest =>
    sub.workloads.map (fun w => (index, w.pos, w.makeKey)) ++ declaredWorkloads (index + 1) rest

/-- The status `_run_subtask` gives its subtask for the exception its loop ended with. -/
def closing : Option Raised → SubtaskStatus
  | none => .finished
  | some .taskAborted => .aborted
  | some .error => .crashed

@[simp] theorem registered_workloadWrites (index : Nat) (ws : List Workload) :
    ws.filterMap (Write.registered ∘ workloadWrite index) = [] := by
  simp [workloadWrite, Write.registered]

@[simp] theorem closed_workloadWrites (index : Nat) (ws : List Workload) :
    ws.filterMap (Write.closed ∘ workloadWrite index) = [] := by
  simp [workloadWrite, Write.closed]

@[simp] theorem started_workloadWrites (index : Nat) (ws : List Workload) :
    ws.filterMap (Write.started ∘ workloadWrite index) = ws.map fun w => (index, w.pos, w.makeKey) := by
  induction ws <;> simp_all [workloadWrite, Write.started]

/-- The writes of a task status add nothing to the views. -/
theorem views_taskStatuses {tail : List Write} (statuses : ∀ w ∈ tail, ∃ status, w = .taskStatus status) :
    tail.filterMap Write.registered = [] ∧ tail.filterMap Write.started = [] ∧
      tail.filterMap Write.closed = [] := by
  refine ⟨?_, ?_, ?_⟩ <;> refine List.filterMap_eq_nil_iff.mpr fun w mem => ?_ <;>
    obtain ⟨status, rfl⟩ := statuses w mem <;> rfl

/-- What the writes of one `_run_subtask` add to the views: its registration, the workloads it
started and its one status. -/
theorem subtaskBlock_views (index : Nat) (spec : Json) (taken : List Workload) (status : SubtaskStatus)
    {tail : List Write} (statuses : ∀ w ∈ tail, ∃ status, w = .taskStatus status) :
    (Write.addSubtask index spec :: taken.map (workloadWrite index) ++
        Write.subtaskStatus index status :: tail).filterMap Write.registered = [(index, spec)] ∧
      (Write.addSubtask index spec :: taken.map (workloadWrite index) ++
        Write.subtaskStatus index status :: tail).filterMap Write.started =
        taken.map (fun w => (index, w.pos, w.makeKey)) ∧
      (Write.addSubtask index spec :: taken.map (workloadWrite index) ++
        Write.subtaskStatus index status :: tail).filterMap Write.closed = [(index, status)] := by
  obtain ⟨registered, started, closed⟩ := views_taskStatuses statuses
  simp [List.filterMap_append, Write.registered, Write.started, Write.closed, registered, started, closed]

/-- What the writes of the subtask loop from the `index`-th subtask on say: the registered
subtasks are the first `n` of `subs`, and the started workloads are all those of the first
`n - 1` and a prefix of the `n`-th's, all of them unless an exception stopped the loop; each
registered subtask has one status, never RUNNING, and an exception is what stopped the loop
unless they are all FINISHED; an exception other than `TaskAborted` leaves the task and the last
subtask CRASHED. -/
structure SubtaskWrites (index : Nat) (subs : List SubTask) (new : List Write) (e : Option Raised)
    (status : TaskStatus) : Prop where
  registered : ∃ n ≤ subs.length, new.filterMap Write.registered = declaredSubtasks index (subs.take n) ∧
    declaredWorkloads index (subs.take (n - 1)) <+: new.filterMap Write.started ∧
    new.filterMap Write.started <+: declaredWorkloads index (subs.take n) ∧
    (e = none → n = subs.length ∧ new.filterMap Write.started = declaredWorkloads index subs)
  closed : (new.filterMap Write.closed).map Prod.fst = (new.filterMap Write.registered).map Prod.fst
  terminal : ∀ x ∈ new.filterMap Write.closed, x.2 ≠ .running
  finished : (∀ x ∈ new.filterMap Write.closed, x.2 = .finished) → e = none
  crashed : e = some .error → status = .crashed ∧
    ∃ last, (new.filterMap Write.registered).getLast? = some last ∧
      (last.1, .crashed) ∈ new.filterMap Write.closed

/-- The workloads of the first `n` subtasks: those of the first one, then those of the first
`n - 1` of the others. -/
theorem declaredWorkloads_take_cons (index n : Nat) (sub : SubTask) (rest : List SubTask) :
    declaredWorkloads index ((sub :: rest).take n) <+:
      sub.workloads.map (fun w => (index, w.pos, w.makeKey)) ++ declaredWorkloads (index + 1) (rest.take (n - 1)) := by
  cases n with
  | zero => exact List.nil_prefix
  | succ n => simp [declaredWorkloads]

section Loops

variable (env : Collaborators)

/-- `_run_workload` either stops at its abort check, writing nothing, or registers the workload
and ends without `TaskAborted`. -/
theorem runWorkload_cases (index : Nat) (w : Workload) (st : Store) :
    runWorkload env index w st = (st, some .taskAborted) ∨
      ∃ status e, runWorkload env index w st = (⟨status, st.writes ++ [workloadWrite index w]⟩, e) ∧
        e ≠ some .taskAborted := by
  unfold runWorkload
  split
  · exact .inl rfl
  · refine .inr ?_
    split
    · exact ⟨_, _, rfl, nofun⟩
    · split
      · exact ⟨_, _, rfl, nofun⟩
      · split
        · exact ⟨_, _, rfl, nofun⟩
        · exact ⟨_, _, rfl, nofun⟩

/-- The loop over a subtask's workloads starts a prefix of them, all of them unless it stops on
an exception. -/
theorem runWorkloads_writes (index : Nat) :
    ∀ (ws : List Workload) (st : Store), ∃ k ≤ ws.length,
      (runWorkloads env index ws st).1.writes = st.writes ++ (ws.take k).map (workloadWrite index) ∧
      ((runWorkloads env index ws st).2 = none → k = ws.length)
  | [], st => ⟨0, le_refl _, by simp [runWorkloads], fun _ => rfl⟩
  | w :: ws, st => by
    rcases runWorkload_cases env index w st with aborted | ⟨status, e, ran, -⟩
    · refine ⟨0, by simp, ?_, ?_⟩ <;> simp [runWorkloads, aborted]
    · cases e with
      | none =>
        obtain ⟨k, within, writes, full⟩ := runWorkloads_writes index ws ⟨status, st.writes ++ [workloadWrite index w]⟩
        refine ⟨k + 1, by simp [within], by simp [runWorkloads, ran, writes], ?_⟩
        simpa [runWorkloads, ran] using full
      | some e => refine ⟨1, by simp, ?_, ?_⟩ <;> simp [runWorkloads, ran]

/-- `_run_subtask` registers its subtask, starts a prefix of its workloads, gives it the status
of the exception its loop ended with, and on any other exception than `TaskAborted` sets the task
CRASHED. -/
theorem runSubtask_writes (index : Nat) (sub : SubTask) (st : Store) :
    ∃ k ≤ sub.workloads.length,
      (runSubtask env index sub st).1.writes = st.writes ++
        (.addSubtask index sub.toDict :: (sub.workloads.take k).map (workloadWrite index) ++
          .subtaskStatus index (closing (runSubtask env index sub st).2) ::
            if (runSubtask env index sub st).2 = some .error then [.taskStatus .crashed] else []) ∧
      ((runSubtask env index sub st).2 = none → k = sub.workloads.length) ∧
      ((runSubtask env index sub st).2 = some .error → (runSubtask env index sub st).1.status = .crashed) := by
  obtain ⟨k, within, writes, full⟩ :=
    runWorkloads_writes env index sub.workloads (st.write (.addSubtask index sub.toDict))
  refine ⟨k, within, ?_⟩
  unfold runSubtask
  rcases ran : runWorkloads env index sub.workloads (st.write (.addSubtask index sub.toDict)) with
    ⟨st', e⟩
  rw [ran] at writes full
  rcases e with _ | _ | _ <;>
    simp_all [Store.write, Store.updateStatus, closing]

theorem runSubtasks_writes (index : Nat) :
    ∀ (subs : List SubTask) (st : Store), ∃ new,
      (runSubtasks env index subs st).1.writes = st.writes ++ new ∧
      SubtaskWrites index subs new (runSubtasks env index subs st).2 (runSubtasks env index subs st).1.status
  | [], st => ⟨[], by simp [runSubtasks],
      ⟨⟨0, le_refl _, by simp [declaredSubtasks], by simp [declaredWorkloads], by simp [declaredWorkloads],
        fun _ => ⟨rfl, rfl⟩⟩, by simp, by simp, fun _ => rfl, by simp [runSubtasks]⟩⟩
  | sub :: rest, st => by
    obtain ⟨k, within, writes, full, crash⟩ := runSubtask_writes env index sub st
    rcases ran : runSubtask env index sub st with ⟨st1, e1⟩
    rw [ran] at writes full crash
    dsimp only at writes full crash
    obtain ⟨registeredBlock, startedBlock, closedBlock⟩ :=
      @subtaskBlock_views index sub.toDict (sub.workloads.take k) (closing e1)
        (if e1 = some .error then [.taskStatus .crashed] else []) (by split <;> simp)
    generalize Write.addSubtask index sub.toDict :: (sub.workloads.take k).map (workloadWrite index) ++
        Write.subtaskStatus index (closing e1) :: (if e1 = some .error then [.taskStatus .crashed] else []) =
        block at writes registeredBlock startedBlock closedBlock
    cases e1 with
    | none =>
      obtain ⟨new, restWrites, ⟨⟨n, below, registered, lower, upper, complete⟩, closed, terminal,
        finished, crashed⟩⟩ := runSubtasks_writes (index + 1) rest st1
      obtain rfl := full rfl
      have loop : runSubtasks env index (sub :: rest) st = runSubtasks env (index + 1) rest st1 := by
        simp [runSubtasks, ran]
      rw [loop]
      refine ⟨block ++ new, by rw [restWrites, writes, List.append_assoc],
        ⟨⟨n + 1, by simp [below], ?_, ?_, ?_, ?_⟩, ?_, ?_, ?_, ?_⟩⟩ <;>
        simp only [List.filterMap_append, registeredBlock, startedBlock, closedBlock, List.take_length,
          List.singleton_append, closing]
      · simp [registered, declaredSubtasks]
      · exact (declaredWorkloads_take_cons index n sub rest).trans
          ((List.prefix_append_right_inj _).mpr lower)
      · simpa [declaredWorkloads, List.prefix_append_right_inj] using upper
      · intro done
        obtain ⟨all, allStarted⟩ := complete done
        simp [all, allStarted, declaredWorkloads]
      · simp [closed]
      · exact List.forall_mem_cons.mpr ⟨nofun, terminal⟩
      · exact fun allFinished => finished (List.forall_mem_cons.mp allFinished).2
      · intro error
        obtain ⟨status, last, lastIs, lastCrashed⟩ := crashed error
        exact ⟨status, last, by simp [List.getLast?_cons, lastIs], .tail _ lastCrashed⟩
    | some e =>
      have stopped : runSubtasks env index (sub :: rest) st = (st1, some e) := by
        simp [runSubtasks, ran]
      rw [stopped]
      refine ⟨block, writes, ⟨⟨1, by simp, ?_, ?_, ?_, nofun⟩, ?_, ?_, ?_, ?_⟩⟩ <;>
        simp only [registeredBlock, startedBlock, closedBlock]
      · simp [declaredSubtasks]
      · simp [declaredWorkloads]
      · simpa [declaredWorkloads] using (List.take_prefix k sub.workloads).map _
      · rfl
      · rcases e <;> simp [closing]
      · rcases e <;> simp [closing]
      · rintro ⟨⟩
        exact ⟨crash rfl, (index, sub.toDict), rfl, by simp [closing]⟩

end Loops

/-! ## `run` -/

/-- `run` sets the task RUNNING, runs the subtask loop, and then writes only task statuses: it
returns with the task FINISHED or ABORTED, or re-raises what the loop raised. -/
theorem run_shape (env : Collaborators) (config : TaskConfig) (st : Store) :
    ∃ tail, (run env config st).1.writes =
        (runSubtasks env 0 config.subtasks (st.updateStatus .running)).1.writes ++ tail ∧
      (∀ w ∈ tail, ∃ status, w = .taskStatus status) ∧
      ((run env config st).2 = none ∧
          ((run env config st).1.status = .finished ∨ (run env config st).1.status = .aborted) ∨
        (run env config st).2 = some .error ∧
          (runSubtasks env 0 config.subtasks (st.updateStatus .running)).2 = some .error ∧
          (run env config st).1.status = (runSubtasks env 0 config.subtasks (st.updateStatus .running)).1.status) := by
  unfold run
  rcases runSubtasks env 0 config.subtasks (st.updateStatus .running) with ⟨st', _ | _ | _⟩
  · by_cases aborted : st'.status = .aborted
    · exact ⟨[], by simp [aborted], by simp, .inl ⟨rfl, by simp [aborted]⟩⟩
    · exact ⟨[.taskStatus .finished], by simp [aborted, Store.updateStatus], by simp,
        .inl ⟨rfl, by simp [aborted, Store.updateStatus]⟩⟩
  · exact ⟨[.taskStatus .aborted], by simp [Store.updateStatus], by simp,
      .inl ⟨rfl, by simp [Store.updateStatus]⟩⟩
  · exact ⟨[], by simp, by simp, .inr ⟨rfl, rfl, rfl⟩⟩

/-- The same collaborators, with the `ResultConsumer`/`ContextManager` scope of each workload
raising or not as `raises` says, and leaving the same status. -/
def Collaborators.raisingAs (env : Collaborators) (raises : Nat → Nat → Bool) : Collaborators :=
  { env with scope := fun index pos status => ((env.scope index pos status).1, raises index pos) }

section Raising

variable (env : Collaborators) (raises : Nat → Nat → Bool)

theorem runWorkload_raisingAs (index : Nat) (w : Workload) (st : Store) :
    runWorkload (env.raisingAs raises) index w st = runWorkload env index w st := rfl

theorem runWorkloads_raisingAs (index : Nat) :
    ∀ ws st, runWorkloads (env.raisingAs raises) index ws st = runWorkloads env index ws st
  | [], _ => rfl
  | w :: ws, st => by
    simp only [runWorkloads, runWorkload_raisingAs, runWorkloads_raisingAs index ws]

theorem runSubtasks_raisingAs :
    ∀ index subs st, runSubtasks (env.raisingAs raises) index subs st = runSubtasks env index subs st
  | _, [], _ => rfl
  | index, sub :: rest, st => by
    simp only [runSubtasks, runSubtask, runWorkloads_raisingAs, runSubtasks_raisingAs (index + 1) rest]

end Raising

/-- `_run_workload` drops whatever its scope raises: once the scope is entered, the loop goes on
with the next workload, having written nothing but `add_workload`. -/
theorem runWorkloads_after_scope (env : Collaborators) (index : Nat) (w : Workload)
    (ws : List Workload) (st : Store)
    (notAborting : ResultConsumer.isTaskInAbortingStatus st.status true = false)
    (runnerOk : (getRunner w.runner).isOk) (notRaised : env.runnerRaises index w.pos = false)
    (contextOk : (prepareContext env.scenarios env.deployment w.context w.name).isOk) :
    runWorkloads env index (w :: ws) st = runWorkloads env index ws
      ⟨(env.scope index w.pos st.status).1, st.writes ++ [workloadWrite index w]⟩ := by
  cases runner : getRunner w.runner <;>
    cases context : prepareContext env.scenarios env.deployment w.context w.name <;>
    simp_all [runWorkloads, runWorkload, Store.write, workloadWrite, Except.isOk, Except.toBool]

/-- For every config and every behaviour of the collaborators, `run`
(i) registers the first `n` subtasks in declared order, each once, and starts every workload of
the first `n - 1` and a prefix of the `n`-th's, in declared order, each once; unless a registered
subtask ended ABORTED or CRASHED, it has registered every subtask and started every workload;
(ii) gives every subtask it registers exactly one status, never RUNNING;
(iii) returns with the task FINISHED or ABORTED, or raises with the task and its last registered
subtask CRASHED, no later subtask having been registered;
(iv) writes and raises the same whatever the `ResultConsumer`/`ContextManager` scopes of its
workloads raise, and after a workload whose scope was entered goes on with the next one, having
written nothing for it but `add_workload`. -/
theorem run_writes (env : Collaborators) (config : TaskConfig) (st : Store) :
    ∃ new n, (run env config st).1.writes = st.writes ++ new ∧ n ≤ config.subtasks.length ∧
      new.filterMap Write.registered = declaredSubtasks 0 (config.subtasks.take n) ∧
      declaredWorkloads 0 (config.subtasks.take (n - 1)) <+: new.filterMap Write.started ∧
      new.filterMap Write.started <+: declaredWorkloads 0 (config.subtasks.take n) ∧
      ((∀ x ∈ new.filterMap Write.closed, x.2 = .finished) →
        n = config.subtasks.length ∧ new.filterMap Write.started = declaredWorkloads 0 config.subtasks) ∧
      (new.filterMap Write.closed).map Prod.fst = (new.filterMap Write.registered).map Prod.fst ∧
      (∀ x ∈ new.filterMap Write.closed, x.2 ≠ .running) ∧
      ((run env config st).2 = none ∧
          ((run env config st).1.status = .finished ∨ (run env config st).1.status = .aborted) ∨
        (run env config st).2 = some .error ∧ (run env config st).1.status = .crashed ∧
          ∃ last, (new.filterMap Write.registered).getLast? = some last ∧
            (last.1, .crashed) ∈ new.filterMap Write.closed) ∧
      (∀ raises, run (env.raisingAs raises) config st = run env config st) ∧
      ∀ index w ws (st : Store), ResultConsumer.isTaskInAbortingStatus st.status true = false →
        (getRunner w.runner).isOk → env.runnerRaises index w.pos = false →
        (prepareContext env.scenarios env.deployment w.context w.name).isOk →
        runWorkloads env index (w :: ws) st =
          runWorkloads env index ws
            ⟨(env.scope index w.pos st.status).1, st.writes ++ [workloadWrite index w]⟩ := by
  obtain ⟨new, writes, ⟨⟨n, below, registered, lower, upper, complete⟩, closed, terminal, finished,
    crashed⟩⟩ := runSubtasks_writes env 0 config.subtasks (st.updateStatus .running)
  obtain ⟨tail, runWrites, statuses, ending⟩ := run_shape env config st
  obtain ⟨tailRegistered, tailStarted, tailClosed⟩ := views_taskStatuses statuses
  refine ⟨.taskStatus .running :: new ++ tail, n, by rw [runWrites, writes]; simp [Store.updateStatus],
    below, ?_, ?_, ?_, ?_, ?_, ?_, ?_, fun raises => by simp only [run, runSubtasks_raisingAs],
    runWorkloads_after_scope env⟩ <;>
    simp only [List.filterMap_cons, List.filterMap_append, tailRegistered, tailStarted, tailClosed,
      List.append_nil, Write.registered, Write.started, Write.closed]
  · exact registered
  · exact lower
  · exact upper
  · exact fun allFinished => complete (finished allFinished)
  · exact closed
  · exact terminal
  · rcases ending with finished | ⟨error, loopError, status⟩
    · exact .inl finished
    · obtain ⟨loopCrashed, last⟩ := crashed loopError
      exact .inr ⟨error, status.trans loopCrashed, last⟩

end Rally.Engine.TaskEngine
