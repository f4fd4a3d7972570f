import Rally.Engine.Orchestration
import Rally.Engine.Scope

/-! # Aborts across the scope and the orchestrator

The abort watcher writes ABORTED from inside a workload's scope; the orchestrator reads the
status again only at the next `_run_workload`'s abort check and at the end of `run`.
`scopeOf` makes the `Collaborators.scope` of `TaskEngine` out of a run of the scope's threads,
so that a run of `TaskEngine.run` can be followed through the threads of its workloads.

What the abort check gives: after a workload whose scope leaves the task aborting, the loop
starts no further workload of the subtask and raises `TaskAborted`, so the subtask is ABORTED
(`runWorkloads_after_abort`) — unless that workload was the last of its subtask, whose loop then
ends normally and the subtask is FINISHED.  Two runs show what follows: `abortedTask_finishes`,
where an SLA failure after the watcher's ABORTED leaves the task SOFT_ABORTING and `run` then
writes FINISHED, and `abortedWorkload_subtaskFinished`, where the watcher aborts the only workload
and its subtask ends FINISHED under an ABORTED task.
-/

set_option autoImplicit false

namespace Rally.Engine.TaskEngine

open ResultConsumer

/-- The `ResultConsumer` scope of every workload, run by the threads along `labels` from the
status the task is in when the scope is entered: the status it leaves and whether an exception
leaves the `with` block.  A run the labels cannot complete leaves the status alone. -/
def scopeOf (p : Params) (labels : List Label) : Nat → Nat → TaskStatus → TaskStatus × Bool :=
  fun _ _ status => match ResultConsumer.run p (Scope.init p status) labels with
    | some s => (s.status, s.raised)
    | none => (status, false)

section AbortCheck

variable (env : Collaborators)

/-- From a task already aborting, the workload loop registers nothing: the first abort check
raises `TaskAborted`. -/
theorem runWorkloads_of_aborting (index : Nat) (ws : List Workload) (st : Store)
    (aborting : isTaskInAbortingStatus st.status true) :
    runWorkloads env index ws st = (st, if ws.isEmpty then none else some .taskAborted) := by
  cases ws <;> simp [runWorkloads, runWorkload, aborting]

/-- From a task already aborting, the subtask loop starts no workload and leaves the task's
status as it is: a subtask with workloads is registered and ABORTED, and `TaskAborted` ends the
loop. -/
theorem runSubtasks_of_aborting (index : Nat) :
    ∀ (subs : List SubTask) (st : Store), isTaskInAbortingStatus st.status true →
      ∃ new e, runSubtasks env index subs st = (⟨st.status, st.writes ++ new⟩, e) ∧
        new.filterMap Write.started = []
  | [], st, _ => ⟨[], none, by simp [runSubtasks], rfl⟩
  | sub :: rest, st, aborting => by
    have registered : isTaskInAbortingStatus (st.write (.addSubtask index sub.toDict)).status true :=
      aborting
    by_cases empty : sub.workloads = []
    · obtain ⟨new, e, ran, started⟩ := runSubtasks_of_aborting (index + 1) rest
        ((st.write (.addSubtask index sub.toDict)).write (.subtaskStatus index .finished)) aborting
      refine ⟨[.addSubtask index sub.toDict, .subtaskStatus index .finished] ++ new, e, ?_, ?_⟩
      · simp only [Store.write, List.append_assoc, List.singleton_append] at ran
        rw [runSubtasks, runSubtask, runWorkloads_of_aborting env index _ _ registered]
        simp [empty, ran, Store.write]
      · simp [Write.started, started]
    · refine ⟨[.addSubtask index sub.toDict, .subtaskStatus index .aborted], some .taskAborted, ?_,
        by simp [Write.started]⟩
      rw [runSubtasks, runSubtask, runWorkloads_of_aborting env index _ _ registered]
      simp [empty, Store.write]

/-- After a workload whose scope leaves the task aborting, the next workload's abort check raises
`TaskAborted` before it registers anything, and `_run_subtask` marks the subtask ABORTED. -/
theorem runWorkloads_after_abort (index : Nat) (w next : Workload) (ws : List Workload) (st : Store)
    (status : TaskStatus)
    (entered : runWorkload env index w st = (⟨status, st.writes ++ [workloadWrite index w]⟩, none))
    (aborting : isTaskInAbortingStatus status true) :
    runWorkloads env index (w :: next :: ws) st =
      (⟨status, st.writes ++ [workloadWrite index w]⟩, some .taskAborted) := by
  rw [runWorkloads, entered]
  simp [runWorkloads, runWorkload, aborting]

end AbortCheck

/-! ## Two runs through the threads and the orchestrator -/

/-- The status writes of a scope, with who made them. -/
def statusWrites (s : Scope) : List (Actor × TaskStatus) :=
  s.log.filterMap fun
    | .returned actor (.updateStatus status) => some (actor, status)
    | _ => none

/-- A task status write of the orchestrator. -/
def Write.taskStatusOf : Write → Option TaskStatus
  | .taskStatus status => some status
  | _ => none

/-- A config of one subtask with one workload, whose runner and context are the defaults. -/
def oneWorkloadConfig : TaskConfig :=
  ⟨.number 2, .string "Task", .array [], .null,
    [⟨.string "s", .array [], .null, .null,
      [⟨.string "Dummy.dummy", .string "", .object [], .object [], .array [], .object [], .object [], 0⟩],
      .object []⟩]⟩

/-- Plugins that are found and deployment credentials without users; every workload's scope runs
along `labels`. -/
def envOf (p : Params) (labels : List Label) : Collaborators :=
  ⟨⟨fun _ => some ⟨"Dummy", "openstack", []⟩⟩, ⟨fun _ => some ⟨.null, .array []⟩⟩, fun _ _ => false,
    scopeOf p labels⟩

/-- `abort_on_sla_failure` set and an SLA that fails every result. -/
def abortOnEveryFailure : Params :=
  { Params.plain with abortOnSlaFailure := true, verdict := fun _ => false }

/-- An operator asks for an abort and the watcher sets ABORTED; a failing result then reaches
the SLA checker, and the scope exits. -/
def abortedThenFailedLabels : List Label :=
  [.request, .thread .watcher, .thread .watcher, .thread .watcher, .thread .watcher,
   .push [⟨0, 1, 0⟩]] ++ List.replicate 5 (.thread .resultLoop) ++
  [.finish false, .thread .owner, .thread .resultLoop, .thread .resultLoop] ++
  List.replicate 5 (.thread .owner)

/-- The result thread's SOFT_ABORTING replaces the watcher's ABORTED, and `run`, seeing the task
no longer ABORTED, writes FINISHED. -/
theorem abortedTask_finishes :
    ∃ s, ResultConsumer.run abortOnEveryFailure (Scope.init abortOnEveryFailure .running)
        abortedThenFailedLabels = some s ∧ s.ownerPc = .exited ∧
      statusWrites s = [(.operator, .aborting), (.watcher, .aborted), (.resultLoop, .softAborting)] ∧
      (run (envOf abortOnEveryFailure abortedThenFailedLabels) oneWorkloadConfig ⟨.running, []⟩).1.writes.filterMap
        Write.taskStatusOf = [.running, .finished] :=
  ⟨_, (Option.some_get (by decide)).symm, by decide, by decide, by decide⟩

/-- An operator asks for an abort, the watcher sets ABORTED, and the scope exits. -/
def watcherAbortLabels : List Label :=
  [.request, .thread .watcher, .thread .watcher, .thread .watcher, .thread .watcher, .finish false,
   .thread .owner, .thread .resultLoop, .thread .resultLoop] ++ List.replicate 5 (.thread .owner)

/-- The abort is observed during the only workload of the only subtask: the task ends ABORTED but
the subtask FINISHED. -/
theorem abortedWorkload_subtaskFinished :
    ∃ s, ResultConsumer.run .plain (Scope.init .plain .running) watcherAbortLabels = some s ∧
      s.ownerPc = .exited ∧ (.watcher, .aborted) ∈ statusWrites s ∧
      (run (envOf .plain watcherAbortLabels) oneWorkloadConfig ⟨.running, []⟩).1.writes.filterMap
        Write.closed = [(0, .finished)] ∧
      (run (envOf .plain watcherAbortLabels) oneWorkloadConfig ⟨.running, []⟩).1.status = .aborted :=
  ⟨_, (Option.some_get (by decide)).symm, by decide, by decide, by decide, by decide⟩

end Rally.Engine.TaskEngine
