import Rally.Engine.Basic
import Rally.Config.Reads

/-! # `TaskEngine.run`

The orchestrator: `run` sets the task RUNNING and runs each subtask; `_run_subtask` registers the
subtask, runs its workloads and gives it one terminal status; `_run_workload` checks for an abort
first, registers the workload, builds its runner and its context, and runs it inside the
`ResultConsumer` and `ContextManager` scopes, whose exceptions it logs and drops.

Exceptions are `Raised.taskAborted` (the `TaskAborted` sentinel) and `Raised.error` (any other).
A call returns the store it leaves together with the exception it raises, if any: what a Python
call wrote to the store stays written when it raises.  `Collaborators` says what the plugins and
the scope do; the scope's own threads are modelled in `Rally.Engine.Scope`, and `Rally.Engine.Abort`
connects the two.
-/

set_option autoImplicit false

namespace Rally.Engine.TaskEngine

/-- `TaskAborted`, or any other exception. -/
inductive Raised where
  | taskAborted
  | error
  deriving DecidableEq, Repr

/-- A write to the task store: a task status, a subtask registered by `task.add_subtask` (its
index in the config and `subtask.to_dict()`), a subtask status, or a workload registered by
`subtask_obj.add_workload(key)`, which is where it starts. -/
inductive Write where
  | taskStatus (status : TaskStatus)
  | addSubtask (index : Nat) (spec : Json)
  | subtaskStatus (index : Nat) (status : SubtaskStatus)
  | addWorkload (index pos : Nat) (key : Json)

/-- The task store as the orchestrator sees it: the task's current status and every write. -/
structure Store where
  status : TaskStatus
  writes : List Write

def Store.write (st : Store) (w : Write) : Store :=
  { st with writes := st.writes ++ [w] }

/-- `self.task.update_status(status)`. -/
def Store.updateStatus (st : Store) (status : TaskStatus) : Store :=
  { status, writes := st.writes ++ [.taskStatus status] }

/-- What the collaborators of `run` do.  Workloads are named by the index of their subtask and
their position in it. -/
structure Collaborators where
  scenarios : Scenarios
  deployment : Deployment
  /-- `runner.ScenarioRunner.get(config["type"])(self.task, config)` raises. -/
  runnerRaises : Nat → Nat → Bool
  /-- The `ResultConsumer`/`ContextManager` scope, entered with the task in the given status:
  the status its threads leave, and whether an exception leaves the `with` block. -/
  scope : Nat → Nat → TaskStatus → TaskStatus × Bool

section Run

variable (env : Collaborators)

/-- `TaskEngine._run_workload` for a workload of the `index`-th subtask. -/
def runWorkload (index : Nat) (w : Workload) (st : Store) : Store × Option Raised :=
  if ResultConsumer.isTaskInAbortingStatus st.status true then (st, some .taskAborted)
  else
    let st := st.write (.addWorkload index w.pos w.makeKey)
    match getRunner w.runner with
    | .error _ => (st, some .error)
    | .ok _ =>
      if env.runnerRaises index w.pos then (st, some .error)
      else
        match prepareContext env.scenarios env.deployment w.context w.name with
        | .error _ => (st, some .error)
        | .ok _ => ({ st with status := (env.scope index w.pos st.status).1 }, none)

/-- The `for workload in subtask.workloads` loop of `_run_subtask`. -/
def runWorkloads (index : Nat) : List Workload → Store → Store × Option Raised
  | [], st => (st, none)
  | w :: ws, st =>
    match runWorkload env index w st with
    | (st, none) => runWorkloads index ws st
    | (st, some e) => (st, some e)

/-- `TaskEngine._run_subtask` for the `index`-th subtask. -/
def runSubtask (index : Nat) (subtask : SubTask) (st : Store) : Store × Option Raised :=
  let st := st.write (.addSubtask index subtask.toDict)
  match runWorkloads env index subtask.workloads st with
  | (st, none) => (st.write (.subtaskStatus index .finished), none)
  | (st, some .taskAborted) => (st.write (.subtaskStatus index .aborted), some .taskAborted)
  | (st, some .error) =>
    ((st.write (.subtaskStatus index .crashed)).updateStatus .crashed, some .error)

/-- The `for subtask in self.config.subtasks` loop of `run`, from the `index`-th subtask. -/
def runSubtasks (index : Nat) : List SubTask → Store → Store × Option Raised
  | [], st => (st, none)
  | subtask :: rest, st =>
    match runSubtask env index subtask st with
    | (st, none) => runSubtasks (index + 1) rest st
    | (st, some e) => (st, some e)

/-- `TaskEngine.run`. -/
def run (config : TaskConfig) (st : Store) : Store × Option Raised :=
  match runSubtasks env 0 config.subtasks (st.updateStatus .running) with
  | (st, some .taskAborted) => (st.updateStatus .aborted, none)
  | (st, some .error) => (st, some .error)
  | (st, none) => (if st.status = .aborted then st else st.updateStatus .finished, none)

end Run

end Rally.Engine.TaskEngine
