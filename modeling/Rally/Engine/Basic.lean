import Mathlib.Algebra.Order.Ring.Unbundled.Rat
import Mathlib.Order.WithBot
import Mathlib.Algebra.Order.Field.Rat

/-! # Records of the task engine and the body of the result loop

The data that `rally/task/engine.py` moves between the orchestrator, the runner and the
`ResultConsumer` threads: task and subtask statuses, iteration results, timeline events, the
aggregate document, and the calls the threads make on their collaborators.

The body of `ResultConsumer._consume_results` is split in two pure functions:

* `consumeResult` — one pass of `for r in results:` (load bounds, the SLA check, the one-shot
  soft abort), returning the calls it makes in order;
* `takeChunk` — one pass of `while len(self.results) >= chunk_size:`.

`loadDuration` is the clamp `__exit__` applies to the two load bounds.  Load bounds are exact
rationals; `float("inf")`, the initial `load_started_at`, is `⊤ : WithTop ℚ`.
-/

set_option autoImplicit false

namespace Rally.Engine

/-! ## Statuses -/

/-- Modelled from the spec: `consts.TaskStatus` is not under src/.  These are the task statuses
that `engine.py` reads or writes. -/
inductive TaskStatus where
  | validating
  | running
  | softAborting
  | aborting
  | aborted
  | finished
  | crashed
  deriving DecidableEq, Repr

/-- Modelled from the spec: `consts.SubtaskStatus` is not under src/.  A subtask is created
`running` by `task.add_subtask` and given one of the other three by `_run_subtask`. -/
inductive SubtaskStatus where
  | running
  | finished
  | aborted
  | crashed
  deriving DecidableEq, Repr

/-! ## Records -/

/-- One iteration record pushed by the runner.  The engine reads `timestamp` and `duration`;
`payload` stands for the rest of the record (error, output, atomic actions), which only the SLA
checker and the store look at. -/
structure Result where
  timestamp : ℚ
  duration : ℚ
  payload : Nat
  deriving DecidableEq, Repr

/-- One timeline event of `runner.event_queue`, `{"type": ..., "value": ...}`. -/
structure TimelineEvent where
  type : String
  value : ℚ
  deriving DecidableEq, Repr

/-- The aggregate document `__exit__` hands to `workload.set_results`: the load duration and
whether the hook summary was attached.  `full_duration` is wall-clock time and the two summaries
belong to the collaborators, so they are left out. -/
structure Document where
  loadDuration : ℚ
  hooks : Bool
  deriving DecidableEq, Repr

/-- An action in a scope's log: a call on a collaborator (SLA checker, hook executor, runner,
task, workload), a push by the runner, or a status write. -/
inductive Call where
  | pushResults (batch : List Result)
  | pushEvent (event : TimelineEvent)
  | addIteration (result : Result)
  | setAbortedOnSla
  | setAbortedManually
  | setUnexpectedFailure
  | slaResults
  | runnerAbort
  | updateStatus (status : TaskStatus)
  | addWorkloadData (index : Nat) (chunk : List Result)
  | onEvent (event : TimelineEvent)
  | hookResults
  | setResults (document : Document)
  deriving DecidableEq, Repr

/-- The status a call leaves on the task: only `task.update_status` writes it. -/
def Call.apply (status : TaskStatus) : Call → TaskStatus
  | .updateStatus written => written
  | _ => status

@[simp] theorem Call.apply_updateStatus (status written : TaskStatus) :
    (Call.updateStatus written).apply status = written := rfl

namespace ResultConsumer

/-- `ResultConsumer.is_task_in_aborting_status`, on the status the store returns for the task. -/
def isTaskInAbortingStatus (status : TaskStatus) (checkSoft : Bool) : Bool :=
  let stages := [TaskStatus.aborting, .aborted] ++ if checkSoft then [.softAborting] else []
  stages.contains status

@[simp] theorem isTaskInAbortingStatus_eq_true {status : TaskStatus} {checkSoft : Bool} :
    isTaskInAbortingStatus status checkSoft = true ↔
      status = .aborting ∨ status = .aborted ∨ (checkSoft = true ∧ status = .softAborting) := by
  cases checkSoft <;> cases status <;> decide

/-- What is fixed for one `ResultConsumer`: the engine's `abort_on_sla_failure`,
`CONF.raw_result_chunk_size` (at least 1, by the option's `min=1`), whether the workload declares
hooks, and the SLA checker's verdict after each sequence of iterations it has been given. -/
structure Params where
  abortOnSlaFailure : Bool
  chunkSize : Nat
  chunkSize_pos : 0 < chunkSize
  hooks : Bool
  verdict : List Result → Bool

/-! ## The result loop's own fields -/

/-- The fields of a `ResultConsumer` that only the result thread writes, and the loop's local
`task_aborted`. -/
structure Consumer where
  results : List Result
  loadStartedAt : WithTop ℚ
  loadFinishedAt : ℚ
  workloadDataCount : Nat
  taskAborted : Bool

/-- The fields as `ResultConsumer.__init__` sets them. -/
def Consumer.init : Consumer :=
  { results := [], loadStartedAt := ⊤, loadFinishedAt := 0, workloadDataCount := 0,
    taskAborted := false }

/-- The load bounds after `r`: `min(r["timestamp"], ...)` and
`max(r["duration"] + r["timestamp"], ...)`. -/
def Consumer.widen (c : Consumer) (r : Result) : Consumer :=
  { c with loadStartedAt := min (r.timestamp : WithTop ℚ) c.loadStartedAt,
           loadFinishedAt := max (r.duration + r.timestamp) c.loadFinishedAt }

/-- The three calls of the soft abort on an SLA failure. -/
def softAbortCalls : List Call :=
  [.setAbortedOnSla, .runnerAbort, .updateStatus .softAborting]

/-- One pass of `for r in results:` in `_consume_results`, the SLA checker having been given
`checked` before `r`: widen the load bounds, hand `r` to the checker, and on a failed check with
`abort_on_sla_failure` set and `task_aborted` still clear, mark the checker, abort the runner,
set the task SOFT_ABORTING and latch `task_aborted`. -/
def consumeResult (p : Params) (checked : List Result) (c : Consumer) (r : Result) :
    Consumer × List Call :=
  let c := c.widen r
  let success := p.verdict (checked ++ [r])
  if p.abortOnSlaFailure && !success && !c.taskAborted then
    ({ c with taskAborted := true }, .addIteration r :: softAbortCalls)
  else (c, [.addIteration r])

/-- `results_chunk.sort(key=lambda x: x["timestamp"])`: a stable sort on timestamps. -/
def sortByTimestamp (rs : List Result) : List Result :=
  rs.mergeSort fun a b => decide (a.timestamp ≤ b.timestamp)

/-- One pass of `while len(self.results) >= chunk_size:`: slice off the oldest `chunk_size`
results, sort them and hand them to the workload as chunk `workload_data_count`. -/
def takeChunk (p : Params) (c : Consumer) : Consumer × Call :=
  ({ c with results := c.results.drop p.chunkSize, workloadDataCount := c.workloadDataCount + 1 },
   .addWorkloadData c.workloadDataCount (sortByTimestamp (c.results.take p.chunkSize)))

/-- `max(self.load_finished_at - self.load_started_at, 0)`; with `load_started_at` still
`float("inf")` the difference is `-inf` and the clamp gives 0. -/
def loadDuration (c : Consumer) : ℚ :=
  match c.loadStartedAt with
  | ⊤ => 0
  | (started : ℚ) => max (c.loadFinishedAt - started) 0

/-! ## Sorting -/

theorem sortByTimestamp_perm (rs : List Result) : (sortByTimestamp rs).Perm rs :=
  List.mergeSort_perm rs _

@[simp] theorem sortByTimestamp_length (rs : List Result) :
    (sortByTimestamp rs).length = rs.length :=
  (sortByTimestamp_perm rs).length_eq

@[simp] theorem sortByTimestamp_eq_nil {rs : List Result} : sortByTimestamp rs = [] ↔ rs = [] := by
  rw [← List.length_eq_zero, sortByTimestamp_length, List.length_eq_zero]

/-! ## The loop body -/

@[simp] theorem Consumer.widen_results (c : Consumer) (r : Result) :
    (c.widen r).results = c.results := rfl

@[simp] theorem Consumer.widen_workloadDataCount (c : Consumer) (r : Result) :
    (c.widen r).workloadDataCount = c.workloadDataCount := rfl

@[simp] theorem Consumer.widen_taskAborted (c : Consumer) (r : Result) :
    (c.widen r).taskAborted = c.taskAborted := rfl

/-- The SLA abort fires on `r` exactly when aborting on SLA failure, the check of `r` fails and
the latch is still clear. -/
def abortsOn (p : Params) (checked : List Result) (c : Consumer) (r : Result) : Bool :=
  p.abortOnSlaFailure && !p.verdict (checked ++ [r]) && !c.taskAborted

theorem consumeResult_eq (p : Params) (checked : List Result) (c : Consumer) (r : Result) :
    consumeResult p checked c r =
      ({ c.widen r with taskAborted := c.taskAborted || abortsOn p checked c r },
       .addIteration r :: if abortsOn p checked c r then softAbortCalls else []) := by
  obtain ⟨results, started, finished, count, latched⟩ := c
  unfold consumeResult abortsOn
  cases p.abortOnSlaFailure <;> cases p.verdict (checked ++ [r]) <;> cases latched <;> rfl

@[simp] theorem consumeResult_fst_results (p : Params) (checked : List Result) (c : Consumer)
    (r : Result) : (consumeResult p checked c r).1.results = c.results := by
  rw [consumeResult_eq]; rfl

@[simp] theorem consumeResult_fst_workloadDataCount (p : Params) (checked : List Result)
    (c : Consumer) (r : Result) :
    (consumeResult p checked c r).1.workloadDataCount = c.workloadDataCount := by
  rw [consumeResult_eq]; rfl

@[simp] theorem takeChunk_fst_results (p : Params) (c : Consumer) :
    (takeChunk p c).1.results = c.results.drop p.chunkSize := rfl

@[simp] theorem takeChunk_fst_workloadDataCount (p : Params) (c : Consumer) :
    (takeChunk p c).1.workloadDataCount = c.workloadDataCount + 1 := rfl

end ResultConsumer

end Rally.Engine
