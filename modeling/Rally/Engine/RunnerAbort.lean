import Rally.Engine.Abort

/-! # Who aborts the runner

`runner.abort()` has two callers in a scope: the abort watcher, once it has seen the task
ABORTING or ABORTED, and the result thread, on an SLA failure of a workload with
`abort_on_sla_failure`.  In every interleaving of the scope's threads, whichever calls raise,
the result thread calls `runner.abort()` at most once, and never without `abort_on_sla_failure`:
`task_aborted` latches after the first soft abort, and a raise ends the thread; no actor but these
two calls it (`runnerAbort_callers`).  Without an abort request from outside, the watcher calls
nothing at all, and the status never reaches ABORTING or ABORTED, whatever the result thread's
SOFT_ABORTING (`watcher_idle_without_request`).

Which calls each thread can make is said once, by `move_makes`; the facts about single calls are
read off it. The result thread's half is a potential argument: `abortPotential` is the call the
thread may still make, and each of its steps logs no more `runner.abort()` calls than it takes
from it.
-/

set_option autoImplicit false

namespace Rally.Engine.ResultConsumer

/-- The call of an entry, whether it returned or raised. -/
def Entry.call : Entry → Call
  | .returned _ call | .raised _ call => call

/-- The entries one actor has logged, in order. -/
def Scope.entriesBy (s : Scope) (actor : Actor) : List Entry :=
  s.log.filter fun e => e.actor == actor

/-- How often an actor has called `runner.abort()`, whether the call returned or raised. -/
def Scope.abortsBy (s : Scope) (actor : Actor) : Nat :=
  (s.entriesBy actor).countP fun e => e.call == .runnerAbort

/-! ## Entries of one actor -/

section Frames

variable {p : Params} {s t : Scope} {l : Label} {actor : Actor}

theorem Scope.entriesBy_of_log (same : t.log = s.log) : t.entriesBy actor = s.entriesBy actor := by
  rw [Scope.entriesBy, same, Scope.entriesBy]

theorem Scope.abortsBy_of_log (same : t.log = s.log) : t.abortsBy actor = s.abortsBy actor := by
  rw [Scope.abortsBy, Scope.entriesBy_of_log same, Scope.abortsBy]

@[simp] theorem Scope.entriesBy_record_self (s : Scope) (actor : Actor) (calls : List Call) :
    (s.record actor calls).entriesBy actor = s.entriesBy actor ++ calls.map (.returned actor) := by
  simp only [Scope.entriesBy, Scope.record_log, List.filter_append]
  exact congrArg _ (List.filter_eq_self.mpr fun e mem => by simp [Entry.actor_of_mem_map mem])

@[simp] theorem Scope.entriesBy_recordRaised_self (s : Scope) (actor : Actor) (call : Call) :
    (s.recordRaised actor call).entriesBy actor = s.entriesBy actor ++ [.raised actor call] := by
  simp [Scope.entriesBy, Entry.actor]

@[simp] theorem Scope.abortsBy_record_self (s : Scope) (actor : Actor) (calls : List Call) :
    (s.record actor calls).abortsBy actor = s.abortsBy actor + calls.count .runnerAbort := by
  simp only [Scope.abortsBy, Scope.entriesBy_record_self, List.countP_append, List.countP_map,
    List.count]
  rfl

@[simp] theorem Scope.abortsBy_recordRaised_self (s : Scope) (actor : Actor) (call : Call) :
    (s.recordRaised actor call).abortsBy actor =
      s.abortsBy actor + if call = .runnerAbort then 1 else 0 := by
  simp [Scope.abortsBy, Entry.call, List.countP_cons]

/-- A step appends to the log, and only entries of its label's actor. -/
theorem step_log (h : step p s l = some t) :
    ∃ new, t.log = s.log ++ new ∧ ∀ e ∈ new, e.actor = l.actor := by
  cases l with
  | push | pushEvent | request =>
    simp only [step] at h
    split at h <;> cases h
    exact ⟨_, rfl, List.forall_mem_singleton.mpr rfl⟩
  | finish =>
    simp only [step] at h
    split at h <;> cases h
    exact ⟨[], (List.append_nil _).symm, fun _ none => absurd none (List.not_mem_nil _)⟩
  | thread th =>
    obtain ⟨m, moved, rfl⟩ := step_thread h
    exact ⟨m.calls.map (.returned th.actor), by rw [Scope.record_log, (move_log_status moved).1],
      fun _ => Entry.actor_of_mem_map⟩
  | fail th n =>
    obtain ⟨m, call, moved, -, rfl⟩ := step_fail h
    refine ⟨(m.calls.take n).map (.returned th.actor) ++ [.raised th.actor call],
      by simp [(move_log_status moved).2.1], fun e mem => ?_⟩
    rcases List.mem_append.mp mem with mem | mem
    · exact Entry.actor_of_mem_map mem
    · rw [List.mem_singleton.mp mem]
      rfl

/-- A step of another actor leaves an actor's entries alone. -/
theorem entriesBy_step_other (h : step p s l = some t) (other : l.actor ≠ actor) :
    t.entriesBy actor = s.entriesBy actor := by
  obtain ⟨new, log, actors⟩ := step_log h
  simp only [Scope.entriesBy, log, List.filter_append, List.append_right_eq_self,
    List.filter_eq_nil_iff]
  intro e mem
  simp [actors e mem, other]

theorem move_watcherPc {th : Thread} {m : Move} (h : move p s th = some m)
    (other : th ≠ .watcher) :
    m.next.watcherPc = s.watcherPc ∧ m.stuck.watcherPc = s.watcherPc := by
  cases th <;> simp only [move, consumeResults, consumeEvents, exit] at h <;> try contradiction
  all_goals (repeat' split at h) <;> (try cases h) <;> exact ⟨rfl, rfl⟩

theorem Thread.eq_of_actor {th th' : Thread} (same : th.actor = th'.actor) : th = th' := by
  cases th <;> cases th' <;> first | rfl | cases same

/-- Only the watcher's steps move the watcher. -/
theorem step_watcherPc (h : step p s l = some t) (other : l.actor ≠ .watcher) :
    t.watcherPc = s.watcherPc := by
  cases l with
  | push | pushEvent | request | finish =>
    simp only [step] at h
    split at h <;> cases h
    rfl
  | thread th =>
    obtain ⟨m, moved, rfl⟩ := step_thread h
    exact (move_watcherPc moved fun same => other (congrArg Thread.actor same)).1
  | fail th n =>
    obtain ⟨m, call, moved, -, rfl⟩ := step_fail h
    exact (move_watcherPc moved fun same => other (congrArg Thread.actor same)).2

/-- Only the result thread's steps move the result thread. -/
theorem step_resultView (h : step p s l = some t) (other : l.actor ≠ .resultLoop) :
    t.resultView = s.resultView := by
  cases l with
  | push | pushEvent | request | finish =>
    simp only [step] at h
    split at h <;> cases h
    rfl
  | thread th =>
    obtain ⟨m, moved, rfl⟩ := step_thread h
    simpa using (move_resultView moved fun same => other (congrArg Thread.actor same)).1
  | fail th n =>
    obtain ⟨m, call, moved, -, rfl⟩ := step_fail h
    simpa using (move_resultView moved fun same => other (congrArg Thread.actor same)).2

/-- The calls each thread makes: the result thread's `add_iteration`, soft abort and chunks, the
event thread's `on_event`, the watcher's `runner.abort()` and ABORTED, and `__exit__`'s report,
hook summary, last chunk and `set_results`. -/
def Thread.makes : Thread → Call → Prop
  | .resultLoop, c => (∃ r, c = .addIteration r) ∨ c = .setAbortedOnSla ∨ c = .runnerAbort ∨
      c = .updateStatus .softAborting ∨ ∃ index chunk, c = .addWorkloadData index chunk
  | .eventLoop, c => ∃ event, c = .onEvent event
  | .watcher, c => c = .runnerAbort ∨ c = .updateStatus .aborted
  | .owner, c => c = .setUnexpectedFailure ∨ c = .setAbortedManually ∨ c = .slaResults ∨
      c = .hookResults ∨ (∃ index chunk, c = .addWorkloadData index chunk) ∨ ∃ doc, c = .setResults doc

theorem consumeResult_makes (p : Params) (checked : List Result) (c : Consumer) (r : Result) :
    ∀ call ∈ (consumeResult p checked c r).2, Thread.resultLoop.makes call := by
  rw [consumeResult_eq]
  split <;> simp [softAbortCalls, Thread.makes]

/-- Every call of a thread's step is one that thread makes. -/
theorem move_makes {th : Thread} {m : Move} (h : move p s th = some m) :
    ∀ c ∈ m.calls, th.makes c := by
  cases th <;> simp only [move, consumeResults, consumeEvents, waitAndAbort, exit] at h
  all_goals (repeat' split at h) <;> (try cases h)
  all_goals first
    | exact fun _ none => absurd none (List.not_mem_nil _)
    | exact consumeResult_makes _ _ _ _
    | simp [Thread.makes, takeChunk, reportCalls, flushCalls, or_imp, forall_and]

end Frames


/-! ## The result thread, and everyone else -/

/-- The `runner.abort()` the result thread may still make: one, while `abort_on_sla_failure` is
set, `task_aborted` is clear and the thread has not failed. -/
def abortPotential (p : Params) (s : Scope) : Nat :=
  if p.abortOnSlaFailure ∧ s.consumer.taskAborted = false ∧ s.resultPc ≠ .failed then 1 else 0

section ResultThread

variable {p : Params} {s t : Scope} {l : Label} {m : Move}

@[simp] theorem abortPotential_record (s : Scope) (actor : Actor) (calls : List Call) :
    abortPotential p (s.record actor calls) = abortPotential p s := rfl

@[simp] theorem abortPotential_recordRaised (s : Scope) (actor : Actor) (call : Call) :
    abortPotential p (s.recordRaised actor call) = abortPotential p s := rfl

/-- One pass of `for r in results:` calls `runner.abort()` only when it latches `task_aborted`,
with `abort_on_sla_failure` set. -/
theorem consumeResult_aborts (p : Params) (checked : List Result) (c : Consumer) (r : Result) :
    (consumeResult p checked c r).2.count .runnerAbort +
        (if p.abortOnSlaFailure ∧ (consumeResult p checked c r).1.taskAborted = false then 1
          else 0) ≤
      if p.abortOnSlaFailure ∧ c.taskAborted = false then 1 else 0 := by
  rw [consumeResult_eq]
  cases fires : abortsOn p checked c r
  · simp [List.count_cons]
  · simp only [abortsOn, Bool.and_eq_true, Bool.not_eq_true'] at fires
    simp [fires, softAbortCalls, List.count_cons]

theorem consumeResults_aborts (h : consumeResults p s = some m) :
    m.calls.count .runnerAbort + abortPotential p m.next ≤ abortPotential p s ∧
      m.calls.count .runnerAbort + abortPotential p m.stuck ≤ abortPotential p s := by
  unfold consumeResults at h
  split at h <;> (repeat' split at h) <;> cases h
  case h_4 _ r pending pc =>
    have fewer := consumeResult_aborts p s.checked s.consumer r
    constructor <;> simp only [abortPotential, pc, ne_eq, reduceCtorEq, not_false_eq_true, and_true,
      not_true_eq_false, and_false, if_false] at fewer ⊢ <;> omega
  all_goals simp [abortPotential, Move.silent, takeChunk, *]

/-- Of the calls of a step that raised, those logged are a prefix and the one that raised. -/
theorem count_take_add_le {calls : List Call} {n : Nat} {call x : Call}
    (found : (calls.drop n).head? = some call) :
    (calls.take n).count x + (if call = x then 1 else 0) ≤ calls.count x := by
  obtain ⟨rest, dropped⟩ : ∃ rest, calls.drop n = call :: rest := by
    cases h : calls.drop n with
    | nil => simp [h] at found
    | cons c rest => exact ⟨rest, by rw [h] at found; cases found; rfl⟩
  calc (calls.take n).count x + (if call = x then 1 else 0)
      ≤ (calls.take n).count x + (calls.drop n).count x := by
        rw [dropped, List.count_cons]
        split <;> simp_all
    _ = calls.count x := by rw [← List.count_append, List.take_append_drop]

theorem ResultAborts.preserved
    (bound : s.abortsBy .resultLoop + abortPotential p s ≤ if p.abortOnSlaFailure then 1 else 0)
    (h : step p s l = some t) :
    t.abortsBy .resultLoop + abortPotential p t ≤ if p.abortOnSlaFailure then 1 else 0 := by
  by_cases mine : l.actor = .resultLoop
  · cases l with
    | thread th =>
      obtain ⟨m, moved, rfl⟩ := step_thread h
      obtain rfl : th = .resultLoop := Thread.eq_of_actor mine
      have entries : m.next.abortsBy .resultLoop = s.abortsBy .resultLoop :=
        Scope.abortsBy_of_log (move_log_status moved).1
      have fewer := (consumeResults_aborts moved).1
      simp only [Thread.actor, Scope.abortsBy_record_self, abortPotential_record, entries]
      omega
    | fail th n =>
      obtain ⟨m, call, moved, found, rfl⟩ := step_fail h
      obtain rfl : th = .resultLoop := Thread.eq_of_actor mine
      have entries : m.stuck.abortsBy .resultLoop = s.abortsBy .resultLoop :=
        Scope.abortsBy_of_log (move_log_status moved).2.1
      have fewer := (consumeResults_aborts moved).2
      have logged := @count_take_add_le _ _ _ Call.runnerAbort found
      simp only [Thread.actor, Scope.abortsBy_recordRaised_self, Scope.abortsBy_record_self,
        abortPotential_record, abortPotential_recordRaised, entries]
      omega
    | push | pushEvent | request | finish => cases mine
  · have same := step_resultView h mine
    simp only [Scope.resultView, Prod.mk.injEq] at same
    rwa [Scope.abortsBy, entriesBy_step_other h mine, abortPotential, same.1, same.2.2]

/-- Only the watcher and the result thread call `runner.abort()`: the event thread and
`__exit__` never do. -/
theorem move_runnerAbort {th : Thread} (h : move p s th = some m)
    (mem : Call.runnerAbort ∈ m.calls) :
    th = .watcher ∨ th = .resultLoop := by
  have made := move_makes h _ mem
  cases th <;> simp [Thread.makes] at made ⊢

theorem abortCallers_step
    (callers : ∀ e ∈ s.log, e.call = .runnerAbort →
      e.actor = .watcher ∨ e.actor = .resultLoop)
    (h : step p s l = some t) :
    ∀ e ∈ t.log, e.call = .runnerAbort → e.actor = .watcher ∨ e.actor = .resultLoop := by
  have byThread {th : Thread} {m : Move} {call : Call} (moved : move p s th = some m)
      (mem : call ∈ m.calls)
      (abort : call = .runnerAbort) : th.actor = .watcher ∨ th.actor = .resultLoop := by
    rcases move_runnerAbort moved (abort ▸ mem) with rfl | rfl
    · exact .inl rfl
    · exact .inr rfl
  cases l with
  | push | pushEvent | request =>
    simp only [step] at h
    split at h <;> cases h
    intro e mem abort
    rcases List.mem_append.mp mem with old | new
    · exact callers e old abort
    · obtain ⟨call, callMem, rfl⟩ := List.mem_map.mp new
      rw [List.mem_singleton.mp callMem] at abort
      cases abort
  | finish =>
    simp only [step] at h
    split at h <;> cases h
    exact callers
  | thread th =>
    obtain ⟨m, moved, rfl⟩ := step_thread h
    intro e mem abort
    rw [Scope.record_log, (move_log_status moved).1] at mem
    rcases List.mem_append.mp mem with old | new
    · exact callers e old abort
    · obtain ⟨call, callMem, rfl⟩ := List.mem_map.mp new
      exact byThread moved callMem abort
  | fail th n =>
    obtain ⟨m, call, moved, found, rfl⟩ := step_fail h
    intro e mem abort
    simp only [Scope.recordRaised_log, Scope.record_log, (move_log_status moved).2.1,
      List.mem_append, List.mem_map, List.mem_singleton] at mem
    rcases mem with (old | ⟨c, taken, rfl⟩) | rfl
    · exact callers e old abort
    · exact byThread moved (List.mem_of_mem_take taken) abort
    · exact byThread moved (List.mem_of_mem_drop (List.mem_of_mem_head? found)) abort

/-- In every run of the scope, whatever the interleaving and whichever calls raise, the result
thread has called `runner.abort()` at most once, and not at all without `abort_on_sla_failure`;
every call of `runner.abort()` is the watcher's or the result thread's. -/
theorem runnerAbort_callers {status : TaskStatus} {allowed : Label → Bool}
    (reached : Reaches p status allowed s) :
    s.abortsBy .resultLoop ≤ (if p.abortOnSlaFailure then 1 else 0) ∧
      ∀ e ∈ s.log, e.call = .runnerAbort → e.actor = .watcher ∨ e.actor = .resultLoop := by
  have bound :
      s.abortsBy .resultLoop + abortPotential p s ≤ if p.abortOnSlaFailure then 1 else 0 :=
    reached.induction
      (by simp [Scope.init, Scope.abortsBy, Scope.entriesBy, abortPotential, Consumer.init])
      fun _ _ _ _ bound h => ResultAborts.preserved bound h
  exact ⟨by omega, reached.induction (by simp [Scope.init]) fun _ _ _ _ callers h =>
    abortCallers_step callers h⟩

/-- The scope of a workload with `abort_on_sla_failure` whose SLA fails every result: an operator
asks for an abort and the watcher aborts the runner, then a failing result reaches the SLA
checker and the result thread aborts it too, and the scope exits. -/
def abortedThenFailedScope : Option Scope :=
  run TaskEngine.abortOnEveryFailure (Scope.init TaskEngine.abortOnEveryFailure .running)
    TaskEngine.abortedThenFailedLabels

theorem abortedThenFailed_runnerAbort_callers :
    ∃ s, abortedThenFailedScope = some s ∧
      Reaches TaskEngine.abortOnEveryFailure .running (fun _ => true) s ∧
      (s.abortsBy .resultLoop ≤
          (if TaskEngine.abortOnEveryFailure.abortOnSlaFailure then 1 else 0) ∧
        ∀ e ∈ s.log, e.call = .runnerAbort → e.actor = .watcher ∨ e.actor = .resultLoop) ∧
      s.abortsBy .resultLoop = 1 :=
  have reached : Reaches TaskEngine.abortOnEveryFailure .running (fun _ => true)
      (abortedThenFailedScope.get (by decide)) := ⟨_, fun _ _ => rfl, (Option.some_get _).symm⟩
  ⟨_, (Option.some_get _).symm, reached, runnerAbort_callers reached, by decide⟩

end ResultThread

/-! ## Without a request

`wait_and_abort` tests the status with `check_soft=False`, so the result thread's SOFT_ABORTING
does not wake it.  Of the threads only the watcher writes ABORTED, after it has seen ABORTING or
ABORTED, and only an operator writes ABORTING: without a request the watcher never acts. -/

/-- The watcher polls, has called nothing, and the task is neither ABORTING nor ABORTED. -/
def WatcherIdle (s : Scope) : Prop :=
  isTaskInAbortingStatus s.status false = false ∧
    (s.watcherPc = .loopTest ∨ s.watcherPc = .checkStatus ∨ s.watcherPc = .stopped) ∧
    s.entriesBy .watcher = []

section Idle

variable {p : Params} {s t : Scope} {l : Label} {m : Move}

theorem foldl_apply_calm {calls : List Call} {status : TaskStatus}
    (calm : isTaskInAbortingStatus status false = false)
    (writes : ∀ st, Call.updateStatus st ∈ calls → isTaskInAbortingStatus st false = false) :
    isTaskInAbortingStatus (calls.foldl Call.apply status) false = false := by
  induction calls generalizing status with
  | nil => exact calm
  | cons c rest ih =>
    refine ih ?_ fun st mem => writes st (List.mem_cons_of_mem _ mem)
    cases c <;> first | exact calm | exact writes _ (List.mem_cons_self _ _)

/-- Of the threads, the result thread writes only SOFT_ABORTING and the watcher only ABORTED. -/
theorem move_updateStatus {th : Thread} (h : move p s th = some m) {st : TaskStatus}
    (mem : Call.updateStatus st ∈ m.calls) :
    th = .resultLoop ∧ st = .softAborting ∨ th = .watcher ∧ st = .aborted := by
  have made := move_makes h _ mem
  cases th <;> simp [Thread.makes] at made ⊢
  all_goals exact made

/-- A step of anyone but an operator and the watcher leaves the task neither ABORTING nor
ABORTED. -/
theorem step_calm (calm : isTaskInAbortingStatus s.status false = false) (notRequest : l ≠ .request)
    (other : l.actor ≠ .watcher) (h : step p s l = some t) :
    isTaskInAbortingStatus t.status false = false := by
  have writes {th : Thread} {m : Move} (moved : move p s th = some m) (notWatcher : th ≠ .watcher) :
      ∀ st, Call.updateStatus st ∈ m.calls → isTaskInAbortingStatus st false = false := by
    intro st mem
    rcases move_updateStatus moved mem with ⟨-, rfl⟩ | ⟨same, -⟩
    · rfl
    · exact absurd same notWatcher
  cases l with
  | push | pushEvent | finish =>
    simp only [step] at h
    split at h <;> cases h
    exact calm
  | request => exact absurd rfl notRequest
  | thread th =>
    obtain ⟨m, moved, rfl⟩ := step_thread h
    have notWatcher : th ≠ .watcher := fun same => other (congrArg Thread.actor same)
    exact foldl_apply_calm ((move_log_status moved).2.2.1 ▸ calm) (writes moved notWatcher)
  | fail th n =>
    obtain ⟨m, call, moved, -, rfl⟩ := step_fail h
    have notWatcher : th ≠ .watcher := fun same => other (congrArg Thread.actor same)
    exact foldl_apply_calm ((move_log_status moved).2.2.2 ▸ calm)
      fun st mem => writes moved notWatcher st (List.mem_of_mem_take mem)

/-- While the task is neither ABORTING nor ABORTED, the watcher's steps only poll. -/
theorem waitAndAbort_idle (calm : isTaskInAbortingStatus s.status false = false)
    (polling : s.watcherPc = .loopTest ∨ s.watcherPc = .checkStatus ∨ s.watcherPc = .stopped)
    (h : waitAndAbort s = some m) :
    m.calls = [] ∧ m.next.status = s.status ∧
      (m.next.watcherPc = .loopTest ∨ m.next.watcherPc = .checkStatus ∨ m.next.watcherPc = .stopped) := by
  unfold waitAndAbort at h
  split at h <;> cases h <;> rename_i pc <;> simp_all [Move.silent]

theorem WatcherIdle.preserved (idle : WatcherIdle s) (notRequest : l ≠ .request)
    (h : step p s l = some t) : WatcherIdle t := by
  obtain ⟨calm, polling, entries⟩ := idle
  by_cases mine : l.actor = .watcher
  · cases l with
    | thread th =>
      obtain ⟨m, moved, rfl⟩ := step_thread h
      obtain rfl : th = .watcher := Thread.eq_of_actor mine
      obtain ⟨silent, status, next⟩ := waitAndAbort_idle calm polling moved
      have sameLog := (move_log_status moved).1
      refine ⟨by simpa [silent, status] using calm, next, ?_⟩
      rw [← entries]
      simp [Scope.entriesBy, silent, sameLog]
    | fail th n =>
      obtain ⟨m, call, moved, raisedAt, rfl⟩ := step_fail h
      obtain rfl : th = .watcher := Thread.eq_of_actor mine
      rw [(waitAndAbort_idle calm polling moved).1] at raisedAt
      simp at raisedAt
    | push | pushEvent | request | finish => cases mine
  · exact ⟨step_calm calm notRequest mine h, step_watcherPc h mine ▸ polling,
      entriesBy_step_other h mine ▸ entries⟩

end Idle

/-- Without an operator's abort request, and from a task that is neither ABORTING nor ABORTED
when the scope is entered, the watcher never acts whatever the interleaving and whichever calls
raise: an SLA failure's SOFT_ABORTING does not wake it, so it calls neither `runner.abort()` nor
`update_status(ABORTED)`, and the task never becomes ABORTING or ABORTED in the scope. -/
theorem watcher_idle_without_request {p : Params} {status : TaskStatus} {allowed : Label → Bool}
    (noRequest : ∀ l, allowed l → l ≠ .request) (calm : isTaskInAbortingStatus status false = false)
    {s : Scope} (reached : Reaches p status allowed s) :
    s.entriesBy .watcher = [] ∧ isTaskInAbortingStatus s.status false = false := by
  have idle : WatcherIdle s := reached.induction ⟨calm, .inl rfl, rfl⟩
    fun _ l _ allowedL idle h => idle.preserved (noRequest l allowedL) h
  exact ⟨idle.2.2, idle.1⟩

/-- A failing result of a workload with `abort_on_sla_failure` makes the result thread write
SOFT_ABORTING while the watcher polls. -/
def softAbortLabels : List Label :=
  .push [⟨0, 1, 0⟩] :: List.replicate 3 (.thread .resultLoop) ++ List.replicate 3 (.thread .watcher)

theorem softAbort_watcher_idle :
    ∃ s, run TaskEngine.abortOnEveryFailure (Scope.init TaskEngine.abortOnEveryFailure .running)
        softAbortLabels = some s ∧
      Reaches TaskEngine.abortOnEveryFailure .running (fun l => l != .request) s ∧
      (s.entriesBy .watcher = [] ∧ isTaskInAbortingStatus s.status false = false) ∧
      s.status = .softAborting :=
  have reached : Reaches TaskEngine.abortOnEveryFailure .running (fun l => l != .request)
      ((run TaskEngine.abortOnEveryFailure (Scope.init TaskEngine.abortOnEveryFailure .running)
        softAbortLabels).get (by decide)) := ⟨_, by decide, (Option.some_get _).symm⟩
  ⟨_, (Option.some_get _).symm, reached,
    watcher_idle_without_request (fun _ allowed same => by simp [same] at allowed) (by decide) reached,
    by decide⟩

end Rally.Engine.ResultConsumer
