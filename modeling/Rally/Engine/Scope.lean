import Rally.Engine.Basic

/-! # The threads of one `ResultConsumer` scope

`TaskEngine._run_workload` opens `with ResultConsumer(...)`, whose `__enter__` starts the result
thread (`_consume_results`), the abort watcher (`wait_and_abort`) and, when the workload declares
hooks, the event thread (`_consume_events`); the owning thread then runs the runner inside the
context and finally `__exit__`.  `Scope` is the state these share, with one program counter per
thread, and `step` is the executable interleaving semantics: a `Label` names who moves next.

Each thread step is a `Move`: the collaborator calls it makes in order, the state it leaves when
they all return, and the state it leaves when one of them raises.  A raise ends the thread
(`failed`), or, in `__exit__`, leaves the scope with the exception.  A step touches at most one
value another thread reads (the queue, `is_done`, or the task status, which it reads or writes
once), so taking the calls of one step as a block loses no interleaving that the other threads
can observe.  The log records every call with the actor that made it.
-/

set_option autoImplicit false

namespace Rally.Engine.ResultConsumer

/-- Who acts in a scope: the runner, an operator outside the process, the three background
threads, and the owning thread, which runs `__exit__`. -/
inductive Actor where
  | runner
  | operator
  | resultLoop
  | eventLoop
  | watcher
  | owner
  deriving DecidableEq, Repr

/-- A log entry: a call that returned, or one that raised. -/
inductive Entry where
  | returned (actor : Actor) (call : Call)
  | raised (actor : Actor) (call : Call)
  deriving DecidableEq, Repr

/-- Where the result thread (`_consume_results`) stands. -/
inductive ResultPc where
  /-- At `if self.runner.result_queue:`. -/
  | poll
  /-- At `elif self.is_done.isSet():`, the queue having been seen empty. -/
  | checkDone
  /-- Inside `for r in results:` with `pending` still to go. -/
  | iterate (pending : List Result)
  /-- At `while len(self.results) >= chunk_size:`. -/
  | saveChunks
  | stopped
  | failed
  deriving DecidableEq, Repr

/-- Where the event thread (`_consume_events`) stands. -/
inductive EventPc where
  /-- At `while not self.is_done.isSet() or ...`. -/
  | loopTest
  /-- At the second disjunct, `self.runner.event_queue`. -/
  | testQueue
  /-- At `if self.runner.event_queue:`. -/
  | poll
  | stopped
  | failed
  deriving DecidableEq, Repr

/-- Where the abort watcher (`wait_and_abort`) stands. -/
inductive WatcherPc where
  /-- At `while not self.is_done.isSet():`. -/
  | loopTest
  /-- At `if self.is_task_in_aborting_status(..., check_soft=False):`. -/
  | checkStatus
  /-- At `self.runner.abort()`. -/
  | abortRunner
  /-- At `self.task.update_status(consts.TaskStatus.ABORTED)`. -/
  | setAborted
  | stopped
  | failed
  deriving DecidableEq, Repr

/-- Where the owning thread stands: in `runner_obj.run(...)` inside the context, then at each
statement of `__exit__`. -/
inductive OwnerPc where
  | running
  /-- `self.is_done.set()`. -/
  | setDone
  /-- `self.aborting_checker.join()`. -/
  | joinWatcher
  /-- `self.thread.join()`. -/
  | joinResults
  /-- From `if exc_type:` to `"sla": self.sla_checker.results()`. -/
  | report
  /-- `if "hooks" in self.key["kw"]:`, joining the event thread. -/
  | joinEvents
  /-- The final chunk and `self.workload.set_results(results)`. -/
  | flush
  | exited
  deriving DecidableEq, Repr

/-- The state shared by the threads of one scope: the task status in the store, the runner's
two queues, `is_done`, the result thread's fields, what the SLA checker has been given, whether
an exception is leaving the `with` block, the document `__exit__` builds, the four program
counters, and the log. -/
structure Scope where
  status : TaskStatus
  resultQueue : List (List Result)
  eventQueue : List TimelineEvent
  isDone : Bool
  consumer : Consumer
  checked : List Result
  raised : Bool
  document : Document
  resultPc : ResultPc
  eventPc : EventPc
  watcherPc : WatcherPc
  ownerPc : OwnerPc
  log : List Entry

/-- The scope right after `__enter__`, with the task in `status` and a fresh runner. -/
def Scope.init (p : Params) (status : TaskStatus) : Scope :=
  { status, resultQueue := [], eventQueue := [], isDone := false, consumer := Consumer.init,
    checked := [], raised := false, document := ⟨0, false⟩, resultPc := .poll,
    eventPc := if p.hooks then .loopTest else .stopped, watcherPc := .loopTest,
    ownerPc := .running, log := [] }

/-- A workload without hooks or `abort_on_sla_failure`, whose SLA passes every result, with a
`raw_result_chunk_size` of 1. -/
def Params.plain : Params := ⟨false, 1, by decide, false, fun _ => true⟩

/-- Record calls that returned: append them to the log and apply their status writes. -/
def Scope.record (s : Scope) (actor : Actor) (calls : List Call) : Scope :=
  { s with status := calls.foldl Call.apply s.status,
           log := s.log ++ calls.map (Entry.returned actor) }

/-- Record a call that raised: it is logged and has no effect. -/
def Scope.recordRaised (s : Scope) (actor : Actor) (call : Call) : Scope :=
  { s with log := s.log ++ [Entry.raised actor call] }

/-- One step of a thread. -/
structure Move where
  calls : List Call
  next : Scope
  stuck : Scope

/-- A step that makes no call. -/
def Move.silent (s : Scope) : Move := ⟨[], s, s⟩

/-- The background threads and the owning thread. -/
inductive Thread where
  | resultLoop
  | eventLoop
  | watcher
  | owner
  deriving DecidableEq, Repr

def Thread.actor : Thread → Actor
  | .resultLoop => .resultLoop
  | .eventLoop => .eventLoop
  | .watcher => .watcher
  | .owner => .owner

/-! ## The threads -/

section Threads

variable (p : Params) (s : Scope)

/-- One step of `_consume_results`. -/
def consumeResults : Option Move :=
  match s.resultPc with
  | .poll =>
    match s.resultQueue with
    | batch :: rest =>
      some (.silent { s with resultQueue := rest, resultPc := .iterate batch,
                             consumer := { s.consumer with results := s.consumer.results ++ batch } })
    | [] => some (.silent { s with resultPc := .checkDone })
  | .checkDone => some (.silent { s with resultPc := if s.isDone then .stopped else .poll })
  | .iterate [] => some (.silent { s with resultPc := .saveChunks })
  | .iterate (r :: pending) =>
    let consumed := consumeResult p s.checked s.consumer r
    some ⟨consumed.2,
      { s with consumer := consumed.1, checked := s.checked ++ [r], resultPc := .iterate pending },
      { s with consumer := s.consumer.widen r, checked := s.checked ++ [r], resultPc := .failed }⟩
  | .saveChunks =>
    if p.chunkSize ≤ s.consumer.results.length then
      let saved := takeChunk p s.consumer
      some ⟨[saved.2], { s with consumer := saved.1 },
        { s with consumer := { s.consumer with results := saved.1.results }, resultPc := .failed }⟩
    else some (.silent { s with resultPc := .poll })
  | .stopped | .failed => none

/-- One step of `_consume_events`. -/
def consumeEvents : Option Move :=
  match s.eventPc with
  | .loopTest => some (.silent { s with eventPc := if s.isDone then .testQueue else .poll })
  | .testQueue => some (.silent { s with eventPc := if s.eventQueue = [] then .stopped else .poll })
  | .poll =>
    match s.eventQueue with
    | event :: rest =>
      some ⟨[.onEvent event], { s with eventQueue := rest, eventPc := .loopTest },
        { s with eventQueue := rest, eventPc := .failed }⟩
    | [] => some (.silent { s with eventPc := .loopTest })
  | .stopped | .failed => none

/-- One step of `wait_and_abort`. -/
def waitAndAbort : Option Move :=
  match s.watcherPc with
  | .loopTest => some (.silent { s with watcherPc := if s.isDone then .stopped else .checkStatus })
  | .checkStatus =>
    some (.silent { s with
      watcherPc := if isTaskInAbortingStatus s.status false then .abortRunner else .loopTest })
  | .abortRunner =>
    some ⟨[.runnerAbort], { s with watcherPc := .setAborted }, { s with watcherPc := .failed }⟩
  | .setAborted =>
    some ⟨[.updateStatus .aborted], { s with watcherPc := .stopped }, { s with watcherPc := .failed }⟩
  | .stopped | .failed => none

/-- A thread that `join()` no longer waits for. -/
def ResultPc.ended : ResultPc → Bool
  | .stopped | .failed => true
  | _ => false

def EventPc.ended : EventPc → Bool
  | .stopped | .failed => true
  | _ => false

def WatcherPc.ended : WatcherPc → Bool
  | .stopped | .failed => true
  | _ => false

/-- The scope after an exception out of `__exit__`. -/
def Scope.abandon : Scope := { s with raised := true, ownerPc := .exited }

/-- The calls of `__exit__` from `if exc_type:` to `self.sla_checker.results()`. -/
def reportCalls : List Call :=
  (if s.raised then [.setUnexpectedFailure] else []) ++
  (if s.status = .aborted then [.setAbortedManually] else []) ++ [.slaResults]

/-- The calls of `if self.results: ...` and `self.workload.set_results(results)`. -/
def flushCalls : List Call :=
  (if s.consumer.results = [] then []
   else [.addWorkloadData s.consumer.workloadDataCount (sortByTimestamp s.consumer.results)]) ++
  [.setResults s.document]

/-- One step of `__exit__`.  The owning thread's step out of `runner_obj.run` is `Label.finish`. -/
def exit : Option Move :=
  match s.ownerPc with
  | .running | .exited => none
  | .setDone => some (.silent { s with isDone := true, ownerPc := .joinWatcher })
  | .joinWatcher => if s.watcherPc.ended then some (.silent { s with ownerPc := .joinResults }) else none
  | .joinResults => if s.resultPc.ended then some (.silent { s with ownerPc := .report }) else none
  | .report =>
    some ⟨reportCalls s, { s with document := ⟨loadDuration s.consumer, false⟩, ownerPc := .joinEvents },
      s.abandon⟩
  | .joinEvents =>
    if p.hooks then
      if s.eventPc.ended then
        some ⟨[.hookResults], { s with document := { s.document with hooks := true }, ownerPc := .flush },
          s.abandon⟩
      else none
    else some (.silent { s with ownerPc := .flush })
  | .flush => some ⟨flushCalls s, { s with ownerPc := .exited }, s.abandon⟩

/-- The step a thread takes next, if it can move. -/
def move : Thread → Option Move
  | .resultLoop => consumeResults p s
  | .eventLoop => consumeEvents s
  | .watcher => waitAndAbort s
  | .owner => exit p s

end Threads

/-! ## Interleavings -/

/-- Who moves next, and how. -/
inductive Label where
  /-- The runner appends a batch to `result_queue`. -/
  | push (batch : List Result)
  /-- The runner appends an event to `event_queue`. -/
  | pushEvent (event : TimelineEvent)
  /-- `runner_obj.run` returns, or the context or the runner raises. -/
  | finish (raised : Bool)
  /-- An operator requests an abort: the task becomes ABORTING. -/
  | request
  /-- A thread takes its next step and every call of it returns. -/
  | thread (t : Thread)
  /-- A thread takes its next step and its `n`-th call raises. -/
  | fail (t : Thread) (n : Nat)
  deriving DecidableEq, Repr

/-- A label in which no collaborator raises. -/
def Label.returns : Label → Bool
  | .fail _ _ => false
  | _ => true

/-- The interleaving semantics. -/
def step (p : Params) (s : Scope) : Label → Option Scope
  | .push batch =>
    if s.ownerPc = .running then
      some { s.record .runner [.pushResults batch] with resultQueue := s.resultQueue ++ [batch] }
    else none
  | .pushEvent event =>
    if s.ownerPc = .running then
      some { s.record .runner [.pushEvent event] with eventQueue := s.eventQueue ++ [event] }
    else none
  | .finish raised =>
    if s.ownerPc = .running then some { s with raised, ownerPc := .setDone } else none
  | .request =>
    if s.ownerPc = .exited then none else some (s.record .operator [.updateStatus .aborting])
  | .thread t => (move p s t).map fun m => m.next.record t.actor m.calls
  | .fail t n =>
    (move p s t).bind fun m =>
      (m.calls.drop n).head?.map fun call =>
        (m.stuck.record t.actor (m.calls.take n)).recordRaised t.actor call

/-- A run: the labels taken one after another, `none` as soon as one cannot be taken. -/
def run (p : Params) : Scope → List Label → Option Scope
  | s, [] => some s
  | s, l :: ls => (step p s l).bind fun t => run p t ls

@[simp] theorem run_nil (p : Params) (s : Scope) : run p s [] = some s := rfl

theorem run_cons (p : Params) (s : Scope) (l : Label) (ls : List Label) :
    run p s (l :: ls) = (step p s l).bind fun t => run p t ls := rfl

/-- An invariant of every step with an allowed label holds along every run of such labels. -/
theorem run_preserves {p : Params} {P : Scope → Prop} {allowed : Label → Prop}
    (preserved : ∀ s l t, allowed l → P s → step p s l = some t → P t) :
    ∀ {s t : Scope} {ls : List Label}, (∀ l ∈ ls, allowed l) → P s → run p s ls = some t → P t
  | s, t, [], _, holds, ran => by cases ran; exact holds
  | s, t, l :: ls, allowedAll, holds, ran => by
    rw [run_cons] at ran
    obtain ⟨u, stepped, rest⟩ := Option.bind_eq_some.mp ran
    exact run_preserves preserved (fun l' mem => allowedAll l' (List.mem_cons_of_mem l mem))
      (preserved s l u (allowedAll l (List.mem_cons_self l ls)) holds stepped) rest


/-! ## Frames

A thread's `Move` never touches the log or the status (only `Scope.record` does), and each
thread's move leaves the other threads' fields alone.  Every invariant below is proved from these
facts and the two inversion lemmas `step_thread` and `step_fail`, without unfolding `step`. -/

def Entry.actor : Entry → Actor
  | .returned actor _ | .raised actor _ => actor

/-- The calls of a step that returned are logged under the actor that made them. -/
theorem Entry.actor_of_mem_map {actor : Actor} {calls : List Call} {e : Entry}
    (mem : e ∈ calls.map (Entry.returned actor)) : e.actor = actor := by
  obtain ⟨call, -, rfl⟩ := List.mem_map.mp mem
  rfl

/-- The call of an entry that returned. -/
def Entry.returnedCall : Entry → Option Call
  | .returned _ call => some call
  | .raised _ _ => none

/-- The actor a label's entries are logged under. -/
def Label.actor : Label → Actor
  | .push _ | .pushEvent _ | .finish _ => .runner
  | .request => .operator
  | .thread t | .fail t _ => t.actor

/-- What only the result thread writes: its fields, what the SLA checker has been given, and its
program counter. -/
def Scope.resultView (s : Scope) : Consumer × List Result × ResultPc :=
  (s.consumer, s.checked, s.resultPc)

/-- What only the owning thread writes. -/
def Scope.ownerView (s : Scope) : OwnerPc × Document × Bool × Bool :=
  (s.ownerPc, s.document, s.raised, s.isDone)

section Frames

variable {p : Params} {s t : Scope} {th : Thread} {m : Move}

@[simp] theorem Scope.record_log (s : Scope) (actor : Actor) (calls : List Call) :
    (s.record actor calls).log = s.log ++ calls.map (Entry.returned actor) := rfl

@[simp] theorem Scope.record_status (s : Scope) (actor : Actor) (calls : List Call) :
    (s.record actor calls).status = calls.foldl Call.apply s.status := rfl

@[simp] theorem Scope.record_resultView (s : Scope) (actor : Actor) (calls : List Call) :
    (s.record actor calls).resultView = s.resultView := rfl

@[simp] theorem Scope.record_ownerView (s : Scope) (actor : Actor) (calls : List Call) :
    (s.record actor calls).ownerView = s.ownerView := rfl

@[simp] theorem Scope.record_consumer (s : Scope) (actor : Actor) (calls : List Call) :
    (s.record actor calls).consumer = s.consumer := rfl

@[simp] theorem Scope.record_checked (s : Scope) (actor : Actor) (calls : List Call) :
    (s.record actor calls).checked = s.checked := rfl

@[simp] theorem Scope.record_resultPc (s : Scope) (actor : Actor) (calls : List Call) :
    (s.record actor calls).resultPc = s.resultPc := rfl

@[simp] theorem Scope.record_ownerPc (s : Scope) (actor : Actor) (calls : List Call) :
    (s.record actor calls).ownerPc = s.ownerPc := rfl

@[simp] theorem Scope.recordRaised_log (s : Scope) (actor : Actor) (call : Call) :
    (s.recordRaised actor call).log = s.log ++ [Entry.raised actor call] := rfl

@[simp] theorem Scope.recordRaised_status (s : Scope) (actor : Actor) (call : Call) :
    (s.recordRaised actor call).status = s.status := rfl

@[simp] theorem Scope.recordRaised_resultView (s : Scope) (actor : Actor) (call : Call) :
    (s.recordRaised actor call).resultView = s.resultView := rfl

@[simp] theorem Scope.recordRaised_ownerView (s : Scope) (actor : Actor) (call : Call) :
    (s.recordRaised actor call).ownerView = s.ownerView := rfl

/-- A move leaves the log and the status to `Scope.record`. -/
theorem move_log_status (h : move p s th = some m) :
    m.next.log = s.log ∧ m.stuck.log = s.log ∧ m.next.status = s.status ∧ m.stuck.status = s.status := by
  cases th <;> simp only [move, consumeResults, consumeEvents, waitAndAbort, exit] at h <;>
    (repeat' split at h) <;> (try cases h) <;> simp [Move.silent, Scope.abandon]

/-- Only the result thread moves the result thread's view. -/
theorem move_resultView (h : move p s th = some m) (other : th ≠ .resultLoop) :
    m.next.resultView = s.resultView ∧ m.stuck.resultView = s.resultView := by
  cases th <;> simp only [move, consumeEvents, waitAndAbort, exit] at h <;> try contradiction
  all_goals (repeat' split at h) <;> (try cases h) <;> simp [Move.silent, Scope.abandon, Scope.resultView]

/-- Only the owning thread moves the owning thread's view. -/
theorem move_ownerView (h : move p s th = some m) (other : th ≠ .owner) :
    m.next.ownerView = s.ownerView ∧ m.stuck.ownerView = s.ownerView := by
  cases th <;> simp only [move, consumeResults, consumeEvents, waitAndAbort] at h <;> try contradiction
  all_goals (repeat' split at h) <;> (try cases h) <;> simp [Move.silent, Scope.ownerView]

/-- `__exit__` calls `set_results` only as the last call of `flush`, with the document built
so far; its other calls are not `set_results`. -/
theorem exit_calls_setResults (h : exit p s = some m) :
    ∃ pre, (∀ doc, Call.setResults doc ∉ pre) ∧
      (m.calls = pre ∨ s.ownerPc = .flush ∧ m.calls = pre ++ [.setResults s.document]) := by
  unfold exit at h
  split at h <;> (repeat' split at h) <;> cases h
  case h_8 => exact ⟨_, by simp [flushCalls], .inr ⟨‹_›, rfl⟩⟩
  all_goals exact ⟨_, by simp [reportCalls, Move.silent], .inl rfl⟩

/-- A call of `set_results` that returned is the whole `flush` step. -/
theorem setResults_mem_take {pre : List Call} {doc doc' : Document} {n : Nat} {call : Call}
    (notIn : ∀ doc, Call.setResults doc ∉ pre)
    (raisedAt : ((pre ++ [Call.setResults doc']).drop n).head? = some call) :
    Call.setResults doc ∉ (pre ++ [Call.setResults doc']).take n := by
  have within : n < pre.length + 1 := by
    have := List.head?_eq_some_iff.mp raisedAt
    by_contra far
    simp_all [List.drop_eq_nil_of_le (by simp; omega : (pre ++ [Call.setResults doc']).length ≤ n)]
  rw [List.take_append_of_le_length (by omega)]
  exact fun mem => notIn doc (List.mem_of_mem_take mem)

/-- Inversion of a step whose calls all return. -/
theorem step_thread (h : step p s (.thread th) = some t) :
    ∃ m, move p s th = some m ∧ t = m.next.record th.actor m.calls := by
  simp only [step, Option.map_eq_some'] at h
  obtain ⟨m, moved, rfl⟩ := h
  exact ⟨m, moved, rfl⟩

/-- Inversion of a step whose `n`-th call raises. -/
theorem step_fail {n : Nat} (h : step p s (.fail th n) = some t) :
    ∃ m call, move p s th = some m ∧ (m.calls.drop n).head? = some call ∧
      t = (m.stuck.record th.actor (m.calls.take n)).recordRaised th.actor call := by
  simp only [step, Option.bind_eq_some, Option.map_eq_some'] at h
  obtain ⟨m, moved, call, raisedCall, rfl⟩ := h
  exact ⟨m, call, moved, raisedCall, rfl⟩

/-- The labels of the runner, an operator, the event thread and the watcher: neither the result
thread nor the owning thread moves. -/
def Label.bystander : Label → Bool
  | .push _ | .pushEvent _ | .request => true
  | .thread t | .fail t _ => t == .eventLoop || t == .watcher
  | .finish _ => false

/-- A thread other than the result thread and the owning thread logs under neither. -/
theorem Thread.actor_ne {th : Thread} (notResult : th ≠ .resultLoop) (notOwner : th ≠ .owner) :
    th.actor ≠ .resultLoop ∧ th.actor ≠ .owner := by
  cases th with
  | resultLoop => exact absurd rfl notResult
  | owner => exact absurd rfl notOwner
  | _ => exact ⟨nofun, nofun⟩

/-- A bystander leaves the result thread's and the owning thread's views alone, and logs only
entries of the runner, an operator, the event thread or the watcher. -/
theorem step_bystander {l : Label} (h : step p s l = some t) (bystander : l.bystander) :
    t.resultView = s.resultView ∧ t.ownerView = s.ownerView ∧
      ∃ new, t.log = s.log ++ new ∧ ∀ e ∈ new, e.actor ≠ .resultLoop ∧ e.actor ≠ .owner := by
  cases l with
  | push batch | pushEvent event | request =>
    simp only [step] at h
    split at h <;> cases h
    all_goals exact ⟨rfl, rfl, _, rfl, List.forall_mem_singleton.mpr ⟨nofun, nofun⟩⟩
  | finish raised => simp [Label.bystander] at bystander
  | thread th =>
    obtain ⟨m, moved, rfl⟩ := step_thread h
    have notResult : th ≠ .resultLoop := by rintro rfl; simp [Label.bystander] at bystander
    have notOwner : th ≠ .owner := by rintro rfl; simp [Label.bystander] at bystander
    obtain ⟨sameLog, -, -, -⟩ := move_log_status moved
    refine ⟨by simp [(move_resultView moved notResult).1], by simp [(move_ownerView moved notOwner).1],
      m.calls.map (Entry.returned th.actor), by simp [sameLog], fun e mem => ?_⟩
    rw [Entry.actor_of_mem_map mem]
    exact Thread.actor_ne notResult notOwner
  | fail th n =>
    obtain ⟨m, call, moved, -, rfl⟩ := step_fail h
    have notResult : th ≠ .resultLoop := by rintro rfl; simp [Label.bystander] at bystander
    have notOwner : th ≠ .owner := by rintro rfl; simp [Label.bystander] at bystander
    obtain ⟨-, stuckLog, -, -⟩ := move_log_status moved
    refine ⟨by simp [(move_resultView moved notResult).2], by simp [(move_ownerView moved notOwner).2],
      (m.calls.take n).map (Entry.returned th.actor) ++ [Entry.raised th.actor call],
      by simp [stuckLog], fun e mem => ?_⟩
    have actorIs : e.actor = th.actor := by
      simp only [List.mem_append, List.mem_map, List.mem_singleton] at mem
      rcases mem with ⟨c, -, rfl⟩ | rfl <;> rfl
    rw [actorIs]
    exact Thread.actor_ne notResult notOwner

end Frames

/-! ## Reachable states -/

/-- `s` is reached from the scope entered with the task in `status` by a run whose labels all
satisfy `allowed`. -/
def Reaches (p : Params) (status : TaskStatus) (allowed : Label → Bool) (s : Scope) : Prop :=
  ∃ labels, (∀ l ∈ labels, allowed l) ∧ run p (Scope.init p status) labels = some s

/-- An invariant that holds initially and is kept by every allowed step holds of every state
reached. -/
theorem Reaches.induction {p : Params} {status : TaskStatus} {allowed : Label → Bool}
    {P : Scope → Prop} (initial : P (Scope.init p status))
    (preserved : ∀ s l t, allowed l → P s → step p s l = some t → P t) {s : Scope}
    (reached : Reaches p status allowed s) : P s := by
  obtain ⟨labels, allowedAll, ran⟩ := reached
  exact @run_preserves _ _ (fun l => allowed l) preserved _ _ _ allowedAll initial ran

/-! ## Joins

`__exit__` joins the result thread before it reads what that thread wrote, so past
`self.thread.join()` the result thread has ended and its fields no longer change.  Invariants
about those fields use this through `Reaches.induction_joined`. -/

/-- The owning thread has passed `self.thread.join()`. -/
def OwnerPc.joinedResults : OwnerPc → Bool
  | .report | .joinEvents | .flush | .exited => true
  | _ => false

/-- Past `self.thread.join()` the result thread has ended. -/
def Scope.Joined (s : Scope) : Prop := s.ownerPc.joinedResults → s.resultPc.ended

section Joins

variable {p : Params} {s t : Scope} {m : Move}

theorem consumeResults_not_ended (h : consumeResults p s = some m) : s.resultPc.ended = false := by
  unfold consumeResults at h
  split at h <;> simp_all [ResultPc.ended]

/-- A thread that can move has not been joined. -/
theorem not_joinedResults_of_consumeResults (joined : s.Joined) (h : consumeResults p s = some m) :
    s.ownerPc.joinedResults = false := by
  cases pc : s.ownerPc.joinedResults
  · rfl
  · exact absurd (joined pc) (by simp [consumeResults_not_ended h])

theorem exit_joined (joined : s.Joined) (h : exit p s = some m) : m.next.Joined ∧ m.stuck.Joined := by
  unfold exit at h
  split at h <;> (repeat' split at h) <;> cases h <;>
    simp_all [Scope.Joined, Move.silent, Scope.abandon, OwnerPc.joinedResults]

theorem Scope.Joined.preserved {l : Label} (joined : s.Joined) (h : step p s l = some t) :
    t.Joined := by
  cases bystander : l.bystander
  · cases l with
    | finish raised =>
      simp only [step] at h
      split at h <;> cases h
      simp [Scope.Joined, OwnerPc.joinedResults]
    | thread th =>
      obtain ⟨m, moved, rfl⟩ := step_thread h
      cases th <;> simp [Label.bystander] at bystander
      · have notJoined := not_joinedResults_of_consumeResults joined moved
        have owner := congrArg Prod.fst (move_ownerView moved (by decide)).1
        simp_all [Scope.Joined, Scope.ownerView, Scope.record]
      · simpa [Scope.Joined, Scope.record] using (exit_joined joined moved).1
    | fail th n =>
      obtain ⟨m, call, moved, -, rfl⟩ := step_fail h
      cases th <;> simp [Label.bystander] at bystander
      · have notJoined := not_joinedResults_of_consumeResults joined moved
        have owner := congrArg Prod.fst (move_ownerView moved (by decide)).2
        simp_all [Scope.Joined, Scope.ownerView, Scope.record, Scope.recordRaised]
      · simpa [Scope.Joined, Scope.record, Scope.recordRaised] using (exit_joined joined moved).2
    | push | pushEvent | request => simp [Label.bystander] at bystander
  · obtain ⟨resultView, ownerView, -⟩ := step_bystander h bystander
    simp only [Scope.resultView, Scope.ownerView, Prod.mk.injEq] at resultView ownerView
    simpa [Scope.Joined, resultView.2.2, ownerView.1] using joined

end Joins

theorem Reaches.joined {p : Params} {status : TaskStatus} {allowed : Label → Bool} {s : Scope}
    (reached : Reaches p status allowed s) : s.Joined :=
  reached.induction (by simp [Scope.Joined, Scope.init, OwnerPc.joinedResults])
    fun _ _ _ _ joined h => joined.preserved h

/-- Induction over reachable states for an invariant whose steps may use `Scope.Joined`. -/
theorem Reaches.induction_joined {p : Params} {status : TaskStatus} {allowed : Label → Bool}
    {P : Scope → Prop} (initial : P (Scope.init p status))
    (preserved : ∀ s l t, allowed l → s.Joined → P s → step p s l = some t → P t) {s : Scope}
    (reached : Reaches p status allowed s) : P s :=
  (@Reaches.induction p status allowed (fun s => s.Joined ∧ P s)
    ⟨by simp [Scope.Joined, Scope.init, OwnerPc.joinedResults], initial⟩
    (fun s l t allowed ⟨joined, holds⟩ h => ⟨joined.preserved h, preserved s l t allowed joined holds h⟩)
    s reached).2

end Rally.Engine.ResultConsumer
