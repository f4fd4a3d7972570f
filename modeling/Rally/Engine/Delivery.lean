import Rally.Engine.Chunks

/-! # What the loops deliver, and what they lose

The runner appends batches to `result_queue` and events to `event_queue` while `runner_obj.run`
is running.  `_consume_events` tests `is_done` before the queue, so once it stops the queue is
empty for good: every event reaches `hook_executor.on_event` once, in order, before `__exit__`
reads `hook_executor.results()` (`deliveredEvents_eq_pushedEvents`).

`_consume_results` tests the queue before `is_done`, so a batch pushed between its queue test
and its `is_done` test is never taken: `lostBatch_log` is such a run, in which no collaborator
raises and the pushed result reaches neither the SLA checker nor any chunk.  `lostFault_log` is
a run in which `add_workload_data` raises in the result thread: the chunk it held is gone and
`__exit__` does not call `set_unexpected_failure`.
-/

set_option autoImplicit false

namespace Rally.Engine.ResultConsumer

/-! ## Events -/

/-- The event an `event_queue.append` logged. -/
def Entry.pushedEvent : Entry → Option TimelineEvent
  | .returned .runner (.pushEvent event) => some event
  | _ => none

/-- The event a `hook_executor.on_event` that returned was given. -/
def Entry.deliveredEvent : Entry → Option TimelineEvent
  | .returned .eventLoop (.onEvent event) => some event
  | _ => none

def Scope.pushedEvents (s : Scope) : List TimelineEvent := s.log.filterMap Entry.pushedEvent

def Scope.deliveredEvents (s : Scope) : List TimelineEvent := s.log.filterMap Entry.deliveredEvent

/-- In a run where no collaborator raises: the events handed to `on_event` and those still queued
are what the runner pushed; nothing is pushed once `is_done` is set; the event thread stops only
on an empty queue with `is_done` set; and once `hook_executor.results()` has returned, the queue
is empty and the runner has returned. -/
structure EventFlow (p : Params) (s : Scope) : Prop where
  flow : s.pushedEvents = s.deliveredEvents ++ s.eventQueue
  doneAfterRun : s.isDone → s.ownerPc ≠ .running
  tested : s.eventPc = .testQueue → s.isDone
  drained : p.hooks → s.eventPc = .stopped → s.isDone ∧ s.eventQueue = []
  alive : s.eventPc ≠ .failed
  read : Entry.returned .owner .hookResults ∈ s.log →
    s.eventPc = .stopped ∧ s.eventQueue = [] ∧ s.ownerPc ≠ .running

/-- The invariant as one conjunction, so that a step's case analysis simplifies the old
invariant once per case rather than once per field. -/
theorem eventFlow_iff {p : Params} {s : Scope} : EventFlow p s ↔
    s.pushedEvents = s.deliveredEvents ++ s.eventQueue ∧
    (s.isDone → s.ownerPc ≠ .running) ∧
    (s.eventPc = .testQueue → s.isDone) ∧
    (p.hooks → s.eventPc = .stopped → s.isDone ∧ s.eventQueue = []) ∧
    s.eventPc ≠ .failed ∧
    (Entry.returned .owner .hookResults ∈ s.log →
      s.eventPc = .stopped ∧ s.eventQueue = [] ∧ s.ownerPc ≠ .running) :=
  ⟨fun ⟨a, b, c, d, e, f⟩ => ⟨a, b, c, d, e, f⟩, fun ⟨a, b, c, d, e, f⟩ => ⟨a, b, c, d, e, f⟩⟩

section Events

variable {p : Params} {s t : Scope} {m : Move}

theorem EventPc.ended_iff {pc : EventPc} : pc.ended = true ↔ pc = .stopped ∨ pc = .failed := by
  cases pc <;> simp [EventPc.ended]

/-- Only the runner pushes events. -/
theorem Scope.pushedEvents_record {actor : Actor} (calls : List Call) (other : actor ≠ .runner) :
    (s.record actor calls).pushedEvents = s.pushedEvents := by
  simp only [Scope.pushedEvents, Scope.record_log, List.filterMap_append, List.append_right_eq_self,
    List.filterMap_eq_nil_iff, List.mem_map]
  rintro _ ⟨call, -, rfl⟩
  cases actor <;> simp_all [Entry.pushedEvent]

/-- Only the event thread hands events to `on_event`. -/
theorem Scope.deliveredEvents_record {actor : Actor} (calls : List Call) (other : actor ≠ .eventLoop) :
    (s.record actor calls).deliveredEvents = s.deliveredEvents := by
  simp only [Scope.deliveredEvents, Scope.record_log, List.filterMap_append, List.append_right_eq_self,
    List.filterMap_eq_nil_iff, List.mem_map]
  rintro _ ⟨call, -, rfl⟩
  cases actor <;> simp_all [Entry.deliveredEvent]

/-- The result thread and the watcher leave the event thread's fields, `is_done` and the owning
thread alone. -/
theorem move_eventFrame {th : Thread} (h : move p s th = some m) (notEvent : th ≠ .eventLoop)
    (notOwner : th ≠ .owner) :
    m.next.eventPc = s.eventPc ∧ m.next.eventQueue = s.eventQueue ∧ m.next.isDone = s.isDone ∧
      m.next.ownerPc = s.ownerPc := by
  cases th <;> simp only [move, consumeResults, waitAndAbort] at h <;> try contradiction
  all_goals (repeat' split at h) <;> (try cases h) <;> simp [Move.silent]

/-- What an entry of the result thread, the watcher or an operator adds to the event views:
nothing. -/
theorem EventFlow.of_silent {new : List Entry} (inv : EventFlow p s) (log : t.log = s.log ++ new)
    (silent : ∀ e ∈ new, e.pushedEvent = none ∧ e.deliveredEvent = none ∧
      e ≠ .returned .owner .hookResults)
    (eventPc : t.eventPc = s.eventPc) (queue : t.eventQueue = s.eventQueue)
    (isDone : t.isDone = s.isDone) (ownerPc : t.ownerPc = s.ownerPc) : EventFlow p t := by
  have pushed : t.pushedEvents = s.pushedEvents := by
    simp [Scope.pushedEvents, log, List.filterMap_eq_nil_iff.mpr fun e mem => (silent e mem).1]
  have delivered : t.deliveredEvents = s.deliveredEvents := by
    simp [Scope.deliveredEvents, log, List.filterMap_eq_nil_iff.mpr fun e mem => (silent e mem).2.1]
  have read : Entry.returned .owner .hookResults ∈ t.log → Entry.returned .owner .hookResults ∈ s.log := by
    rw [log, List.mem_append]
    exact fun mem => mem.resolve_right fun fresh => (silent _ fresh).2.2 rfl
  obtain ⟨flow, doneAfterRun, tested, drained, alive, wasRead⟩ := inv
  exact ⟨by rw [pushed, delivered, queue]; exact flow, by rw [isDone, ownerPc]; exact doneAfterRun,
    by rw [eventPc, isDone]; exact tested, by rw [eventPc, isDone, queue]; exact drained,
    by rw [eventPc]; exact alive, by rw [eventPc, queue, ownerPc]; exact fun mem => wasRead (read mem)⟩

theorem EventFlow.eventMove (inv : EventFlow p s) (h : consumeEvents s = some m) :
    EventFlow p (m.next.record .eventLoop m.calls) := by
  have notRead : Entry.returned .owner .hookResults ∉ s.log := fun mem => by
    simp [consumeEvents, (inv.read mem).1] at h
  obtain ⟨flow, doneAfterRun, tested, drained, alive, -⟩ := inv
  simp only [Scope.pushedEvents, Scope.deliveredEvents] at flow
  unfold consumeEvents at h
  split at h <;> (repeat' split at h) <;> cases h <;> rw [eventFlow_iff] <;>
    simp [Move.silent, Scope.pushedEvents, Scope.deliveredEvents, Scope.record,
      Entry.pushedEvent, Entry.deliveredEvent, *] <;> exact doneAfterRun

theorem hookResults_not_mem_reportCalls (s : Scope) : Call.hookResults ∉ reportCalls s := by
  unfold reportCalls
  split <;> split <;> simp

theorem hookResults_not_mem_flushCalls (s : Scope) : Call.hookResults ∉ flushCalls s := by
  unfold flushCalls
  split <;> simp

/-- `__exit__` leaves the event thread's fields alone, only ever sets `is_done`, has left
`runner_obj.run`, and reads `hook_executor.results()` only once the event thread has ended. -/
theorem exit_eventView (h : exit p s = some m) :
    m.next.eventPc = s.eventPc ∧ m.next.eventQueue = s.eventQueue ∧ (s.isDone → m.next.isDone) ∧
      m.next.ownerPc ≠ .running ∧ (Call.hookResults ∈ m.calls → p.hooks ∧ s.eventPc.ended) := by
  unfold exit at h
  split at h <;> (repeat' split at h) <;> cases h <;>
    simp_all [Move.silent, hookResults_not_mem_reportCalls, hookResults_not_mem_flushCalls]

theorem EventFlow.ownerMove (inv : EventFlow p s) (h : exit p s = some m) :
    EventFlow p (m.next.record .owner m.calls) := by
  obtain ⟨nextLog, -⟩ := @move_log_status _ _ .owner _ h
  obtain ⟨eventPc, queue, done, notRunning, hooked⟩ := exit_eventView h
  obtain ⟨flow, -, tested, drained, alive, read⟩ := inv
  refine ⟨?_, fun _ => notRunning, fun testing => done (tested (eventPc ▸ testing)),
    fun hooks stopped => ?_, eventPc ▸ alive, fun mem => ?_⟩
  · rw [Scope.pushedEvents_record _ (by decide), Scope.deliveredEvents_record _ (by decide)]
    simpa [Scope.pushedEvents, Scope.deliveredEvents, Scope.record, nextLog, queue] using flow
  · obtain ⟨isDone, empty⟩ := drained hooks (eventPc ▸ stopped)
    exact ⟨done isDone, queue ▸ empty⟩
  · simp only [Scope.record_log, nextLog, List.mem_append, List.mem_map, Entry.returned.injEq,
      true_and, exists_eq_right] at mem
    rcases mem with old | fresh
    · obtain ⟨stopped, empty, -⟩ := read old
      exact ⟨eventPc ▸ stopped, queue ▸ empty, notRunning⟩
    · obtain ⟨hooks, ended⟩ := hooked fresh
      have stopped : s.eventPc = .stopped := (EventPc.ended_iff.mp ended).resolve_right alive
      exact ⟨eventPc ▸ stopped, queue ▸ (drained hooks stopped).2, notRunning⟩

theorem EventFlow.preserved {l : Label} (quiet : l.returns) (inv : EventFlow p s)
    (h : step p s l = some t) : EventFlow p t := by
  cases l with
  | push batch =>
    simp only [step] at h
    split at h <;> cases h
    exact inv.of_silent (show _ = s.log ++ [.returned .runner (.pushResults batch)] by simp)
      (List.forall_mem_singleton.mpr ⟨rfl, rfl, nofun⟩) rfl rfl rfl rfl
  | pushEvent event =>
    simp only [step] at h
    split at h <;> cases h
    rename_i running
    refine ⟨?_, inv.doneAfterRun, inv.tested,
      fun hooks stopped => absurd running (inv.doneAfterRun (inv.drained hooks stopped).1), inv.alive,
      fun mem => absurd running (inv.read (by simpa [Scope.record] using mem)).2.2⟩
    have flow := inv.flow
    simp only [Scope.pushedEvents, Scope.deliveredEvents] at flow ⊢
    simp [Scope.record, Entry.pushedEvent, Entry.deliveredEvent, flow]
  | finish raised =>
    simp only [step] at h
    split at h <;> cases h
    rename_i running
    exact ⟨inv.flow, fun _ => by simp, inv.tested, inv.drained, inv.alive,
      fun mem => absurd running (inv.read mem).2.2⟩
  | request =>
    simp only [step] at h
    split at h <;> cases h
    exact inv.of_silent (show _ = s.log ++ [.returned .operator (.updateStatus .aborting)] by simp)
      (List.forall_mem_singleton.mpr ⟨rfl, rfl, nofun⟩) rfl rfl rfl rfl
  | thread th =>
    obtain ⟨m, moved, rfl⟩ := step_thread h
    by_cases event : th = .eventLoop
    · subst event
      exact inv.eventMove moved
    by_cases owner : th = .owner
    · subst owner
      exact inv.ownerMove moved
    obtain ⟨eventPc, queue, isDone, ownerPc⟩ := move_eventFrame moved event owner
    obtain ⟨nextLog, -⟩ := move_log_status moved
    refine inv.of_silent (show _ = s.log ++ m.calls.map (Entry.returned th.actor) by simp [nextLog])
      ?_ eventPc queue isDone ownerPc
    intro _ mem
    obtain ⟨call, -, rfl⟩ := List.mem_map.mp mem
    cases th with
    | eventLoop => exact absurd rfl event
    | owner => exact absurd rfl owner
    | _ => exact ⟨rfl, rfl, nofun⟩
  | fail => simp [Label.returns] at quiet

/-- In every run where no collaborator raises, once `hook_executor.results()` has returned, every
event the runner pushed has been handed to `hook_executor.on_event` once, in push order. -/
theorem deliveredEvents_eq_pushedEvents {p : Params} {status : TaskStatus} {s : Scope}
    (reached : Reaches p status Label.returns s)
    (read : Entry.returned .owner .hookResults ∈ s.log) : s.deliveredEvents = s.pushedEvents := by
  have inv : EventFlow p s := reached.induction
    ⟨by simp [Scope.pushedEvents, Scope.deliveredEvents, Scope.init],
      by simp [Scope.init], by simp [Scope.init]; split <;> simp,
      fun hooks => by simp [Scope.init, hooks], by simp [Scope.init]; split <;> simp,
      by simp [Scope.init]⟩
    fun _ _ _ quiet inv h => inv.preserved quiet h
  rw [inv.flow, (inv.read read).2.1, List.append_nil]

/-- A workload with hooks whose runner pushes one event; the scope then exits, the event thread
draining the queue before `__exit__` reads `hook_executor.results()`. -/
def hookedParams : Params := { Params.plain with hooks := true }

def oneEventLabels : List Label :=
  [.pushEvent ⟨"x", 0⟩, .finish false, .thread .owner, .thread .watcher, .thread .owner,
   .thread .resultLoop, .thread .resultLoop, .thread .owner, .thread .owner] ++
  List.replicate 5 (.thread .eventLoop) ++ [.thread .owner, .thread .owner]

theorem oneEvent_delivered :
    ∃ s, run hookedParams (Scope.init hookedParams .running) oneEventLabels = some s ∧
      Reaches hookedParams .running Label.returns s ∧ Entry.returned .owner .hookResults ∈ s.log ∧
      s.deliveredEvents = s.pushedEvents ∧ s.deliveredEvents = [⟨"x", 0⟩] :=
  have reached : Reaches hookedParams .running Label.returns
      ((run hookedParams (Scope.init hookedParams .running) oneEventLabels).get (by decide)) :=
    ⟨_, by decide, (Option.some_get _).symm⟩
  have read : Entry.returned .owner .hookResults ∈
      ((run hookedParams (Scope.init hookedParams .running) oneEventLabels).get (by decide)).log := by
    decide
  ⟨_, (Option.some_get _).symm, reached, read, deliveredEvents_eq_pushedEvents reached read, by decide⟩

end Events

/-- A batch pushed while the result thread is between its queue test and its `is_done` test:
`runner_obj.run` returns, `__exit__` sets `is_done`, and the thread stops. -/
def lostBatchLabels : List Label :=
  [.thread .resultLoop, .push [⟨0, 1, 0⟩], .finish false, .thread .owner, .thread .watcher,
   .thread .resultLoop] ++ List.replicate 5 (.thread .owner)

/-- No collaborator raises, yet the result is never handed to `add_iteration` nor saved in any
chunk, and the scope exits with it still queued. -/
theorem lostBatch_log :
    ∃ s, run .plain (Scope.init .plain .running) lostBatchLabels = some s ∧
      s.ownerPc = .exited ∧ s.resultQueue = [[⟨0, 1, 0⟩]] ∧
      s.log = [.returned .runner (.pushResults [⟨0, 1, 0⟩]), .returned .owner .slaResults,
        .returned .owner (.setResults ⟨0, false⟩)] :=
  ⟨_, (Option.some_get (by decide)).symm, by decide, by decide, by decide⟩

/-- `add_workload_data` raises in the result thread on the one chunk: the chunk had already been
sliced off `self.results`. -/
def lostFaultLabels : List Label :=
  [.push [⟨0, 1, 0⟩], .thread .resultLoop, .thread .resultLoop, .thread .resultLoop,
   .fail .resultLoop 0, .finish false, .thread .owner, .thread .watcher] ++
  List.replicate 5 (.thread .owner)

/-- The result is persisted in no chunk, and `__exit__` calls `set_results` without
`set_unexpected_failure`. -/
theorem lostFault_log :
    ∃ s, run .plain (Scope.init .plain .running) lostFaultLabels = some s ∧
      s.ownerPc = .exited ∧
      s.log = [.returned .runner (.pushResults [⟨0, 1, 0⟩]), .returned .resultLoop (.addIteration ⟨0, 1, 0⟩),
        .raised .resultLoop (.addWorkloadData 0 [⟨0, 1, 0⟩]), .returned .owner .slaResults,
        .returned .owner (.setResults ⟨1, false⟩)] :=
  ⟨_, (Option.some_get (by decide)).symm, by decide, by with_unfolding_all decide⟩

end Rally.Engine.ResultConsumer
