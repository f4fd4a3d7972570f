import Rally.Engine.Delivery
import Rally.Engine.RunnerAbort
import Rally.Engine.Termination

/-! # Nothing follows `set_results`

`__exit__` joins the abort watcher, then the result thread, then, when the workload declares
hooks, the event thread, and its last call is `self.workload.set_results(results)`.  Without
hooks there is no event thread: its program counter starts `stopped` and stays there.  So once
`set_results` has been called, whether it returned or raised, it is the last entry of the log and
the only `set_results` in it, every thread the scope started has ended, and the scope can take no
further step: no chunk, hook event, `runner.abort()` or status write comes after it
(`setResults_last`).

Two invariants carry this: `Scope.Settled`, that a thread `__exit__` has joined has ended, and
`Scope.SetResultsLast`.  A raise out of `__exit__` before `self.event_thread.join()` leaves the
scope with the event thread still draining its queue, and no `set_results` is made then.
-/

set_option autoImplicit false

namespace Rally.Engine

/-- A call of `workload.set_results`. -/
def Call.isSetResults : Call → Bool
  | .setResults _ => true
  | _ => false

theorem Call.isSetResults_eq_false {c : Call} :
    c.isSetResults = false ↔ ∀ doc, c ≠ .setResults doc := by
  cases c <;> simp [Call.isSetResults]

namespace ResultConsumer

/-- The owning thread has passed `self.aborting_checker.join()`. -/
def OwnerPc.joinedWatcher : OwnerPc → Bool
  | .joinResults | .report | .joinEvents | .flush | .exited => true
  | _ => false

/-- What `__exit__` has joined has ended, and without hooks there is no event thread. -/
structure Scope.Settled (p : Params) (s : Scope) : Prop where
  watcher : s.ownerPc.joinedWatcher → s.watcherPc.ended
  events : s.ownerPc = .flush → s.eventPc.ended
  noEvents : p.hooks = false → s.eventPc = .stopped

/-- A `set_results` in the log is its last entry and its only `set_results`, and the owning
thread has left `__exit__` with the event thread ended. -/
def Scope.SetResultsLast (s : Scope) : Prop :=
  ∀ e ∈ s.log, e.call.isSetResults →
    s.log.getLast? = some e ∧ s.log.countP (fun e => e.call.isSetResults) = 1 ∧
      s.ownerPc = .exited ∧ s.eventPc.ended

section Steps

variable {p : Params} {s t : Scope} {l : Label} {th : Thread} {m : Move}

theorem move_eventPc (h : move p s th = some m) (other : th ≠ .eventLoop) :
    m.next.eventPc = s.eventPc ∧ m.stuck.eventPc = s.eventPc := by
  cases th <;> simp only [move, consumeResults, waitAndAbort, exit] at h <;> try contradiction
  all_goals (repeat' split at h) <;> (try cases h) <;> exact ⟨rfl, rfl⟩

/-- A scope whose owning thread has left `__exit__` and whose threads have all ended takes no
step. -/
theorem step_eq_none_of_ended (exited : s.ownerPc = .exited) (results : s.resultPc.ended)
    (watcher : s.watcherPc.ended) (events : s.eventPc.ended) (l : Label) : step p s l = none := by
  have stuck : ∀ th, move p s th = none
    | .resultLoop => Option.not_isSome_iff_eq_none.mp (by simp [move, consumeResults_isSome, results])
    | .eventLoop => Option.not_isSome_iff_eq_none.mp (by simp [move, consumeEvents_isSome, events])
    | .watcher => Option.not_isSome_iff_eq_none.mp (by simp [move, waitAndAbort_isSome, watcher])
    | .owner => by simp [move, exit, exited]
  cases l <;> simp [step, exited, stuck]

theorem Entry.not_setResults_map {actor : Actor} {calls : List Call}
    (notSet : ∀ c ∈ calls, c.isSetResults = false) :
    ∀ e ∈ calls.map (Entry.returned actor), e.call.isSetResults = false := by
  intro e mem
  obtain ⟨c, called, rfl⟩ := List.mem_map.mp mem
  exact notSet c called

/-- Of the threads only `__exit__` calls `set_results`, and only in `flush`. -/
theorem move_setResults (h : move p s th = some m) :
    (∀ c ∈ m.calls, c.isSetResults = false) ∨
      th = .owner ∧ s.ownerPc = .flush ∧
        m = ⟨flushCalls s, { s with ownerPc := .exited }, s.abandon⟩ := by
  cases th
  case owner =>
    by_cases flush : s.ownerPc = .flush
    · simp only [move, exit, flush, Option.some.injEq] at h
      exact .inr ⟨rfl, flush, h.symm⟩
    · obtain ⟨pre, notIn, calls | ⟨flush', -⟩⟩ := exit_calls_setResults h
      · exact .inl fun c mem => Call.isSetResults_eq_false.mpr fun doc same =>
          notIn doc (same ▸ calls ▸ mem)
      · exact absurd flush' flush
  all_goals
    refine .inl fun c mem => Call.isSetResults_eq_false.mpr fun doc same => ?_
    have made := move_makes h c mem
    simp [same, Thread.makes] at made

/-- Before its last call, `flush` calls no `set_results`. -/
theorem take_flushCalls {n : Nat} {call : Call} (raisedAt : ((flushCalls s).drop n).head? = some call) :
    ∀ c ∈ (flushCalls s).take n, c.isSetResults = false := by
  have notIn : ∀ doc, Call.setResults doc ∉
      (if s.consumer.results = [] then [] else
        [Call.addWorkloadData s.consumer.workloadDataCount (sortByTimestamp s.consumer.results)]) := by
    intro doc
    split <;> simp
  exact fun c mem => Call.isSetResults_eq_false.mpr fun doc same =>
    setResults_mem_take notIn raisedAt (same ▸ mem)

/-- What a step logs: no `set_results`, or, from `flush`, entries ending in `__exit__`'s one
`set_results`, with the owning thread leaving and the event thread where it was. -/
theorem step_setResults (h : step p s l = some t) :
    ∃ new, t.log = s.log ++ new ∧
      ((∀ e ∈ new, e.call.isSetResults = false) ∨
        s.ownerPc = .flush ∧ t.ownerPc = .exited ∧ t.eventPc = s.eventPc ∧
          ∃ pre e, new = pre ++ [e] ∧ (∀ e ∈ pre, e.call.isSetResults = false) ∧
            e.call.isSetResults) := by
  cases l with
  | push | pushEvent | request =>
    simp only [step] at h
    split at h <;> cases h
    exact ⟨_, rfl, .inl (List.forall_mem_singleton.mpr rfl)⟩
  | finish =>
    simp only [step] at h
    split at h <;> cases h
    exact ⟨[], (List.append_nil _).symm, .inl fun _ none => absurd none (List.not_mem_nil _)⟩
  | thread th =>
    obtain ⟨m, moved, rfl⟩ := step_thread h
    refine ⟨m.calls.map (.returned th.actor), by rw [Scope.record_log, (move_log_status moved).1], ?_⟩
    obtain notSet | ⟨rfl, flush, rfl⟩ := move_setResults moved
    · exact .inl (Entry.not_setResults_map notSet)
    · refine .inr ⟨flush, rfl, rfl, _, _, List.map_append _ _ _, Entry.not_setResults_map ?_, rfl⟩
      split <;> simp [Call.isSetResults]
  | fail th n =>
    obtain ⟨m, call, moved, raisedAt, rfl⟩ := step_fail h
    refine ⟨(m.calls.take n).map (.returned th.actor) ++ [.raised th.actor call],
      by simp [(move_log_status moved).2.1], ?_⟩
    obtain notSet | ⟨rfl, flush, rfl⟩ := move_setResults moved
    · have raised := notSet call (List.mem_of_mem_drop (List.mem_of_mem_head? raisedAt))
      exact .inl (List.forall_mem_append.mpr
        ⟨Entry.not_setResults_map fun c mem => notSet c (List.mem_of_mem_take mem),
          List.forall_mem_singleton.mpr raised⟩)
    · have before : ∀ e ∈ ((flushCalls s).take n).map (Entry.returned Thread.owner.actor),
          e.call.isSetResults = false := Entry.not_setResults_map (take_flushCalls raisedAt)
      cases set : call.isSetResults
      · exact .inl (List.forall_mem_append.mpr ⟨before, List.forall_mem_singleton.mpr set⟩)
      · exact .inr ⟨flush, rfl, rfl, _, _, rfl, before, set⟩

end Steps

/-! ## Whole runs -/

section Runs

variable {p : Params} {s t : Scope} {l : Label}

theorem Scope.Settled.of_frame (settled : s.Settled p) (owner : t.ownerPc = s.ownerPc)
    (watcher : t.watcherPc = s.watcherPc) (events : t.eventPc = s.eventPc) : t.Settled p where
  watcher := by rw [owner, watcher]; exact settled.watcher
  events := by rw [owner, events]; exact settled.events
  noEvents := by rw [events]; exact settled.noEvents

/-- `__exit__` passes `self.aborting_checker.join()` only once the watcher has ended, and reaches
`flush` only once the event thread has ended or when there is none. -/
theorem exit_joins {m : Move} (settled : s.Settled p) (h : exit p s = some m) :
    ((m.next.ownerPc.joinedWatcher → s.watcherPc.ended) ∧ (m.next.ownerPc = .flush → s.eventPc.ended)) ∧
      ((m.stuck.ownerPc.joinedWatcher → s.watcherPc.ended) ∧
        (m.stuck.ownerPc = .flush → s.eventPc.ended)) := by
  obtain ⟨watcher, -, noEvents⟩ := settled
  unfold exit at h
  split at h <;> (repeat' split at h) <;> cases h <;>
    simp_all [Move.silent, Scope.abandon, OwnerPc.joinedWatcher, EventPc.ended]

/-- A thread that can move has not been joined, and `__exit__` moves past a `join()` only once
the joined thread has ended. -/
theorem Scope.Settled.after_move {th : Thread} {m : Move} (settled : s.Settled p)
    (h : move p s th = some m) : m.next.Settled p ∧ m.stuck.Settled p := by
  cases th with
  | resultLoop =>
    have owner := move_ownerView h (by decide)
    have watcher := move_watcherPc h (by decide)
    have events := move_eventPc h (by decide)
    exact ⟨settled.of_frame (congrArg Prod.fst owner.1) watcher.1 events.1,
      settled.of_frame (congrArg Prod.fst owner.2) watcher.2 events.2⟩
  | eventLoop =>
    have alive : s.eventPc.ended = false := by
      simpa [show consumeEvents s = some m from h] using
        (consumeEvents_isSome : (consumeEvents s).isSome = !s.eventPc.ended)
    have owner := move_ownerView h (by decide)
    have watcher := move_watcherPc h (by decide)
    have stay (t : Scope) (o : t.ownerPc = s.ownerPc) (w : t.watcherPc = s.watcherPc) :
        t.Settled p :=
      ⟨by rw [o, w]; exact settled.watcher,
        fun flush => absurd (settled.events (o ▸ flush)) (by simp [alive]),
        fun noHooks => absurd (settled.noEvents noHooks ▸ alive) (by decide)⟩
    exact ⟨stay _ (congrArg Prod.fst owner.1) watcher.1, stay _ (congrArg Prod.fst owner.2) watcher.2⟩
  | watcher =>
    have alive : s.watcherPc.ended = false := by
      simpa [show waitAndAbort s = some m from h] using
        (waitAndAbort_isSome : (waitAndAbort s).isSome = !s.watcherPc.ended)
    have owner := move_ownerView h (by decide)
    have events := move_eventPc h (by decide)
    have stay (t : Scope) (o : t.ownerPc = s.ownerPc) (e : t.eventPc = s.eventPc) :
        t.Settled p :=
      ⟨fun joined => absurd (settled.watcher (o ▸ joined)) (by simp [alive]),
        by rw [o, e]; exact settled.events, by rw [e]; exact settled.noEvents⟩
    exact ⟨stay _ (congrArg Prod.fst owner.1) events.1, stay _ (congrArg Prod.fst owner.2) events.2⟩
  | owner =>
    have watcher := move_watcherPc h (by decide)
    have events := move_eventPc h (by decide)
    obtain ⟨next, stuck⟩ := exit_joins settled h
    exact ⟨⟨watcher.1 ▸ next.1, events.1 ▸ next.2, events.1 ▸ settled.noEvents⟩,
      ⟨watcher.2 ▸ stuck.1, events.2 ▸ stuck.2, events.2 ▸ settled.noEvents⟩⟩

theorem Scope.Settled.preserved (settled : s.Settled p) (h : step p s l = some t) : t.Settled p := by
  cases l with
  | push | pushEvent | request =>
    simp only [step] at h
    split at h <;> cases h
    exact settled.of_frame rfl rfl rfl
  | finish =>
    simp only [step] at h
    split at h <;> cases h
    exact ⟨nofun, nofun, settled.noEvents⟩
  | thread th =>
    obtain ⟨m, moved, rfl⟩ := step_thread h
    exact (settled.after_move moved).1.of_frame rfl rfl rfl
  | fail th n =>
    obtain ⟨m, call, moved, -, rfl⟩ := step_fail h
    exact (settled.after_move moved).2.of_frame rfl rfl rfl

theorem Scope.SetResultsLast.preserved (joined : s.Joined) (settled : s.Settled p)
    (inv : s.SetResultsLast) (h : step p s l = some t) : t.SetResultsLast := by
  have none : ∀ e ∈ s.log, e.call.isSetResults = false := by
    intro e mem
    cases set : e.call.isSetResults
    · rfl
    · obtain ⟨-, -, exited, events⟩ := inv e mem set
      rw [step_eq_none_of_ended exited (joined (by simp [exited, OwnerPc.joinedResults]))
        (settled.watcher (by simp [exited, OwnerPc.joinedWatcher])) events] at h
      cases h
  obtain ⟨new, log, notSet | ⟨flush, exited, events, pre, last, rfl, preNot, set⟩⟩ :=
    step_setResults h
  · intro e mem set
    rcases List.mem_append.mp (log ▸ mem) with old | fresh
    · simp [none e old] at set
    · simp [notSet e fresh] at set
  · intro e mem isSet
    have isLast : e = last := by
      rcases List.mem_append.mp (log ▸ mem) with old | fresh
      · simp [none e old] at isSet
      rcases List.mem_append.mp fresh with early | final
      · simp [preNot e early] at isSet
      · exact List.mem_singleton.mp final
    subst isLast
    refine ⟨by rw [log, ← List.append_assoc, List.getLast?_concat], ?_, exited,
      events ▸ settled.events flush⟩
    rw [log, List.countP_append, List.countP_append, List.countP_eq_zero.mpr (by simpa using none),
      List.countP_eq_zero.mpr (by simpa using preNot)]
    simp [isSet]

end Runs

theorem Reaches.settled {p : Params} {status : TaskStatus} {allowed : Label → Bool} {s : Scope}
    (reached : Reaches p status allowed s) : s.Settled p ∧ s.SetResultsLast :=
  @Reaches.induction_joined p status allowed (fun s => s.Settled p ∧ s.SetResultsLast)
    ⟨⟨by simp [Scope.init, OwnerPc.joinedWatcher], by simp [Scope.init],
      fun noHooks => by simp [Scope.init, noHooks]⟩, fun _ none => absurd none (List.not_mem_nil _)⟩
    (fun _ _ _ _ joined ⟨settled, last⟩ h => ⟨settled.preserved h, last.preserved joined settled h⟩)
    s reached

/-- Once `__exit__` has called `workload.set_results`, whether the call returned or raised and
whatever the interleaving, that call is the last entry of the log and the only `set_results` in
it, the result thread, the watcher and the event thread have all ended, and the scope can take
no further step. -/
theorem setResults_last {p : Params} {status : TaskStatus} {allowed : Label → Bool} {s : Scope}
    (reached : Reaches p status allowed s) {e : Entry} (made : e ∈ s.log)
    (isSet : e.call.isSetResults) :
    s.log.getLast? = some e ∧ s.log.countP (fun e => e.call.isSetResults) = 1 ∧
      s.resultPc.ended ∧ s.watcherPc.ended ∧ s.eventPc.ended ∧ ∀ l, step p s l = none := by
  obtain ⟨settled, last⟩ := reached.settled
  obtain ⟨isLast, once, exited, events⟩ := last e made isSet
  have results := reached.joined (by simp [exited, OwnerPc.joinedResults])
  have watcher := settled.watcher (by simp [exited, OwnerPc.joinedWatcher])
  exact ⟨isLast, once, results, watcher, events, step_eq_none_of_ended exited results watcher events⟩

theorem abortedThenFailed_setResults_last :
    ∃ s e, abortedThenFailedScope = some s ∧
      Reaches TaskEngine.abortOnEveryFailure .running (fun _ => true) s ∧ e ∈ s.log ∧
      e.call.isSetResults ∧
      (s.log.getLast? = some e ∧ s.log.countP (fun e => e.call.isSetResults) = 1 ∧
        s.resultPc.ended ∧ s.watcherPc.ended ∧ s.eventPc.ended ∧
        ∀ l, step TaskEngine.abortOnEveryFailure s l = none) :=
  have reached : Reaches TaskEngine.abortOnEveryFailure .running (fun _ => true)
      (abortedThenFailedScope.get (by decide)) := ⟨_, fun _ _ => rfl, (Option.some_get _).symm⟩
  have made : (abortedThenFailedScope.get (by decide)).log.getLast (by decide) ∈
      (abortedThenFailedScope.get (by decide)).log := List.getLast_mem _
  ⟨_, _, (Option.some_get _).symm, reached, made, by decide, setResults_last reached made (by decide)⟩

end ResultConsumer

end Rally.Engine
