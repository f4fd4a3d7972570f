import Rally.Engine.Scope

/-! # `__exit__` finishes

`ResultConsumer.__exit__` sets `is_done` and then joins the abort watcher, the result thread and,
with hooks, the event thread.  Each of those loops runs until it sees `is_done`, and the runner
can push nothing once `runner_obj.run` has returned, so the joins return: from any reachable
state where `is_done` is set, every interleaving of the threads takes at most `Scope.remaining`
more thread steps (`run_afterDone`), and some interleaving of at most that many steps runs
`__exit__` to its end (`exits_afterDone`).

`Scope.remaining` adds one rank per thread.  The result thread's counts two steps for each
queued result and three for each queued batch, one for each result waiting in `self.results`
(each saved chunk takes at least one), and a few for its place in the loop; the event thread's
counts four steps per queued event.  The one non-trivial case is the result thread's pop: the
batch leaves the queue and enters both `self.results` and the pending iteration, which the
batch's queue weight pays for.  Progress (`move_of_inExit`) holds because `__exit__` waits only
in a `join()`, and a thread it waits for can step until it has ended.
-/

set_option autoImplicit false

namespace Rally.Engine.ResultConsumer

/-! ## The ranks -/

/-- Two steps for each queued result and three for each queued batch. -/
def queueWeight (queue : List (List Result)) : Nat :=
  (queue.map fun batch => 2 * batch.length + 3).sum

@[simp] theorem queueWeight_cons (batch : List Result) (queue : List (List Result)) :
    queueWeight (batch :: queue) = 2 * batch.length + 3 + queueWeight queue := by
  simp [queueWeight]

/-- What the result thread has left once `is_done` is set, from its program counter. -/
def resultRank (queue : List (List Result)) (c : Consumer) : ResultPc → Nat
  | .poll => queueWeight queue + c.results.length + 2
  | .checkDone => 1
  | .iterate pending => queueWeight queue + c.results.length + pending.length + 4
  | .saveChunks => queueWeight queue + c.results.length + 3
  | .stopped | .failed => 0

/-- What the event thread has left once `is_done` is set: the queue is drained event by event,
each through `poll`, `loopTest` and `testQueue`. -/
def eventRank (queue : List TimelineEvent) : EventPc → Nat
  | .loopTest => 4 * queue.length + 2
  | .testQueue => 4 * queue.length + 1
  | .poll => if queue = [] then 3 else 4 * queue.length
  | .stopped | .failed => 0

/-- What the abort watcher has left once `is_done` is set. -/
def watcherRank : WatcherPc → Nat
  | .checkStatus => 4
  | .abortRunner => 3
  | .setAborted => 2
  | .loopTest => 1
  | .stopped | .failed => 0

/-- The statements of `__exit__` still to run. -/
def ownerRank : OwnerPc → Nat
  | .running => 7
  | .setDone => 6
  | .joinWatcher => 5
  | .joinResults => 4
  | .report => 3
  | .joinEvents => 2
  | .flush => 1
  | .exited => 0

/-- The thread steps a scope has left once `is_done` is set. -/
def Scope.remaining (s : Scope) : Nat :=
  resultRank s.resultQueue s.consumer s.resultPc + eventRank s.eventQueue s.eventPc +
    watcherRank s.watcherPc + ownerRank s.ownerPc

variable {p : Params} {s : Scope} {m : Move}

/-! ## Each thread's steps -/

theorem consumeResults_remaining (done : s.isDone) (h : consumeResults p s = some m) :
    m.next.remaining < s.remaining ∧ m.stuck.remaining < s.remaining := by
  have pos := p.chunkSize_pos
  unfold consumeResults at h
  split at h <;> (repeat' split at h) <;> cases h <;>
    simp only [Scope.remaining, resultRank, Move.silent, done, ↓reduceIte, queueWeight_cons,
      List.length_cons, List.length_append, List.length_drop, consumeResult_fst_results,
      takeChunk_fst_results, Consumer.widen_results, *] <;> omega

theorem consumeEvents_remaining (done : s.isDone) (h : consumeEvents s = some m) :
    m.next.remaining < s.remaining ∧ m.stuck.remaining < s.remaining := by
  unfold consumeEvents at h
  split at h <;> (repeat' split at h) <;> cases h <;>
    simp only [Scope.remaining, eventRank, Move.silent, done, ↓reduceIte, List.length_cons,
      List.length_nil, reduceCtorEq, *] <;> omega

theorem waitAndAbort_remaining (done : s.isDone) (h : waitAndAbort s = some m) :
    m.next.remaining < s.remaining ∧ m.stuck.remaining < s.remaining := by
  unfold waitAndAbort at h
  split at h <;> (repeat' split at h) <;> cases h <;>
    simp only [Scope.remaining, watcherRank, Move.silent, done, ↓reduceIte, *] <;> omega

theorem exit_remaining (h : exit p s = some m) :
    m.next.remaining < s.remaining ∧ m.stuck.remaining < s.remaining := by
  unfold exit at h
  split at h <;> (repeat' split at h) <;> cases h <;>
    simp only [Scope.remaining, ownerRank, Move.silent, Scope.abandon, *] <;> omega

/-! ## Steps of the scope after `is_done` -/

@[simp] theorem Scope.remaining_record (s : Scope) (actor : Actor) (calls : List Call) :
    (s.record actor calls).remaining = s.remaining := rfl

@[simp] theorem Scope.remaining_recordRaised (s : Scope) (actor : Actor) (call : Call) :
    (s.recordRaised actor call).remaining = s.remaining := rfl

theorem move_remaining {th : Thread} (done : s.isDone) (h : move p s th = some m) :
    m.next.remaining < s.remaining ∧ m.stuck.remaining < s.remaining := by
  cases th
  · exact consumeResults_remaining done h
  · exact consumeEvents_remaining done h
  · exact waitAndAbort_remaining done h
  · exact exit_remaining h

theorem exit_leaves_run (h : exit p s = some m) :
    m.next.ownerPc ≠ .running ∧ m.stuck.ownerPc ≠ .running ∧
      (s.isDone → m.next.isDone ∧ m.stuck.isDone) := by
  unfold exit at h
  split at h <;> (repeat' split at h) <;> cases h <;> simp [Move.silent, Scope.abandon, *]

/-- A thread other than the owning one leaves `is_done` and the owning thread's place alone. -/
theorem move_ownerPc_isDone {th : Thread} (owner : th ≠ .owner) (h : move p s th = some m) :
    m.next.ownerPc = s.ownerPc ∧ m.next.isDone = s.isDone ∧
      m.stuck.ownerPc = s.ownerPc ∧ m.stuck.isDone = s.isDone := by
  obtain ⟨next, stuck⟩ := move_ownerView h owner
  simp only [Scope.ownerView, Prod.mk.injEq] at next stuck
  exact ⟨next.1, next.2.2.2, stuck.1, stuck.2.2.2⟩

theorem move_afterDone {th : Thread} (done : s.isDone) (returned : s.ownerPc ≠ .running)
    (h : move p s th = some m) :
    m.next.isDone ∧ m.stuck.isDone ∧ m.next.ownerPc ≠ .running ∧ m.stuck.ownerPc ≠ .running := by
  by_cases owner : th = .owner
  · subst owner
    obtain ⟨next, stuck, keeps⟩ := exit_leaves_run h
    exact ⟨(keeps done).1, (keeps done).2, next, stuck⟩
  · obtain ⟨nextPc, nextDone, stuckPc, stuckDone⟩ := move_ownerPc_isDone owner h
    exact ⟨nextDone ▸ done, stuckDone ▸ done, nextPc ▸ returned, stuckPc ▸ returned⟩

/-- A step of one of the scope's threads, whether its calls return or one of them raises. -/
def Label.byThread : Label → Bool
  | .thread _ | .fail _ _ => true
  | _ => false

variable {t : Scope} {l : Label}

theorem step_afterDone (done : s.isDone) (returned : s.ownerPc ≠ .running)
    (h : step p s l = some t) :
    t.isDone ∧ t.ownerPc ≠ .running ∧ t.remaining + (if l.byThread then 1 else 0) ≤ s.remaining := by
  cases l with
  | push | pushEvent | finish => simp [step, returned] at h
  | request =>
    simp only [step] at h
    split at h <;> cases h
    exact ⟨done, returned, by simp [Label.byThread]⟩
  | thread th =>
    obtain ⟨m, moved, rfl⟩ := step_thread h
    obtain ⟨nextDone, -, nextReturned, -⟩ := move_afterDone done returned moved
    exact ⟨nextDone, nextReturned, by simpa [Label.byThread] using (move_remaining done moved).1⟩
  | fail th n =>
    obtain ⟨m, call, moved, -, rfl⟩ := step_fail h
    obtain ⟨-, stuckDone, -, stuckReturned⟩ := move_afterDone done returned moved
    exact ⟨stuckDone, stuckReturned, by simpa [Label.byThread] using (move_remaining done moved).2⟩

theorem run_afterDone : ∀ {s t : Scope} {ls : List Label}, s.isDone → s.ownerPc ≠ .running →
    run p s ls = some t → (ls.filter Label.byThread).length + t.remaining ≤ s.remaining
  | s, t, [], _, _, ran => by cases ran; simp
  | s, t, l :: ls, done, returned, ran => by
    rw [run_cons] at ran
    obtain ⟨u, stepped, rest⟩ := Option.bind_eq_some.mp ran
    obtain ⟨uDone, uReturned, fewer⟩ := step_afterDone done returned stepped
    have later := run_afterDone uDone uReturned rest
    cases thread : l.byThread <;> simp only [thread, List.filter_cons] at fewer ⊢ <;>
      simp at fewer ⊢ <;> omega


/-! ## Progress -/

theorem consumeResults_isSome : (consumeResults p s).isSome = !s.resultPc.ended := by
  unfold consumeResults
  split <;> (repeat' split) <;> simp_all [ResultPc.ended]

theorem consumeEvents_isSome : (consumeEvents s).isSome = !s.eventPc.ended := by
  unfold consumeEvents
  split <;> (repeat' split) <;> simp_all [EventPc.ended]

theorem waitAndAbort_isSome : (waitAndAbort s).isSome = !s.watcherPc.ended := by
  unfold waitAndAbort
  split <;> simp_all [WatcherPc.ended]

/-- No deadlock: until `__exit__` has returned, some thread can step.  The owning thread waits
only in a `join()`, and a thread it waits for has not ended, so that thread can step. -/
theorem move_of_inExit (returned : s.ownerPc ≠ .running) (inExit : s.ownerPc ≠ .exited) :
    ∃ th m, move p s th = some m := by
  have some_of (th : Thread) (can : (move p s th).isSome) : ∃ th m, move p s th = some m :=
    ⟨th, Option.isSome_iff_exists.mp can⟩
  have waitFor (th : Thread) {ended : Bool} (can : (move p s th).isSome = !ended)
      (running : ended ≠ true) : ∃ th m, move p s th = some m :=
    some_of th (by simpa only [can, Bool.not_eq_true', Bool.not_eq_true] using running)
  cases pc : s.ownerPc
  case running => exact absurd pc returned
  case exited => exact absurd pc inExit
  case joinWatcher =>
    by_cases ended : s.watcherPc.ended
    · exact some_of .owner (by simp only [move, exit, pc, ended, ↓reduceIte, Option.isSome_some])
    · exact waitFor .watcher waitAndAbort_isSome ended
  case joinResults =>
    by_cases ended : s.resultPc.ended
    · exact some_of .owner (by simp only [move, exit, pc, ended, ↓reduceIte, Option.isSome_some])
    · exact waitFor .resultLoop consumeResults_isSome ended
  case joinEvents =>
    cases hooks : p.hooks
    · exact some_of .owner
        (by simp only [move, exit, pc, hooks, Bool.false_eq_true, ↓reduceIte, Option.isSome_some])
    · by_cases ended : s.eventPc.ended
      · exact some_of .owner
          (by simp only [move, exit, pc, hooks, ended, ↓reduceIte, Option.isSome_some])
      · exact waitFor .eventLoop consumeEvents_isSome ended
  all_goals exact some_of .owner (by simp only [move, exit, pc, Option.isSome_some])

/-- From a state where `is_done` is set, the threads can finish `__exit__` in at most
`s.remaining` steps. -/
theorem exits_afterDone {s : Scope} (done : s.isDone) (returned : s.ownerPc ≠ .running) :
    ∃ (ths : List Thread) (t : Scope), run p s (ths.map .thread) = some t ∧
      t.ownerPc = .exited ∧ ths.length ≤ s.remaining := by
  generalize bound : s.remaining = n
  induction n using Nat.strong_induction_on generalizing s with
  | _ n ih =>
    by_cases inExit : s.ownerPc = .exited
    · exact ⟨[], s, rfl, inExit, Nat.zero_le _⟩
    obtain ⟨th, m, moved⟩ := @move_of_inExit p s returned inExit
    have stepped : step p s (.thread th) = some (m.next.record th.actor m.calls) := by
      simp [step, moved]
    obtain ⟨nextDone, nextReturned, fewer⟩ := step_afterDone done returned stepped
    simp only [Label.byThread, if_true] at fewer
    obtain ⟨ths, t, ran, exited, length⟩ := ih _ (by omega) nextDone nextReturned rfl
    exact ⟨th :: ths, t, by simpa [run_cons, stepped] using ran, exited,
      by simp only [List.length_cons]; omega⟩

/-- `is_done` is set only by `__exit__`, after `runner_obj.run` has returned, and `__exit__` never
goes back to the `with` body. -/
theorem move_doneAfterRun {th : Thread} (keep : s.isDone → s.ownerPc ≠ .running)
    (h : move p s th = some m) :
    (m.next.isDone → m.next.ownerPc ≠ .running) ∧ (m.stuck.isDone → m.stuck.ownerPc ≠ .running) := by
  by_cases owner : th = .owner
  · subst owner
    obtain ⟨next, stuck, -⟩ := exit_leaves_run h
    exact ⟨fun _ => next, fun _ => stuck⟩
  · obtain ⟨nextPc, nextDone, stuckPc, stuckDone⟩ := move_ownerPc_isDone owner h
    exact ⟨by rw [nextPc, nextDone]; exact keep, by rw [stuckPc, stuckDone]; exact keep⟩

theorem step_doneAfterRun (keep : s.isDone → s.ownerPc ≠ .running) (h : step p s l = some t) :
    t.isDone → t.ownerPc ≠ .running := by
  cases l with
  | push | pushEvent | request =>
    simp only [step] at h
    split at h <;> cases h
    exact keep
  | finish => simp only [step] at h; split at h <;> cases h; simp
  | thread th =>
    obtain ⟨m, moved, rfl⟩ := step_thread h
    exact (move_doneAfterRun keep moved).1
  | fail th n =>
    obtain ⟨m, call, moved, -, rfl⟩ := step_fail h
    exact (move_doneAfterRun keep moved).2

theorem Reaches.doneAfterRun {status : TaskStatus} {allowed : Label → Bool}
    (reached : Reaches p status allowed s) : s.isDone → s.ownerPc ≠ .running :=
  reached.induction (by simp [Scope.init]) fun _ _ _ _ keep h => step_doneAfterRun keep h

/-- Once `__exit__` has set `is_done`, the scope finishes whatever the interleaving: no run takes
more than `s.remaining` thread steps, and the threads can run `__exit__` to its end in at most
that many. -/
theorem exit_completes {status : TaskStatus} {allowed : Label → Bool} {s : Scope}
    (reached : Reaches p status allowed s) (done : s.isDone) :
    (∀ ls t, run p s ls = some t → (ls.filter Label.byThread).length ≤ s.remaining) ∧
    ∃ (ths : List Thread) (t : Scope), run p s (ths.map .thread) = some t ∧
      t.ownerPc = .exited ∧ ths.length ≤ s.remaining := by
  have returned := reached.doneAfterRun done
  refine ⟨fun ls t ran => ?_, exits_afterDone done returned⟩
  have := run_afterDone done returned ran
  omega

/-- The scope after `runner_obj.run` has returned and `__exit__` has set `is_done`. -/
def doneScope : Option Scope :=
  run .plain (Scope.init .plain .running) [.finish false, .thread .owner]

theorem doneScope_completes :
    ∃ s, doneScope = some s ∧ Reaches .plain .running (fun _ => true) s ∧ s.isDone ∧
      ((∀ ls t, run .plain s ls = some t → (ls.filter Label.byThread).length ≤ s.remaining) ∧
        ∃ (ths : List Thread) (t : Scope), run .plain s (ths.map .thread) = some t ∧
          t.ownerPc = .exited ∧ ths.length ≤ s.remaining) :=
  have reached : Reaches .plain .running (fun _ => true) (doneScope.get (by decide)) :=
    ⟨_, fun _ _ => rfl, (Option.some_get _).symm⟩
  ⟨_, (Option.some_get _).symm, reached, by decide, exit_completes reached (by decide)⟩

end Rally.Engine.ResultConsumer
