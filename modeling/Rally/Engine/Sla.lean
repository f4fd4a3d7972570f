import Rally.Engine.Scope
import Mathlib.Data.List.Infix

/-! # The SLA abort latch

For each result `_consume_results` calls `sla_checker.add_iteration(r)`; on the first failed
check with `abort_on_sla_failure` set it calls `set_aborted_on_sla()`, `runner.abort()` and
`task.update_status(SOFT_ABORTING)`, and the local `task_aborted` keeps it from doing so again.

`slaExpected` says what that amounts to over the results the checker has been given: one
`add_iteration` per result in order, with the three abort calls right after the first failing
one when `abort_on_sla_failure` is set.  `slaCalls_eq_slaExpected` proves that the result
thread's calls are exactly these in every run where no collaborator raises, whatever the
batching and the interleaving.
-/

set_option autoImplicit false

namespace Rally.Engine.ResultConsumer

/-! ## The specification -/

/-- The shortest prefix of `rs` whose check fails: the SLA checker's verdict on the result that
ends it is false and on every earlier one true. -/
def firstFailure (verdict : List Result → Bool) (rs : List Result) : Option (List Result) :=
  rs.inits.tail.find? fun pre => !verdict pre

/-- The calls `_consume_results` should make for the results `rs` handed to the checker. -/
def slaExpected (p : Params) (rs : List Result) : List Call :=
  match if p.abortOnSlaFailure then firstFailure p.verdict rs else none with
  | some pre => pre.map .addIteration ++ softAbortCalls ++ (rs.drop pre.length).map .addIteration
  | none => rs.map .addIteration

theorem firstFailure_concat (verdict : List Result → Bool) (rs : List Result) (r : Result) :
    firstFailure verdict (rs ++ [r]) =
      (firstFailure verdict rs).or (if verdict (rs ++ [r]) then none else some (rs ++ [r])) := by
  have inits : (rs ++ [r]).inits.tail = rs.inits.tail ++ [rs ++ [r]] := by
    cases rs <;> simp [List.inits_append]
  unfold firstFailure
  rw [inits, List.find?_append]
  split <;> simp [*]

theorem firstFailure_length_le {verdict : List Result → Bool} {rs pre : List Result}
    (h : firstFailure verdict rs = some pre) : pre.length ≤ rs.length := by
  have mem := List.mem_of_find?_eq_some h
  exact ((List.mem_inits pre rs).mp (List.mem_of_mem_tail mem)).length_le

/-- One more result adds its `add_iteration`, and the abort calls if it is the first to fail. -/
theorem slaExpected_concat (p : Params) (rs : List Result) (r : Result) :
    slaExpected p (rs ++ [r]) = slaExpected p rs ++ .addIteration r ::
      if p.abortOnSlaFailure && (firstFailure p.verdict rs).isNone && !p.verdict (rs ++ [r]) then
        softAbortCalls else [] := by
  unfold slaExpected
  cases abort : p.abortOnSlaFailure
  · simp
  · rw [if_pos rfl, if_pos rfl, firstFailure_concat]
    cases first : firstFailure p.verdict rs with
    | some pre =>
      simp [List.drop_append_of_le_length (firstFailure_length_le first)]
    | none => cases p.verdict (rs ++ [r]) <;> simp

/-! ## The result thread's calls -/

/-- A call of the result thread that returned, other than `add_workload_data`. -/
def Entry.slaCall : Entry → Option Call
  | .returned .resultLoop (.addWorkloadData _ _) => none
  | .returned .resultLoop call => some call
  | _ => none

def Scope.slaCalls (s : Scope) : List Call := s.log.filterMap Entry.slaCall

/-- The calls so far are those for the results checked so far, and `task_aborted` is set once
the abort calls have been made. -/
structure SlaInv (p : Params) (s : Scope) : Prop where
  logged : s.slaCalls = slaExpected p s.checked
  latched : s.consumer.taskAborted = (p.abortOnSlaFailure && (firstFailure p.verdict s.checked).isSome)

section Preservation

variable {p : Params} {s t : Scope} {m : Move}

theorem SlaInv.initial (p : Params) (status : TaskStatus) : SlaInv p (Scope.init p status) :=
  ⟨by simp [Scope.init, Scope.slaCalls, slaExpected, firstFailure],
   by simp [Scope.init, Consumer.init, firstFailure]⟩

/-- With the latch as the invariant says, the abort fires on `r` exactly when no earlier result
failed and `r` does. -/
theorem abortsOn_eq {checked : List Result} {c : Consumer} (r : Result)
    (latched : c.taskAborted = (p.abortOnSlaFailure && (firstFailure p.verdict checked).isSome)) :
    abortsOn p checked c r =
      (p.abortOnSlaFailure && (firstFailure p.verdict checked).isNone && !p.verdict (checked ++ [r])) := by
  unfold abortsOn
  rw [latched]
  cases p.abortOnSlaFailure <;> cases firstFailure p.verdict checked <;> simp [Bool.and_comm]

@[simp] theorem consumeResult_slaCalls (p : Params) (checked : List Result) (c : Consumer)
    (r : Result) :
    ((consumeResult p checked c r).2.map (Entry.returned .resultLoop)).filterMap Entry.slaCall =
      (consumeResult p checked c r).2 := by
  rw [consumeResult_eq]
  split <;> rfl

@[simp] theorem Scope.slaCalls_record (s : Scope) (actor : Actor) (calls : List Call) :
    (s.record actor calls).slaCalls =
      s.slaCalls ++ (calls.map (Entry.returned actor)).filterMap Entry.slaCall := by
  simp [Scope.slaCalls, Scope.record]

theorem SlaInv.resultMove (inv : SlaInv p s) (h : consumeResults p s = some m) :
    SlaInv p (m.next.record .resultLoop m.calls) := by
  obtain ⟨logged, latched⟩ := inv
  have fires : ∀ r, abortsOn p s.checked s.consumer r = _ := fun r => abortsOn_eq r latched
  unfold consumeResults at h
  split at h <;> (repeat' split at h) <;> cases h <;> refine ⟨?_, ?_⟩
  all_goals try simp only [Scope.slaCalls_record, consumeResult_slaCalls]
  all_goals simp_all [Move.silent, Scope.slaCalls, takeChunk, Entry.slaCall, slaExpected_concat,
    consumeResult_eq, firstFailure_concat]
  all_goals split <;> cases p.abortOnSlaFailure <;> cases firstFailure p.verdict s.checked <;> simp_all

theorem Entry.slaCall_of_actor {e : Entry} (other : e.actor ≠ .resultLoop) : e.slaCall = none := by
  rcases e with ⟨actor, call⟩ | ⟨actor, call⟩ <;> cases actor <;> simp_all [Entry.actor, Entry.slaCall]

/-- A step that leaves the result thread's view alone and logs no call of it keeps the
invariant. -/
theorem SlaInv.keep {new : List Entry} (inv : SlaInv p s) (resultView : t.resultView = s.resultView)
    (log : t.log = s.log ++ new) (others : ∀ e ∈ new, e.actor ≠ .resultLoop) : SlaInv p t := by
  simp only [Scope.resultView, Prod.mk.injEq] at resultView
  obtain ⟨consumer, checked, -⟩ := resultView
  have silent : new.filterMap Entry.slaCall = [] :=
    List.filterMap_eq_nil_iff.mpr fun e mem => Entry.slaCall_of_actor (others e mem)
  refine ⟨?_, ?_⟩
  · rw [Scope.slaCalls, log, List.filterMap_append, silent, List.append_nil, checked]
    exact inv.logged
  · rw [consumer, checked]
    exact inv.latched

/-- Every step of a run where no collaborator raises keeps the invariant. -/
theorem SlaInv.preserved {l : Label} (quiet : l.returns) (inv : SlaInv p s)
    (h : step p s l = some t) : SlaInv p t := by
  cases bystander : l.bystander
  · cases l with
    | finish raised =>
      simp only [step] at h
      split at h <;> cases h
      exact ⟨inv.logged, inv.latched⟩
    | thread th =>
      obtain ⟨m, moved, rfl⟩ := step_thread h
      cases th <;> simp [Label.bystander] at bystander
      · exact inv.resultMove moved
      · obtain ⟨nextLog, -⟩ := move_log_status moved
        exact inv.keep (by simp [(move_resultView moved (by decide)).1])
          (show _ = s.log ++ m.calls.map (Entry.returned .owner) by simp [nextLog, Thread.actor])
          fun _ mem => by rw [Entry.actor_of_mem_map mem]; nofun
    | fail => simp [Label.returns] at quiet
    | push | pushEvent | request => simp [Label.bystander] at bystander
  · obtain ⟨resultView, -, new, log, others⟩ := step_bystander h bystander
    exact inv.keep resultView log fun e mem => (others e mem).1

end Preservation

/-- In every run where no collaborator raises, whatever the batches and the interleaving, the
result thread has made one `add_iteration` per result in order and, when `abort_on_sla_failure`
is set and a check failed, `set_aborted_on_sla`, `runner.abort` and
`update_status(SOFT_ABORTING)` once each, right after the first failing result's
`add_iteration`. -/
theorem slaCalls_eq_slaExpected {p : Params} {status : TaskStatus} {s : Scope}
    (reached : Reaches p status Label.returns s) : s.slaCalls = slaExpected p s.checked :=
  (reached.induction (SlaInv.initial p status) fun _ _ _ quiet inv h => inv.preserved quiet h).logged

/-- `abort_on_sla_failure` set and an SLA that fails from the second result on. -/
def failingFromSecond : Params :=
  { Params.plain with abortOnSlaFailure := true, verdict := fun rs => decide (rs.length < 2) }

/-- Three results in one batch, each saved as its own chunk. -/
def oneBatchLabels : List Label :=
  .push [⟨0, 1, 0⟩, ⟨1, 1, 1⟩, ⟨2, 1, 2⟩] :: List.replicate 9 (.thread .resultLoop)

theorem oneBatch_slaCalls :
    ∃ s, run failingFromSecond (Scope.init failingFromSecond .running) oneBatchLabels = some s ∧
      s.slaCalls = [.addIteration ⟨0, 1, 0⟩, .addIteration ⟨1, 1, 1⟩, .setAbortedOnSla, .runnerAbort,
        .updateStatus .softAborting, .addIteration ⟨2, 1, 2⟩] :=
  ⟨_, (Option.some_get (by decide)).symm,
    (slaCalls_eq_slaExpected ⟨oneBatchLabels, by decide, (Option.some_get _).symm⟩).trans (by decide)⟩

end Rally.Engine.ResultConsumer
