import ControlHarness.Store.Operations

/-!
What the statements of the store do to a connection.

One lemma for each statement and each helper of the operations: the value it
returns and the connection it leaves, so that the operations are taken apart
without unfolding their parts. `afterFailure` is the row that the two updates
of `_record_circuit_failure` leave.
-/

namespace ControlHarness

/-- A connection inside a transaction of the store. -/
abbrev StoreConn := Conn Tables Sequences Timestamp

namespace Store

variable {c c' : StoreConn}

@[simp] lemma selectTask_apply (taskId : UUID) :
    selectTask taskId c = (.ok (c.tables.agentTasks.get? taskId), c) := rfl

/-- The event row that `_event` appends. -/
def eventRow (c : StoreConn) (taskId correlationId : UUID) (e : HarnessEvent) : EventRow :=
  ⟨c.seq.eventId + 1, taskId, correlationId, e, c.now⟩

@[simp] lemma event_apply (taskId correlationId : UUID) (e : HarnessEvent) :
    event taskId correlationId e c = (.ok (),
      { c with
        tables := { c.tables with
          agentEvents := c.tables.agentEvents ++ [eventRow c taskId correlationId e] }
        seq := { c.seq with eventId := c.seq.eventId + 1 } }) := by
  rw [event, if_pos e.payload_registered]
  rfl

lemma makeIntervalMins_eq_ok {n lease : ℤ} :
    makeIntervalMins n c = (.ok lease, c') ↔
      (-2147483648 ≤ n ∧ n ≤ 2147483647) ∧ lease = minutes n ∧ c' = c := by
  rw [makeIntervalMins]
  split
  · rename_i h
    simp only [Tx.pure_apply, Prod.mk.injEq, Except.ok.injEq]
    exact ⟨fun h' => ⟨h, h'.1.symm, h'.2.symm⟩, fun h' => ⟨h'.2.1.symm, h'.2.2.symm⟩⟩
  · rename_i h
    simp [h]

/-- The conditional update of one row: the row meets the condition and is
rewritten, or nothing changes. -/
lemma updateTask_apply (taskId : UUID) (p : Tables → TaskRow → Bool) (f : TaskRow → TaskRow)
    (hf : ∀ r, (f r).taskId = r.taskId) :
    (∃ r, c.tables.agentTasks.get? taskId = some r ∧ p c.tables r = true ∧
        updateTask taskId p f hf c = (.ok (some (f r)),
          { c with tables := { c.tables with
              agentTasks := c.tables.agentTasks.updateKey taskId f hf } })) ∨
      ((c.tables.agentTasks.get? taskId).filter (p c.tables) = none ∧
        updateTask taskId p f hf c = (.ok none, c)) := by
  have hrun : updateTask taskId p f hf c
      = (.ok (((c.tables.agentTasks.get? taskId).filter (p c.tables)).map f),
        { c with tables := { c.tables with
            agentTasks := c.tables.agentTasks.updateWhere
              (fun r => decide (r.taskId = taskId) && p c.tables r) f hf } }) := rfl
  cases hfil : (c.tables.agentTasks.get? taskId).filter (p c.tables) with
  | none =>
      refine Or.inr ⟨rfl, ?_⟩
      rw [hrun, hfil, Table.updateWhere_key_none hfil]
      rfl
  | some r =>
      obtain ⟨hr, hp⟩ := Option.filter_eq_some_iff.mp hfil
      refine Or.inl ⟨r, hr, hp, ?_⟩
      rw [hrun, hfil, Table.updateWhere_key hr hp]
      rfl

lemma updateTasks_apply (p : Tables → TaskRow → Bool) (f : TaskRow → TaskRow)
    (hf : ∀ r, (f r).taskId = r.taskId) :
    updateTasks p f hf c = (.ok ((c.tables.agentTasks.rows.filter (p c.tables)).map f),
      { c with tables := { c.tables with
          agentTasks := c.tables.agentTasks.updateWhere (p c.tables) f hf } }) := rfl

/-- `_set_status` succeeds exactly when the change is in the table and the row
has the expected status. -/
lemma setStatus_eq_ok {taskId : UUID} {expected target : TaskStatus} {u : Unit} :
    setStatus taskId expected target c = (.ok u, c') ↔
      target ∈ transitions expected ∧
        (∃ r, c.tables.agentTasks.get? taskId = some r ∧ r.status = expected) ∧
        c' = { c with tables := { c.tables with
          agentTasks := c.tables.agentTasks.updateKey taskId (movedRow target)
            (movedRow_taskId target) } } := by
  rw [setStatus]
  by_cases ht : target ∈ transitions expected
  · rw [if_pos ht]
    rcases updateTask_apply (c := c) taskId (fun _ r => decide (r.status = expected))
      (movedRow target) (movedRow_taskId target) with ⟨r, hr, hp, hrun⟩ | ⟨hnone, hrun⟩
    · rw [Tx.bind_ok hrun]
      simp only [Option.isSome_some, if_true, Tx.pure_apply, Prod.mk.injEq, true_and]
      exact ⟨fun h => ⟨ht, ⟨r, hr, by simpa using hp⟩, h.symm⟩, fun h => h.2.2.symm⟩
    · rw [Tx.bind_ok hrun]
      simp only [Option.isSome_none, Bool.false_eq_true, if_false, Tx.raise_apply, Prod.mk.injEq,
        reduceCtorEq, false_and, false_iff, not_and]
      rintro - ⟨r, hr, hs⟩
      rw [hr, Option.filter_eq_none_iff] at hnone
      exact absurd (hnone r rfl) (by simp [hs])
  · simp [ht]

/-! ### Cards, letters and circuits -/

lemma createRecoveryCard_eq_ok {task : TaskRow} {trigger reason : String} {recoveryId id : UUID} :
    createRecoveryCard task trigger reason recoveryId c = (.ok id, c') ↔
      c.tables.recoveryCards.get? recoveryId = none ∧ id = recoveryId ∧
        c' = { c with
          tables := { c.tables with
            agentEvents := c.tables.agentEvents ++ [eventRow c task.taskId task.correlationId
              (.recoveryCardCreated recoveryId trigger allowedActions)]
            recoveryCards := c.tables.recoveryCards.insert
              (newRecoveryCard task trigger reason recoveryId c.now) }
          seq := { c.seq with eventId := c.seq.eventId + 1 } } := by
  rw [createRecoveryCard, Tx.bind_ok (Tx.now_apply c), Tx.bind_ok (Tx.read_apply c _)]
  cases hget : c.tables.recoveryCards.get? recoveryId with
  | some card => simp
  | none =>
      simp only [Option.isSome_none, Bool.false_eq_true, if_false, Tx.bind_apply, Tx.write_apply,
        event_apply, Tx.pure_apply, Prod.mk.injEq, Except.ok.injEq, true_and]
      exact ⟨fun h => ⟨h.1.symm, h.2.symm⟩, fun h => ⟨h.1.symm, h.2.symm⟩⟩

lemma recordDeadLetter_apply (task : TaskRow) (report : FailureReportV1) (reason : String) :
    recordDeadLetter task report reason c = (.ok (c.seq.deadLetterId + 1),
      { c with
        tables := { c.tables with
          agentEvents := c.tables.agentEvents ++ [eventRow c task.taskId task.correlationId
            (.deadLetterCreated (c.seq.deadLetterId + 1) report.failureClass)]
          deadLetters := c.tables.deadLetters ++
            [newDeadLetter task report reason (c.seq.deadLetterId + 1) c.now] }
        seq := { c.seq with
          eventId := c.seq.eventId + 1
          deadLetterId := c.seq.deadLetterId + 1 } }) := by
  simp [recordDeadLetter, Tx.bind_apply, eventRow]

/-- The row that `_record_circuit_failure` leaves for a circuit. -/
def afterFailure (circuitKey : String) (failureClass : FailureClass) (now : Timestamp)
    (old : Option CircuitRow) : CircuitRow :=
  let row := failedCircuit circuitKey failureClass now old
  if row.failureCount < row.failureThreshold then row else openedCircuit now row

@[simp] lemma failedCircuit_none_circuitKey (key : String) (cls : FailureClass) (now : Timestamp) :
    (failedCircuit key cls now none).circuitKey = key := rfl

@[simp] lemma afterFailure_some_circuitKey (key : String) (cls : FailureClass) (now : Timestamp)
    (r : CircuitRow) : (afterFailure key cls now (some r)).circuitKey = r.circuitKey := by
  rw [afterFailure]
  split <;> rfl

@[simp] lemma afterFailure_none_circuitKey (key : String) (cls : FailureClass) (now : Timestamp) :
    (afterFailure key cls now none).circuitKey = key := by
  rw [afterFailure]
  split <;> rfl

/-- The circuits after a counted failure of a route. -/
def failedCircuits (key : String) (failureClass : FailureClass) (now : Timestamp)
    (t : Table CircuitRow.circuitKey) : Table CircuitRow.circuitKey :=
  t.upsert (afterFailure key failureClass now none)
    (fun r => afterFailure key failureClass now (some r)) (fun r => by simp)

/-- Below the threshold the upsert is the whole of a counted failure. -/
lemma failedCircuits_of_lt {key : String} {cls : FailureClass} {now : Timestamp}
    {t : Table CircuitRow.circuitKey}
    (hlt : (failedCircuit key cls now (t.get? key)).failureCount
      < (failedCircuit key cls now (t.get? key)).failureThreshold) :
    t.upsert (failedCircuit key cls now none) (fun r => failedCircuit key cls now (some r))
        (failedCircuit_some_circuitKey key cls now)
      = failedCircuits key cls now t := by
  rw [failedCircuits]
  cases hget : t.get? key with
  | none =>
      rw [hget] at hlt
      rw [Table.upsert_of_none (by exact hget), Table.upsert_of_none (by simpa using hget),
        afterFailure, if_pos hlt]
  | some r =>
      rw [hget] at hlt
      rw [Table.upsert_of_some (q := r) (by exact hget),
        Table.upsert_of_some (q := r) (by simpa using hget)]
      simp only [failedCircuit_none_circuitKey, afterFailure_none_circuitKey]
      refine Table.updateKey_congr fun r' hr' => ?_
      obtain rfl : r = r' := Option.some.inj (hget.symm.trans hr')
      rw [afterFailure, if_pos hlt]

/-- From the threshold on, a counted failure is the upsert and the second
update. -/
lemma failedCircuits_of_not_lt {key : String} {cls : FailureClass} {now : Timestamp}
    {t : Table CircuitRow.circuitKey}
    (hlt : ¬ (failedCircuit key cls now (t.get? key)).failureCount
      < (failedCircuit key cls now (t.get? key)).failureThreshold) :
    (t.upsert (failedCircuit key cls now none) (fun r => failedCircuit key cls now (some r))
        (failedCircuit_some_circuitKey key cls now)).updateKey key (openedCircuit now)
        (openedCircuit_circuitKey now)
      = failedCircuits key cls now t := by
  rw [failedCircuits]
  cases hget : t.get? key with
  | none =>
      -- a first failure stays below the threshold
      rw [hget] at hlt
      exact absurd (by simp [failedCircuit, circuitFailureThreshold]) hlt
  | some r =>
      rw [hget] at hlt
      rw [Table.upsert_of_some (q := r) (by exact hget),
        Table.upsert_of_some (q := r) (by simpa using hget)]
      simp only [failedCircuit_none_circuitKey, afterFailure_none_circuitKey]
      rw [Table.updateKey_updateKey]
      refine Table.updateKey_congr fun r' hr' => ?_
      obtain rfl : r = r' := Option.some.inj (hget.symm.trans hr')
      rw [afterFailure, if_neg hlt]

/-- The two updates of a counted failure are one: the upsert that leaves the
row `afterFailure`. -/
lemma recordCircuitFailure_apply (key : String) (cls : FailureClass) :
    recordCircuitFailure key cls c
      = (.ok (afterFailure key cls c.now (c.tables.circuitBreakers.get? key)),
        { c with tables := { c.tables with
            circuitBreakers := failedCircuits key cls c.now c.tables.circuitBreakers } }) := by
  rw [recordCircuitFailure, Tx.bind_ok (Tx.now_apply c), Tx.bind_ok (Tx.read_apply c _),
    Tx.bind_ok (Tx.write_apply _ _), afterFailure]
  split
  · rename_i hlt
    rw [Tx.pure_apply, ← failedCircuits_of_lt hlt]
  · rename_i hlt
    rw [Tx.bind_ok (Tx.write_apply _ _), Tx.pure_apply,
      ← failedCircuits_of_not_lt hlt]

/-- What a lookup of a circuit returns after a counted failure of a route. -/
lemma get?_failedCircuits (key : String) (cls : FailureClass) (now : Timestamp)
    (t : Table CircuitRow.circuitKey) (k : String) :
    (failedCircuits key cls now t).get? k
      = if k = key then some (afterFailure key cls now (t.get? k)) else t.get? k := by
  rw [failedCircuits, Table.get?_upsert, afterFailure_none_circuitKey]
  by_cases hk : k = key
  · cases hget : t.get? k <;> simp [hk]
  · simp [hk]

/-! ### The loops of the two sweeps -/

/-- The tasks and the events of event rows. -/
def logOf (evs : List EventRow) : List (UUID × HarnessEvent) := evs.map fun e => (e.taskId, e.event)

@[simp] lemma logOf_nil : logOf [] = [] := rfl

@[simp] lemma logOf_cons (e : EventRow) (evs : List EventRow) :
    logOf (e :: evs) = (e.taskId, e.event) :: logOf evs := rfl

/-- A loop that writes one event for each row appends these events and nothing
else. -/
lemma forEach_event (g : TaskRow → HarnessEvent) (rows : List TaskRow) (c : StoreConn) :
    ∃ evs seq, logOf evs = rows.map (fun r => (r.taskId, g r)) ∧
      Tx.forEach (fun row => event row.taskId row.correlationId (g row)) rows c
        = (.ok (), { c with
            tables := { c.tables with agentEvents := c.tables.agentEvents ++ evs }
            seq := seq }) := by
  induction rows generalizing c with
  | nil => exact ⟨[], c.seq, rfl, by simp⟩
  | cons r rows ih =>
      rw [Tx.forEach_cons, Tx.bind_ok (event_apply ..)]
      obtain ⟨evs, seq, hlog, hrun⟩ := ih { c with
        tables := { c.tables with
          agentEvents := c.tables.agentEvents ++ [eventRow c r.taskId r.correlationId (g r)] }
        seq := { c.seq with eventId := c.seq.eventId + 1 } }
      refine ⟨eventRow c r.taskId r.correlationId (g r) :: evs, seq, ?_, ?_⟩
      · rw [logOf_cons, hlog, List.map_cons]
        rfl
      · rw [hrun, List.append_assoc]
        rfl

/-- What the loop of `expire_leases` writes when it returns: two events and a
card for each row. -/
lemma forEach_sweep {recoveryIds : UUID → UUID} {rows : List TaskRow} {u : Unit}
    (h : Tx.forEach (fun row => do
      event row.taskId row.correlationId (.leaseExpired .recoveryRequired)
      let _ ← createRecoveryCard row "lease_expired" sweepReason (recoveryIds row.taskId)
      pure ()) rows c = (.ok u, c')) :
    ∃ evs cards seq,
      logOf evs = rows.flatMap (fun r => [(r.taskId, .leaseExpired .recoveryRequired),
        (r.taskId, .recoveryCardCreated (recoveryIds r.taskId) "lease_expired" allowedActions)]) ∧
      cards.rows = c.tables.recoveryCards.rows ++ rows.map (fun r =>
        newRecoveryCard r "lease_expired" sweepReason (recoveryIds r.taskId) c.now) ∧
      c' = { c with
        tables := { c.tables with
          agentEvents := c.tables.agentEvents ++ evs
          recoveryCards := cards }
        seq := seq } := by
  induction rows generalizing c with
  | nil =>
      obtain ⟨-, rfl⟩ := Prod.mk.inj h
      exact ⟨[], c.tables.recoveryCards, c.seq, rfl, by simp, by simp⟩
  | cons r rows ih =>
      rw [Tx.forEach_cons, Tx.bind_eq_ok] at h
      obtain ⟨_, c₁, h₁, hrest⟩ := h
      simp only [Tx.bind_eq_ok, event_apply, createRecoveryCard_eq_ok, Tx.pure_apply,
        Prod.mk.injEq] at h₁
      obtain ⟨_, _, ⟨-, rfl⟩, _, _, ⟨hfresh, -, rfl⟩, -, rfl⟩ := h₁
      obtain ⟨evs, cards, seq, hlog, hcards, rfl⟩ := ih hrest
      set e₁ := eventRow c r.taskId r.correlationId (.leaseExpired .recoveryRequired)
      set e₂ : EventRow := ⟨c.seq.eventId + 1 + 1, r.taskId, r.correlationId,
        .recoveryCardCreated (recoveryIds r.taskId) "lease_expired" allowedActions, c.now⟩
      refine ⟨e₁ :: e₂ :: evs, cards, seq, ?_, ?_, ?_⟩
      · rw [logOf_cons, logOf_cons, hlog]
        rfl
      · rw [hcards, Table.rows_insert hfresh, List.append_assoc]
        rfl
      · rw [List.append_assoc, List.append_assoc]
        rfl

end Store

end ControlHarness
