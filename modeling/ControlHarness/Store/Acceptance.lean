import ControlHarness.General.Selection
import ControlHarness.Store.StepSpec

/-!
Calls that the store accepts.

The converse of the guards in `Effect`: an operation whose guard holds returns.
A receipt from the owner of a task in execution is accepted, and so is an
admitted failure report whose side effects are known; neither looks at the
lease. What draws an identifier also needs it to be fresh, and what grants a
lease an interval that the database can make.
-/

namespace ControlHarness

namespace Store

variable {c : StoreConn}

/-- A status change that the table has runs when the row has the expected
status. -/
lemma setStatus_ok {taskId : UUID} {expected target : TaskStatus} {r : TaskRow}
    (hmem : target ∈ transitions expected) (hr : c.tables.agentTasks.get? taskId = some r)
    (hstatus : r.status = expected) :
    setStatus taskId expected target c = (.ok (), { c with tables := { c.tables with
      agentTasks := c.tables.agentTasks.updateKey taskId (movedRow target)
        (movedRow_taskId target) } }) :=
  setStatus_eq_ok.mpr ⟨hmem, ⟨r, hr, hstatus⟩, rfl⟩

/-- The status part of a receipt runs to a connection where the task is in
progress. -/
lemma startProgress_ok {task : TaskRow} (hrow : c.tables.agentTasks.get? task.taskId = some task)
    (hexec : task.status.IsExecution) :
    ∃ c' row, startProgress task c = (.ok (), c') ∧
      c'.tables.agentTasks.get? task.taskId = some row ∧ row.status = .inProgress := by
  rw [startProgress]
  rcases hexec with hclaimed | hprogress
  · rw [if_pos hclaimed]
    refine ⟨_, movedRow .inProgress task, setStatus_ok (by rw [hclaimed]; decide) hrow rfl, ?_, rfl⟩
    rw [Table.get?_updateKey, if_pos rfl, hrow]
    rfl
  · rw [if_neg (by rw [hprogress]; decide)]
    exact ⟨c, task, rfl, hrow, hprogress⟩

lemma receiptTarget_mem (task : TaskRow) (outcome : ReceiptOutcome) :
    receiptTarget task outcome ∈ transitions .inProgress := by
  cases outcome with
  | completed =>
      rw [receiptTarget]
      split <;> decide
  | failed | blocked =>
      rw [receiptTarget]
      decide

/-- A receipt from the owner of a task in execution runs to its end. -/
lemma acceptReceipt_ok {receipt : ResultReceiptV1} {task : TaskRow}
    (hrow : c.tables.agentTasks.get? receipt.taskId = some task)
    (hexec : task.status.IsExecution) : ∃ row c', acceptReceipt task receipt c = (.ok row, c') := by
  have hkey : task.taskId = receipt.taskId := Table.key_of_get? hrow
  obtain ⟨c₁, started, hstart, hrow₁, hstatus⟩ := startProgress_ok (hkey ▸ hrow) hexec
  have hset := setStatus_ok (receiptTarget_mem task receipt.outcome) hrow₁ hstatus
  obtain ⟨evs, seq, -, hclose⟩ := closeCircuit_apply task (receiptTarget task receipt.outcome) _
  rw [acceptReceipt, if_neg (not_not.mpr hexec), Tx.bind_ok hstart, Tx.bind_ok hset,
    Tx.bind_ok (Tx.now_apply _), Tx.bind_ok (Tx.draw_apply _ _), Tx.bind_ok (Tx.write_apply _ _),
    Tx.bind_ok (event_apply _ _ _), Tx.bind_ok hclose, Tx.bind_ok (selectTask_apply _)]
  simp only [Table.get?_updateKey, ← hkey, if_true, hrow₁, Option.map_some]
  exact ⟨_, _, rfl⟩

/-- The statuses that a failure report may lead to from an execution status. -/
lemma mem_transitions_of_isExecution {s target : TaskStatus} (hs : s.IsExecution)
    (htarget : target ∈ [.blocked, .failed, .recoveryRequired, .retryWait, .awaitingDecision]) :
    target ∈ transitions s := by
  rcases hs with rfl | rfl
  · exact List.mem_cons_of_mem _ htarget
  · exact List.mem_cons_of_mem _ (List.mem_cons_of_mem _ htarget)

/-- A retryable failure of a task in execution runs to its end. -/
lemma retryOrDeadLetter_ok {task : TaskRow} {report : FailureReportV1}
    {circuit : Option CircuitRow}
    (hrow : c.tables.agentTasks.get? task.taskId = some task) (hexec : task.status.IsExecution) :
    ∃ d c', retryOrDeadLetter task report circuit c = (.ok d, c') := by
  rw [retryOrDeadLetter, Tx.bind_ok (Tx.now_apply c)]
  split
  · have hmem : .retryWait ∈ transitions task.status :=
      mem_transitions_of_isExecution hexec (by simp)
    have hset := setStatus_ok hmem hrow rfl
    rw [Tx.bind_ok hset]
    rcases updateTask_apply (c := { c with tables := { c.tables with
          agentTasks := c.tables.agentTasks.updateKey task.taskId (movedRow .retryWait)
            (movedRow_taskId _) } }) task.taskId (fun _ _ => true)
        (scheduledRow (c.now + seconds (delayBeforeRetry task report circuit)) report.failureClass
          task.circuitKey) (scheduledRow_taskId _ _ _) with ⟨r, -, -, hupd⟩ | ⟨-, hupd⟩
    · rw [Tx.bind_ok hupd, Tx.bind_ok (event_apply _ _ _)]
      exact ⟨_, _, rfl⟩
    · rw [Tx.bind_ok hupd, Tx.bind_ok (event_apply _ _ _)]
      exact ⟨_, _, rfl⟩
  · have hmem : .failed ∈ transitions task.status :=
      mem_transitions_of_isExecution hexec (by simp)
    have hset := setStatus_ok hmem hrow rfl
    rw [Tx.bind_ok hset, Tx.bind_ok (recordDeadLetter_apply _ _ _)]
    exact ⟨_, _, rfl⟩

/-- A failure of a task in execution whose side effects are known runs to its
end. -/
lemma handleFailure_ok {task : TaskRow} (report : FailureReportV1)
    (hrow : c.tables.agentTasks.get? task.taskId = some task) (hexec : task.status.IsExecution) :
    ∃ d c', handleFailure task report c = (.ok d, c') := by
  obtain ⟨c₁, hrow₁, hcount⟩ : ∃ c₁, c₁.tables.agentTasks.get? task.taskId = some task ∧
      countFailure task report c
        = (.ok (circuitAfter c.tables c.now task report.failureClass), c₁) :=
    ⟨_, hrow, countFailure_apply task report⟩
  rw [handleFailure, Tx.bind_ok hcount]
  split
  · exact retryOrDeadLetter_ok hrow₁ hexec
  split
  · rw [Tx.bind_ok (setStatus_ok (mem_transitions_of_isExecution hexec (by simp)) hrow₁ rfl)]
    exact ⟨_, _, rfl⟩
  split
  · rw [Tx.bind_ok (setStatus_ok (mem_transitions_of_isExecution hexec (by simp)) hrow₁ rfl)]
    exact ⟨_, _, rfl⟩
  · rw [Tx.bind_ok (setStatus_ok (mem_transitions_of_isExecution hexec (by simp)) hrow₁ rfl),
      Tx.bind_ok (recordDeadLetter_apply _ _ _)]
    exact ⟨_, _, rfl⟩

/-- An interval of a number of minutes that the database can make. -/
def IntervalMins (n : ℤ) : Prop := -2147483648 ≤ n ∧ n ≤ 2147483647

instance (n : ℤ) : Decidable (IntervalMins n) := inferInstanceAs (Decidable (_ ∧ _))

lemma makeIntervalMins_ok {n : ℤ} (h : IntervalMins n) :
    makeIntervalMins n c = (.ok (minutes n), c) := makeIntervalMins_eq_ok.mpr ⟨h, rfl, rfl⟩

lemma makeIntervalMins_error {n : ℤ} (h : ¬ IntervalMins n) :
    makeIntervalMins n c
      = (.error (.database "function make_interval(mins => bigint) does not exist"), c) := by
  have hout : ¬ (-2147483648 ≤ n ∧ n ≤ 2147483647) := h
  rw [makeIntervalMins, if_neg hout]
  rfl

/-- A conditional update of one row that meets the condition. -/
lemma updateTask_ok {taskId : UUID} {p : Tables → TaskRow → Bool} {f : TaskRow → TaskRow}
    {hf : ∀ r, (f r).taskId = r.taskId} {r : TaskRow}
    (hr : c.tables.agentTasks.get? taskId = some r) (hp : p c.tables r = true) :
    updateTask taskId p f hf c = (.ok (some (f r)), { c with tables := { c.tables with
      agentTasks := c.tables.agentTasks.updateKey taskId f hf } }) := by
  rcases updateTask_apply (c := c) taskId p f hf with ⟨r', hr', -, hrun⟩ | ⟨hnone, -⟩
  · obtain rfl : r = r' := Option.some.inj (hr.symm.trans hr')
    exact hrun
  · rw [hr, Option.filter_some, if_pos hp] at hnone
    exact absurd hnone (by simp)

lemma createRecoveryCard_ok {task : TaskRow} (trigger reason : String) {recoveryId : UUID}
    (hfresh : c.tables.recoveryCards.get? recoveryId = none) :
    createRecoveryCard task trigger reason recoveryId c = (.ok recoveryId, { c with
      tables := { c.tables with
        agentEvents := c.tables.agentEvents ++ [eventRow c task.taskId task.correlationId
          (.recoveryCardCreated recoveryId trigger allowedActions)]
        recoveryCards := c.tables.recoveryCards.insert
          (newRecoveryCard task trigger reason recoveryId c.now) }
      seq := { c.seq with eventId := c.seq.eventId + 1 } }) :=
  createRecoveryCard_eq_ok.mpr ⟨hfresh, rfl, rfl⟩

/-- The card of a swept task. -/
def sweepCard (recoveryIds : UUID → UUID) (now : Timestamp) (r : TaskRow) : RecoveryCardRow :=
  newRecoveryCard r "lease_expired" sweepReason (recoveryIds r.taskId) now

/-- The loop of `expire_leases` runs to its end when the drawn identifiers are
fresh and distinct. -/
lemma forEach_sweep_ok (recoveryIds : UUID → UUID) (rows : List TaskRow)
    {cards : Table RecoveryCardRow.recoveryId}
    (hcards : c.tables.recoveryCards.append? (rows.map (sweepCard recoveryIds c.now))
      = some cards) :
    ∃ c', Tx.forEach (fun row => do
      event row.taskId row.correlationId (.leaseExpired .recoveryRequired)
      let _ ← createRecoveryCard row "lease_expired" sweepReason (recoveryIds row.taskId)
      pure ()) rows c = (.ok (), c') := by
  induction rows generalizing c with
  | nil => exact ⟨c, rfl⟩
  | cons r rows ih =>
      rw [List.map_cons] at hcards
      obtain ⟨hfresh, hrest⟩ := Table.append?_cons hcards
      obtain ⟨c₁, hbody, hcards₁, hnow⟩ : ∃ c₁ : StoreConn, (do
          event r.taskId r.correlationId (.leaseExpired .recoveryRequired)
          let _ ← createRecoveryCard r "lease_expired" sweepReason (recoveryIds r.taskId)
          pure () : StoreTx Unit) c = (.ok (), c₁) ∧
          c₁.tables.recoveryCards
            = c.tables.recoveryCards.insert (sweepCard recoveryIds c.now r) ∧
          c₁.now = c.now := by
        rw [Tx.bind_ok (event_apply _ _ _),
          Tx.bind_ok (createRecoveryCard_ok _ _ (by exact hfresh))]
        exact ⟨_, rfl, rfl, rfl⟩
      rw [Tx.forEach_cons, Tx.bind_ok hbody]
      exact ih (by rw [hcards₁, hnow]; exact hrest)

/-- The answer of a call whose program returned. -/
lemma out_of_run {call : Call} {db : Db} {a : Reply} {c' : StoreConn}
    (hrun : call.op.program ⟨db.tables, db.tables, db.seq, call.now⟩ = (.ok a, c')) :
    store.out call db = .ok a := congrArg Prod.fst (Tx.connect_ok hrun)

/-- The answer of a call whose program raised. -/
lemma out_of_error {call : Call} {db : Db} {e : Raised} {c' : StoreConn}
    (hrun : call.op.program ⟨db.tables, db.tables, db.seq, call.now⟩ = (.error e, c')) :
    store.out call db = .error e := congrArg Prod.fst (Tx.connect_error hrun)

end Store

open Store in
/-- **A receipt from the owner of a task in execution is accepted**, whatever
its lease says. -/
theorem submitReceipt_accepted {db : Db} {receipt : ResultReceiptV1} {task : TaskRow}
    (now : Timestamp) (hrow : db.tables.agentTasks.get? receipt.taskId = some task)
    (hown : task.ownerInstance = some receipt.workerInstance)
    (hexec : task.status.IsExecution) :
    ∃ row, store.out ⟨.submitReceipt receipt, now⟩ db = .ok (.row row) := by
  obtain ⟨row, c', haccept⟩ :=
    acceptReceipt_ok (c := ⟨db.tables, db.tables, db.seq, now⟩) hrow hexec
  have hrun : submitReceipt receipt ⟨db.tables, db.tables, db.seq, now⟩ = (.ok row, c') := by
    rw [submitReceipt, Tx.bind_ok (selectTask_apply _)]
    dsimp only
    rw [hrow]
    dsimp only
    rw [if_neg (not_not.mpr hown)]
    exact haccept
  exact ⟨row, out_of_run (Tx.bind_ok hrun)⟩

open Store in
/-- **An admitted failure report with known side effects is accepted**, whatever
the lease of its task says. -/
theorem reportFailure_accepted {db : Db} {report : FailureReportV1} {task : TaskRow}
    (recoveryId : UUID) (now : Timestamp)
    (hrow : db.tables.agentTasks.get? report.taskId = some task) (hadm : Admitted report task)
    (hrec : requiresRecovery report.failureClass report.sideEffectState = false) :
    ∃ d, store.out ⟨.reportFailure report recoveryId, now⟩ db = .ok (.decision d) := by
  have hkey : task.taskId = report.taskId := Table.key_of_get? hrow
  obtain ⟨d, c', hhandle⟩ := handleFailure_ok report
    (c := afterClassified ⟨db.tables, db.tables, db.seq, now⟩ task report) (hkey ▸ hrow)
    hadm.execution
  have hrun : reportFailure report recoveryId ⟨db.tables, db.tables, db.seq, now⟩
      = (.ok d, c') := by
    rw [reportFailure, Tx.bind_ok (selectTask_apply _)]
    dsimp only
    rw [hrow]
    dsimp only
    rw [if_neg (not_not.mpr hadm.correlation), if_neg (not_not.mpr hadm.owner),
      if_neg (not_not.mpr hadm.execution), Tx.bind_ok (event_apply _ _ _), if_neg hadm.circuit,
      hrec, if_neg Bool.false_ne_true]
    exact hhandle
  exact ⟨d, out_of_run (Tx.bind_ok hrun)⟩

open Store

section

variable {db : Db} (now : Timestamp)

lemma createTask_existing {card : TaskCardV1} {route : String} {row : TaskRow}
    (hroute : card.modelRouting.defaultRoute.head? = some route)
    (hkey : db.tables.agentTasks.rows.find? (fun r => r.idempotencyKey = card.idempotencyKey)
      = some row) :
    store.out ⟨.createTask card, now⟩ db = .ok (.created row false) := by
  obtain ⟨rest, hlist⟩ : ∃ rest, card.modelRouting.defaultRoute = route :: rest :=
    List.head?_eq_some_iff.mp hroute
  have hrun : createTask card ⟨db.tables, db.tables, db.seq, now⟩
      = (.ok (row, false), ⟨db.tables, db.tables, db.seq, now⟩) := by
    rw [createTask, hlist]
    dsimp only
    rw [Tx.bind_ok (Tx.now_apply _), Tx.bind_ok (Tx.read_apply _ _), hkey]
    rfl
  exact out_of_run (Tx.bind_ok hrun)

lemma createTask_created {card : TaskCardV1} {route : String}
    (hroute : card.modelRouting.defaultRoute.head? = some route)
    (hkey : db.tables.agentTasks.rows.find? (fun r => r.idempotencyKey = card.idempotencyKey)
      = none) (hfresh : db.tables.agentTasks.get? card.taskId = none) :
    store.out ⟨.createTask card, now⟩ db = .ok (.created (newTask card route now) true) := by
  obtain ⟨rest, hlist⟩ : ∃ rest, card.modelRouting.defaultRoute = route :: rest :=
    List.head?_eq_some_iff.mp hroute
  have hrun : ∃ c', createTask card ⟨db.tables, db.tables, db.seq, now⟩
      = (.ok (newTask card route now, true), c') := by
    rw [createTask, hlist]
    dsimp only
    rw [Tx.bind_ok (Tx.now_apply _), Tx.bind_ok (Tx.read_apply _ _), hkey]
    dsimp only
    rw [Tx.bind_ok (Tx.read_apply _ _), hfresh, Option.isSome_none, if_neg Bool.false_ne_true,
      Tx.bind_ok (Tx.write_apply _ _), Tx.bind_ok (event_apply _ _ _)]
    exact ⟨_, rfl⟩
  obtain ⟨c', hrun⟩ := hrun
  exact out_of_run (Tx.bind_ok hrun)

lemma claim_accepted {taskId : UUID} (role worker : String) {mins : ℤ} {row : TaskRow}
    (hmins : IntervalMins mins) (hrow : db.tables.agentTasks.get? taskId = some row)
    (hclaim : claimable now db.tables row = true) :
    store.out ⟨.claim taskId role worker mins, now⟩ db
      = .ok (.claimed (some (claimedRow role worker (minutes mins) now row))) := by
  have hrun : ∃ c', claim taskId role worker mins ⟨db.tables, db.tables, db.seq, now⟩
      = (.ok (some (claimedRow role worker (minutes mins) now row)), c') := by
    rw [claim, Tx.bind_ok (Tx.now_apply _), Tx.bind_ok (makeIntervalMins_ok hmins),
      Tx.bind_ok (updateTask_ok hrow hclaim)]
    dsimp only
    rw [Tx.bind_ok (event_apply _ _ _)]
    exact ⟨_, rfl⟩
  obtain ⟨c', hrun⟩ := hrun
  exact out_of_run (Tx.bind_ok hrun)

/-- A claim or heartbeat whose interval the database cannot make raises. -/
lemma claim_interval {taskId : UUID} {role worker : String} {mins : ℤ} (h : ¬ IntervalMins mins) :
    ∃ e, store.out ⟨.claim taskId role worker mins, now⟩ db = .error e := by
  obtain ⟨e, c', hclaim⟩ : ∃ e c', claim taskId role worker mins
      ⟨db.tables, db.tables, db.seq, now⟩ = (.error e, c') := by
    rw [claim, Tx.bind_ok (Tx.now_apply _), Tx.bind_error (makeIntervalMins_error h)]
    exact ⟨_, _, rfl⟩
  exact ⟨e, out_of_error (Tx.bind_error hclaim)⟩

lemma heartbeat_interval {taskId : UUID} {worker : String} {mins : ℤ} (h : ¬ IntervalMins mins) :
    ∃ e, store.out ⟨.heartbeat taskId worker mins, now⟩ db = .error e := by
  obtain ⟨e, c', hbeat⟩ : ∃ e c', heartbeat taskId worker mins
      ⟨db.tables, db.tables, db.seq, now⟩ = (.error e, c') := by
    rw [heartbeat, Tx.bind_ok (Tx.now_apply _), Tx.bind_error (makeIntervalMins_error h)]
    exact ⟨_, _, rfl⟩
  exact ⟨e, out_of_error (Tx.bind_error hbeat)⟩

lemma heartbeat_accepted {taskId : UUID} {worker : String} {mins : ℤ} {row : TaskRow}
    (hmins : IntervalMins mins) (hrow : db.tables.agentTasks.get? taskId = some row)
    (hrenew : renewable worker now row = true) :
    store.out ⟨.heartbeat taskId worker mins, now⟩ db
      = .ok (.row (renewedRow (minutes mins) now row)) := by
  have hrun : ∃ c', heartbeat taskId worker mins ⟨db.tables, db.tables, db.seq, now⟩
      = (.ok (renewedRow (minutes mins) now row), c') := by
    rw [heartbeat, Tx.bind_ok (Tx.now_apply _), Tx.bind_ok (makeIntervalMins_ok hmins),
      Tx.bind_ok (updateTask_ok hrow hrenew)]
    exact ⟨_, rfl⟩
  obtain ⟨c', hrun⟩ := hrun
  exact out_of_run (Tx.bind_ok hrun)

lemma expireLeases_accepted {recoveryIds : UUID → UUID} {cards : Table RecoveryCardRow.recoveryId}
    (hcards : db.tables.recoveryCards.append?
      ((db.tables.agentTasks.rows.filter (expired now)).map (sweepCard recoveryIds now))
        = some cards) :
    ∃ rows, store.out ⟨.expireLeases recoveryIds, now⟩ db = .ok (.rows rows) := by
  have hmap : ((db.tables.agentTasks.rows.filter (expired now)).map sweptRow).map
      (sweepCard recoveryIds now)
      = (db.tables.agentTasks.rows.filter (expired now)).map (sweepCard recoveryIds now) := by
    rw [List.map_map]
    rfl
  obtain ⟨c', hloop⟩ := forEach_sweep_ok recoveryIds
    ((db.tables.agentTasks.rows.filter (expired now)).map sweptRow)
    (c := ⟨{ db.tables with agentTasks :=
      db.tables.agentTasks.updateWhere (expired now) sweptRow sweptRow_taskId }, db.tables,
      db.seq, now⟩) (hmap ▸ hcards)
  have hrun : ∃ rows c', expireLeases recoveryIds ⟨db.tables, db.tables, db.seq, now⟩
      = (.ok rows, c') := by
    rw [expireLeases, Tx.bind_ok (Tx.now_apply _), Tx.bind_ok (updateTasks_apply _ _ _),
      Tx.bind_ok hloop]
    exact ⟨_, _, rfl⟩
  obtain ⟨rows, c', hrun⟩ := hrun
  exact ⟨rows, out_of_run (Tx.bind_ok hrun)⟩

lemma releaseDueRetries_accepted (db : Db) :
    ∃ rows, store.out ⟨.releaseDueRetries, now⟩ db = .ok (.rows rows) := by
  have hrun : ∃ rows c', releaseDueRetries ⟨db.tables, db.tables, db.seq, now⟩
      = (.ok rows, c') := by
    rw [releaseDueRetries, Tx.bind_ok (Tx.now_apply _), Tx.bind_ok (updateTasks_apply _ _ _)]
    obtain ⟨evs, seq, -, hloop⟩ := forEach_event
      (fun row => .retryReleased (row.attemptCount + 1)) _ _
    rw [Tx.bind_ok hloop]
    exact ⟨_, _, rfl⟩
  obtain ⟨rows, c', hrun⟩ := hrun
  exact ⟨rows, out_of_run (Tx.bind_ok hrun)⟩

/-- An admitted failure report that requires recovery is accepted when the
identifier of its card is fresh. -/
lemma reportFailure_recovery {report : FailureReportV1} {recoveryId : UUID} {task : TaskRow}
    (hrow : db.tables.agentTasks.get? report.taskId = some task) (hadm : Admitted report task)
    (hrec : requiresRecovery report.failureClass report.sideEffectState = true)
    (hfresh : db.tables.recoveryCards.get? recoveryId = none) :
    ∃ d, store.out ⟨.reportFailure report recoveryId, now⟩ db = .ok (.decision d) := by
  have hkey : task.taskId = report.taskId := Table.key_of_get? hrow
  have hrun : ∃ d c', reportFailure report recoveryId ⟨db.tables, db.tables, db.seq, now⟩
      = (.ok d, c') := by
    rw [reportFailure, Tx.bind_ok (selectTask_apply _)]
    dsimp only
    rw [hrow]
    dsimp only
    rw [if_neg (not_not.mpr hadm.correlation), if_neg (not_not.mpr hadm.owner),
      if_neg (not_not.mpr hadm.execution), Tx.bind_ok (event_apply _ _ _), if_neg hadm.circuit,
      hrec, if_pos rfl,
      Tx.bind_ok (setStatus_ok (mem_transitions_of_isExecution hadm.execution (by simp))
        (hkey ▸ hrow) rfl), Tx.bind_ok (createRecoveryCard_ok _ _ (by exact hfresh))]
    exact ⟨_, _, rfl⟩
  obtain ⟨d, c', hrun⟩ := hrun
  exact ⟨d, out_of_run (Tx.bind_ok hrun)⟩

lemma requestApproval_accepted {card : ApprovalCardV1} {task : TaskRow}
    (hrow : db.tables.agentTasks.get? card.taskId = some task) (hreview : task.status = .review)
    (hfresh : db.tables.approvals.get? card.approvalId = none) :
    ∃ answer, store.out ⟨.requestApproval card, now⟩ db = .ok (.approval answer) := by
  have hmem : .awaitingApproval ∈ transitions task.status := by
    rw [hreview]
    decide
  have hrun : ∃ answer c', requestApproval card ⟨db.tables, db.tables, db.seq, now⟩
      = (.ok answer, c') := by
    rw [requestApproval, Tx.bind_ok (selectTask_apply _)]
    dsimp only
    rw [hrow]
    dsimp only
    rw [Tx.bind_ok (setStatus_ok hmem hrow rfl), Tx.bind_ok (Tx.now_apply _),
      Tx.bind_ok (Tx.read_apply _ _)]
    dsimp only
    rw [hfresh, Option.isSome_none, if_neg Bool.false_ne_true, Tx.bind_ok (Tx.write_apply _ _),
      Tx.bind_ok (event_apply _ _ _)]
    exact ⟨_, _, rfl⟩
  obtain ⟨answer, c', hrun⟩ := hrun
  exact ⟨answer, out_of_run (Tx.bind_ok hrun)⟩

lemma decideApproval_accepted {approvalId : UUID} {decision : String} {d : Decision}
    {approval : ApprovalRow} {task : TaskRow} (decidedBy reason : String)
    (hd : Decision.ofText decision = some d)
    (happ : db.tables.approvals.get? approvalId = some approval)
    (hopen : approval.status = .requested)
    (hrow : db.tables.agentTasks.get? approval.taskId = some task)
    (hstatus : decisionTarget d ∈ transitions task.status) :
    ∃ answer, store.out ⟨.decideApproval approvalId decision decidedBy reason, now⟩ db
      = .ok (.approval answer) := by
  have hkey : task.taskId = approval.taskId := Table.key_of_get? hrow
  have hrun : ∃ answer c', decideApproval approvalId decision decidedBy reason
      ⟨db.tables, db.tables, db.seq, now⟩ = (.ok answer, c') := by
    rw [decideApproval, hd]
    dsimp only
    rw [Tx.bind_ok (Tx.read_apply _ _)]
    dsimp only
    rw [happ]
    dsimp only
    rw [if_neg (not_not.mpr hopen), Tx.bind_ok (selectTask_apply _)]
    dsimp only
    rw [hrow]
    dsimp only
    rw [Tx.bind_ok (Tx.now_apply _), Tx.bind_ok (Tx.write_apply _ _),
      Tx.bind_ok (setStatus_ok hstatus (hkey ▸ hrow) rfl), Tx.bind_ok (event_apply _ _ _)]
    exact ⟨_, _, rfl⟩
  obtain ⟨answer, c', hrun⟩ := hrun
  exact ⟨answer, out_of_run (Tx.bind_ok hrun)⟩

lemma transition_accepted {taskId : UUID} {target : TaskStatus} {task : TaskRow}
    (reason : String) (hrow : db.tables.agentTasks.get? taskId = some task)
    (hstatus : target ∈ transitions task.status) :
    ∃ row, store.out ⟨.transition taskId target reason, now⟩ db = .ok (.row row) := by
  have hrun : ∃ row c', transition taskId target reason ⟨db.tables, db.tables, db.seq, now⟩
      = (.ok row, c') := by
    rw [transition, Tx.bind_ok (selectTask_apply _)]
    dsimp only
    rw [hrow]
    dsimp only
    rw [Tx.bind_ok (setStatus_ok hstatus hrow rfl), Tx.bind_ok (event_apply _ _ _),
      Tx.bind_ok (selectTask_apply _)]
    simp only [Table.get?_updateKey, if_true, hrow, Option.map_some]
    exact ⟨_, _, rfl⟩
  obtain ⟨row, c', hrun⟩ := hrun
  exact ⟨row, out_of_run (Tx.bind_ok hrun)⟩

end

end ControlHarness
