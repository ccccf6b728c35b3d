import ControlHarness.Store.Programs

/-!
What one operation of the store does, said once.

`Effect now s op reply s'`: run at time `now` on the tables `s`, the operation
`op` may answer `reply` and leave the tables `s'`. There is one constructor for
each way an operation ends, with the guards that held and the tables it leaves;
the numbers of the event rows are left open. `store_effect` proves it of every
call of the store, and all later facts about single steps are read off it.

The two rejections that are put on record are the constructors
`heartbeatRejected` and `receiptRejected`; every other error leaves the tables
as they were (`failed`).
-/

namespace ControlHarness

namespace Store

@[simp] lemma newTask_taskId (card : TaskCardV1) (route : String) (now : Timestamp) :
    (newTask card route now).taskId = card.taskId := rfl

/-- The row that a scheduled retry leaves. -/
def retriedRow (retryAt : Timestamp) (cls : FailureClass) (key : Option String) (r : TaskRow) :
    TaskRow := scheduledRow retryAt cls key (movedRow .retryWait r)

@[simp] lemma retriedRow_taskId (retryAt : Timestamp) (cls : FailureClass) (key : Option String)
    (r : TaskRow) : (retriedRow retryAt cls key r).taskId = r.taskId := by
  rw [retriedRow, scheduledRow_taskId, movedRow_taskId]

@[simp] lemma movedRow_status (target : TaskStatus) (row : TaskRow) :
    (movedRow target row).status = target := by
  rw [movedRow]
  split <;> rfl

@[simp] lemma retriedRow_status (retryAt : Timestamp) (cls : FailureClass) (key : Option String)
    (row : TaskRow) : (retriedRow retryAt cls key row).status = .retryWait := by
  rw [retriedRow]
  exact movedRow_status .retryWait row

@[simp] lemma movedRow_attemptCount (target : TaskStatus) (row : TaskRow) :
    (movedRow target row).attemptCount = row.attemptCount := by
  rw [movedRow]
  split <;> rfl

@[simp] lemma movedRow_ownerInstance (target : TaskStatus) (row : TaskRow) :
    (movedRow target row).ownerInstance = row.ownerInstance := by
  rw [movedRow]
  split <;> rfl

@[simp] lemma movedRow_heartbeatAt (target : TaskStatus) (row : TaskRow) :
    (movedRow target row).heartbeatAt = row.heartbeatAt := by
  rw [movedRow]
  split <;> rfl

@[simp] lemma movedRow_card (target : TaskStatus) (row : TaskRow) :
    (movedRow target row).card = row.card := by
  rw [movedRow]
  split <;> rfl

/-- No lease is left outside the execution statuses. -/
lemma movedRow_leaseExpiresAt {target : TaskStatus} (h : ¬ target.IsExecution) (row : TaskRow) :
    (movedRow target row).leaseExpiresAt = none := by
  rw [movedRow, if_neg h]

/-- A move between execution statuses keeps the lease. -/
lemma movedRow_lease_execution {target : TaskStatus} (h : target.IsExecution) (row : TaskRow) :
    (movedRow target row).leaseExpiresAt = row.leaseExpiresAt := by
  rw [movedRow, if_pos h]

@[simp] lemma retriedRow_attemptCount (retryAt : Timestamp) (cls : FailureClass)
    (key : Option String) (row : TaskRow) :
    (retriedRow retryAt cls key row).attemptCount = row.attemptCount := by
  rw [retriedRow]
  exact movedRow_attemptCount .retryWait row

@[simp] lemma retriedRow_card (retryAt : Timestamp) (cls : FailureClass) (key : Option String)
    (row : TaskRow) : (retriedRow retryAt cls key row).card = row.card := by
  rw [retriedRow]
  exact movedRow_card .retryWait row

@[simp] lemma retriedRow_leaseExpiresAt (retryAt : Timestamp) (cls : FailureClass)
    (key : Option String) (row : TaskRow) :
    (retriedRow retryAt cls key row).leaseExpiresAt = none := by
  rw [retriedRow]
  exact movedRow_leaseExpiresAt (show ¬ TaskStatus.retryWait.IsExecution by decide) row

/-- The event row of a task, under some number. -/
def logged (now : Timestamp) (eventId : ℕ) (task : TaskRow) (e : HarnessEvent) : EventRow :=
  ⟨eventId, task.taskId, task.correlationId, e, now⟩

/-- The checks that a failure report on a task passes: correlation, owner and
status fit, and a circuit key in the report is the task's. -/
structure Admitted (report : FailureReportV1) (task : TaskRow) : Prop where
  correlation : task.correlationId = report.correlationId
  owner : task.ownerInstance = some report.workerInstance
  execution : task.status.IsExecution
  circuit : ¬ (report.circuitKey.any (· ≠ "") ∧ report.circuitKey ≠ task.circuitKey)

/-- The circuit of a task that a failure of a class counts against. -/
def countedCircuit (task : TaskRow) (cls : FailureClass) : Option String :=
  task.circuitKey.filter fun key => decide (key ≠ "" ∧ cls ∈ circuitFailures)

/-- The row of the counted circuit after the failure. -/
def circuitAfter (s : Tables) (now : Timestamp) (task : TaskRow) (cls : FailureClass) :
    Option CircuitRow :=
  (countedCircuit task cls).map fun key => afterFailure key cls now (s.circuitBreakers.get? key)

/-- The circuits after a failure of the task. -/
def circuitsAfter (s : Tables) (now : Timestamp) (task : TaskRow) (cls : FailureClass) :
    Table CircuitRow.circuitKey :=
  (countedCircuit task cls).elim s.circuitBreakers fun key =>
    failedCircuits key cls now s.circuitBreakers

/-- The first event of an admitted failure report. -/
def classified (task : TaskRow) (report : FailureReportV1) : HarnessEvent :=
  .failureClassified report.failureClass report.sideEffectState task.circuitKey

/-- The circuit that a receipt closes, if the task has one and moved to
review. -/
def closedKey (task : TaskRow) (target : TaskStatus) : Option String :=
  task.circuitKey.filter fun key => decide (target = .review ∧ key ≠ "")

/-- The circuits after a receipt. -/
def circuitsClosed (s : Tables) (now : Timestamp) (task : TaskRow) (target : TaskStatus) :
    Table CircuitRow.circuitKey :=
  (closedKey task target).elim s.circuitBreakers fun key =>
    s.circuitBreakers.updateKey key (closedCircuit now) (closedCircuit_circuitKey now)

/-- The events after the acceptance of a receipt: the closing of the circuit,
where there is one. -/
def closingEvents (s : Tables) (task : TaskRow) (target : TaskStatus) : List HarnessEvent :=
  ((closedKey task target).filter fun key => (s.circuitBreakers.get? key).isSome).toList.map
    .circuitClosed

/-- The event of an accepted receipt. -/
def accepted (task : TaskRow) (receipt : ResultReceiptV1) : HarnessEvent :=
  .receiptAccepted receipt.outcome (receiptTarget task receipt.outcome)
    receipt.costReceipt.modelRef receipt.costReceipt.providerClass

/-- The row after a receipt. -/
def receiptRow (task : TaskRow) (receipt : ResultReceiptV1) : TaskRow :=
  movedRow (receiptTarget task receipt.outcome) task

/-- The events of a lease that `expire_leases` finds expired. -/
def sweepEvents (recoveryIds : UUID → UUID) (row : TaskRow) : List HarnessEvent :=
  [.leaseExpired .recoveryRequired,
    .recoveryCardCreated (recoveryIds row.taskId) "lease_expired" allowedActions]

/-- A receipt leads to one of four statuses. -/
lemma receiptTarget_mem_closing (task : TaskRow) (outcome : ReceiptOutcome) :
    receiptTarget task outcome ∈ [.review, .done, .failed, .blocked] := by
  cases outcome with
  | completed =>
      rw [receiptTarget]
      split <;> decide
  | failed | blocked =>
      rw [receiptTarget]
      decide

lemma receiptTarget_ne {target : TaskStatus} (h : target ∉ [.review, .done, .failed, .blocked])
    (task : TaskRow) (outcome : ReceiptOutcome) : receiptTarget task outcome ≠ target := by
  rintro rfl
  exact h (receiptTarget_mem_closing task outcome)

/-- No receipt leads back to an execution status. -/
lemma not_isExecution_receiptTarget (task : TaskRow) (outcome : ReceiptOutcome) :
    ¬ (receiptTarget task outcome).IsExecution := by
  rintro (h | h) <;> exact receiptTarget_ne (by decide) task outcome h

/-- The ways a failure report ends in a dead letter. -/
def EndsInDeadLetter (report : FailureReportV1) (row : TaskRow) (reason : String) : Prop :=
  report.failureClass ∈ retryableFailures ∧ row.card.budget.maxAttempts ≤ row.attemptCount ∧
      reason = "retry budget exhausted: " ++ report.reason
    ∨ report.failureClass = .permanent ∧ reason = report.reason

end Store

open Store in
/-- **What a call does**: the ways an operation ends, with the guards that held,
the answer and the tables it leaves. -/
inductive Effect (now : Timestamp) (s : Tables) : Op → Except Raised Reply → Tables → Prop where
  | failed (op : Op) (e : Raised) : Effect now s op (.error e) s
  | existing (card : TaskCardV1) (route : String) (row : TaskRow)
      (hroute : card.modelRouting.defaultRoute.head? = some route)
      (hkey : s.agentTasks.rows.find? (fun r => r.idempotencyKey = card.idempotencyKey)
        = some row) :
      Effect now s (.createTask card) (.ok (.created row false)) s
  | created (card : TaskCardV1) (route : String) (eventId : ℕ)
      (hroute : card.modelRouting.defaultRoute.head? = some route)
      (hkey : s.agentTasks.rows.find? (fun r => r.idempotencyKey = card.idempotencyKey) = none)
      (hfresh : s.agentTasks.get? card.taskId = none) :
      Effect now s (.createTask card) (.ok (.created (newTask card route now) true))
        { s with
          agentTasks := s.agentTasks.insert (newTask card route now)
          agentEvents := s.agentEvents ++ [logged now eventId (newTask card route now)
            (.taskCreated card.title card.project)] }
  | notClaimed (taskId : UUID) (role worker : String) (mins : ℤ)
      (hnone : (s.agentTasks.get? taskId).filter (claimable now s) = none) :
      Effect now s (.claim taskId role worker mins) (.ok (.claimed none)) s
  | claimed (taskId : UUID) (role worker : String) (mins : ℤ) (row : TaskRow) (eventId : ℕ)
      (hrow : s.agentTasks.get? taskId = some row) (hclaim : claimable now s row = true) :
      Effect now s (.claim taskId role worker mins)
        (.ok (.claimed (some (claimedRow role worker (minutes mins) now row))))
        { s with
          agentTasks := s.agentTasks.updateKey taskId (claimedRow role worker (minutes mins) now)
            (claimedRow_taskId role worker _ now)
          agentEvents := s.agentEvents ++
            [logged now eventId row (.taskClaimed worker (row.attemptCount + 1))] }
  | renewed (taskId : UUID) (worker : String) (mins : ℤ) (row : TaskRow)
      (hrow : s.agentTasks.get? taskId = some row) (hrenew : renewable worker now row = true) :
      Effect now s (.heartbeat taskId worker mins) (.ok (.row (renewedRow (minutes mins) now row)))
        { s with
          agentTasks := s.agentTasks.updateKey taskId (renewedRow (minutes mins) now)
            (renewedRow_taskId _ now) }
  | heartbeatRejected (taskId : UUID) (worker : String) (mins : ℤ) (task : TaskRow) (eventId : ℕ)
      (hrow : s.agentTasks.get? taskId = some task) (hrej : renewable worker now task = false) :
      Effect now s (.heartbeat taskId worker mins)
        (.error (.ownership "heartbeat without valid ownership rejected"))
        { s with
          agentEvents := s.agentEvents ++ [logged now eventId task (.heartbeatRejected worker)] }
  | swept (recoveryIds : UUID → UUID) (evs : List EventRow)
      (cards : Table RecoveryCardRow.recoveryId)
      (hlog : logOf evs = (s.agentTasks.rows.filter (expired now)).flatMap fun r =>
        (sweepEvents recoveryIds r).map (r.taskId, ·))
      (hcards : cards.rows = s.recoveryCards.rows ++
        (s.agentTasks.rows.filter (expired now)).map fun r =>
          newRecoveryCard r "lease_expired" sweepReason (recoveryIds r.taskId) now) :
      Effect now s (.expireLeases recoveryIds)
        (.ok (.rows ((s.agentTasks.rows.filter (expired now)).map sweptRow)))
        { s with
          agentTasks := s.agentTasks.updateWhere (expired now) sweptRow sweptRow_taskId
          agentEvents := s.agentEvents ++ evs
          recoveryCards := cards }
  | recovery (report : FailureReportV1) (recoveryId : UUID) (task : TaskRow) (e₁ e₂ : ℕ)
      (hrow : s.agentTasks.get? report.taskId = some task) (hadm : Admitted report task)
      (hrec : requiresRecovery report.failureClass report.sideEffectState = true)
      (hfresh : s.recoveryCards.get? recoveryId = none) :
      Effect now s (.reportFailure report recoveryId)
        (.ok (.decision
          { taskId := task.taskId, failureClass := report.failureClass,
            action := .recoveryRequired, taskStatus := .recoveryRequired,
            recoveryId := some recoveryId }))
        { s with
          agentTasks := s.agentTasks.updateKey report.taskId (movedRow .recoveryRequired)
            (movedRow_taskId _)
          agentEvents := s.agentEvents ++ [logged now e₁ task (classified task report),
            logged now e₂ task (.recoveryCardCreated recoveryId report.failureClass.value
              allowedActions)]
          recoveryCards := s.recoveryCards.insert
            (newRecoveryCard task report.failureClass.value report.reason recoveryId now) }
  | retryScheduled (report : FailureReportV1) (recoveryId : UUID) (task : TaskRow) (e₁ e₂ : ℕ)
      (delay : ℕ) (hrow : s.agentTasks.get? report.taskId = some task)
      (hadm : Admitted report task)
      (hrec : requiresRecovery report.failureClass report.sideEffectState = false)
      (hretry : report.failureClass ∈ retryableFailures)
      (hbudget : task.attemptCount < task.card.budget.maxAttempts)
      (hdelay : delay
        = delayBeforeRetry task report (circuitAfter s now task report.failureClass)) :
      Effect now s (.reportFailure report recoveryId)
        (.ok (.decision
          { taskId := task.taskId, failureClass := report.failureClass,
            action := .retryScheduled, taskStatus := .retryWait,
            retryAt := some (now + seconds delay),
            circuitState := (circuitAfter s now task report.failureClass).map (·.state) }))
        { s with
          agentTasks := s.agentTasks.updateKey report.taskId
            (retriedRow (now + seconds delay) report.failureClass task.circuitKey)
            (retriedRow_taskId _ _ _)
          agentEvents := s.agentEvents ++ [logged now e₁ task (classified task report),
            logged now e₂ task (.retryScheduled (now + seconds delay) delay task.attemptCount)]
          circuitBreakers := circuitsAfter s now task report.failureClass }
  | deadLettered (report : FailureReportV1) (recoveryId : UUID) (task : TaskRow) (e₁ e₂ : ℕ)
      (deadLetterId : ℕ) (reason : String) (hrow : s.agentTasks.get? report.taskId = some task)
      (hadm : Admitted report task)
      (hrec : requiresRecovery report.failureClass report.sideEffectState = false)
      (hfinal : EndsInDeadLetter report task reason) :
      Effect now s (.reportFailure report recoveryId)
        (.ok (.decision
          { taskId := task.taskId, failureClass := report.failureClass,
            action := .deadLettered, taskStatus := .failed, deadLetterId := some deadLetterId,
            circuitState := (circuitAfter s now task report.failureClass).map (·.state) }))
        { s with
          agentTasks := s.agentTasks.updateKey report.taskId (movedRow .failed) (movedRow_taskId _)
          agentEvents := s.agentEvents ++ [logged now e₁ task (classified task report),
            logged now e₂ task (.deadLetterCreated deadLetterId report.failureClass)]
          circuitBreakers := circuitsAfter s now task report.failureClass
          deadLetters := s.deadLetters ++ [newDeadLetter task report reason deadLetterId now] }
  | stopped (report : FailureReportV1) (recoveryId : UUID) (task : TaskRow) (e₁ : ℕ)
      (action : ResilienceAction) (target : TaskStatus)
      (hrow : s.agentTasks.get? report.taskId = some task) (hadm : Admitted report task)
      (hrec : requiresRecovery report.failureClass report.sideEffectState = false)
      (hstop : report.failureClass = .quotaExhausted ∧ action = .awaitingDecision ∧
            target = .awaitingDecision
          ∨ report.failureClass = .policyViolation ∧ action = .blocked ∧ target = .blocked) :
      Effect now s (.reportFailure report recoveryId)
        (.ok (.decision
          { taskId := task.taskId, failureClass := report.failureClass, action,
            taskStatus := target }))
        { s with
          agentTasks := s.agentTasks.updateKey report.taskId (movedRow target) (movedRow_taskId _)
          agentEvents := s.agentEvents ++ [logged now e₁ task (classified task report)] }
  | released (evs : List EventRow)
      (hlog : logOf evs = (s.agentTasks.rows.filter (releasable now s)).map fun r =>
        (r.taskId, .retryReleased (r.attemptCount + 1))) :
      Effect now s .releaseDueRetries
        (.ok (.rows ((s.agentTasks.rows.filter (releasable now s)).map releasedRow)))
        { s with
          agentTasks := s.agentTasks.updateWhere (releasable now s) releasedRow releasedRow_taskId
          agentEvents := s.agentEvents ++ evs }
  | receiptRejected (receipt : ResultReceiptV1) (task : TaskRow) (eventId : ℕ)
      (hrow : s.agentTasks.get? receipt.taskId = some task)
      (hown : task.ownerInstance ≠ some receipt.workerInstance) :
      Effect now s (.submitReceipt receipt)
        (.error (.ownership "receipt from non-owner worker rejected"))
        { s with
          agentEvents := s.agentEvents ++ [logged now eventId task
            (.receiptRejected "not lease owner" receipt.workerInstance)] }
  | receiptAccepted (receipt : ResultReceiptV1) (task : TaskRow) (receiptId : ℕ)
      (evs : List EventRow) (hrow : s.agentTasks.get? receipt.taskId = some task)
      (hown : task.ownerInstance = some receipt.workerInstance)
      (hexec : task.status.IsExecution)
      (hlog : logOf evs = (accepted task receipt ::
        closingEvents s task (receiptTarget task receipt.outcome)).map (task.taskId, ·)) :
      Effect now s (.submitReceipt receipt) (.ok (.row (receiptRow task receipt)))
        { s with
          agentTasks := s.agentTasks.updateKey receipt.taskId
            (movedRow (receiptTarget task receipt.outcome)) (movedRow_taskId _)
          agentEvents := s.agentEvents ++ evs
          routingReceipts := s.routingReceipts ++ [⟨receiptId, receipt.taskId,
            receipt.workerInstance, receipt.outcome, receipt, now⟩]
          circuitBreakers :=
            circuitsClosed s now task (receiptTarget task receipt.outcome) }
  | approvalRequested (card : ApprovalCardV1) (task : TaskRow) (eventId : ℕ)
      (hrow : s.agentTasks.get? card.taskId = some task) (hstatus : task.status = .review)
      (hfresh : s.approvals.get? card.approvalId = none) :
      Effect now s (.requestApproval card)
        (.ok (.approval ⟨card.approvalId, .requested, .awaitingApproval⟩))
        { s with
          agentTasks := s.agentTasks.updateKey card.taskId (movedRow .awaitingApproval)
            (movedRow_taskId _)
          agentEvents := s.agentEvents ++
            [logged now eventId task (.approvalRequested card.approvalId card.action)]
          approvals := s.approvals.insert (newApproval card now) }
  | approvalDecided (approvalId : UUID) (decision decidedBy reason : String) (d : Decision)
      (approval : ApprovalRow) (task : TaskRow) (eventId : ℕ)
      (hd : Decision.ofText decision = some d)
      (happ : s.approvals.get? approvalId = some approval)
      (hopen : approval.status = .requested)
      (hrow : s.agentTasks.get? approval.taskId = some task)
      (hstatus : decisionTarget d ∈ transitions task.status) :
      Effect now s (.decideApproval approvalId decision decidedBy reason)
        (.ok (.approval ⟨approvalId, .decided d, decisionTarget d⟩))
        { s with
          agentTasks := s.agentTasks.updateKey approval.taskId (movedRow (decisionTarget d))
            (movedRow_taskId _)
          agentEvents := s.agentEvents ++
            [logged now eventId task (.approvalDecided approvalId d decidedBy)]
          approvals := s.approvals.updateKey approvalId (decidedApproval d decidedBy reason now)
            (decidedApproval_approvalId d decidedBy reason now) }
  | transitioned (taskId : UUID) (target : TaskStatus) (reason : String) (task : TaskRow)
      (eventId : ℕ) (hrow : s.agentTasks.get? taskId = some task)
      (hstatus : target ∈ transitions task.status) :
      Effect now s (.transition taskId target reason) (.ok (.row (movedRow target task)))
        { s with
          agentTasks := s.agentTasks.updateKey taskId (movedRow target) (movedRow_taskId _)
          agentEvents := s.agentEvents ++
            [logged now eventId task (.statusChanged task.status target reason)] }

end ControlHarness
