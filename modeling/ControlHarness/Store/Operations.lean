import ControlHarness.General.Machine
import ControlHarness.Store.Schema

/-!
The operations of the store (`store.py`), statement by statement.

Each operation is a program of `StoreTx`: what it reads, what it writes and
where it raises, in the order of the source. `updateTask` is
`UPDATE agent_tasks .. WHERE task_id = .. AND ..` and `updateTasks` the bulk
update; both return the rows as `RETURNING *` does. A comparison with a column
that is `NULL` is false. Identifiers that the source draws with `uuid4` are
arguments.

`Op` lists the ten operations that write and `step` runs one of them in a
transaction of its own, at a given time.
-/

namespace ControlHarness

namespace Store

/-! ### Statements -/

/-- `SELECT * FROM agent_tasks WHERE task_id = ..`. -/
def selectTask (taskId : UUID) : StoreTx (Option TaskRow) :=
  Tx.read fun s => s.agentTasks.get? taskId

/-- `UPDATE agent_tasks SET .. WHERE task_id = .. AND .. RETURNING *`. -/
def updateTask (taskId : UUID) (p : Tables → TaskRow → Bool) (f : TaskRow → TaskRow)
    (hf : ∀ r, (f r).taskId = r.taskId) : StoreTx (Option TaskRow) := do
  let row ← Tx.read fun s => (s.agentTasks.get? taskId).filter (p s)
  Tx.write fun s =>
    { s with agentTasks := s.agentTasks.updateWhere (fun r => r.taskId = taskId && p s r) f hf }
  pure (row.map f)

/-- `UPDATE agent_tasks SET .. WHERE .. RETURNING *`. -/
def updateTasks (p : Tables → TaskRow → Bool) (f : TaskRow → TaskRow)
    (hf : ∀ r, (f r).taskId = r.taskId) : StoreTx (List TaskRow) := do
  let rows ← Tx.read fun s => s.agentTasks.rows.filter (p s)
  Tx.write fun s => { s with agentTasks := s.agentTasks.updateWhere (p s) f hf }
  pure (rows.map f)

/-- The error of a duplicate primary key. -/
def uniqueViolation (constraint : String) : Raised :=
  .database ("duplicate key value violates unique constraint " ++ constraint)

/-- `make_interval(mins => ..)`: the argument is a 32-bit integer. -/
def makeIntervalMins (n : ℤ) : StoreTx ℤ :=
  if -2147483648 ≤ n ∧ n ≤ 2147483647 then pure (minutes n)
  else Tx.raise (.database "function make_interval(mins => bigint) does not exist")

/-- `_event`: validate the payload against the event contract, then append. -/
def event (taskId correlationId : UUID) (e : HarnessEvent) : StoreTx Unit :=
  if e.HasRegisteredShape then do
    let now ← Tx.now
    let eventId ← Tx.draw fun q => (q.eventId + 1, { q with eventId := q.eventId + 1 })
    Tx.write fun s =>
      { s with agentEvents := s.agentEvents ++ [⟨eventId, taskId, correlationId, e, now⟩] }
  else Tx.raise (.validationError "payload drift")

/-- The actions that a recovery card allows. -/
def allowedActions : List String :=
  ["inspect_read_only", "confirm_side_effect", "request_human_decision"]

/-- The row that `_create_recovery_card` inserts. -/
def newRecoveryCard (task : TaskRow) (trigger reason : String) (recoveryId : UUID)
    (now : Timestamp) : RecoveryCardRow :=
  { recoveryId, taskId := task.taskId, correlationId := task.correlationId, trigger, reason,
    allowedActions, createdAt := now }

/-- `_create_recovery_card`. -/
def createRecoveryCard (task : TaskRow) (trigger reason : String) (recoveryId : UUID) :
    StoreTx UUID := do
  let now ← Tx.now
  let taken ← Tx.read fun s => (s.recoveryCards.get? recoveryId).isSome
  if taken then Tx.raise (uniqueViolation "recovery_cards_pkey")
  else do
    let card := newRecoveryCard task trigger reason recoveryId now
    Tx.write fun s => { s with recoveryCards := s.recoveryCards.insert card }
    event task.taskId task.correlationId (.recoveryCardCreated recoveryId trigger allowedActions)
    pure recoveryId

/-- The row that `_record_dead_letter` inserts. -/
def newDeadLetter (task : TaskRow) (report : FailureReportV1) (reason : String)
    (deadLetterId : ℕ) (now : Timestamp) : DeadLetterRow :=
  { deadLetterId, taskId := task.taskId, correlationId := task.correlationId,
    failureClass := report.failureClass, reason, payload := report, createdAt := now }

/-- `_record_dead_letter`. -/
def recordDeadLetter (task : TaskRow) (report : FailureReportV1) (reason : String) :
    StoreTx ℕ := do
  let now ← Tx.now
  let deadLetterId ←
    Tx.draw fun q => (q.deadLetterId + 1, { q with deadLetterId := q.deadLetterId + 1 })
  let letter := newDeadLetter task report reason deadLetterId now
  Tx.write fun s => { s with deadLetters := s.deadLetters ++ [letter] }
  event task.taskId task.correlationId (.deadLetterCreated deadLetterId report.failureClass)
  pure deadLetterId

/-! ### Circuit breakers -/

/-- The row that the upsert of `_record_circuit_failure` leaves. -/
def failedCircuit (circuitKey : String) (failureClass : FailureClass) (now : Timestamp) :
    Option CircuitRow → CircuitRow
  | none =>
      { circuitKey, state := .closed, failureCount := 1,
        failureThreshold := circuitFailureThreshold, lastFailureClass := some failureClass,
        updatedAt := now }
  | some c =>
      { c with
        failureCount := c.failureCount + 1
        lastFailureClass := some failureClass
        updatedAt := now }

/-- The row that the second update of `_record_circuit_failure` leaves. -/
def openedCircuit (now : Timestamp) (c : CircuitRow) : CircuitRow :=
  { c with
    state := .open
    openedAt := some (c.openedAt.getD now)
    openUntil := some (now + seconds circuitCooldownSeconds)
    updatedAt := now }

@[simp] lemma openedCircuit_circuitKey (now : Timestamp) (r : CircuitRow) :
    (openedCircuit now r).circuitKey = r.circuitKey := rfl

@[simp] lemma failedCircuit_some_circuitKey (key : String) (cls : FailureClass) (now : Timestamp)
    (r : CircuitRow) : (failedCircuit key cls now (some r)).circuitKey = r.circuitKey := rfl

/-- `_record_circuit_failure`. -/
def recordCircuitFailure (circuitKey : String) (failureClass : FailureClass) :
    StoreTx CircuitRow := do
  let now ← Tx.now
  let row ← Tx.read fun s =>
    failedCircuit circuitKey failureClass now (s.circuitBreakers.get? circuitKey)
  let fresh := failedCircuit circuitKey failureClass now none
  let again := fun c => failedCircuit circuitKey failureClass now (some c)
  Tx.write fun s =>
    { s with
      circuitBreakers := s.circuitBreakers.upsert fresh again
        (failedCircuit_some_circuitKey circuitKey failureClass now) }
  if row.failureCount < row.failureThreshold then pure row
  else do
    Tx.write fun s =>
      { s with
        circuitBreakers := s.circuitBreakers.updateKey circuitKey (openedCircuit now)
          (openedCircuit_circuitKey now) }
    pure (openedCircuit now row)

/-- The row that the circuit update of `submit_receipt` leaves. -/
def closedCircuit (now : Timestamp) (c : CircuitRow) : CircuitRow :=
  { c with
    state := .closed, failureCount := 0, openedAt := none, openUntil := none, updatedAt := now }

@[simp] lemma closedCircuit_circuitKey (now : Timestamp) (r : CircuitRow) :
    (closedCircuit now r).circuitKey = r.circuitKey := rfl

/-- The gate of `claim` and `release_due_retries`: the circuit of the task is
open and its cooldown is not over. -/
def circuitBlocks (s : Tables) (now : Timestamp) (r : TaskRow) : Bool :=
  s.circuitBreakers.rows.any fun c =>
    some c.circuitKey = r.circuitKey && c.state = .open && c.openUntil.any (now < ·)

/-! ### Status changes -/

/-- The row that `_set_status` leaves: the new status, and no lease outside the
execution statuses. -/
def movedRow (target : TaskStatus) (r : TaskRow) : TaskRow :=
  if target.IsExecution then { r with status := target }
  else { r with status := target, leaseExpiresAt := none }

lemma movedRow_taskId (target : TaskStatus) (r : TaskRow) :
    (movedRow target r).taskId = r.taskId := by
  rw [movedRow]
  split <;> rfl

/-- `_set_status`: the change is in the table, and the row still has the
expected status. -/
def setStatus (taskId : UUID) (expected target : TaskStatus) : StoreTx Unit :=
  if target ∈ transitions expected then do
    let row ← updateTask taskId (fun _ r => r.status = expected) (movedRow target)
      (movedRow_taskId target)
    if row.isSome then pure ()
    else Tx.raise (.transition ("concurrent status change on task " ++ taskId.str))
  else Tx.raise (.transition
    ("transition " ++ expected.value ++ " -> " ++ target.value ++ " is not allowed"))

/-- The error for a task that does not exist. -/
def taskNotFound (taskId : UUID) : Raised := .notFound ("task " ++ taskId.str ++ " not found")

/-- `transition`. -/
def transition (taskId : UUID) (target : TaskStatus) (reason : String) : StoreTx TaskRow := do
  match ← selectTask taskId with
  | none => Tx.raise (taskNotFound taskId)
  | some task => do
    setStatus taskId task.status target
    event task.taskId task.correlationId (.statusChanged task.status target reason)
    match ← selectTask taskId with
    | none => Tx.raise (.storeError ("task " ++ taskId.str ++ " vanished during transition"))
    | some row => pure row

/-! ### The life of a task -/

/-- The row that `create_task` inserts for a card. -/
def newTask (card : TaskCardV1) (route : String) (now : Timestamp) : TaskRow :=
  { taskId := card.taskId, correlationId := card.correlationId, title := card.title,
    project := card.project, ownerRole := card.ownerRole.value, status := .ready, card,
    idempotencyKey := card.idempotencyKey, approvalRequired := card.approvalRequired,
    createdAt := now, circuitKey := some ("route:" ++ route) }

/-- `create_task`: the row and whether it is new. -/
def createTask (card : TaskCardV1) : StoreTx (TaskRow × Bool) := do
  match card.modelRouting.defaultRoute with
  | [] => Tx.raise .indexError
  | route :: _ => do
    let now ← Tx.now
    match ← Tx.read fun s =>
        s.agentTasks.rows.find? fun r => r.idempotencyKey = card.idempotencyKey with
    | some existing => pure (existing, false)
    | none => do
      let taken ← Tx.read fun s => (s.agentTasks.get? card.taskId).isSome
      if taken then Tx.raise (uniqueViolation "agent_tasks_pkey")
      else do
        Tx.write fun s => { s with agentTasks := s.agentTasks.insert (newTask card route now) }
        event card.taskId card.correlationId (.taskCreated card.title card.project)
        pure (newTask card route now, true)

/-- The row that `claim` leaves. -/
def claimedRow (ownerRole workerId : String) (lease : ℤ) (now : Timestamp) (r : TaskRow) :
    TaskRow :=
  { r with
    status := .claimed
    ownerRole := ownerRole
    ownerInstance := some workerId
    claimedAt := some now
    heartbeatAt := some now
    leaseExpiresAt := some (now + lease)
    attemptCount := r.attemptCount + 1 }

@[simp] lemma claimedRow_taskId (role worker : String) (lease : ℤ) (now : Timestamp)
    (r : TaskRow) : (claimedRow role worker lease now r).taskId = r.taskId := rfl

/-- The rows that `claim` takes. -/
def claimable (now : Timestamp) (s : Tables) (r : TaskRow) : Bool :=
  r.status = .ready && r.leaseExpiresAt.all (· < now) && !circuitBlocks s now r

/-- `claim`: the claimed row, if the task could be claimed. -/
def claim (taskId : UUID) (ownerRole workerId : String) (leaseMinutes : ℤ) :
    StoreTx (Option TaskRow) := do
  let now ← Tx.now
  let lease ← makeIntervalMins leaseMinutes
  match ← updateTask taskId (claimable now) (claimedRow ownerRole workerId lease now)
      (claimedRow_taskId ownerRole workerId lease now) with
  | none => pure none
  | some row => do
    event row.taskId row.correlationId (.taskClaimed workerId row.attemptCount)
    pure (some row)

/-- The rows that `heartbeat` renews: held by the worker, the lease alive. -/
def renewable (workerId : String) (now : Timestamp) (r : TaskRow) : Bool :=
  r.ownerInstance = some workerId && decide r.status.IsExecution && r.leaseExpiresAt.any (now < ·)

/-- The row that `heartbeat` leaves. -/
def renewedRow (lease : ℤ) (now : Timestamp) (r : TaskRow) : TaskRow :=
  { r with heartbeatAt := some now, leaseExpiresAt := some (now + lease) }

@[simp] lemma renewedRow_taskId (lease : ℤ) (now : Timestamp) (r : TaskRow) :
    (renewedRow lease now r).taskId = r.taskId := rfl

/-- `heartbeat`. A rejection of a task that exists is put on record before the
error ends the transaction. -/
def heartbeat (taskId : UUID) (workerId : String) (leaseMinutes : ℤ) : StoreTx TaskRow := do
  let now ← Tx.now
  let lease ← makeIntervalMins leaseMinutes
  match ← updateTask taskId (fun _ r => renewable workerId now r) (renewedRow lease now)
      (renewedRow_taskId lease now) with
  | some row => pure row
  | none => do
    match ← selectTask taskId with
    | none => pure ()
    | some task => event task.taskId task.correlationId (.heartbeatRejected workerId)
    Tx.commit
    Tx.raise (.ownership "heartbeat without valid ownership rejected")

/-- The rows that `expire_leases` sweeps: held by a worker, the lease past. -/
def expired (now : Timestamp) (r : TaskRow) : Bool :=
  decide r.status.IsExecution && r.leaseExpiresAt.any (· < now)

/-- The reason on the recovery card of a swept task. -/
def sweepReason : String := "Lease expired; execution outcome and side effects are unknown."

/-- The row that `expire_leases` leaves. -/
def sweptRow (r : TaskRow) : TaskRow := { r with status := .recoveryRequired }

@[simp] lemma sweptRow_taskId (r : TaskRow) : (sweptRow r).taskId = r.taskId := rfl

/-- `expire_leases`; the card of a swept task gets the identifier
`recoveryIds taskId`. -/
def expireLeases (recoveryIds : UUID → UUID) : StoreTx (List TaskRow) := do
  let now ← Tx.now
  let rows ← updateTasks (fun _ r => expired now r) sweptRow sweptRow_taskId
  Tx.forEach (fun row => do
    event row.taskId row.correlationId (.leaseExpired .recoveryRequired)
    let _ ← createRecoveryCard row "lease_expired" sweepReason (recoveryIds row.taskId)
    pure ()) rows
  pure rows

/-! ### Failure reports and retries -/

/-- The columns that `report_failure` sets for another attempt. -/
def scheduledRow (retryAt : Timestamp) (failureClass : FailureClass) (circuitKey : Option String)
    (r : TaskRow) : TaskRow :=
  { r with
    nextAttemptAt := some retryAt
    lastFailureClass := some failureClass
    circuitKey := circuitKey }

@[simp] lemma scheduledRow_taskId (retryAt : Timestamp) (failureClass : FailureClass)
    (circuitKey : Option String) (r : TaskRow) :
    (scheduledRow retryAt failureClass circuitKey r).taskId = r.taskId := rfl

/-- The delay before the next attempt: the backoff, and the cooldown of an
open circuit at least. -/
def delayBeforeRetry (task : TaskRow) (report : FailureReportV1) (circuit : Option CircuitRow) :
    ℕ :=
  let delay := retryDelaySeconds report.failureClass task.attemptCount report.retryAfterSeconds
  if circuit.any (·.state = .open) then max delay circuitCooldownSeconds else delay

/-- The last part of `report_failure` for a retryable class: another attempt
while the budget lasts, then a dead letter. -/
def retryOrDeadLetter (task : TaskRow) (report : FailureReportV1) (circuit : Option CircuitRow) :
    StoreTx ResilienceDecision := do
  let now ← Tx.now
  if task.attemptCount < task.card.budget.maxAttempts then do
    let delaySeconds := delayBeforeRetry task report circuit
    let retryAt := now + seconds delaySeconds
    setStatus task.taskId task.status .retryWait
    let _ ← updateTask task.taskId (fun _ _ => true)
      (scheduledRow retryAt report.failureClass task.circuitKey) (scheduledRow_taskId _ _ _)
    event task.taskId task.correlationId
      (.retryScheduled retryAt delaySeconds task.attemptCount)
    pure
      { taskId := task.taskId, failureClass := report.failureClass, action := .retryScheduled,
        taskStatus := .retryWait, retryAt := some retryAt, circuitState := circuit.map (·.state) }
  else do
    setStatus task.taskId task.status .failed
    let deadLetterId ←
      recordDeadLetter task report ("retry budget exhausted: " ++ report.reason)
    pure
      { taskId := task.taskId, failureClass := report.failureClass, action := .deadLettered,
        taskStatus := .failed, deadLetterId := some deadLetterId,
        circuitState := circuit.map (·.state) }

/-- The part of `report_failure` that counts the failure against the circuit of
the task. -/
def countFailure (task : TaskRow) (report : FailureReportV1) : StoreTx (Option CircuitRow) :=
  match task.circuitKey with
  | none => pure none
  | some key =>
    if key ≠ "" ∧ report.failureClass ∈ circuitFailures then do
      let row ← recordCircuitFailure key report.failureClass
      pure (some row)
    else pure none

/-- The part of `report_failure` for known side effects. -/
def handleFailure (task : TaskRow) (report : FailureReportV1) : StoreTx ResilienceDecision := do
  let circuit ← countFailure task report
  if report.failureClass ∈ retryableFailures then retryOrDeadLetter task report circuit
  else if report.failureClass = .quotaExhausted then do
    setStatus task.taskId task.status .awaitingDecision
    pure
      { taskId := task.taskId, failureClass := report.failureClass, action := .awaitingDecision,
        taskStatus := .awaitingDecision }
  else if report.failureClass = .policyViolation then do
    setStatus task.taskId task.status .blocked
    pure
      { taskId := task.taskId, failureClass := report.failureClass, action := .blocked,
        taskStatus := .blocked }
  else do
    setStatus task.taskId task.status .failed
    let deadLetterId ← recordDeadLetter task report report.reason
    pure
      { taskId := task.taskId, failureClass := report.failureClass, action := .deadLettered,
        taskStatus := .failed, deadLetterId := some deadLetterId }

/-- `report_failure`; a recovery card gets the identifier `recoveryId`. -/
def reportFailure (report : FailureReportV1) (recoveryId : UUID) :
    StoreTx ResilienceDecision := do
  match ← selectTask report.taskId with
  | none => Tx.raise (taskNotFound report.taskId)
  | some task =>
    if task.correlationId ≠ report.correlationId then
      Tx.raise (.storeError "failure report correlation_id mismatch")
    else if task.ownerInstance ≠ some report.workerInstance then
      Tx.raise (.ownership "failure report from non-owner worker rejected")
    else if ¬ task.status.IsExecution then
      Tx.raise (.transition ("failure report not allowed in status " ++ task.status.value))
    else do
      event task.taskId task.correlationId
        (.failureClassified report.failureClass report.sideEffectState task.circuitKey)
      if report.circuitKey.any (· ≠ "") ∧ report.circuitKey ≠ task.circuitKey then
        Tx.raise (.storeError "failure report circuit_key does not match task route")
      else if requiresRecovery report.failureClass report.sideEffectState then do
        setStatus task.taskId task.status .recoveryRequired
        let id ← createRecoveryCard task report.failureClass.value report.reason recoveryId
        pure
          { taskId := task.taskId, failureClass := report.failureClass,
            action := .recoveryRequired, taskStatus := .recoveryRequired, recoveryId := some id }
      else handleFailure task report

/-- The rows that `release_due_retries` releases. -/
def releasable (now : Timestamp) (s : Tables) (r : TaskRow) : Bool :=
  r.status = .retryWait && r.nextAttemptAt.any (· ≤ now) && !circuitBlocks s now r

/-- The row that `release_due_retries` leaves. -/
def releasedRow (r : TaskRow) : TaskRow :=
  { r with
    status := .ready
    nextAttemptAt := none
    ownerInstance := none
    claimedAt := none
    heartbeatAt := none }

@[simp] lemma releasedRow_taskId (r : TaskRow) : (releasedRow r).taskId = r.taskId := rfl

/-- `release_due_retries`. -/
def releaseDueRetries : StoreTx (List TaskRow) := do
  let now ← Tx.now
  let rows ← updateTasks (releasable now) releasedRow releasedRow_taskId
  Tx.forEach (fun row =>
    event row.taskId row.correlationId (.retryReleased (row.attemptCount + 1))) rows
  pure rows

/-! ### Receipts -/

/-- The status that a receipt leads to. -/
def receiptTarget (task : TaskRow) : ReceiptOutcome → TaskStatus
  | .completed => if task.approvalRequired ≠ [] then .review else .done
  | .failed => .failed
  | .blocked => .blocked

/-- The circuit part of `submit_receipt`: a task that moved to review closes
its circuit. -/
def closeCircuit (task : TaskRow) (target : TaskStatus) : StoreTx Unit := do
  match task.circuitKey with
  | none => pure ()
  | some key =>
    if target = .review ∧ key ≠ "" then do
      let now ← Tx.now
      let closed ← Tx.read fun s => (s.circuitBreakers.get? key).isSome
      Tx.write fun s =>
        { s with
          circuitBreakers := s.circuitBreakers.updateKey key (closedCircuit now)
            (closedCircuit_circuitKey now) }
      if closed then event task.taskId task.correlationId (.circuitClosed key) else pure ()
    else pure ()

/-- The part of `submit_receipt` for a worker that does not own the task: the
receipt is put on record before the error ends the transaction. -/
def rejectReceipt (task : TaskRow) (receipt : ResultReceiptV1) : StoreTx TaskRow := do
  event task.taskId task.correlationId
    (.receiptRejected "not lease owner" receipt.workerInstance)
  Tx.commit
  Tx.raise (.ownership "receipt from non-owner worker rejected")

/-- The part of `submit_receipt` that puts a claimed task in progress. -/
def startProgress (task : TaskRow) : StoreTx Unit :=
  if task.status = .claimed then setStatus task.taskId task.status .inProgress else pure ()

/-- The part of `submit_receipt` for the owner of the task. -/
def acceptReceipt (task : TaskRow) (receipt : ResultReceiptV1) : StoreTx TaskRow :=
  if ¬ task.status.IsExecution then
    Tx.raise (.transition ("receipt not allowed in status " ++ task.status.value))
  else do
    startProgress task
    let target := receiptTarget task receipt.outcome
    setStatus task.taskId .inProgress target
    let now ← Tx.now
    let receiptId ←
      Tx.draw fun q => (q.receiptId + 1, { q with receiptId := q.receiptId + 1 })
    Tx.write fun s => { s with routingReceipts := s.routingReceipts ++
      [⟨receiptId, receipt.taskId, receipt.workerInstance, receipt.outcome, receipt, now⟩] }
    event task.taskId task.correlationId
      (.receiptAccepted receipt.outcome target receipt.costReceipt.modelRef
        receipt.costReceipt.providerClass)
    closeCircuit task target
    match ← selectTask receipt.taskId with
    | none => Tx.raise (.storeError ("task " ++ receipt.taskId.str ++ " vanished after receipt"))
    | some row => pure row

/-- `submit_receipt`. -/
def submitReceipt (receipt : ResultReceiptV1) : StoreTx TaskRow := do
  match ← selectTask receipt.taskId with
  | none => Tx.raise (taskNotFound receipt.taskId)
  | some task =>
    if task.ownerInstance ≠ some receipt.workerInstance then rejectReceipt task receipt
    else acceptReceipt task receipt

/-! ### Approvals -/

/-- What `request_approval` and `decide_approval` return. -/
structure ApprovalAnswer where
  approvalId : UUID
  status : ApprovalStatus
  taskStatus : TaskStatus
  deriving DecidableEq, Repr

/-- The row that `request_approval` inserts. -/
def newApproval (card : ApprovalCardV1) (now : Timestamp) : ApprovalRow :=
  { approvalId := card.approvalId, taskId := card.taskId, action := card.action,
    requestedBy := card.requestedBy, createdAt := now }

/-- `request_approval`. -/
def requestApproval (card : ApprovalCardV1) : StoreTx ApprovalAnswer := do
  match ← selectTask card.taskId with
  | none => Tx.raise (taskNotFound card.taskId)
  | some task => do
    setStatus card.taskId task.status .awaitingApproval
    let now ← Tx.now
    let taken ← Tx.read fun s => (s.approvals.get? card.approvalId).isSome
    if taken then Tx.raise (uniqueViolation "approvals_pkey")
    else do
      Tx.write fun s => { s with approvals := s.approvals.insert (newApproval card now) }
      event task.taskId task.correlationId (.approvalRequested card.approvalId card.action)
      pure ⟨card.approvalId, .requested, .awaitingApproval⟩

/-- The status that a decision leads to. -/
def decisionTarget : Decision → TaskStatus
  | .approved => .done
  | .rejected => .blocked

/-- The row that `decide_approval` leaves. -/
def decidedApproval (d : Decision) (decidedBy reason : String) (now : Timestamp)
    (a : ApprovalRow) : ApprovalRow :=
  { a with
    status := .decided d, decidedBy := some decidedBy, reason := reason, decidedAt := some now }

@[simp] lemma decidedApproval_approvalId (d : Decision) (by_ reason : String) (now : Timestamp)
    (a : ApprovalRow) : (decidedApproval d by_ reason now a).approvalId = a.approvalId := rfl

/-- `decide_approval`. -/
def decideApproval (approvalId : UUID) (decision decidedBy reason : String) :
    StoreTx ApprovalAnswer := do
  match Decision.ofText decision with
  | none => Tx.raise (.storeError ("invalid decision '" ++ decision ++ "'"))
  | some d => do
    match ← Tx.read fun s => s.approvals.get? approvalId with
    | none => Tx.raise (.notFound ("approval " ++ approvalId.str ++ " not found"))
    | some approval =>
      if approval.status ≠ .requested then Tx.raise (.storeError "approval already decided")
      else do
        match ← selectTask approval.taskId with
        | none => Tx.raise (taskNotFound approval.taskId)
        | some task => do
          let now ← Tx.now
          Tx.write fun s =>
            { s with
              approvals := s.approvals.updateKey approvalId
                (decidedApproval d decidedBy reason now)
                (decidedApproval_approvalId d decidedBy reason now) }
          setStatus task.taskId task.status (decisionTarget d)
          event task.taskId task.correlationId (.approvalDecided approvalId d decidedBy)
          pure ⟨approvalId, .decided d, decisionTarget d⟩

end Store

/-! ### The store as a machine -/

/-- The operations of the store that write. -/
inductive Op where
  | createTask (card : TaskCardV1)
  | claim (taskId : UUID) (ownerRole workerId : String) (leaseMinutes : ℤ)
  | heartbeat (taskId : UUID) (workerId : String) (leaseMinutes : ℤ)
  | expireLeases (recoveryIds : UUID → UUID)
  | reportFailure (report : FailureReportV1) (recoveryId : UUID)
  | releaseDueRetries
  | submitReceipt (receipt : ResultReceiptV1)
  | requestApproval (card : ApprovalCardV1)
  | decideApproval (approvalId : UUID) (decision decidedBy reason : String)
  | transition (taskId : UUID) (target : TaskStatus) (reason : String)

/-- The operations that the HTTP surface exposes: all but `transition`. -/
def Op.Http : Op → Prop
  | .transition .. => False
  | _ => True

instance : DecidablePred Op.Http
  | .transition .. => isFalse id
  | .createTask _ | .claim .. | .heartbeat .. | .expireLeases _ | .reportFailure .. =>
      isTrue trivial
  | .releaseDueRetries | .submitReceipt _ | .requestApproval _ | .decideApproval .. =>
      isTrue trivial

/-- What an operation returns. -/
inductive Reply where
  | created (row : TaskRow) (isNew : Bool)
  | claimed (row : Option TaskRow)
  | row (row : TaskRow)
  | rows (rows : List TaskRow)
  | decision (d : ResilienceDecision)
  | approval (a : Store.ApprovalAnswer)
  deriving DecidableEq, Repr

/-- The program of an operation. -/
def Op.program : Op → StoreTx Reply
  | .createTask card => do
    let r ← Store.createTask card
    pure (.created r.1 r.2)
  | .claim taskId ownerRole workerId leaseMinutes => do
    let r ← Store.claim taskId ownerRole workerId leaseMinutes
    pure (.claimed r)
  | .heartbeat taskId workerId leaseMinutes => do
    let r ← Store.heartbeat taskId workerId leaseMinutes
    pure (.row r)
  | .expireLeases recoveryIds => do
    let r ← Store.expireLeases recoveryIds
    pure (.rows r)
  | .reportFailure report recoveryId => do
    let r ← Store.reportFailure report recoveryId
    pure (.decision r)
  | .releaseDueRetries => do
    let r ← Store.releaseDueRetries
    pure (.rows r)
  | .submitReceipt receipt => do
    let r ← Store.submitReceipt receipt
    pure (.row r)
  | .requestApproval card => do
    let r ← Store.requestApproval card
    pure (.approval r)
  | .decideApproval approvalId decision decidedBy reason => do
    let r ← Store.decideApproval approvalId decision decidedBy reason
    pure (.approval r)
  | .transition taskId target reason => do
    let r ← Store.transition taskId target reason
    pure (.row r)

/-- An operation at a time. -/
structure Call where
  op : Op
  now : Timestamp

/-- The store: each call runs in a transaction of its own. -/
def store : Machine Db Call (Except Raised Reply) where
  step c db := c.op.program.connect c.now db

end ControlHarness
